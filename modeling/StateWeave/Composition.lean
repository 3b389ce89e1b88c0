import StateWeave.Member
import StateWeave.Placement
import StateWeave.TypeRef

/-!
# Compositions

A module becomes a composition by one directive, which lists its children and
says whether its state holds all of them side by side (a record) or one at a time
(a variant). Children are other modules, plain values, alerts and dialogs, or
whole lists of children that get a nested module of their own.
-/

namespace StateWeave

/-- Who may see a module; every declaration made for it repeats the answer. -/
inductive Access where
  | hidden
  | package
  | exported
  deriving DecidableEq, Inhabited, Repr

namespace Access

/-- What stands in front of a declaration, its blank included. -/
def marker : Access → String
  | hidden => ""
  | package => "pub(crate) "
  | exported => "pub "

end Access

/-- Whether state holds all children at once or one at a time. -/
inductive StateShape where
  | record
  | variant
  deriving DecidableEq, Inhabited, Repr

/-- Conformances that may be asked for; `notEquatable` only takes one away. -/
inductive Conformance where
  | codable
  | equatable
  | hashable
  | notEquatable
  | sendable
  deriving DecidableEq, Inhabited, Repr

namespace Conformance

/-- The name that a conformance adds to a declaration, if it adds one. -/
def marker? : Conformance → Option String
  | codable => some "Codable"
  | equatable => some "Equatable"
  | hashable => some "Hashable"
  | notEquatable => none
  | sendable => some "Sendable"

end Conformance

/-- An option of the directive; options may be given repeatedly. -/
inductive CompositionOption where
  /-- Adds a stage for two-way bindings and the action case it reacts to. -/
  | bindable
  /-- Asks for a constructor that selects one case of variant state. -/
  | initialCase (name : Expr) (location : Location)
  | stateConformances (list : List Conformance)
  | actionConformances (list : List Conformance)
  deriving Inhabited

mutual

/-- What a child is. Lists carry their entries and perhaps a name for their module. -/
inductive ChildKind where
  | reducer
  | identifiedArray
  | state
  | stateless
  | alert
  | confirmationDialog
  | destination (module : Option String) (children : List ChildEntry)
  | navigationStack (module : Option String) (children : List ChildEntry)

/-- One entry of a list of children. -/
structure ChildEntry where
  kind : ChildKind
  presents : Bool := false
  name : Option Expr
  type : Option TypeRef
  initialValue : Option String
  location : Location := {}

end

namespace ChildKind

/-- Alerts and dialogs are declared first and get their action type later. -/
def isPlaceholder : ChildKind → Bool
  | alert => true
  | confirmationDialog => true
  | _ => false

mutual

/-- How many lists of children lie inside one another. -/
def nesting : ChildKind → Nat
  | .destination _ children => nestingOfAll children + 1
  | .navigationStack _ children => nestingOfAll children + 1
  | _ => 0

def nestingOfAll : List ChildEntry → Nat
  | [] => 0
  | child :: rest => max (nestingOfEntry child) (nestingOfAll rest)

def nestingOfEntry : ChildEntry → Nat
  | ⟨kind, _, _, _, _, _⟩ => nesting kind

end

end ChildKind

instance : Inhabited ChildKind := ⟨.reducer⟩

instance : Inhabited ChildEntry := ⟨⟨default, false, none, none, none, {}⟩⟩

/-- The directive that makes a module a composition. -/
structure Composition where
  shape : StateShape := .record
  options : List CompositionOption := []
  children : List ChildEntry := []
  location : Location := {}
  deriving Inhabited

/-- A module as its author declared it. With no directive it is left alone, and
more than one is a mistake. -/
structure ModuleDef where
  name : String
  access : Access := .hidden
  directives : List Composition := []
  placement : Placement := .root
  members : List Member := []
  location : Location := {}
  deriving Inhabited

end StateWeave
