import StateWeave.Composition
import StateWeave.Diagnostic.Basic
import StateWeave.Fragment
import StateWeave.Placeholder
import StateWeave.Policy
import StateWeave.SortedSet
import StateWeave.Symbol

/-!
# The symbol table of one composition

A table is filled in two passes. While a module is read, its children, actions and
fragments are entered, and whatever may refer to something further down is queued:
bindings of placeholders and scopes of the author's own. Resolving the table then
empties the queues against everything that was entered, once.

Names of children, actions and scopes are drawn from one pool. `places` holds the
names that are taken, each with the place that took it.
-/

namespace StateWeave

/-- A binding of a placeholder that waits for all placeholders to be known. -/
structure PendingBinding where
  kind : PlaceholderKind
  name : Option String
  actionType : String
  location : Location
  deriving DecidableEq, Inhabited, Repr

/-- A scope of the author's own that waits for all actions to be known. -/
structure PendingScope where
  name : String
  stateType : String
  action : Path
  location : Location
  deriving DecidableEq, Inhabited, Repr

/-- Where the author wrote declarations that are otherwise generated. -/
structure HandAuthored where
  state : Option Location := none
  action : Option Location := none
  pipeline : Option Location := none
  deriving DecidableEq, Inhabited, Repr

/-- All that is known of a module while it is expanded. -/
structure SymbolTable where
  module : String
  access : Access := .hidden
  placement : Placement := .root
  shape : StateShape := .record
  policy : Policy := {}
  location : Location := {}
  bindable : Bool := false
  stateOptions : List Conformance := []
  actionOptions : List Conformance := []
  initialName : Option String := none
  handAuthored : HandAuthored := {}
  stateMembers : List StateMember := []
  actionMembers : List ActionMember := []
  scopes : List Scope := []
  scopeCases : List ScopeCase := []
  beforeCore : List OuterStage := []
  core : List Fragment := []
  coreModifiers : List CoreModifier := []
  afterCore : List OuterStage := []
  bindingObservers : List Observer := []
  /-- Stages of children that run on every action of theirs, until they are placed. -/
  childStages : List ChildStage := []
  /-- Stages of guarded and iterated children, until they are placed. -/
  guardedStages : List ChildStage := []
  places : List (String × Location) := []
  placeholders : PlaceholderRegistry := {}
  pendingBindings : List PendingBinding := []
  pendingScopes : List PendingScope := []
  isResolved : Bool := false
  diagnostics : Diagnostics := []
  deriving Inhabited

namespace SymbolTable

def isVariant (t : SymbolTable) : Bool := t.shape = .variant

def report (t : SymbolTable) (problem : Problem) (location : Location) : SymbolTable :=
  { t with diagnostics := t.diagnostics.report problem location }

/-- The state member that the initial case selects. -/
def initialCase? (t : SymbolTable) : Option StateMember :=
  t.initialName.bind fun name => t.stateMembers.find? fun member => member.name = name

/-- Stacks are left through their elements, so a stack's own module has no table
of scopes. -/
def needsScopePaths (t : SymbolTable) : Bool := !t.scopes.isEmpty && !t.placement.isStack

/-- Stacks and root variants are switched over; destinations are not. -/
def needsScopeCases (t : SymbolTable) : Bool :=
  t.placement.isStack || (t.placement.isRoot && t.isVariant)

/-- An action of the name `view` makes the whole action type a view action. -/
def hasViewAction (t : SymbolTable) : Bool := t.actionMembers.any fun member => member.name = "view"

/-- Actions in the order in which their cases are written. -/
def orderedActions (t : SymbolTable) : List ActionMember :=
  match t.policy.actionOrder with
  | .sorted => t.actionMembers.mergeSort fun a b => a.name ≤ b.name
  | .declaration => t.actionMembers

/-- The conformances that follow from what the state type is used for. -/
def structuralConformances (t : SymbolTable) : List String :=
  if t.isVariant then
    if t.placement.isNested then
      ["CasePathable", "ObservableState"] ++
        (if t.needsScopeCases then ["ScopeSwitchable"] else [])
    else []
  else if t.needsScopePaths then ["ScopePathable"]
  else []

/-- State can be compared unless its author takes that away. -/
def stateConformances (t : SymbolTable) : List String :=
  SortedSet.ofList <|
    t.stateOptions.filterMap Conformance.marker? ++
      (if t.stateOptions.contains .notEquatable then [] else ["Equatable"]) ++
      t.structuralConformances

/-- The conformances of the action type: those asked for and those that follow from
its use. -/
def actionConformances (t : SymbolTable) : List String :=
  SortedSet.ofList <|
    t.actionOptions.filterMap Conformance.marker? ++
      (if t.placement.isNested then ["CasePathable"] else []) ++
      (if t.bindable then ["BindableAction"] else []) ++
      (if t.hasViewAction then ["ViewAction"] else [])

end SymbolTable

end StateWeave
