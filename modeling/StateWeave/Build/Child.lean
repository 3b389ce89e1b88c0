import StateWeave.Build.Error
import StateWeave.Composition

/-!
# Building children

A draft of a child starts from a kind and is changed by a chain of calls. Chains are
data, so that one can speak about all of them. Most calls always succeed; adding an
entry to a list may fail, and what is missing at the end is found by `build`.
-/

namespace StateWeave

/-- What a chain of calls starts from. -/
inductive ChildStart where
  | reducer (name : String)
  | identifiedArray (name : String)
  | state (name : String)
  | stateless (name : String)
  | alert
  | confirmationDialog
  | destination
  | navigationStack
  deriving DecidableEq, Inhabited, Repr

/-- One link of a chain that changes a draft. -/
inductive ChildCall where
  | named (name : String)
  /-- A type by its name; a question mark at the end makes it optional. -/
  | of (name : String)
  | ofType (type : TypeRef)
  | presents
  | initial (value : String)
  /-- The module of a nested list; other children are not changed. -/
  | module (name : String)
  | located (location : Location)
  /-- An entry of a nested list, by a chain of its own. -/
  | child (start : ChildStart) (calls : List ChildCall)
  deriving Inhabited

/-- A child in the making. Only its kind is settled from the start. -/
structure ChildDraft where
  kind : ChildKind
  name : Option String := none
  type : Option TypeRef := none
  presents : Bool := false
  initialValue : Option String := none
  location : Location := {}
  deriving Inhabited

def ChildStart.draft : ChildStart → ChildDraft
  | reducer name => { kind := .reducer, name := some name }
  | identifiedArray name => { kind := .identifiedArray, name := some name }
  | state name => { kind := .state, name := some name }
  | stateless name => { kind := .stateless, name := some name }
  | alert => { kind := .alert }
  | confirmationDialog => { kind := .confirmationDialog }
  | destination => { kind := .destination none [] }
  | navigationStack => { kind := .navigationStack none [] }

/-- A type as it is written in short: `T` or `T?`. -/
def TypeRef.ofShort (text : String) : TypeRef :=
  match text.toList.reverse with
  | '?' :: rest => .optional (.named (String.ofList rest.reverse))
  | _ => .named text

namespace ChildKind

/-- Destinations and stacks hold children of their own. -/
def isList : ChildKind → Bool
  | destination _ _ => true
  | navigationStack _ _ => true
  | _ => false

/-- Alerts and dialogs have a name to fall back on, and so have lists. -/
def requiresName (kind : ChildKind) : Bool := !(kind.isPlaceholder || kind.isList)

/-- Alerts and dialogs may get their type later; lists and units have none. -/
def requiresType : ChildKind → Bool
  | reducer => true
  | identifiedArray => true
  | state => true
  | _ => false

/-- A list whose module goes by another name; other kinds have no such name. -/
def withModule (kind : ChildKind) (module : String) : ChildKind :=
  match kind with
  | destination _ children => destination (some module) children
  | navigationStack _ children => navigationStack (some module) children
  | other => other

/-- A list with one more entry; other kinds have no entries. -/
def withEntry? (kind : ChildKind) (entry : ChildEntry) : Option ChildKind :=
  match kind with
  | destination module children => some (destination module (children ++ [entry]))
  | navigationStack module children => some (navigationStack module (children ++ [entry]))
  | _ => none

end ChildKind

namespace ChildDraft

/-- The entry for a draft, whatever may be missing from it. -/
def entry (d : ChildDraft) : ChildEntry :=
  ⟨d.kind, d.presents, d.name.map .string, d.type, d.initialValue, d.location⟩

/-- Turn a draft into an entry. An empty name is as good as none, except that no
name at all may have a fallback. -/
def build (d : ChildDraft) : Except BuildError ChildEntry :=
  if d.name = some "" ∨ (d.name = none ∧ d.kind.requiresName = true) then
    .error .missingChildName
  else if d.kind.requiresType && d.type.isNone then .error (.missingChildType (d.name.getD ""))
  else .ok d.entry

/-- Add an entry to a nested list. Lists have no lists among their entries, and
other children have no entries at all. -/
def addChild (d inner : ChildDraft) : Except BuildError ChildDraft := do
  let entry ← inner.build
  let refused := BuildError.nestedListInList (d.name.getD "list")
  if entry.kind.isList then .error refused
  else
    match d.kind.withEntry? entry with
    | some kind => .ok { d with kind := kind }
    | none => .error refused

mutual

/-- Make one call. Only adding an entry to a list can fail. -/
def call (d : ChildDraft) : ChildCall → Except BuildError ChildDraft
  | .named name => .ok { d with name := some name }
  | .of name => .ok { d with type := some (TypeRef.ofShort name) }
  | .ofType type => .ok { d with type := some type }
  | .presents => .ok { d with presents := true }
  | .initial value => .ok { d with initialValue := some value }
  | .module name => .ok { d with kind := d.kind.withModule name }
  | .located location => .ok { d with location := location }
  | .child start calls => do
    let inner ← callAll start.draft calls
    d.addChild inner

/-- Make calls one after the other, up to the first failure. -/
def callAll (d : ChildDraft) : List ChildCall → Except BuildError ChildDraft
  | [] => .ok d
  | c :: rest => do
    let d ← d.call c
    d.callAll rest

end

end ChildDraft

end StateWeave
