import StateWeave.Location
import StateWeave.Path

/-!
# Parts of a pipeline

A pipeline runs fragments, which are functions that the user wrote, and the
stages of child modules. Each fragment says which actions it reacts to. Observers
are fragments that run when a watched part of the state has changed, and hang on
the stage whose effect they watch.
-/

namespace StateWeave

/-- Where a fragment runs relative to the core stage. -/
inductive Position where
  | beforeCore
  | core
  | afterCore
  deriving DecidableEq, Inhabited, Repr

namespace Position

def ofName? (name : String) : Option Position :=
  if name = "before_core" then some beforeCore
  else if name = "core" then some core
  else if name = "after_core" then some afterCore
  else none

end Position

/-- An argument that a fragment is called with, as its parameter was declared. -/
structure CallArg where
  name : String
  isMutable : Bool
  deriving DecidableEq, Inhabited, Repr

/-- Which actions a fragment reacts to. -/
inductive Routing where
  /-- Every action. -/
  | any
  /-- Actions that carry something at this path. -/
  | action (path : Path)
  /-- Element actions: `action` leads to the collection's case and `element` on from
  the element's own action. -/
  | identified (action element : Path)
  /-- The actions of a placeholder that is not settled yet, by its place in the queue
  of bindings. -/
  | placeholder (slot : Nat)
  deriving DecidableEq, Inhabited, Repr

namespace Routing

/-- The slot that a routing waits for. -/
def slot? : Routing → Option Nat
  | placeholder slot => some slot
  | _ => none

end Routing

/-- A call of a user function. A function without a return type yields no effect. -/
structure Fragment where
  function : String
  args : List CallArg
  yieldsEffect : Bool
  routing : Routing
  location : Location
  deriving DecidableEq, Inhabited, Repr

/-- The stage that an observer hangs on. -/
inductive Attachment where
  | core
  | binding
  /-- The unconditional stage of a child. -/
  | scope (name : String)
  deriving DecidableEq, Inhabited, Repr

/-- Runs its fragment when the state at a path has changed. -/
structure Observer where
  watched : Path
  fragment : Fragment
  deriving DecidableEq, Inhabited, Repr

/-- When the stage of a child runs. -/
inductive StageKind where
  /-- Runs on every action of the child. -/
  | scope
  /-- Runs while an optional child is there. -/
  | ifLet
  /-- Runs for the addressed element. -/
  | forEach
  /-- Runs while the child's case of a variant is active. -/
  | ifCaseLet
  deriving DecidableEq, Inhabited, Repr

/-- How a pipeline runs one child. Presented alerts and dialogs have no module. -/
structure ChildStage where
  kind : StageKind
  name : String
  binding : Bool
  module : Option String
  observers : List Observer
  deriving DecidableEq, Inhabited, Repr

/-- A stage of its own before or after the core. -/
inductive OuterStage where
  | fragment (fragment : Fragment)
  | binding (observers : List Observer)
  | child (stage : ChildStage)
  deriving DecidableEq, Inhabited, Repr

/-- Something wrapped around the core stage. -/
inductive CoreModifier where
  | child (stage : ChildStage)
  | observer (observer : Observer)
  deriving DecidableEq, Inhabited, Repr

end StateWeave
