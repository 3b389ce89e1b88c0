import StateWeave.Composition

/-!
# How a child is embedded

An embedding says everything that follows from a child's kind: the types it adds
to state and actions, whether and how the pipeline runs it, and how its actions
are delivered. Modules are held by their canonical names only; no embedding looks
into the module it names.
-/

namespace StateWeave

/-- How the pipeline runs a child module. -/
inductive Wiring where
  /-- On every action of its own. -/
  | unconditional
  /-- Only while its optional state is there; `binding` goes through the presentation wrapper. -/
  | guarded (binding : Bool)
  /-- Once per addressed element of a collection or stack. -/
  | iterated
  deriving DecidableEq, Inhabited, Repr

/-- What a child is to its parent, with the types that this needs. -/
inductive Embedding where
  | singletonModule (module : String)
  | optionalModule (module : String) (presentable : Bool)
  | keyedCollection (module : String)
  | destination (module : String) (children : List ChildEntry)
  | navigationStack (module : String) (children : List ChildEntry)
  | stateValue (type : String) (presentable : Bool)
  | tupleState (type : String) (labels : List (Option String)) (presentable : Bool)
  | stateless
  | alert (action : String) (presentable : Bool)
  | confirmationDialog (action : String) (presentable : Bool)
  | userScope (state : String)
  deriving Inhabited

namespace Embedding

/-- What a navigation stack starts with. -/
def emptyStack : String := "StackState()"

/-- The envelope around the actions of a presented child. -/
def presentationAction (action : String) : String := "PresentationAction<" ++ action ++ ">"

/-- An action type, in its envelope if the child is presented. -/
def wrapAction (action : String) (presentable : Bool) : String :=
  if presentable then presentationAction action else action

/-- A state type, optional if the child is presented. -/
def wrapState (type : String) (presentable : Bool) : String :=
  if presentable then type ++ "?" else type

/-- Every embedding has a state type; that of a stateless child is the unit type. -/
def stateType : Embedding → String
  | singletonModule module => module ++ ".State"
  | optionalModule module _ => module ++ ".State?"
  | keyedCollection module => "IdentifiedArrayOf<" ++ module ++ ".State>"
  | destination module _ => module ++ ".State?"
  | navigationStack module _ => "StackState<" ++ module ++ ".State>"
  | stateValue type presentable => wrapState type presentable
  | tupleState type _ _ => type
  | stateless => "Void"
  | alert action presentable => wrapState ("AlertState<" ++ action ++ ">") presentable
  | confirmationDialog action presentable =>
    wrapState ("ConfirmationDialogState<" ++ action ++ ">") presentable
  | userScope state => state

/-- Pure data has no action type. -/
def actionType? : Embedding → Option String
  | singletonModule module => some (module ++ ".Action")
  | optionalModule module presentable => some (wrapAction (module ++ ".Action") presentable)
  | keyedCollection module => some ("IdentifiedActionOf<" ++ module ++ ">")
  | destination module _ => some (presentationAction (module ++ ".Action"))
  | navigationStack module _ =>
    some ("StackAction<" ++ module ++ ".State, " ++ module ++ ".Action>")
  | alert action presentable => some (wrapAction action presentable)
  | confirmationDialog action presentable => some (wrapAction action presentable)
  | stateValue _ _ => none
  | tupleState _ _ _ => none
  | stateless => none
  | userScope _ => none

/-- The action type without the presentation envelope, where a path delivers
through the envelope by itself. -/
def deliveredActionType? : Embedding → Option String
  | optionalModule module true => some (module ++ ".Action")
  | destination module _ => some (module ++ ".Action")
  | other => other.actionType?

/-- What the state starts with if the child gives no initial value. -/
def defaultInitialValue? : Embedding → Option String
  | navigationStack _ _ => some emptyStack
  | _ => none

/-- Children that are not run have no wiring. -/
def wiring? : Embedding → Option Wiring
  | singletonModule _ => some .unconditional
  | optionalModule _ presentable => some (.guarded presentable)
  | keyedCollection _ => some .iterated
  | navigationStack _ _ => some .iterated
  | destination _ _ => some (.guarded true)
  | alert _ true => some (.guarded true)
  | confirmationDialog _ true => some (.guarded true)
  | _ => none

/-- The module that the child's stage runs. -/
def moduleType? : Embedding → Option String
  | singletonModule module => some module
  | optionalModule module _ => some module
  | keyedCollection module => some module
  | destination module _ => some module
  | navigationStack module _ => some module
  | _ => none

/-- Whether the child's state comes and goes with its presentation. -/
def isPresentable : Embedding → Bool
  | optionalModule _ presentable => presentable
  | stateValue _ presentable => presentable
  | tupleState _ _ presentable => presentable
  | alert _ presentable => presentable
  | confirmationDialog _ presentable => presentable
  | destination _ _ => true
  | _ => false

/-- Presented children get their actions through the envelope, but alerts and
dialogs, whose envelope is part of their action type, do not. -/
def deliversPresented : Embedding → Bool
  | alert _ _ => false
  | confirmationDialog _ _ => false
  | other => other.isPresentable

/-- Whether the child is a list that gets a module of its own. -/
def isNestedList : Embedding → Bool
  | destination _ _ => true
  | navigationStack _ _ => true
  | _ => false

def isStateless : Embedding → Bool
  | stateless => true
  | _ => false

def kindName : Embedding → String
  | singletonModule _ => "singleton module"
  | optionalModule _ _ => "optional module"
  | keyedCollection _ => "keyed collection"
  | destination _ _ => "presentation destination"
  | navigationStack _ _ => "navigation stack"
  | stateValue _ _ => "state value"
  | tupleState _ _ _ => "tuple state"
  | stateless => "stateless"
  | alert _ _ => "alert"
  | confirmationDialog _ _ => "confirmation dialog"
  | userScope _ => "scope path"

/-- How many lists of children lie inside one another below this child. -/
def nesting : Embedding → Nat
  | destination _ children => ChildKind.nestingOfAll children + 1
  | navigationStack _ children => ChildKind.nestingOfAll children + 1
  | _ => 0

end Embedding

end StateWeave
