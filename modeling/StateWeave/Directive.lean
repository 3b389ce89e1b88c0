import StateWeave.Fragment
import StateWeave.Member

/-!
# Directives on members

A member takes part in a composition by carrying one of nine attributes. Each of
them belongs on one sort of declaration and, on functions, limits the parameters
that the function may take. Any other attribute means nothing here.
-/

namespace StateWeave

/-- The sorts of declarations that directives tell apart. -/
inductive MemberSort where
  | type
  | function
  | variable
  deriving DecidableEq, Inhabited, Repr

namespace MemberSort

def text : MemberSort → String
  | .type => "type"
  | .function => "function"
  | .variable => "variable"

end MemberSort

def Member.sort : Member → MemberSort
  | .type _ => .type
  | .function _ => .function
  | .variable _ => .variable

/-- The nine attributes that mean something here. -/
inductive Directive where
  /-- The type is the payload of an action case. -/
  | actionCase
  /-- The type holds the actions of an alert. -/
  | alertActions
  /-- The type holds the actions of a confirmation dialog. -/
  | dialogActions
  /-- The function is a fragment. -/
  | body
  /-- The function is a fragment with an action case of its own. -/
  | bodyActionCase
  /-- The function handles the actions of an alert. -/
  | bodyAlert
  /-- The function handles the actions of a confirmation dialog. -/
  | bodyDialog
  /-- The function observes a part of the state. -/
  | onChange
  /-- The variable names a scope. -/
  | scopePath
  deriving DecidableEq, Inhabited, Repr

namespace Directive

def all : List Directive :=
  [actionCase, alertActions, dialogActions, body, bodyActionCase, bodyAlert, bodyDialog,
    onChange, scopePath]

def name : Directive → String
  | actionCase => "compose_action_case"
  | alertActions => "compose_action_alert_case"
  | dialogActions => "compose_action_confirmation_dialog_case"
  | body => "compose_body"
  | bodyActionCase => "compose_body_action_case"
  | bodyAlert => "compose_body_action_alert_case"
  | bodyDialog => "compose_body_action_confirmation_dialog_case"
  | onChange => "compose_body_on_change"
  | scopePath => "compose_scope_path"

/-- The directive of a name, if it is one of the nine. -/
def ofName? (name : String) : Option Directive := all.find? fun d => d.name = name

/-- The sort of declaration that a directive belongs on. -/
def target : Directive → MemberSort
  | actionCase => .type
  | alertActions => .type
  | dialogActions => .type
  | scopePath => .variable
  | _ => .function

/-- The parameters that a function with this directive may take. Only fragments
that are run for an element may ask for its id, and only observers see the values
before and after. -/
def allowedParams (d : Directive) (identified : Bool) : List String :=
  match d with
  | body => if identified then ["state", "action", "id"] else ["state", "action"]
  | onChange => ["state", "action", "old_value", "new_value"]
  | _ => ["state", "action"]

/-- The first attribute that is a directive; later ones are not looked at. -/
def find? : List Attribute → Option (Directive × Attribute)
  | [] => none
  | a :: rest =>
    match ofName? a.name with
    | some d => some (d, a)
    | none => find? rest

end Directive

namespace Attribute

/-- The position that a fragment asks for, if it names one of the three. -/
def position? (a : Attribute) : Option Position :=
  ((a.labeled? "position").bind fun arg => arg.value.memberName?).bind Position.ofName?

end Attribute

namespace Expr

/-- The last step of an action's path may be the presentation envelope, which is
written like a case. -/
def actionStep (segment : String) : Step :=
  if segment = "presented" then .presented else .case segment

/-- A key path into an action: every segment but `presented` is a case. -/
def actionPath? : Expr → Option Path
  | .keyPath root segments => some ⟨root, segments.map actionStep⟩
  | _ => none

/-- A key path into the state: every segment is a field. -/
def statePath? : Expr → Option Path
  | .keyPath root segments => some ⟨root, segments.map Step.field⟩
  | _ => none

/-- The stage that an observer names: `.core`, `.binding` or the stage of one child. -/
def attachment? : Expr → Option Attachment
  | .member name =>
    if name = "core" then some .core
    else if name = "binding" then some .binding
    else none
  | .call function [.string child] => if function = "scope" then some (.scope child) else none
  | _ => none

end Expr

end StateWeave
