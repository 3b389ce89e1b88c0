import StateWeave.Naming
import StateWeave.Role
import StateWeave.Signature
import StateWeave.SymbolTable.Registration

/-!
# What members contribute

Members are visited in source order, a type before its own members. Each visit
reads one contribution off the member: from its directive, its signature and the
names of the types around it. Contributions are then entered into the table one
after the other.

Reading needs nothing from the table. What a member contributes is therefore the
same wherever it stands; only the entering can find that a name is taken.
-/

namespace StateWeave

/-- A member together with the names of the types around it, outermost first. -/
structure Visit where
  scopes : List String
  member : Member
  deriving Inhabited

namespace Visit

mutual

/-- All members in source order. -/
def ofMembers (scopes : List String) : List Member → List Visit
  | [] => []
  | member :: rest => ofMember scopes member ++ ofMembers scopes rest

def ofMember (scopes : List String) : Member → List Visit
  | .type decl => ⟨scopes, .type decl⟩ :: ofType scopes decl
  | .function decl => [⟨scopes, .function decl⟩]
  | .variable decl => [⟨scopes, .variable decl⟩]

/-- The members of a type. -/
def ofType (scopes : List String) : TypeDecl → List Visit
  | ⟨name, _, _, members, _⟩ => ofMembers (scopes ++ [name]) members

end

def isTopLevel (v : Visit) : Bool := v.scopes.isEmpty

end Visit

/-- What one member adds to the table, read off the member alone. -/
inductive Contribution where
  | nothing
  /-- The member cannot take part; each report is one reason. -/
  | refused (reports : Diagnostics)
  | stateType (location : Location)
  | actionType (location : Location)
  | pipeline (location : Location)
  | action (name type : String) (location : Location)
  | binding (pending : PendingBinding)
  | scope (pending : PendingScope)
  | fragment (position : Position) (fragment : Fragment)
  /-- A fragment that brings the action case it reacts to. -/
  | actionFragment (position : Position) (name type : String) (location : Location)
      (fragment : Fragment)
  /-- A fragment that reacts to the actions of the placeholder it binds. -/
  | boundFragment (position : Position) (pending : PendingBinding) (fragment : Fragment)
  | observer (attachment : Attachment) (observer : Observer) (location : Location)
  deriving Inhabited

namespace Contribution

/-- A refusal for a single reason. -/
def refusal (problem : Problem) (location : Location) : Contribution :=
  refused [.ofProblem problem location]

/-- The report on a directive whose arguments make no sense. -/
def malformed (d : Directive) (reason : String) (a : Attribute) : Diagnostics :=
  [.ofProblem (.malformedDirective d.name reason) a.location]

/-- The name of an action case is given, or made from the name of its type. -/
def ofActionCase (scopes : List String) (decl : TypeDecl) (a : Attribute) : Contribution :=
  let type := Naming.qualified scopes decl.name
  let name := a.literalName?.getD (Naming.caseNameOfType decl.name)
  if name = "" then refusal (.actionNameNotInferred type) a.location
  else action name type a.location

/-- A type that holds the actions of a placeholder binds it. -/
def ofPlaceholderType (scopes : List String) (kind : PlaceholderKind) (decl : TypeDecl)
    (a : Attribute) : Contribution :=
  binding ⟨kind, a.literalName?, Naming.qualified scopes decl.name, a.location⟩

/-- A scope needs the path of its action and the type of its variable. -/
def ofScopePath (decl : VariableDecl) (a : Attribute) : Contribution :=
  match (a.labeled? "action").bind (·.value.actionPath?), decl.type with
  | some path, some type => scope ⟨decl.name, type, path, a.location⟩
  | _, _ =>
    refused (malformed .scopePath "expected an `action` key path and a type annotation" a)

/-- The actions that a fragment asks for. Paths have to start at the action; the
path inside an element may start anywhere and defaults to the element itself. -/
def bodyRouting (a : Attribute) : Except Diagnostics Routing :=
  match a.labeled? "identified_action" <|> a.labeled? "action" with
  | none => .ok .any
  | some arg =>
    match arg.value.actionPath? with
    | none => .error (malformed .body "expected an action key path" a)
    | some path =>
      if path.root ≠ "Action" then
        .error [.ofProblem (.actionPathNotRooted path.text) arg.location]
      else if (a.labeled? "identified_action").isNone then .ok (.action path)
      else
        match a.labeled? "element_action" with
        | none => .ok (.identified path (Path.ofRoot "Element"))
        | some element =>
          match element.value.actionPath? with
          | some element => .ok (.identified path element)
          | none => .error (malformed .body "expected an element action key path" a)

/-- The part of the state that an observer watches. -/
def watchedPath (a : Attribute) : Except Diagnostics Path :=
  match a.labeled? "of" with
  | none => .error (malformed .onChange "missing `of` key path" a)
  | some arg =>
    match arg.value.statePath? with
    | none => .error (malformed .onChange "expected a state key path" a)
    | some path =>
      if path.root = "State" then .ok path
      else .error [.ofProblem (.statePathNotRooted path.text) arg.location]

/-- An observer that names no stage watches the core. -/
def attachmentOf (a : Attribute) : Except Diagnostics Attachment :=
  match a.labeled? "attachment" with
  | none => .ok .core
  | some arg =>
    match arg.value.attachment? with
    | some attachment => .ok attachment
    | none =>
      .error (malformed .onChange
        "attachment must be `.core`, `.binding` or `scope(\"name\")`" a)

/-- Both the path and the attachment have to be in order; the path is judged first. -/
def ofObserver (f : Fragment) (a : Attribute) : Contribution :=
  match watchedPath a with
  | .error reports => refused reports
  | .ok path =>
    match attachmentOf a with
    | .error reports => refused reports
    | .ok attachment => observer attachment ⟨path, f⟩ a.location

/-- The kind of placeholder that a function's directive binds. -/
def boundKind? : Directive → Option PlaceholderKind
  | .bodyAlert => some .alert
  | .bodyDialog => some .confirmationDialog
  | _ => none

/-- What a function contributes whose signature is in order. A function that brings
an action of its own tells its type by its `action` parameter. -/
def ofSignature (scopes : List String) (d : Directive) (decl : FunctionDecl) (a : Attribute)
    (s : Signature) : Contribution :=
  let position := a.position?.getD .core
  let base : Fragment :=
    ⟨Naming.qualified scopes decl.name, s.args, s.yieldsEffect, .any, decl.location⟩
  match d with
  | .body =>
    match bodyRouting a with
    | .ok routing => fragment position { base with routing := routing }
    | .error reports => refused reports
  | .onChange => ofObserver base a
  | .bodyActionCase =>
    match s.actionType with
    | none => refusal (.missingActionParameter d.name) decl.location
    | some type =>
      let name := a.literalName?.getD decl.name
      actionFragment position name type a.location
        { base with routing := .action (Path.action.case name) }
  | _ =>
    match boundKind? d, s.actionType with
    | none, _ => nothing
    | some _, none => refusal (.missingActionParameter d.name) decl.location
    | some kind, some type =>
      boundFragment position ⟨kind, a.literalName?, type, a.location⟩ base

/-- A function with violations in its signature contributes only reports, one each. -/
def ofFunction (scopes : List String) (d : Directive) (decl : FunctionDecl) (a : Attribute) :
    Contribution :=
  match Signature.check d decl (a.labeled? "identified_action").isSome with
  | .ok s => ofSignature scopes d decl a s
  | .error found => refused (found.map fun v => .ofProblem v.problem v.location)

/-- What a member contributes in its role. -/
def ofRole (scopes : List String) (m : Member) (role : Role) : Contribution :=
  match role, m with
  | .state, _ => stateType m.location
  | .action, _ => actionType m.location
  | .pipeline, _ => pipeline m.location
  | .actionCase a, .type decl => ofActionCase scopes decl a
  | .placeholder kind a, .type decl => ofPlaceholderType scopes kind decl a
  | .fragment d a, .function decl => ofFunction scopes d decl a
  | .scopePath a, .variable decl => ofScopePath decl a
  | _, _ => nothing

/-- What is found at one visit. A misplaced directive is reported where it stands. -/
def ofVisit (v : Visit) : Contribution :=
  match Role.ofMember v.member v.isTopLevel with
  | .ok role => ofRole v.scopes v.member role
  | .error m => refusal (.unsupportedDeclaration m.directive.name m.declaration) m.attr.location

end Contribution

namespace SymbolTable

/-- A pipeline written by hand is respected, but never silently. -/
def suppressPipeline (t : SymbolTable) (location : Location) : SymbolTable :=
  { t with
    handAuthored := { t.handAuthored with pipeline := some location }
    diagnostics := t.diagnostics ++
      [(Diagnostic.ofProblem (.generationSuppressed t.module) location).withFixIt
        "Delete or rename `body` to enable generation" location] }

/-- Enter a contribution. A fragment that brings an action is entered only if the
action's name is free. -/
def contribute (t : SymbolTable) : Contribution → SymbolTable
  | .nothing => t
  | .refused reports => { t with diagnostics := t.diagnostics ++ reports }
  | .stateType location => { t with handAuthored := { t.handAuthored with state := some location } }
  | .actionType location =>
    { t with handAuthored := { t.handAuthored with action := some location } }
  | .pipeline location => t.suppressPipeline location
  | .action name type location => (t.addAction name type location).1
  | .binding pending => (t.queueBinding pending).1
  | .scope pending => (t.queueScope pending).1
  | .fragment position f => t.pushFragment position f
  | .actionFragment position name type location f =>
    match t.addAction name type location with
    | (t, true) => t.pushFragment position f
    | (t, false) => t
  | .boundFragment position pending f =>
    let (t, slot) := t.queueBinding pending
    t.pushFragment position { f with routing := .placeholder slot }
  | .observer attachment observer location => (t.attachObserver attachment observer location).1

/-- Visit all members and enter what they contribute. -/
def collect (t : SymbolTable) (members : List Member) : SymbolTable :=
  (Visit.ofMembers [] members).foldl (fun t v => t.contribute (Contribution.ofVisit v)) t

end SymbolTable

end StateWeave
