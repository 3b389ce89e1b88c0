import StateWeave.SymbolTable.Basic

/-!
# Entering names

Every name is taken by whoever asks for it first. A later request for the same
name is refused with an error that points back at the first place, and leaves the
rest of the table alone.
-/

namespace StateWeave

/-- A child's stage as its embedding asks for it. -/
def ChildStage.ofEmbedding? (name : String) (e : Embedding) : Option ChildStage :=
  e.wiring?.map fun wiring =>
    match wiring with
    | .unconditional => ⟨.scope, name, false, e.moduleType?, []⟩
    | .guarded binding => ⟨.ifLet, name, binding, e.moduleType?, []⟩
    | .iterated => ⟨.forEach, name, false, e.moduleType?, []⟩

namespace SymbolTable

/-- Where a name was taken first. -/
def firstPlace? (t : SymbolTable) (name : String) : Option Location := t.places.lookup name

/-- What is written at the place that took the name. -/
def duplicateNote (name : String) : String := "'" ++ name ++ "' already defined here"

/-- Note that a name is taken, and where. -/
def reserve (t : SymbolTable) (name : String) (location : Location) : SymbolTable :=
  { t with places := t.places ++ [(name, location)] }

/-- Refuse a name and point back at the place that took it. -/
def reportDuplicate (t : SymbolTable) (problem : Problem) (name : String)
    (location first : Location) : SymbolTable :=
  { t with
    diagnostics := t.diagnostics ++
      [(Diagnostic.ofProblem problem location).withNote (duplicateNote name) first] }

/-- Take a name and go on, or report that it is taken. The answer tells which. -/
def register (t : SymbolTable) (name : String) (location : Location) (duplicate : Problem)
    (proceed : SymbolTable → SymbolTable) : SymbolTable × Bool :=
  match t.firstPlace? name with
  | some first => (t.reportDuplicate duplicate name location first, false)
  | none => (proceed (t.reserve name location), true)

theorem register_of_taken {t : SymbolTable} {name : String} {first : Location}
    (h : t.firstPlace? name = some first) (location : Location) (duplicate : Problem)
    (proceed : SymbolTable → SymbolTable) :
    t.register name location duplicate proceed =
      (t.reportDuplicate duplicate name location first, false) := by
  simp [register, h]

theorem register_of_free {t : SymbolTable} {name : String} (h : t.firstPlace? name = none)
    (location : Location) (duplicate : Problem) (proceed : SymbolTable → SymbolTable) :
    t.register name location duplicate proceed = (proceed (t.reserve name location), true) := by
  simp [register, h]

/-- Where a child's state is found. The module of a list starts from its parent. -/
def statePath (t : SymbolTable) (name : String) : Path :=
  match t.placement with
  | .root => if t.isVariant then Path.state.dynamicCase name else Path.state.field name
  | .destination list parent =>
    (((Path.ofRoot (parent ++ ".State")).field list).optional).field name
  | .stack list parent => (((Path.ofRoot (parent ++ ".State")).field list).element).case name

/-- Where a child's actions are found; presented children are reached through the
presentation envelope. -/
def actionPath (t : SymbolTable) (name : String) (e : Embedding) : Path :=
  match t.placement with
  | .root =>
    if e.deliversPresented then (Path.action.case name).presented else Path.action.case name
  | .destination list parent => ((Path.ofRoot (parent ++ ".Action")).case list).case name
  | .stack list parent => (((Path.ofRoot (parent ++ ".Action")).case list).element).case name

/-- The type of the actions that a child's scope delivers, given its action type. -/
def deliveredType (t : SymbolTable) (e : Embedding) (actionType : String) : String :=
  match t.placement with
  | .root => if e.deliversPresented then e.deliveredActionType?.getD actionType else actionType
  | .destination _ _ => Embedding.presentationAction actionType
  | .stack _ _ => actionType

/-- The scope of a child whose actions have a type. -/
def scopeFor (t : SymbolTable) (name : String) (e : Embedding) (actionType : String) : Scope where
  name := name
  embedding := e
  state := t.statePath name
  action := t.actionPath name e
  stateTypeOverride := if t.isVariant then some (e.stateType ++ "?") else none
  actionType := some (t.deliveredType e actionType)

/-- The state member that a child adds. -/
def stateMemberFor (name : String) (e : Embedding) (initialValue : Option String) :
    StateMember where
  name := name
  type := e.stateType
  initialValue := initialValue <|> e.defaultInitialValue?
  presents := e.isPresentable
  embedding := e

/-- Enter everything that follows from a child whose name is taken care of. -/
def pushChild (t : SymbolTable) (name : String) (e : Embedding)
    (initialValue : Option String) : SymbolTable :=
  { t with
    stateMembers := t.stateMembers ++ [stateMemberFor name e initialValue]
    actionMembers := t.actionMembers ++ (e.actionType?.map (ActionMember.mk name)).toList
    scopeCases := t.scopeCases ++
      (if t.isVariant then [⟨name, e, Path.state.case name, Path.action.case name⟩] else [])
    scopes := t.scopes ++ (e.actionType?.map (t.scopeFor name e)).toList }

/-- Enter a child if its name is free. -/
def addChild (t : SymbolTable) (name : String) (e : Embedding) (initialValue : Option String)
    (location : Location) : SymbolTable × Bool :=
  t.register name location (.duplicateChild name) fun t => t.pushChild name e initialValue

/-- Put a child's stage where its kind waits to be placed. -/
def pushStage (t : SymbolTable) (stage : ChildStage) : SymbolTable :=
  match stage.kind with
  | .scope => { t with childStages := t.childStages ++ [stage] }
  | _ => { t with guardedStages := t.guardedStages ++ [stage] }

/-- Enter an action case if its name is free. -/
def addAction (t : SymbolTable) (name type : String) (location : Location) :
    SymbolTable × Bool :=
  t.register name location (.duplicateAction name) fun t =>
    { t with actionMembers := t.actionMembers ++ [⟨name, type⟩] }

/-- Put a fragment at its position, behind those that are there. -/
def pushFragment (t : SymbolTable) (position : Position) (f : Fragment) : SymbolTable :=
  match position with
  | .beforeCore => { t with beforeCore := t.beforeCore ++ [.fragment f] }
  | .core => { t with core := t.core ++ [f] }
  | .afterCore => { t with afterCore := t.afterCore ++ [.fragment f] }

/-- Hang an observer on the first stage of a name, if there is one. -/
def observeStage (name : String) (observer : Observer) :
    List ChildStage → Option (List ChildStage)
  | [] => none
  | stage :: rest =>
    if stage.name = name then
      some ({ stage with observers := stage.observers ++ [observer] } :: rest)
    else (observeStage name observer rest).map (stage :: ·)

/-- Attach an observer, or report that it has nothing to hang on. The answer tells
which. -/
def attachObserver (t : SymbolTable) (attachment : Attachment) (observer : Observer)
    (location : Location) : SymbolTable × Bool :=
  match attachment with
  | .core => ({ t with coreModifiers := t.coreModifiers ++ [.observer observer] }, true)
  | .binding =>
    if t.bindable then
      ({ t with bindingObservers := t.bindingObservers ++ [observer] }, true)
    else (t.report .bindingWithoutBindable location, false)
  | .scope name =>
    match observeStage name observer t.childStages with
    | some stages => ({ t with childStages := stages }, true)
    | none => (t.report (.unknownAttachment name) location, false)

/-- Queue a binding. Its slot is the number of bindings before it. -/
def queueBinding (t : SymbolTable) (b : PendingBinding) : SymbolTable × Nat :=
  ({ t with pendingBindings := t.pendingBindings ++ [b] }, t.pendingBindings.length)

/-- Queue a scope, which takes its name at once. -/
def queueScope (t : SymbolTable) (s : PendingScope) : SymbolTable × Bool :=
  t.register s.name s.location (.duplicateScope s.name) fun t =>
    { t with pendingScopes := t.pendingScopes ++ [s] }

end SymbolTable

end StateWeave
