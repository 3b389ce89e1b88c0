import StateWeave.Naming
import StateWeave.SymbolTable.Registration

/-!
# Resolving a table

Resolution runs once, after everything has been entered. Bindings are worked off
in the order in which they were queued; each of them settles one placeholder or
is reported. Fragments that wait for a binding get its route, or disappear with
it. Bound placeholders then become children, stages move to their places, and
queued scopes are looked up among all actions.
-/

namespace StateWeave

/-- What an unsuccessful binding is reported as. -/
def PendingBinding.problem (b : PendingBinding) : BindError → Problem
  | .notFound => .placeholderNotFound b.kind.text (b.name.getD "")
  | .ambiguous candidates => .ambiguousPlaceholder b.kind.text candidates

namespace PlaceholderRegistry

/-- The registry after a queue of bindings, the name that each of them settled, and
a report for each that settled none. -/
def bindAll (r : PlaceholderRegistry) :
    List PendingBinding → PlaceholderRegistry × List (Option String) × Diagnostics
  | [] => (r, [], [])
  | b :: rest =>
    match r.bind b.kind b.name b.actionType with
    | .ok (name, r) =>
      let (r, names, reports) := r.bindAll rest
      (r, some name :: names, reports)
    | .error error =>
      let (r, names, reports) := r.bindAll rest
      (r, none :: names, .ofProblem (b.problem error) b.location :: reports)

/-- The path to a placeholder's actions: one case for each part of its name, and
the envelope if it is presented. -/
def route (r : PlaceholderRegistry) (name : String) : Path :=
  let path := (Naming.components name).foldl Path.case Path.action
  match r.get? name with
  | some p => if p.presentable then path.presented else path
  | none => path

end PlaceholderRegistry

/-- A fragment with its slot replaced by the route found for it, if one was found. -/
def Fragment.settled? (routes : List (Option Path)) (f : Fragment) : Option Fragment :=
  match f.routing with
  | .placeholder slot =>
    match routes[slot]? with
    | some (some path) => some { f with routing := .action path }
    | _ => none
  | _ => some f

/-- Only stages of fragments wait for a route. -/
def OuterStage.settled? (routes : List (Option Path)) : OuterStage → Option OuterStage
  | .fragment f => (f.settled? routes).map .fragment
  | stage => some stage

/-- The scope that a queued one turns out to be: its path has to be a single case
of the action, and the first action of that name gives its type. -/
def PendingScope.resolve (s : PendingScope) (actions : List ActionMember) :
    Except Problem Scope :=
  if s.action.root = "Action" then
    match s.action.singleCase?.bind fun name => actions.find? fun member => member.name = name with
    | some member => .ok ⟨s.name, .userScope s.stateType, Path.state.field s.name, s.action, none,
        some member.type⟩
    | none => .error (.unknownScopeAction s.name s.action.text)
  else .error (.actionPathNotRooted s.action.text)

namespace SymbolTable

/-- The binding option brings an action case of its own. -/
def pushBindingAction (t : SymbolTable) : SymbolTable :=
  if t.bindable then
    { t with actionMembers := t.actionMembers ++ [⟨"binding", "BindingAction<State>"⟩] }
  else t

/-- Work off the queue of bindings and settle the fragments that wait for them. -/
def settleBindings (t : SymbolTable) : SymbolTable :=
  let (registry, names, reports) := t.placeholders.bindAll t.pendingBindings
  let routes := names.map fun name => name.map registry.route
  { t with
    pendingBindings := []
    placeholders := registry
    diagnostics := t.diagnostics ++ reports
    core := t.core.filterMap (Fragment.settled? routes)
    beforeCore := t.beforeCore.filterMap (OuterStage.settled? routes)
    afterCore := t.afterCore.filterMap (OuterStage.settled? routes) }

/-- A bound placeholder of the module itself becomes a child; an unbound one is left
out, with or without a word. -/
def enterPlaceholder (t : SymbolTable) (p : Placeholder) : SymbolTable :=
  match p.embedding? with
  | some e => t.pushChild p.name e none
  | none =>
    match t.policy.unboundPlaceholders with
    | .warn => t.report (.unboundPlaceholder p.kind.text p.name) p.location
    | .omit => t

/-- The placeholders that belong to the module itself. -/
def localPlaceholders (t : SymbolTable) : List Placeholder :=
  t.placeholders.entries.filter Placeholder.isLocal

def enterPlaceholders (t : SymbolTable) : SymbolTable :=
  t.localPlaceholders.foldl enterPlaceholder t

/-- The module's own placeholders that became children. -/
def boundNames (t : SymbolTable) : List String :=
  (t.localPlaceholders.filter Placeholder.isBound).map Placeholder.name

/-- Guarded stages that are run: those of modules and those of bound placeholders. -/
def liveGuarded (t : SymbolTable) : List ChildStage :=
  t.guardedStages.filter fun stage =>
    stage.module.isSome || t.boundNames.contains stage.name

/-- Move child stages to their places. In a variant every child wraps the core, so
that it runs only while its case is active; in a record the unconditional ones run
before everything else. Two-way bindings come first of all. -/
def placeStages (t : SymbolTable) : SymbolTable :=
  let cases := t.childStages.map fun stage => CoreModifier.child { stage with kind := .ifCaseLet }
  let guarded := t.liveGuarded.map CoreModifier.child
  let binding := if t.bindable then [OuterStage.binding t.bindingObservers] else []
  let first := if t.isVariant then [] else t.childStages.map OuterStage.child
  { t with
    childStages := []
    guardedStages := []
    bindingObservers := if t.bindable then [] else t.bindingObservers
    coreModifiers := (if t.isVariant then cases else []) ++ guarded ++ t.coreModifiers
    beforeCore := binding ++ first ++ t.beforeCore }

/-- Look up the queued scopes, in the order in which they came. -/
def resolveScopes (t : SymbolTable) : SymbolTable :=
  { t with
    pendingScopes := []
    scopes := t.scopes ++ t.pendingScopes.filterMap fun s =>
      match s.resolve t.actionMembers with
      | .ok scope => some scope
      | .error _ => none
    diagnostics := t.diagnostics ++ t.pendingScopes.filterMap fun s =>
      match s.resolve t.actionMembers with
      | .ok _ => none
      | .error problem => some (.ofProblem problem s.location) }

/-- Resolve the table; a table that is resolved already stays as it is. -/
def resolve (t : SymbolTable) : SymbolTable :=
  if t.isResolved then t
  else
    ({ t with isResolved := true }
      |>.pushBindingAction
      |>.settleBindings
      |>.enterPlaceholders
      |>.placeStages
      |>.resolveScopes)

theorem resolve_of_isResolved {t : SymbolTable} (h : t.isResolved = true) : t.resolve = t := by
  simp [resolve, h]

end SymbolTable

end StateWeave
