import StateWeave.Proofs.TableReports

/-!
# The queue of scopes

A scope that a member asks for waits in a queue until all actions are known. Its path has to be one
case of the action, and the first action of that name gives the scope its type. `SettlesTo` works
off a queue by this rule alone: each scope is either found and comes behind the other scopes of the
table, or it is lost and reported. `scope_queue_settles` says that resolving a table does just this,
among the actions that the table has in the end.
-/

namespace StateWeave

theorem Path.singleCase?_eq_some_iff (path : Path) (name : String) :
    path.singleCase? = some name ↔ path.steps = [.case name] := by
  rw [singleCase?]
  split
  · next found => rw [found]; simp
  · next other =>
      simp only [reduceCtorEq, false_iff]
      exact other name

namespace PendingScope

/-- A queued scope names an action if its path is the case of this action and no earlier action
has the same name. -/
structure Names (s : PendingScope) (actions : List ActionMember) (m : ActionMember) : Prop where
  path : s.action = Path.action.case m.name
  first : ∃ front back, actions = front ++ m :: back ∧ ∀ other ∈ front, other.name ≠ m.name

/-- The scope that leads to an action: a field of the state, and the type of the action. -/
def reaching (s : PendingScope) (m : ActionMember) : Scope :=
  ⟨s.name, .userScope s.stateType, Path.state.field s.name, s.action, none, some m.type⟩

/-- What is wrong with a queued scope that names no action. -/
def complaint (s : PendingScope) : Problem :=
  if s.action.root = "Action" then .unknownScopeAction s.name s.action.text
  else .actionPathNotRooted s.action.text

/-- What a queue of scopes comes to among the actions of a table: the scopes that are found, in the
order of the queue, and a report for each of the others where it stands. -/
inductive SettlesTo (actions : List ActionMember) :
    List PendingScope → List Scope → Diagnostics → Prop
  | done : SettlesTo actions [] [] []
  | found {s : PendingScope} {m : ActionMember} {queue : List PendingScope}
      {scopes : List Scope} {reports : Diagnostics} :
      s.Names actions m → SettlesTo actions queue scopes reports →
        SettlesTo actions (s :: queue) (s.reaching m :: scopes) reports
  | lost {s : PendingScope} {queue : List PendingScope} {scopes : List Scope}
      {reports : Diagnostics} :
      (∀ m, ¬s.Names actions m) → SettlesTo actions queue scopes reports →
        SettlesTo actions (s :: queue) scopes (.ofProblem s.complaint s.location :: reports)

theorem names_iff (s : PendingScope) (actions : List ActionMember) (m : ActionMember) :
    s.Names actions m ↔
      s.action.root = "Action" ∧
        (s.action.singleCase?.bind fun name =>
          actions.find? fun member => member.name = name) = some m := by
  simp only [Option.bind_eq_some_iff, Path.singleCase?_eq_some_iff, List.find?_eq_some_iff_append,
    decide_eq_true_eq, Bool.not_eq_true', decide_eq_false_iff_not]
  constructor
  · rintro ⟨path, front, back, rfl, earlier⟩
    rw [path]
    exact ⟨rfl, m.name, rfl, rfl, front, back, rfl, earlier⟩
  · rintro ⟨root, name, steps, rfl, first⟩
    refine ⟨?_, first⟩
    cases action : s.action with
    | mk root' steps' =>
        rw [action] at root steps
        obtain rfl : root' = "Action" := root
        obtain rfl : steps' = [.case m.name] := steps
        rfl

/-- A queued scope names an action and reaches it, or it names none and is complained about. -/
theorem resolve_cases (s : PendingScope) (actions : List ActionMember) :
    (∃ m, s.Names actions m ∧ s.resolve actions = .ok (s.reaching m)) ∨
      (∀ m, ¬s.Names actions m) ∧ s.resolve actions = .error s.complaint := by
  simp only [names_iff]
  rw [resolve, complaint]
  by_cases rooted : s.action.root = "Action"
  · rw [if_pos rooted, if_pos rooted]
    cases found : s.action.singleCase?.bind fun name =>
        actions.find? fun member => member.name = name with
    | some m => exact Or.inl ⟨m, ⟨rooted, rfl⟩, rfl⟩
    | none => exact Or.inr ⟨fun m named => absurd named.2 (Option.some_ne_none m).symm, rfl⟩
  · rw [if_neg rooted, if_neg rooted]
    exact Or.inr ⟨fun m named => rooted named.1, rfl⟩

/-- A queued scope that is found delivers what an action carries. -/
theorem eq_of_scope? {pending : PendingScope} {actions : List ActionMember} {s : Scope}
    (h : pending.scope? actions = some s) :
    ∃ m ∈ actions, s = ⟨pending.name, .userScope pending.stateType,
      Path.state.field pending.name, Path.action.case m.name, none, some m.type⟩ := by
  rw [scope?] at h
  rcases pending.resolve_cases actions with ⟨m, named, resolved⟩ | ⟨_, failed⟩
  · rw [resolved] at h
    cases h
    obtain ⟨front, back, rfl, _⟩ := named.first
    refine ⟨m, List.mem_append_right _ List.mem_cons_self, ?_⟩
    rw [reaching, named.path]
  · rw [failed] at h
    cases h

theorem kind_complaint (s : PendingScope) : s.complaint.kind = .unresolvedReference := by
  rw [complaint]
  split <;> rfl

/-- Looking up each scope of a queue for itself is what `SettlesTo` says. -/
theorem settlesTo_filterMap (actions : List ActionMember) (queue : List PendingScope) :
    SettlesTo actions queue (queue.filterMap (scope? actions))
      (queue.filterMap (report? actions)) := by
  induction queue with
  | nil => exact .done
  | cons s queue ih =>
      rcases s.resolve_cases actions with ⟨m, named, resolved⟩ | ⟨nameless, failed⟩
      · have found : s.scope? actions = some (s.reaching m) := by rw [scope?, resolved]
        have silent : s.report? actions = none := by rw [report?, resolved]
        rw [List.filterMap_cons_some found, List.filterMap_cons_none silent]
        exact .found named ih
      · have missing : s.scope? actions = none := by rw [scope?, failed]
        have reported : s.report? actions = some (.ofProblem s.complaint s.location) := by
          rw [report?, failed]
        rw [List.filterMap_cons_none missing, List.filterMap_cons_some reported]
        exact .lost nameless ih

variable {actions : List ActionMember} {queue : List PendingScope} {scopes : List Scope}
  {reports : Diagnostics}

/-- No scope of a queue is both found and lost, and none is passed over. -/
theorem SettlesTo.length_eq (settles : SettlesTo actions queue scopes reports) :
    queue.length = scopes.length + reports.length := by
  induction settles with
  | done => rfl
  | found _ _ ih => rw [List.length_cons, List.length_cons, ih, Nat.add_right_comm]
  | lost _ _ ih => rw [List.length_cons, List.length_cons, ih, Nat.add_assoc]

theorem SettlesTo.isResolved (settles : SettlesTo actions queue scopes reports) :
    ∀ scope ∈ scopes, scope.isResolved = true := by
  induction settles with
  | done => exact fun _ member => absurd member List.not_mem_nil
  | found _ _ ih => exact List.forall_mem_cons.mpr ⟨rfl, ih⟩
  | lost _ _ ih => exact ih

/-- All that is reported of a queue is that references lead nowhere. -/
theorem SettlesTo.unresolved (settles : SettlesTo actions queue scopes reports) :
    ∀ d ∈ reports, d.kind = .unresolvedReference ∧ d.severity = .error := by
  induction settles with
  | done => exact fun _ member => absurd member List.not_mem_nil
  | found _ _ ih => exact ih
  | @lost s _ _ _ _ _ ih =>
      refine List.forall_mem_cons.mpr ⟨⟨s.kind_complaint, ?_⟩, ih⟩
      have fatal : s.complaint.isFatal = true := by
        rw [Problem.isFatal, kind_complaint]
        rfl
      rw [Diagnostic.ofProblem, fatal]
      rfl

end PendingScope

namespace SymbolTable

/-- What resolving a table reports of placeholders: the bindings that find nothing, and those that
nobody has bound. -/
def placeholderReports (t : SymbolTable) : Diagnostics :=
  (t.placeholders.failures t.pendingBindings).map PlaceholderRegistry.failureReport ++
    (t.placeholders.settle t.pendingBindings).locals.filterMap
      (Placeholder.unboundReport? t.policy)

theorem kind_ne_of_mem_placeholderReports {t : SymbolTable} {d : Diagnostic}
    (member : d ∈ t.placeholderReports) : d.kind ≠ .unresolvedReference := by
  rcases List.mem_append.mp member with failed | unbound
  · obtain ⟨⟨b, error⟩, _, rfl⟩ := List.mem_map.mp failed
    cases error <;> exact ProblemKind.noConfusion
  · obtain ⟨p, _, reported⟩ := List.mem_filterMap.mp unbound
    rw [Placeholder.unboundReport?] at reported
    split at reported
    · cases reported
      exact ProblemKind.noConfusion
    · cases reported

/-- Resolving a table works off its queue of scopes among all actions that the table has in the
end, those of bound placeholders and of two-way bindings included. Each queued scope either comes
behind the scopes of children and bound placeholders, or is reported as a reference that leads
nowhere; nothing else is reported so, and the scopes before stay as they are. -/
theorem scope_queue_settles {t : SymbolTable} (fresh : t.isResolved = false) :
    ∃ added others reports,
      t.resolve.scopes =
        t.scopes ++ t.resolve.placeholders.children.filterMap t.scopeOf? ++ added ∧
      t.resolve.actionMembers =
        t.actionMembers ++ t.bindingActions ++
          t.resolve.placeholders.children.filterMap NamedChild.action? ∧
      t.resolve.diagnostics = t.diagnostics ++ others ++ reports ∧
      PendingScope.SettlesTo t.resolve.actionMembers t.pendingScopes added reports ∧
      t.pendingScopes.length = added.length + reports.length ∧
      (∀ scope ∈ added, scope.isResolved = true) ∧
      (∀ d ∈ reports, d.kind = .unresolvedReference ∧ d.severity = .error) ∧
      (∀ d ∈ others, d.kind ≠ .unresolvedReference) ∧
      t.resolve.pendingScopes = [] := by
  obtain ⟨diagnostics, result⟩ := resolve_eq fresh
  have actions : t.resolve.actionMembers = t.resolved.actionMembers := by rw [result]; rfl
  have settles :=
    PendingScope.settlesTo_filterMap t.resolve.actionMembers t.pendingScopes
  refine ⟨_, t.placeholderReports, _, ?_, ?_, ?_, settles, settles.length_eq, settles.isResolved,
    settles.unresolved, fun _ => kind_ne_of_mem_placeholderReports, ?_⟩
  · rw [actions, result]
    rfl
  · rw [result]
    rfl
  · rw [diagnostics_resolve_eq fresh, actions, placeholderReports, List.append_assoc t.diagnostics]
  · rw [result]
    rfl

/-- A dashboard with two-way bindings and three scopes in its queue, the second of which leads
nowhere. -/
def dashboard : SymbolTable where
  module := "Dashboard"
  bindable := true
  actionMembers := [⟨"refresh", "Refresh"⟩]
  pendingScopes := [
    ⟨"total", "Int", Path.action.case "refresh", {}⟩,
    ⟨"ghost", "Int", Path.action.case "missing", {}⟩,
    ⟨"form", "Form", Path.action.case "binding", {}⟩]

theorem scope_queue_settles_dashboard :
    ∃ added reports,
      PendingScope.SettlesTo dashboard.resolve.actionMembers dashboard.pendingScopes added
        reports ∧
      added.map Scope.actionType = [some "Refresh", some "BindingAction<State>"] ∧
      reports.length = 1 := by
  obtain ⟨added, others, reports, scopes, _, _, settles, conserved, _⟩ :=
    scope_queue_settles (t := dashboard) rfl
  have found : dashboard.resolve.scopes = added := scopes
  have types : added.map Scope.actionType =
      [some "Refresh", some "BindingAction<State>"] := by
    rw [← found]
    rfl
  have two : added.length = 2 := by rw [← found]; rfl
  have three : dashboard.pendingScopes.length = 3 := rfl
  exact ⟨added, reports, settles, types, by omega⟩

end SymbolTable

end StateWeave
