import StateWeave.Proofs.BindingReports

/-!
# Trying a failed binding again

The queue of bindings is worked off once, in order, and a binding that finds nothing is not tried
again. Bindings behind it can change what it would find in one way only: they leave fewer
placeholders unbound. `retry_succeeds_iff` says when this is just what a failed binding lacked.
-/

namespace StateWeave

namespace PlaceholderRegistry

variable {r : PlaceholderRegistry} {kind : PlaceholderKind} {name : String} {error : BindError}

/-- Without a name a search fails unless it has just one candidate. -/
theorem target_none_eq_error_iff :
    r.target kind none = .error error ↔
      error = .ambiguous (r.unbound kind).length ∧ (r.unbound kind).length ≠ 1 := by
  simp only [target, unbound]
  split
  · next only single => simp [single]
  · next several =>
      have noSingle : (r.entries.filter (isCandidate kind)).length ≠ 1 := by
        intro one
        obtain ⟨p, single⟩ := List.length_eq_one_iff.mp one
        exact several p single
      simp only [Except.error.injEq, noSingle, ne_eq, not_false_eq_true, and_true]
      exact eq_comm

/-- With a name a search fails if there is nothing of this name and kind. -/
theorem target_some_eq_error_iff :
    r.target kind (some name) = .error error ↔
      error = .notFound ∧ ∀ p ∈ r.entries, ¬(p.kind = kind ∧ p.name = name) := by
  simp only [target]
  split
  · next entry found =>
      have fits := List.find?_some found
      simp only [Bool.and_eq_true, decide_eq_true_eq] at fits
      simp only [reduceCtorEq, false_iff]
      exact fun absent => absent.2 entry (List.mem_of_find?_eq_some found) fits
  · next missing =>
      simp only [List.find?_eq_none, Bool.and_eq_true, decide_eq_true_eq] at missing
      simp only [Except.error.injEq]
      exact ⟨fun same => ⟨same.symm, missing⟩, fun absent => absent.1.symm⟩

/-- A binding turns no placeholder unbound. -/
theorem unbound_bindFirst_sublist (test : Placeholder → Bool) (actionType : String)
    (entries : List Placeholder) :
    ((bindFirst test actionType entries).filter (isCandidate kind)).Sublist
      (entries.filter (isCandidate kind)) := by
  induction entries with
  | nil => exact List.Sublist.refl _
  | cons entry rest ih =>
      rw [bindFirst]
      split
      · have settled : isCandidate kind (entry.typed actionType) = false := by
          simp [isCandidate]
        rw [List.filter_cons_of_neg (by exact ne_true_of_eq_false settled)]
        exact (List.sublist_cons_self entry rest).filter _
      · rw [List.filter_cons, List.filter_cons]
        split
        · exact ih.cons_cons entry
        · exact ih

theorem unbound_settle_singleton_sublist (r : PlaceholderRegistry) (b : PendingBinding)
    (kind : PlaceholderKind) : ((r.settle [b]).unbound kind).Sublist (r.unbound kind) := by
  cases found : r.bound? b with
  | none => rw [settle_of_unbound found]
  | some entry =>
      rw [settle_of_bound found]
      rw [bound?, bind] at found
      split at found
      · next found' same =>
          split at same
          · cases same
            cases found
            exact unbound_bindFirst_sublist _ _ _
          · cases same
      · cases found

/-- However many bindings are made, only placeholders that were unbound before are unbound
afterwards. -/
theorem unbound_settle_sublist (r : PlaceholderRegistry) (queue : List PendingBinding)
    (kind : PlaceholderKind) : ((r.settle queue).unbound kind).Sublist (r.unbound kind) := by
  induction queue generalizing r with
  | nil => exact List.Sublist.refl _
  | cons b queue ih =>
      rw [settle_cons]
      exact (ih (r.settle [b])).trans (unbound_settle_singleton_sublist r b kind)

theorem exists_entry_of_bare {p : Placeholder} (outlined : p.bare ∈ r.outline) :
    ∃ q ∈ r.entries, q.kind = p.kind ∧ q.name = p.name := by
  obtain ⟨q, member, same⟩ := List.mem_map.mp outlined
  have kinds : q.bare.kind = p.bare.kind := congrArg Placeholder.kind same
  have names : q.bare.name = p.bare.name := congrArg Placeholder.name same
  exact ⟨q, member, kinds, names⟩

/-- Names and kinds stay what they are, so that a search by name that failed fails again. -/
theorem target_some_settle (missing : r.target kind (some name) = .error error)
    (queue : List PendingBinding) : (r.settle queue).target kind (some name) = .error error := by
  obtain ⟨reason, absent⟩ := target_some_eq_error_iff.mp missing
  refine target_some_eq_error_iff.mpr ⟨reason, fun p member fits => ?_⟩
  have outlined : p.bare ∈ r.outline := by
    rw [← outline_settle r queue]
    exact List.mem_map_of_mem member
  obtain ⟨q, before, kinds, names⟩ := exists_entry_of_bare outlined
  exact absent q before ⟨kinds.trans fits.1, names.trans fits.2⟩

/-- A search that failed succeeds after more bindings if it gave no name, had several candidates
and has one of them left. -/
theorem target_settle_eq_ok_iff {name : Option String}
    (failed : r.target kind name = .error error) (queue : List PendingBinding)
    {p : Placeholder} :
    (r.settle queue).target kind name = .ok p ↔
      name = none ∧ 2 ≤ (r.unbound kind).length ∧ p ∈ r.unbound kind ∧
        (r.settle queue).unbound kind = [p] := by
  cases name with
  | some name =>
      rw [target_some_settle failed queue]
      simp
  | none =>
      obtain ⟨_, several⟩ := target_none_eq_error_iff.mp failed
      rw [target_none_eq_ok_iff]
      refine ⟨fun single => ?_, fun h => h.2.2.2⟩
      have left := unbound_settle_sublist r queue kind
      rw [single] at left
      have candidate : p ∈ r.unbound kind := List.singleton_sublist.mp left
      have some : 0 < (r.unbound kind).length := List.length_pos_of_mem candidate
      exact ⟨rfl, by omega, candidate, single⟩

theorem bind_eq_ok_iff_target {name : Option String} {actionType : String} :
    (∃ found, r.bind kind name actionType = .ok found) ↔ ∃ p, r.target kind name = .ok p := by
  rw [bind]
  cases r.target kind name <;> simp

theorem bind_eq_error_iff_target {name : Option String} {actionType : String} :
    r.bind kind name actionType = .error error ↔ r.target kind name = .error error := by
  rw [bind]
  cases r.target kind name <;> simp

theorem mem_failures_of_error {front back : List PendingBinding} {b : PendingBinding}
    (failed : (r.settle front).target b.kind b.name = .error error) :
    (b, error) ∈ r.failures (front ++ b :: back) := by
  rw [failures_append, failures, failed]
  exact List.mem_append_right _ List.mem_cons_self

/-- A binding that failed leaves the registry to those behind it as it found it. -/
theorem settle_append_of_error {front back : List PendingBinding} {b : PendingBinding}
    (failed : (r.settle front).target b.kind b.name = .error error) :
    r.settle (front ++ b :: back) = (r.settle front).settle back := by
  have unchanged : (r.settle front).settle [b] = r.settle front :=
    settle_of_unbound (by rw [bound?, bind, failed])
  rw [settle_append, settle_cons, unchanged]

end PlaceholderRegistry

namespace SymbolTable

theorem placeholders_resolve {t : SymbolTable} (fresh : t.isResolved = false) :
    t.resolve.placeholders = t.placeholders.settle t.pendingBindings := by
  obtain ⟨diagnostics, resolved⟩ := resolve_eq fresh
  rw [resolved]
  rfl

/-- A binding that is reported as failed would succeed in the end if it gives no name, if several
placeholders of its kind were unbound when it was tried, and if later bindings have left one of
these. In all other cases it would fail again. -/
theorem retry_succeeds_iff {t : SymbolTable} (fresh : t.isResolved = false)
    {front back : List PendingBinding} {b : PendingBinding} {error : BindError}
    (queue : t.pendingBindings = front ++ b :: back)
    (failed : (t.placeholders.settle front).bind b.kind b.name b.actionType = .error error) :
    .ofProblem (b.problem error) b.location ∈ t.resolve.diagnostics ∧
      ((∃ found, t.resolve.placeholders.bind b.kind b.name b.actionType = .ok found) ↔
        b.name = none ∧ 2 ≤ ((t.placeholders.settle front).unbound b.kind).length ∧
          ∃ p ∈ (t.placeholders.settle front).unbound b.kind,
            t.resolve.placeholders.unbound b.kind = [p]) := by
  have missed := PlaceholderRegistry.bind_eq_error_iff_target.mp failed
  constructor
  · have reported : PlaceholderRegistry.failureReport (b, error) ∈ t.resolve.bindingReports := by
      rw [bindingReports_resolve fresh, queue]
      exact List.mem_append_right _
        (List.mem_map_of_mem (PlaceholderRegistry.mem_failures_of_error missed))
    exact (List.mem_filter.mp reported).1
  · have final : t.resolve.placeholders = (t.placeholders.settle front).settle back := by
      rw [placeholders_resolve fresh, queue, PlaceholderRegistry.settle_append_of_error missed]
    rw [PlaceholderRegistry.bind_eq_ok_iff_target, final]
    constructor
    · rintro ⟨p, found⟩
      obtain ⟨unnamed, several, candidate, single⟩ :=
        (PlaceholderRegistry.target_settle_eq_ok_iff missed back).mp found
      exact ⟨unnamed, several, p, candidate, single⟩
    · rintro ⟨unnamed, several, p, candidate, single⟩
      exact ⟨p, (PlaceholderRegistry.target_settle_eq_ok_iff missed back).mpr
        ⟨unnamed, several, candidate, single⟩⟩

/-- Two alerts, and two bindings the first of which does not say which alert it means. -/
def doorbell : SymbolTable where
  module := "Doorbell"
  placeholders := ⟨[⟨"front", .alert, true, none, {}⟩, ⟨"back", .alert, true, none, {}⟩]⟩
  pendingBindings := [⟨.alert, none, "Ring", {}⟩, ⟨.alert, some "back", "Knock", {}⟩]

theorem retry_succeeds_iff_doorbell :
    .ofProblem (.ambiguousPlaceholder "alert" 2) {} ∈ doorbell.resolve.diagnostics ∧
      ∃ found, doorbell.resolve.placeholders.bind .alert none "Ring" = .ok found := by
  have queue : doorbell.pendingBindings =
      [] ++ ⟨.alert, none, "Ring", {}⟩ :: [⟨.alert, some "back", "Knock", {}⟩] := rfl
  have failed : (doorbell.placeholders.settle []).bind .alert none "Ring" =
      .error (.ambiguous 2) := rfl
  obtain ⟨reported, again⟩ := retry_succeeds_iff rfl queue failed
  exact ⟨reported, again.mpr ⟨rfl, by decide, _, List.mem_cons_self, rfl⟩⟩

/-- Not every binding that fails when it is tried would fail in the end. -/
theorem failed_binding_may_succeed_later :
    ¬∀ (t : SymbolTable) (front back : List PendingBinding) (b : PendingBinding)
      (error : BindError), t.isResolved = false → t.pendingBindings = front ++ b :: back →
        (t.placeholders.settle front).bind b.kind b.name b.actionType = .error error →
          ∀ found, t.resolve.placeholders.bind b.kind b.name b.actionType ≠ .ok found := by
  intro never
  exact never doorbell [] _ _ _ rfl rfl rfl _ rfl

end SymbolTable

end StateWeave
