import StateWeave.Proofs.Settlement

/-!
# What a binding finds

A binding that names a placeholder means the one of this name and of its own kind, whether it
is bound or not. One that names none means the only unbound placeholder of its kind, and means
nothing if there are several or none. `Finds` says so without a search. The placeholder that is
found gets an action type, and nothing else of a registry changes.

Bindings are tried one after the other, each once. Those that find nothing are the failures of a
queue, and each of them makes one report.
-/

namespace StateWeave

namespace Placeholder

def typed (p : Placeholder) (actionType : String) : Placeholder :=
  { p with actionType := some actionType }

@[simp] theorem name_typed (p : Placeholder) (actionType : String) :
    (p.typed actionType).name = p.name := rfl

@[simp] theorem bare_typed (p : Placeholder) (actionType : String) :
    (p.typed actionType).bare = p.bare := rfl

@[simp] theorem isBound_typed (p : Placeholder) (actionType : String) :
    (p.typed actionType).isBound = true := rfl

/-- The path to a placeholder's actions: a case for each part of its name, and the envelope if
it is presented. -/
def path (p : Placeholder) : Path :=
  let cases := (Naming.components p.name).foldl Path.case Path.action
  if p.presentable then cases.presented else cases

end Placeholder

namespace PlaceholderRegistry

def unbound (r : PlaceholderRegistry) (kind : PlaceholderKind) : List Placeholder :=
  r.entries.filter (isCandidate kind)

/-- A binding means a placeholder: the one of its kind and of the name that it gives, or the
only unbound one of its kind. -/
def Finds (r : PlaceholderRegistry) (b : PendingBinding) (p : Placeholder) : Prop :=
  match b.name with
  | some name => p ∈ r.entries ∧ p.kind = b.kind ∧ p.name = name
  | none => r.unbound b.kind = [p]

/-- A registry with a type for the actions of the placeholder of a name. -/
def assign (r : PlaceholderRegistry) (name actionType : String) : PlaceholderRegistry :=
  ⟨r.entries.map fun p => if p.name = name then p.typed actionType else p⟩

theorem mem_entries_of_finds {r : PlaceholderRegistry} {b : PendingBinding} {p : Placeholder}
    (found : r.Finds b p) : p ∈ r.entries := by
  rw [Finds] at found
  split at found
  · exact found.1
  · have candidate : p ∈ r.unbound b.kind := by
      rw [found]
      exact List.mem_singleton_self p
    exact (List.mem_filter.mp candidate).1

theorem kind_of_finds {r : PlaceholderRegistry} {b : PendingBinding} {p : Placeholder}
    (found : r.Finds b p) : p.kind = b.kind := by
  rw [Finds] at found
  split at found
  · exact found.2.1
  · have candidate : p ∈ r.unbound b.kind := by
      rw [found]
      exact List.mem_singleton_self p
    have passes := (List.mem_filter.mp candidate).2
    simp only [isCandidate, Bool.and_eq_true, decide_eq_true_eq] at passes
    exact passes.1

/-- Only a binding that gives its name finds a placeholder that is bound. -/
theorem name_of_finds_bound {r : PlaceholderRegistry} {b : PendingBinding} {p : Placeholder}
    (found : r.Finds b p) (bound : p.isBound = true) : b.name = some p.name := by
  rw [Finds] at found
  split at found
  · next named => rw [named, found.2.2]
  · have candidate : p ∈ r.unbound b.kind := by
      rw [found]
      exact List.mem_singleton_self p
    have passes := (List.mem_filter.mp candidate).2
    simp [isCandidate, bound] at passes

theorem target_none_eq_ok_iff {r : PlaceholderRegistry} {kind : PlaceholderKind}
    {p : Placeholder} : r.target kind none = .ok p ↔ r.unbound kind = [p] := by
  simp only [target, unbound]
  split
  · next only single => simp [single]
  · next several =>
      simp only [reduceCtorEq, false_iff]
      exact several p

theorem target_eq_ok_iff {r : PlaceholderRegistry} (distinct : r.names.Nodup)
    {b : PendingBinding} {p : Placeholder} :
    r.target b.kind b.name = .ok p ↔ r.Finds b p := by
  rw [Finds]
  cases b.name with
  | none => exact target_none_eq_ok_iff
  | some name =>
      simp only [target]
      cases found : r.entries.find? fun entry => entry.kind = b.kind && entry.name = name with
      | none =>
          simp only [List.find?_eq_none, Bool.and_eq_true, decide_eq_true_eq, not_and] at found
          simp only [reduceCtorEq, false_iff, not_and]
          exact found p
      | some q =>
          have known := List.mem_of_find?_eq_some found
          have fits := List.find?_some found
          simp only [Bool.and_eq_true, decide_eq_true_eq] at fits
          simp only [Except.ok.injEq]
          constructor
          · rintro rfl
            exact ⟨known, fits⟩
          · rintro ⟨member, _, named⟩
            exact List.inj_on_of_nodup_map distinct known member (fits.2.trans named.symm)

theorem find?_accepts_of_target {r : PlaceholderRegistry} {kind : PlaceholderKind}
    {name : Option String} {p : Placeholder} (found : r.target kind name = .ok p) :
    r.entries.find? (accepts kind name) = some p := by
  cases name with
  | none =>
      have single : r.entries.filter (isCandidate kind) = [p] := target_none_eq_ok_iff.mp found
      change r.entries.find? (isCandidate kind) = some p
      rw [← List.head?_filter, single, List.head?_cons]
  | some name =>
      simp only [target] at found
      split at found
      · next entry known =>
          cases found
          exact known
      · cases found

theorem bindFirst_of_first {test : Placeholder → Bool} {p : Placeholder}
    {front back : List Placeholder} (others : ∀ q ∈ front, test q = false)
    (passes : test p = true) (actionType : String) :
    bindFirst test actionType (front ++ p :: back) = front ++ p.typed actionType :: back := by
  induction front with
  | nil => exact if_pos passes
  | cons q front ih =>
      obtain ⟨fails, others⟩ := List.forall_mem_cons.mp others
      rw [List.cons_append, bindFirst, fails, if_neg Bool.false_ne_true, ih others,
        List.cons_append]

/-- Where names are distinct, giving a type to the first placeholder that passes a test is
giving it to all placeholders of its name. -/
theorem bindFirst_eq_map {test : Placeholder → Bool} {entries : List Placeholder}
    {p : Placeholder} (found : entries.find? test = some p)
    (distinct : (entries.map Placeholder.name).Nodup) (actionType : String) :
    bindFirst test actionType entries =
      entries.map fun q => if q.name = p.name then q.typed actionType else q := by
  obtain ⟨passes, front, back, split, others⟩ := List.find?_eq_some_iff_append.mp found
  rw [split, List.map_append, List.map_cons] at distinct
  obtain ⟨fresh, -⟩ := List.nodup_cons.mp (List.nodup_middle.mp distinct)
  have keeps (part : List Placeholder) (differs : p.name ∉ part.map Placeholder.name) :
      part.map (fun q => if q.name = p.name then q.typed actionType else q) = part := by
    refine (List.map_congr_left fun q member => if_neg fun same => ?_).trans (List.map_id' part)
    exact differs (same ▸ List.mem_map_of_mem member)
  rw [List.mem_append, not_or] at fresh
  rw [split, bindFirst_of_first (by simpa using others) passes, List.map_append, List.map_cons,
    keeps front fresh.1, keeps back fresh.2, if_pos rfl]

section

variable {r : PlaceholderRegistry} (distinct : r.names.Nodup) {b : PendingBinding}
  {p : Placeholder}

include distinct

theorem bound?_of_finds (found : r.Finds b p) :
    r.bound? b = some (p.name, r.assign p.name b.actionType) := by
  have target := (target_eq_ok_iff distinct).mpr found
  rw [bound?, bind, target]
  dsimp only
  rw [bindFirst_eq_map (find?_accepts_of_target target) distinct, assign]

theorem bound?_of_missing (missing : ∀ p, ¬r.Finds b p) : r.bound? b = none := by
  rw [bound?, bind]
  cases target : r.target b.kind b.name with
  | ok p => exact absurd ((target_eq_ok_iff distinct).mp target) (missing p)
  | error => rfl

theorem settle_of_finds (found : r.Finds b p) : r.settle [b] = r.assign p.name b.actionType :=
  settle_of_bound (bound?_of_finds distinct found)

theorem settle_of_missing (missing : ∀ p, ¬r.Finds b p) : r.settle [b] = r :=
  settle_of_unbound (bound?_of_missing distinct missing)

theorem routeOf?_of_finds (found : r.Finds b p) : r.routeOf? b = some p.path := by
  rw [routeOf?, bound?_of_finds distinct found, Option.map_some, route,
    get?_of_mem distinct (mem_entries_of_finds found)]
  rfl

theorem routeOf?_of_missing (missing : ∀ p, ¬r.Finds b p) : r.routeOf? b = none := by
  rw [routeOf?, bound?_of_missing distinct missing, Option.map_none]

end

theorem nodup_names_settle {r : PlaceholderRegistry} (distinct : r.names.Nodup)
    (queue : List PendingBinding) : (r.settle queue).names.Nodup := by
  rwa [names_settle]

theorem names_assign (r : PlaceholderRegistry) (name actionType : String) :
    (r.assign name actionType).names = r.names := by
  rw [names, assign, List.map_map]
  refine List.map_congr_left fun p _ => ?_
  rw [Function.comp_apply]
  split <;> rfl

theorem get?_assign (r : PlaceholderRegistry) (name actionType other : String) :
    (r.assign name actionType).get? other =
      if other = name then (r.get? name).map fun p => p.typed actionType else r.get? other := by
  have named (p : Placeholder) :
      (if p.name = name then p.typed actionType else p).name = p.name := by
    split <;> rfl
  have found : (r.assign name actionType).get? other =
      (r.get? other).map fun p => if p.name = name then p.typed actionType else p := by
    rw [get?, assign, List.find?_map, get?]
    simp only [Function.comp_def, named]
  rw [found]
  cases known : r.get? other with
  | none =>
      split
      · next same =>
          rw [← same, known]
          rfl
      · rfl
  | some p =>
      rw [Option.map_some, (mem_of_get? known).2]
      split
      · next same =>
          rw [← same, known]
          rfl
      · rfl

/-- The bindings of a queue that find nothing when it is their turn, each with why. -/
def failures (r : PlaceholderRegistry) : List PendingBinding → List (PendingBinding × BindError)
  | [] => []
  | b :: queue =>
    match r.target b.kind b.name with
    | .ok _ => (r.settle [b]).failures queue
    | .error error => (b, error) :: (r.settle [b]).failures queue

def failureReport (failure : PendingBinding × BindError) : Diagnostic :=
  .ofProblem (failure.1.problem failure.2) failure.1.location

theorem reports_bindAll (r : PlaceholderRegistry) (queue : List PendingBinding) :
    (r.bindAll queue).2.2 = (r.failures queue).map failureReport := by
  induction queue generalizing r with
  | nil => rfl
  | cons b queue ih =>
      rw [bindAll, failures, bind]
      cases target : r.target b.kind b.name with
      | ok entry =>
          have settled : r.settle [b] =
              ⟨bindFirst (accepts b.kind b.name) b.actionType r.entries⟩ :=
            settle_of_bound (by rw [bound?, bind, target])
          rw [settled]
          exact ih _
      | error error =>
          have settled : r.settle [b] = r := settle_of_unbound (by rw [bound?, bind, target])
          rw [settled, List.map_cons]
          exact congrArg _ (ih r)

theorem failures_append (r : PlaceholderRegistry) (queue later : List PendingBinding) :
    r.failures (queue ++ later) = r.failures queue ++ (r.settle queue).failures later := by
  induction queue generalizing r with
  | nil => rfl
  | cons b queue ih =>
      rw [List.cons_append, failures, failures, ih, ← settle_cons]
      split <;> rfl

end PlaceholderRegistry

end StateWeave
