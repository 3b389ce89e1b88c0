import StateWeave.Proofs.BindingRetries

/-!
# Registries that come of calls

A registry begins empty. From then on placeholders are inserted and action types are bound, in any
order, and some of the bindings fail. `call_cases` says all that one call can do to the entries:
nothing, one more behind them, or another of the same name in the place of one of them. Every name
therefore stays where it was first put, and no other entry ever has it.

Reading a composition and working off its bindings is such a sequence of calls.
-/

namespace StateWeave

/-- What a registry is asked for. -/
inductive RegistryCall where
  | insert (p : Placeholder)
  | bind (kind : PlaceholderKind) (name : Option String) (actionType : String)
  deriving DecidableEq, Repr

namespace PlaceholderRegistry

/-- The registry behind a call. A binding that fails leaves it as it is. -/
def call (r : PlaceholderRegistry) : RegistryCall → PlaceholderRegistry
  | .insert p => r.insert p
  | .bind kind name actionType =>
    match r.bind kind name actionType with
    | .ok (_, bound) => bound
    | .error _ => r

def callAll (r : PlaceholderRegistry) (calls : List RegistryCall) : PlaceholderRegistry :=
  calls.foldl call r

/-- The number of placeholders of a kind that have no action type yet. -/
def vacancies (r : PlaceholderRegistry) (kind : PlaceholderKind) : Nat :=
  r.entries.countP fun p => p.kind = kind ∧ p.actionType = none

theorem callAll_cons (r : PlaceholderRegistry) (c : RegistryCall) (rest : List RegistryCall) :
    r.callAll (c :: rest) = (r.call c).callAll rest := rfl

theorem callAll_append (r : PlaceholderRegistry) (calls later : List RegistryCall) :
    r.callAll (calls ++ later) = (r.callAll calls).callAll later := List.foldl_append

variable {r : PlaceholderRegistry}

/-- A placeholder goes behind all entries, or into the place of an entry with its name. -/
theorem insert_cases (r : PlaceholderRegistry) (p : Placeholder) :
    (p.name ∉ r.names ∧ (r.insert p).entries = r.entries ++ [p]) ∨
      ∃ front old back, r.entries = front ++ old :: back ∧ old.name = p.name ∧
        (r.insert p).entries = front ++ p :: back := by
  rcases insertIn_cases p r.entries with added | ⟨front, old, back, split, -, same, replaced⟩
  · exact Or.inl added
  · exact Or.inr ⟨front, old, back, split, same, replaced⟩

section

variable {kind : PlaceholderKind} {name : Option String} {actionType : String}

/-- One entry of the right kind gets the action type, and nothing else changes. The entry has the
name that the binding gives, or is unbound if the binding gives none. -/
theorem exists_of_bind_eq_ok {found : String} {bound : PlaceholderRegistry}
    (answer : r.bind kind name actionType = .ok (found, bound)) :
    ∃ front p back, r.entries = front ++ p :: back ∧
      bound.entries = front ++ p.typed actionType :: back ∧ p.name = found ∧ p.kind = kind ∧
      name.elim (p.actionType = none) fun name => p.name = name := by
  rw [bind] at answer
  split at answer
  · next p target =>
      obtain ⟨rfl, rfl⟩ := Prod.mk.inj (Except.ok.inj answer)
      obtain ⟨fits, front, back, split, others⟩ :=
        List.find?_eq_some_iff_append.mp (find?_accepts_of_target target)
      refine ⟨front, p, back, split, ?_, rfl, ?_⟩
      · rw [split]
        exact bindFirst_of_first (by simpa using others) fits actionType
      · cases name <;> simpa [accepts, isCandidate, Placeholder.isBound] using fits
  · cases answer

theorem exists_bind_eq_ok_iff :
    (∃ answer, r.bind kind name actionType = .ok answer) ↔
      ∀ error, r.target kind name ≠ .error error := by
  rw [bind_eq_ok_iff_target]
  cases r.target kind name <;> simp

/-- With a name a binding succeeds if there is something of this name and kind. -/
theorem exists_bind_some_eq_ok_iff {name : String} :
    (∃ answer, r.bind kind (some name) actionType = .ok answer) ↔
      ∃ p ∈ r.entries, p.kind = kind ∧ p.name = name := by
  rw [exists_bind_eq_ok_iff]
  simp [target_some_eq_error_iff]

theorem vacancies_eq (r : PlaceholderRegistry) (kind : PlaceholderKind) :
    r.vacancies kind = (r.unbound kind).length := by
  rw [vacancies, unbound, List.countP_eq_length_filter]
  refine congrArg List.length (List.filter_congr fun p _ => ?_)
  cases bound : p.actionType <;> simp [isCandidate, Placeholder.isBound, bound]

/-- Without a name it succeeds if there is one vacancy of the kind. -/
theorem exists_bind_none_eq_ok_iff :
    (∃ answer, r.bind kind none actionType = .ok answer) ↔ r.vacancies kind = 1 := by
  rw [exists_bind_eq_ok_iff]
  simp [target_none_eq_error_iff, vacancies_eq]

end

/-- What a call can do. -/
theorem call_cases (r : PlaceholderRegistry) (c : RegistryCall) :
    r.call c = r ∨
      (∃ p, p.name ∉ r.names ∧ (r.call c).entries = r.entries ++ [p]) ∨
      ∃ front old new back, r.entries = front ++ old :: back ∧
        (r.call c).entries = front ++ new :: back ∧ new.name = old.name := by
  cases c with
  | insert p =>
      rcases insert_cases r p with ⟨fresh, grown⟩ | ⟨front, old, back, split, same, replaced⟩
      · exact Or.inr (Or.inl ⟨p, fresh, grown⟩)
      · exact Or.inr (Or.inr ⟨front, old, p, back, split, replaced, same.symm⟩)
  | bind kind name actionType =>
      rw [call]
      split
      · next answer =>
          obtain ⟨front, p, back, split, settled, -⟩ := exists_of_bind_eq_ok answer
          exact Or.inr (Or.inr ⟨front, p, p.typed actionType, back, split, settled, rfl⟩)
      · exact Or.inl rfl

theorem names_call (r : PlaceholderRegistry) (c : RegistryCall) :
    (r.call c).names = r.names ∨
      ∃ name, name ∉ r.names ∧ (r.call c).names = r.names ++ [name] := by
  rcases call_cases r c with kept | ⟨p, fresh, grown⟩ | ⟨front, old, new, back, split, other, same⟩
  · rw [kept]
    exact Or.inl rfl
  · refine Or.inr ⟨p.name, fresh, ?_⟩
    rw [names, grown, List.map_append]
    rfl
  · refine Or.inl ?_
    rw [names, names, split, other, List.map_append, List.map_append, List.map_cons,
      List.map_cons, same]

/-- Calls keep names distinct, and the names that are there in their places. -/
theorem names_callAll (distinct : r.names.Nodup) (calls : List RegistryCall) :
    (r.callAll calls).names.Nodup ∧ r.names <+: (r.callAll calls).names := by
  induction calls generalizing r with
  | nil => exact ⟨distinct, List.prefix_refl _⟩
  | cons c rest ih =>
      rw [callAll_cons]
      rcases names_call r c with same | ⟨name, fresh, grown⟩
      · rw [← same] at distinct ⊢
        exact ih distinct
      · have once : (r.call c).names.Nodup := by
          rw [grown]
          simpa using List.Nodup.concat fresh distinct
        obtain ⟨kept, front⟩ := ih once
        have first : r.names <+: (r.call c).names := ⟨[name], grown.symm⟩
        exact ⟨kept, first.trans front⟩

/-- What calls find at a place they leave there, and put nowhere else. -/
theorem getElem?_names_callAll_iff (distinct : r.names.Nodup) (later : List RegistryCall)
    {i j : Nat} {name : String} (here : r.names[i]? = some name) :
    (r.callAll later).names[j]? = some name ↔ j = i := by
  obtain ⟨once, fresh, grown⟩ := names_callAll distinct later
  obtain ⟨inside, -⟩ := List.getElem?_eq_some_iff.mp here
  have still : (r.callAll later).names[i]? = some name := by
    rw [← grown, List.getElem?_append_left inside, here]
  have inLater : i < (r.callAll later).names.length := (List.getElem?_eq_some_iff.mp still).1
  rw [← still, eq_comm, List.getElem?_inj inLater once, eq_comm]

theorem exists_callAll_declareAll (r : PlaceholderRegistry) (ps : List Placeholder) :
    ∃ calls, r.declareAll ps = r.callAll calls := by
  induction ps generalizing r with
  | nil => exact ⟨[], rfl⟩
  | cons p ps ih =>
      obtain ⟨later, rest⟩ := ih (r.declare p)
      cases bound : (r.get? p.name).any Placeholder.isBound with
      | true =>
          have kept : r.declare p = r := if_pos bound
          exact ⟨later, rest.trans (by rw [kept])⟩
      | false =>
          have entered : r.declare p = r.call (.insert p) := by
            rw [declare, bound, if_neg Bool.false_ne_true, call]
          exact ⟨.insert p :: later, rest.trans (by rw [entered, callAll_cons])⟩

theorem settle_eq_callAll (r : PlaceholderRegistry) (queue : List PendingBinding) :
    r.settle queue = r.callAll (queue.map fun b => .bind b.kind b.name b.actionType) := by
  induction queue generalizing r with
  | nil => rfl
  | cons b queue ih =>
      have one : r.settle [b] = r.call (.bind b.kind b.name b.actionType) := by
        rw [call]
        split
        · next answer => exact settle_of_bound (by rw [bound?, answer])
        · next answer => exact settle_of_unbound (by rw [bound?, answer])
      rw [settle_cons, one, ih, List.map_cons, callAll_cons]

end PlaceholderRegistry

/-- The placeholders that a composition ends up with come of calls on an empty registry. -/
theorem Composition.exists_callAll_settled (policy : Policy) (resolver : Resolver)
    (c : Composition) (members : List Member) :
    ∃ calls, c.settled policy resolver members = PlaceholderRegistry.empty.callAll calls := by
  obtain ⟨calls, declared⟩ := PlaceholderRegistry.exists_callAll_declareAll
    PlaceholderRegistry.empty (ChildEntry.declarations policy resolver [] c.children)
  rw [settled, PlaceholderRegistry.settle_eq_callAll, Composition.declared, declared,
    ← PlaceholderRegistry.callAll_append]
  exact ⟨_, rfl⟩

namespace PlaceholderRegistry

/-- Whatever an empty registry is asked for, its names are distinct, and later calls leave each of
them in its place. An insertion adds one entry behind the others or replaces one in its place.

A binding that fails may as well not have been tried. One that succeeds gives its action type to a
single entry of its kind and answers with the name of this entry. With a name it succeeds if and
only if there is an entry of its kind and name; without one, if and only if just one entry of its
kind is unbound, and else it says how many are. -/
theorem calls_keep_places (calls : List RegistryCall) :
    let r := empty.callAll calls
    r.names.Nodup ∧
    (∀ (later : List RegistryCall) (i : Nat) (name : String), r.names[i]? = some name →
      ∀ j : Nat, (r.callAll later).names[j]? = some name ↔ j = i) ∧
    (∀ p, (p.name ∉ r.names ∧ (r.insert p).entries = r.entries ++ [p]) ∨
      ∃ front old back, r.entries = front ++ old :: back ∧ old.name = p.name ∧
        (r.insert p).entries = front ++ p :: back) ∧
    ∀ kind actionType,
      (∀ name error, r.bind kind name actionType = .error error →
        ∀ later, r.callAll (.bind kind name actionType :: later) = r.callAll later) ∧
      (∀ name found bound, r.bind kind name actionType = .ok (found, bound) →
        r.call (.bind kind name actionType) = bound ∧
        ∃ front p back, r.entries = front ++ p :: back ∧
          bound.entries = front ++ p.typed actionType :: back ∧ p.name = found ∧
          p.kind = kind ∧ name.elim (p.actionType = none) fun name => p.name = name) ∧
      (∀ name, (∃ answer, r.bind kind (some name) actionType = .ok answer) ↔
        ∃ p ∈ r.entries, p.kind = kind ∧ p.name = name) ∧
      ((∃ answer, r.bind kind none actionType = .ok answer) ↔ r.vacancies kind = 1) ∧
      (r.vacancies kind ≠ 1 →
        r.bind kind none actionType = .error (.ambiguous (r.vacancies kind))) := by
  intro r
  have nameless : empty.names.Nodup := List.nodup_nil
  have distinct : r.names.Nodup := (names_callAll nameless calls).1
  refine ⟨distinct, fun later _ _ here _ => getElem?_names_callAll_iff distinct later here,
    insert_cases r, ?_⟩
  intro kind actionType
  refine ⟨?_, ?_, fun _ => exists_bind_some_eq_ok_iff, exists_bind_none_eq_ok_iff, ?_⟩
  · intro name error answer later
    rw [callAll_cons, call, answer]
  · intro name found bound answer
    exact ⟨by rw [call, answer], exists_of_bind_eq_ok answer⟩
  · intro several
    rw [vacancies_eq] at several ⊢
    exact bind_eq_error_iff_target.mpr (target_none_eq_error_iff.mpr ⟨rfl, several⟩)

/-- Two alerts of which one is bound and then inserted anew, so that both wait for a type. Names
tell them apart, and a dialog is not found under the name of an alert. -/
theorem calls_keep_places_lobby :
    let leave : Placeholder := ⟨"leave", .alert, true, none, ⟨2, 5⟩⟩
    let mute : Placeholder := ⟨"mute", .alert, true, none, ⟨3, 5⟩⟩
    let r := empty.callAll [.insert leave, .bind .alert none "Leave", .insert mute, .insert leave]
    r.bind .alert none "Mute" = .error (.ambiguous 2) ∧
      (∃ answer, r.bind .alert (some "mute") "Mute" = .ok answer) ∧
      r.call (.bind .alert (some "mute") "Mute") = ⟨[leave, mute.typed "Mute"]⟩ ∧
      ∀ later, (r.callAll later).names[0]? = some "leave" ∧
        r.callAll (.bind .confirmationDialog (some "mute") "Mute" :: later) = r.callAll later := by
  intro leave mute r
  obtain ⟨_, places, _, bindings⟩ :=
    calls_keep_places [.insert leave, .bind .alert none "Leave", .insert mute, .insert leave]
  obtain ⟨_, settled, named, _, several⟩ := bindings .alert "Mute"
  obtain ⟨failed, _⟩ := bindings .confirmationDialog "Mute"
  refine ⟨several (by decide), (named "mute").mpr ⟨mute, by decide, rfl, rfl⟩,
    (settled (some "mute") "mute" _ rfl).1, ?_⟩
  intro later
  exact ⟨(places later 0 "leave" rfl 0).mpr rfl, failed (some "mute") .notFound rfl later⟩

end PlaceholderRegistry

end StateWeave
