/-!
# Ascending lists of names

Where an output lists names as a set, it lists them in ascending order and each
of them once. `ofList` brings any list of names into that form.
-/

namespace StateWeave.SortedSet

/-- Put a name in its place unless it is there already. -/
def insert (name : String) : List String → List String
  | [] => [name]
  | other :: rest =>
    if name < other then name :: other :: rest
    else if name = other then other :: rest
    else other :: insert name rest

def ofList (names : List String) : List String := names.foldr insert []

@[simp] theorem mem_insert {x name : String} {names : List String} :
    x ∈ insert name names ↔ x = name ∨ x ∈ names := by
  induction names with
  | nil => simp [insert]
  | cons other rest ih =>
    simp only [insert]
    split
    · simp
    · split
      · rename_i same
        simp [same]
      · simp only [List.mem_cons, ih]
        constructor
        · rintro (h | h | h) <;> simp [h]
        · rintro (h | h | h) <;> simp [h]

@[simp] theorem mem_ofList {x : String} {names : List String} :
    x ∈ ofList names ↔ x ∈ names := by
  induction names with
  | nil => simp [ofList]
  | cons name rest ih =>
    have : ofList (name :: rest) = insert name (ofList rest) := rfl
    simp [this, ih]

theorem pairwise_insert {name : String} {names : List String}
    (h : names.Pairwise (· < ·)) : (insert name names).Pairwise (· < ·) := by
  induction names with
  | nil => simp [insert]
  | cons other rest ih =>
    obtain ⟨below, ascending⟩ := List.pairwise_cons.1 h
    simp only [insert]
    split
    · rename_i first
      refine List.pairwise_cons.2 ⟨fun x hx => ?_, h⟩
      rcases List.mem_cons.1 hx with rfl | hx
      · exact first
      · exact String.lt_trans first (below x hx)
    · split
      · exact h
      · rename_i notFirst notSame
        refine List.pairwise_cons.2 ⟨fun x hx => ?_, ih ascending⟩
        rcases mem_insert.1 hx with rfl | hx
        · have : ¬ other = x := fun e => notSame e.symm
          exact Decidable.byContradiction fun not =>
            this (String.le_antisymm notFirst not)
        · exact below x hx

/-- The names come out in ascending order, and so each of them once. -/
theorem pairwise_ofList (names : List String) : (ofList names).Pairwise (· < ·) := by
  induction names with
  | nil => exact List.Pairwise.nil
  | cons name rest ih => exact pairwise_insert ih

end StateWeave.SortedSet
