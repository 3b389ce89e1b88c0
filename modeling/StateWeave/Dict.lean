/-!
# Entries in key order

A dictionary is an association list whose keys are strictly ascending in
code-point order. Plain lists keep it usable inside recursive types; every
operation accepts any list and looks at the first entry of a key, so the order
matters only for which list stands for a given content.
-/

namespace StateWeave.Dict

variable {α : Type}

/-- The value of a key, from the first of its entries. -/
def find? (key : String) (entries : List (String × α)) : Option α :=
  entries.lookup key

def contains (key : String) (entries : List (String × α)) : Bool :=
  (find? key entries).isSome

/-- Put an entry in its place; an entry of the same key is replaced. -/
def insert (key : String) (value : α) : List (String × α) → List (String × α)
  | [] => [(key, value)]
  | (k, v) :: rest =>
    if key < k then (key, value) :: (k, v) :: rest
    else if key = k then (key, value) :: rest
    else (k, v) :: insert key value rest

/-- Give the entry of a key another value, if there is one. -/
def replace? (key : String) (value : α) : List (String × α) → Option (List (String × α))
  | [] => none
  | (k, v) :: rest =>
    if key = k then some ((k, value) :: rest) else (replace? key value rest).map ((k, v) :: ·)

/-- Of several entries with one key the last one stays. -/
def ofList (entries : List (String × α)) : List (String × α) :=
  entries.foldl (fun dict entry => insert entry.1 entry.2 dict) []

@[simp] theorem find?_nil (key : String) : find? key ([] : List (String × α)) = none := rfl

theorem find?_cons (key k : String) (v : α) (rest : List (String × α)) :
    find? key ((k, v) :: rest) = if key = k then some v else find? key rest := by
  by_cases h : key = k
  · simp [find?, h]
  · have : (key == k) = false := by simp [h]
    simp [find?, List.lookup_cons, this, h]

theorem find?_insert (key k : String) (v : α) (entries : List (String × α)) :
    find? key (insert k v entries) = if key = k then some v else find? key entries := by
  induction entries with
  | nil => simp [insert, find?_cons]
  | cons entry rest ih =>
    obtain ⟨k', v'⟩ := entry
    simp only [insert]
    split
    · simp [find?_cons]
    · split
      · rename_i _ same
        subst same
        by_cases h : key = k <;> simp [find?_cons, h]
      · rename_i _ other
        by_cases h : key = k'
        · have : ¬ key = k := fun e => other (e.symm.trans h)
          simp [find?_cons, h]
          intro e
          exact absurd e.symm other
        · simp [find?_cons, h, ih]

theorem isSome_replace? (key : String) (value : α) (entries : List (String × α)) :
    (replace? key value entries).isSome = contains key entries := by
  induction entries with
  | nil => rfl
  | cons entry rest ih =>
    obtain ⟨k, v⟩ := entry
    by_cases h : key = k
    · simp [replace?, contains, find?_cons, h]
    · have step : contains key ((k, v) :: rest) = contains key rest := by
        simp [contains, find?_cons, h]
      simp [replace?, h, step, ih]

/-- Replacing changes the entry of its own key and no other. -/
theorem find?_of_replace? {k : String} {v : α} {entries changed : List (String × α)}
    (h : replace? k v entries = some changed) (key : String) :
    find? key changed = if key = k then some v else find? key entries := by
  induction entries generalizing changed with
  | nil => simp [replace?] at h
  | cons entry rest ih =>
    obtain ⟨k', v'⟩ := entry
    by_cases same : k = k'
    · subst same
      obtain rfl : (k, v) :: rest = changed := by simpa [replace?] using h
      by_cases e : key = k <;> simp [find?_cons, e]
    · obtain ⟨others, hothers, rfl⟩ : ∃ others, replace? k v rest = some others ∧
          (k', v') :: others = changed := by simpa [replace?, same] using h
      rw [find?_cons, find?_cons, ih hothers]
      by_cases e : key = k'
      · simp only [e, if_true]
        rw [if_neg fun eq => same eq.symm]
      · simp [e]

/-- Replacing by what is there already changes nothing. -/
theorem replace?_of_find? {key : String} {value : α} {entries : List (String × α)}
    (h : find? key entries = some value) : replace? key value entries = some entries := by
  induction entries with
  | nil => cases h
  | cons entry rest ih =>
    obtain ⟨k, v⟩ := entry
    rw [find?_cons] at h
    by_cases same : key = k
    · rw [if_pos same] at h
      obtain rfl := Option.some.inj h
      simp [replace?, same]
    · rw [if_neg same] at h
      simp [replace?, same, ih h]

/-- Of two values that an entry is given the later one stays. -/
theorem replace?_of_replace? {key : String} {old : α} {entries changed : List (String × α)}
    (h : replace? key old entries = some changed) (new : α) :
    replace? key new changed = replace? key new entries := by
  induction entries generalizing changed with
  | nil => cases h
  | cons entry rest ih =>
    obtain ⟨k, v⟩ := entry
    by_cases same : key = k
    · obtain rfl : (k, old) :: rest = changed := by simpa [replace?, same] using h
      simp [replace?, same]
    · obtain ⟨others, hothers, rfl⟩ : ∃ others, replace? key old rest = some others ∧
          (k, v) :: others = changed := by simpa [replace?, same] using h
      simp [replace?, same, ih hothers]

end StateWeave.Dict
