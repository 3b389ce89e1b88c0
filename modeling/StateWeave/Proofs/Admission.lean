import Mathlib.Data.List.Nodup

/-!
# Names given out in order

Entries of a composition and members of a module ask for names one after the other,
and a name goes to whoever asks for it first. `admitted` lists the items that are let
in: those that ask for no name, and those whose name nobody had before them. It looks
at names only, so it says who is let in without saying what is then done with them.

The names of the items let in are pairwise distinct, and the item that holds a name is
the first one that asked for it.
-/

namespace StateWeave.Admission

variable {α : Type} (name? : α → Option String)

/-- Whether an item may come in while some names are taken. -/
def isFree (taken : List String) (x : α) : Bool :=
  (name? x).all fun name => !taken.contains name

/-- The items that are let in, in order. Each of them takes its name. -/
def admitted (taken : List String) : List α → List α
  | [] => []
  | x :: rest =>
    if isFree name? taken x then x :: admitted (taken ++ (name? x).toList) rest
    else admitted taken rest

variable {name?}

theorem isFree_of_none {x : α} (anonymous : name? x = none) (taken : List String) :
    isFree name? taken x = true := by
  simp [isFree, anonymous]

theorem isFree_of_some {x : α} {name : String} (asked : name? x = some name)
    (taken : List String) : isFree name? taken x = true ↔ name ∉ taken := by
  simp [isFree, asked]

theorem isFree_eq_false_of_taken {x : α} {name : String} {taken : List String}
    (asked : name? x = some name) (old : name ∈ taken) : isFree name? taken x = false := by
  simp [isFree, asked, old]

theorem admitted_cons_of_free {taken : List String} {x : α}
    (free : isFree name? taken x = true) (xs : List α) :
    admitted name? taken (x :: xs) = x :: admitted name? (taken ++ (name? x).toList) xs := by
  simp [admitted, free]

theorem admitted_cons_of_taken {taken : List String} {x : α}
    (refused : isFree name? taken x = false) (xs : List α) :
    admitted name? taken (x :: xs) = admitted name? taken xs := by
  simp [admitted, refused]

theorem admitted_singleton_of_free {taken : List String} {x : α}
    (free : isFree name? taken x = true) : admitted name? taken [x] = [x] := by
  simp [admitted, free]

theorem admitted_singleton_of_taken {taken : List String} {x : α}
    (refused : isFree name? taken x = false) : admitted name? taken [x] = [] := by
  simp [admitted, refused]

/-- Letting in one item after another is letting in a list. -/
theorem admitted_cons (taken : List String) (x : α) (xs : List α) :
    admitted name? taken (x :: xs) =
      admitted name? taken [x] ++
        admitted name? (taken ++ (admitted name? taken [x]).filterMap name?) xs := by
  cases free : isFree name? taken x with
  | true =>
      rw [admitted_cons_of_free free, admitted_cons_of_free free]
      cases h : name? x <;> simp [admitted, h]
  | false =>
      rw [admitted_cons_of_taken free, admitted_cons_of_taken free]
      simp [admitted]

/-- Letting in one list after another is letting in the whole. -/
theorem admitted_append (taken : List String) (xs ys : List α) :
    admitted name? taken (xs ++ ys) =
      admitted name? taken xs ++
        admitted name? (taken ++ (admitted name? taken xs).filterMap name?) ys := by
  induction xs generalizing taken with
  | nil => simp [admitted]
  | cons x xs ih =>
      rw [List.cons_append, admitted_cons taken x (xs ++ ys), admitted_cons taken x xs, ih,
        List.filterMap_append]
      simp only [List.append_assoc]

/-- Of the names that are taken, only those matter that somebody asks for. -/
theorem admitted_congr_of_asked {taken taken' : List String} {xs : List α}
    (same : ∀ name ∈ xs.filterMap name?, name ∈ taken ↔ name ∈ taken') :
    admitted name? taken xs = admitted name? taken' xs := by
  induction xs generalizing taken taken' with
  | nil => rfl
  | cons x xs ih =>
      have later : ∀ name ∈ xs.filterMap name?, name ∈ taken ↔ name ∈ taken' := by
        intro name asked
        refine same name ?_
        obtain ⟨y, member, named⟩ := List.mem_filterMap.mp asked
        exact List.mem_filterMap.mpr ⟨y, List.mem_cons_of_mem x member, named⟩
      have free : isFree name? taken x = isFree name? taken' x := by
        cases h : name? x with
        | none => rw [isFree_of_none h, isFree_of_none h]
        | some name =>
            rw [Bool.eq_iff_iff, isFree_of_some h, isFree_of_some h,
              same name (List.mem_filterMap.mpr ⟨x, List.mem_cons_self, h⟩)]
      have grown : ∀ name ∈ xs.filterMap name?,
          name ∈ taken ++ (name? x).toList ↔ name ∈ taken' ++ (name? x).toList := by
        intro name asked
        rw [List.mem_append, List.mem_append, later name asked]
      simp only [admitted, free, ih later, ih grown]

/-- Only which names are taken matters, not how they are listed. -/
theorem admitted_congr {taken taken' : List String}
    (same : ∀ name, name ∈ taken ↔ name ∈ taken') (xs : List α) :
    admitted name? taken xs = admitted name? taken' xs :=
  admitted_congr_of_asked fun name _ => same name

/-- Items that are let in keep their order. -/
theorem sublist_admitted (taken : List String) (xs : List α) :
    (admitted name? taken xs).Sublist xs := by
  induction xs generalizing taken with
  | nil => exact List.Sublist.refl _
  | cons x xs ih =>
      cases free : isFree name? taken x with
      | true =>
          rw [admitted_cons_of_free free]
          exact (ih _).cons_cons x
      | false =>
          rw [admitted_cons_of_taken free]
          exact (ih taken).cons x

/-- An item whose name is not taken and that nobody else asks for is let in where it stands, and
the others are let in as without it. -/
theorem admitted_insert {taken : List String} {x : α} {xs ys : List α}
    (alone : ∀ name, name? x = some name → name ∉ taken ++ (xs ++ ys).filterMap name?) :
    ∃ front back,
      admitted name? taken (xs ++ x :: ys) = front ++ x :: back ∧
      admitted name? taken (xs ++ ys) = front ++ back := by
  let pool := taken ++ (admitted name? taken xs).filterMap name?
  have fresh : ∀ name, name? x = some name → name ∉ pool := by
    intro name asked old
    refine alone name asked ?_
    rw [List.filterMap_append, ← List.append_assoc]
    refine List.mem_append_left _ ?_
    rcases List.mem_append.mp old with before | given
    · exact List.mem_append_left _ before
    · exact List.mem_append_right _ (((sublist_admitted taken xs).filterMap name?).mem given)
  have letIn : isFree name? pool x = true := by
    cases asked : name? x with
    | none => exact isFree_of_none asked pool
    | some name => exact (isFree_of_some asked pool).mpr (fresh name asked)
  have unasked : ∀ name ∈ ys.filterMap name?, name ∈ pool ++ (name? x).toList ↔ name ∈ pool := by
    intro name asked
    rw [List.mem_append, Option.mem_toList, or_iff_left_iff_imp]
    intro own
    refine absurd ?_ (alone name own)
    rw [List.filterMap_append]
    exact List.mem_append_right _ (List.mem_append_right _ asked)
  refine ⟨admitted name? taken xs, admitted name? pool ys, ?_, admitted_append taken xs ys⟩
  rw [admitted_append, admitted_cons_of_free letIn, admitted_congr_of_asked unasked]

/-- Items that ask for distinct names, none of which is taken, are all let in. -/
theorem admitted_eq_self {taken : List String} {xs : List α}
    (distinct : (taken ++ xs.filterMap name?).Nodup) : admitted name? taken xs = xs := by
  induction xs generalizing taken with
  | nil => rfl
  | cons x xs ih =>
      cases asked : name? x with
      | none =>
          rw [List.filterMap_cons_none asked] at distinct
          rw [admitted_cons_of_free (isFree_of_none asked taken), asked, Option.toList_none,
            List.append_nil, ih distinct]
      | some name =>
          rw [List.filterMap_cons_some asked, ← List.singleton_append,
            ← List.append_assoc] at distinct
          have free : name ∉ taken := fun old =>
            (List.nodup_append.mp (List.nodup_append.mp distinct).1).2.2 name old name
              List.mem_cons_self rfl
          rw [admitted_cons_of_free ((isFree_of_some asked taken).mpr free), asked,
            Option.toList_some, ih distinct]

theorem mem_of_mem_admitted {taken : List String} {x : α} {xs : List α}
    (h : x ∈ admitted name? taken xs) : x ∈ xs :=
  (sublist_admitted taken xs).mem h

/-- An item that asks for no name is always let in. -/
theorem mem_admitted_of_none {taken : List String} {x : α} {xs : List α}
    (anonymous : name? x = none) (member : x ∈ xs) : x ∈ admitted name? taken xs := by
  induction xs generalizing taken with
  | nil => cases member
  | cons y xs ih =>
      rw [admitted_cons, List.mem_append]
      rcases List.mem_cons.mp member with rfl | later
      · refine Or.inl ?_
        rw [admitted_singleton_of_free (isFree_of_none anonymous taken)]
        exact List.mem_cons_self
      · exact Or.inr (ih later)

theorem name_not_mem_of_mem_admitted {taken : List String} {x : α} {xs : List α} {name : String}
    (h : x ∈ admitted name? taken xs) (asked : name? x = some name) : name ∉ taken := by
  induction xs generalizing taken with
  | nil => cases h
  | cons y xs ih =>
      cases free : isFree name? taken y with
      | false =>
          rw [admitted_cons_of_taken free] at h
          exact ih h
      | true =>
          rw [admitted_cons_of_free free] at h
          rcases List.mem_cons.mp h with rfl | later
          · exact (isFree_of_some asked taken).mp free
          · exact fun old => ih later (List.mem_append_left _ old)

/-- Whatever is read off items under the names they ask for has fewer names than they do. -/
theorem sublist_names {β : Type} {f : α → Option β} {label : β → String}
    (named : ∀ x y, f x = some y → name? x = some (label y)) (xs : List α) :
    ((xs.filterMap f).map label).Sublist (xs.filterMap name?) := by
  induction xs with
  | nil => exact List.Sublist.refl _
  | cons x xs ih =>
      cases h : f x with
      | none =>
          rw [List.filterMap_cons_none h, List.filterMap_cons]
          cases name? x with
          | none => exact ih
          | some _ => exact ih.cons _
      | some y =>
          rw [List.filterMap_cons_some h, List.filterMap_cons_some (named x y h), List.map_cons]
          exact ih.cons_cons _

/-- Whatever is read off items that keep their names has fewer names than they have. -/
theorem sublist_labels {β : Type} {f : α → Option β} {label : α → String} {label' : β → String}
    (kept : ∀ x y, f x = some y → label' y = label x) (xs : List α) :
    ((xs.filterMap f).map label').Sublist (xs.map label) := by
  have named : ∀ x y, f x = some y → (some ∘ label) x = some (label' y) :=
    fun x y h => congrArg some (kept x y h).symm
  have sublist := sublist_names named xs
  rwa [List.filterMap_eq_map] at sublist

/-- A test that a reading keeps may be made before the reading or behind it. -/
theorem filter_filterMap {β : Type} {f : α → Option β} {before : α → Bool} {behind : β → Bool}
    (kept : ∀ x y, f x = some y → behind y = before x) (xs : List α) :
    (xs.filterMap f).filter behind = (xs.filter before).filterMap f := by
  induction xs with
  | nil => rfl
  | cons x xs ih =>
      cases read : f x with
      | none =>
          rw [List.filterMap_cons_none read, ih, List.filter_cons]
          split
          · rw [List.filterMap_cons_none read]
          · rfl
      | some y =>
          rw [List.filterMap_cons_some read, List.filter_cons, List.filter_cons, kept x y read, ih]
          split
          · rw [List.filterMap_cons_some read]
          · rfl

theorem filterMap_toList {β : Type} (f : α → Option β) (x : Option α) :
    x.toList.filterMap f = (x.bind f).toList := by
  cases x with
  | none => rfl
  | some x =>
      rw [Option.toList_some, Option.bind_some, List.filterMap_cons]
      cases f x <;> rfl

/-- Where names are distinct, an item is all that is found under its name. -/
theorem filter_label_of_mem {label : α → String} {xs : List α} (distinct : (xs.map label).Nodup)
    {x : α} (member : x ∈ xs) : xs.filter (fun y => label y = label x) = [x] := by
  induction xs with
  | nil => cases member
  | cons y xs ih =>
      obtain ⟨fresh, distinct⟩ := List.nodup_cons.mp distinct
      by_cases same : label y = label x
      · have here : x = y := by
          rcases List.mem_cons.mp member with here | later
          · exact here
          · exact absurd (same ▸ List.mem_map_of_mem later) fresh
        have others : xs.filter (fun z => label z = label x) = [] := by
          rw [List.filter_eq_nil_iff]
          intro z later also
          exact fresh (same ▸ of_decide_eq_true also ▸ List.mem_map_of_mem later)
        rw [List.filter_cons_of_pos (by simpa using same), others, here]
      · have later : x ∈ xs := by
          rcases List.mem_cons.mp member with rfl | later
          · exact absurd rfl same
          · exact later
        rw [List.filter_cons_of_neg (by simpa using same), ih distinct later]

/-- Items that are read in one of two ways, read in one go and read in two goes. -/
theorem perm_filterMap_or {β : Type} {f g : α → Option β}
    (disjoint : ∀ x, (f x).isSome → g x = none) (xs : List α) :
    (xs.filterMap fun x => (f x).or (g x)).Perm (xs.filterMap f ++ xs.filterMap g) := by
  induction xs with
  | nil => exact List.Perm.refl _
  | cons x xs ih =>
      cases first : f x with
      | some y =>
          have second : g x = none := disjoint x (by rw [first]; rfl)
          simp only [List.filterMap_cons, first, second, Option.or, List.cons_append]
          exact ih.cons y
      | none =>
          cases second : g x with
          | none =>
              simp only [List.filterMap_cons, first, second, Option.or]
              exact ih
          | some z =>
              simp only [List.filterMap_cons, first, second, Option.or]
              exact (ih.cons z).trans List.perm_middle.symm

/-- No name is given out twice, and none that was taken before. -/
theorem nodup_names_admitted {taken : List String} (distinct : taken.Nodup) (xs : List α) :
    (taken ++ (admitted name? taken xs).filterMap name?).Nodup := by
  induction xs generalizing taken with
  | nil => simpa [admitted] using distinct
  | cons x xs ih =>
      cases free : isFree name? taken x with
      | false =>
          rw [admitted_cons_of_taken free]
          exact ih distinct
      | true =>
          rw [admitted_cons_of_free free]
          cases h : name? x with
          | none => simpa [h] using ih distinct
          | some name =>
              have fresh : name ∉ taken := (isFree_of_some h taken).mp free
              have grown : (taken ++ [name]).Nodup := by
                simpa using List.Nodup.concat fresh distinct
              simpa [h] using ih grown

/-- In the end a name is taken if it was before or if anybody asked for it. -/
theorem mem_names_admitted_iff {taken : List String} {xs : List α} {name : String} :
    name ∈ taken ++ (admitted name? taken xs).filterMap name? ↔
      name ∈ taken ∨ name ∈ xs.filterMap name? := by
  induction xs generalizing taken with
  | nil => simp [admitted]
  | cons x xs ih =>
      cases free : isFree name? taken x with
      | true =>
          rw [admitted_cons_of_free free]
          cases h : name? x with
          | none => simpa [h] using ih
          | some asked =>
              have next : name ∈ taken ++ [asked] ++
                  (admitted name? (taken ++ [asked]) xs).filterMap name? ↔
                    name ∈ taken ++ [asked] ∨ name ∈ xs.filterMap name? := ih
              simp only [List.append_assoc, List.mem_append, List.mem_singleton] at next
              simp only [List.filterMap_cons, h, Option.toList, List.mem_append, List.mem_cons]
              rw [next]
              exact or_assoc
      | false =>
          obtain ⟨asked, h⟩ : ∃ asked, name? x = some asked := by
            cases h : name? x with
            | none => rw [isFree_of_none h] at free; cases free
            | some asked => exact ⟨asked, rfl⟩
          have old : asked ∈ taken := by
            by_contra fresh
            rw [(isFree_of_some h taken).mpr fresh] at free
            cases free
          rw [admitted_cons_of_taken free, ih]
          simp only [List.filterMap_cons, h, List.mem_cons]
          constructor
          · rintro (before | later)
            · exact Or.inl before
            · exact Or.inr (Or.inr later)
          · rintro (before | rfl | later)
            · exact Or.inl before
            · exact Or.inl old
            · exact Or.inr later

/-- The first item that asks for a name asks for it. -/
theorem name_of_find? {xs : List α} {x : α} {name : String}
    (first : xs.find? (fun y => name? y = some name) = some x) : name? x = some name := by
  simpa using List.find?_some first

/-- The item let in under a name is the first one that asked for it. -/
theorem mem_admitted_iff_find? {taken : List String} {xs : List α} {x : α} {name : String}
    (asked : name? x = some name) (fresh : name ∉ taken) :
    x ∈ admitted name? taken xs ↔ xs.find? (fun y => name? y = some name) = some x := by
  induction xs generalizing taken with
  | nil => simp [admitted]
  | cons y xs ih =>
      by_cases same : name? y = some name
      · have free : isFree name? taken y = true := (isFree_of_some same taken).mpr fresh
        have gone : x ∉ admitted name? (taken ++ [name]) xs := by
          intro h
          exact name_not_mem_of_mem_admitted h asked (by simp)
        rw [admitted_cons_of_free free]
        simp only [same, Option.toList, List.mem_cons, gone, or_false, List.find?_cons,
          decide_true, Option.some.injEq]
        exact eq_comm
      · have skipped : (y :: xs).find? (fun z => name? z = some name) =
            xs.find? (fun z => name? z = some name) := by simp [same]
        rw [skipped]
        cases free : isFree name? taken y with
        | false =>
            rw [admitted_cons_of_taken free]
            exact ih fresh
        | true =>
            have differs : x ≠ y := by
              rintro rfl
              exact same asked
            have still : name ∉ taken ++ (name? y).toList := by
              simp only [List.mem_append, Option.mem_toList, not_or]
              exact ⟨fresh, same⟩
            rw [admitted_cons_of_free free]
            simp only [List.mem_cons, differs, false_or]
            exact ih still

end StateWeave.Admission
