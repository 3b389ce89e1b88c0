import Mathlib.Data.List.Basic
import StateWeave.Naming

/-!
# The spelling of case names

A name in capitals and small letters is taken apart into words, and the words are joined by
underscores. Where a word starts depends on the characters of the name alone: `snakeFrom_eq_flatMap`
says so place by place, although the spelling is made in one pass that remembers a single character.
What else is known of it, for names in ASCII, follows from that. A name that has no capitals keeps
its spelling, so that spelling a name twice is spelling it once.

The case of a type is spelled after the last dot of the type's name, and what encloses the type does
not matter.
-/

namespace StateWeave

namespace Text

/-- What holds of the first 128 characters holds of ASCII. -/
theorem forall_ascii {p : Char → Prop} (table : ∀ n < 0x80, p (Char.ofNat n)) {c : Char}
    (ascii : c.toNat < 0x80) : p c := by
  have listed := table c.toNat ascii
  rwa [Char.ofNat_toNat] at listed

variable {c : Char}

theorem isUpper_eq (ascii : c.toNat < 0x80) : isUpper c = c.isUpper :=
  forall_ascii (p := fun c => isUpper c = c.isUpper) (by decide) ascii

theorem isLower_eq (ascii : c.toNat < 0x80) : isLower c = c.isLower :=
  forall_ascii (p := fun c => isLower c = c.isLower) (by decide) ascii

theorem lower_eq (ascii : c.toNat < 0x80) : lower c = [c.toLower] :=
  forall_ascii (p := fun c => lower c = [c.toLower]) (by decide) ascii

theorem toNat_toLower_lt (ascii : c.toNat < 0x80) : c.toLower.toNat < 0x80 :=
  forall_ascii (p := fun c => c.toLower.toNat < 0x80) (by decide) ascii

theorem isUpper_toLower (ascii : c.toNat < 0x80) : c.toLower.isUpper = false :=
  forall_ascii (p := fun c => c.toLower.isUpper = false) (by decide) ascii

theorem toLower_of_not_isUpper (ascii : c.toNat < 0x80) (capital : c.isUpper = false) :
    c.toLower = c :=
  forall_ascii (p := fun c => c.isUpper = false → c.toLower = c) (by decide) ascii capital

end Text

namespace Naming

/-- Whether a word starts at a place in a name: at a capital that comes behind a small letter, or
behind a capital and before a small letter. -/
def wordStartsAt (cs : List Char) (i : Nat) : Bool :=
  cs[i]?.any Char.isUpper && i ≠ 0 &&
    (cs[i - 1]?.any Char.isLower || (cs[i - 1]?.any Char.isUpper && cs[i + 1]?.any Char.isLower))

theorem wordStartsAt_length {front rest : List Char} {c : Char}
    (ascii : ∀ d ∈ front ++ c :: rest, d.toNat < 0x80) :
    wordStartsAt (front ++ c :: rest) front.length =
      (c.isUpper && startsWord front.getLast? rest.head?) := by
  have capital : (front ++ c :: rest)[front.length]?.any Char.isUpper = c.isUpper := by
    rw [List.getElem?_append_right (Nat.le_refl _), Nat.sub_self]
    rfl
  have small : (front ++ c :: rest)[front.length + 1]?.any Char.isLower =
      rest.head?.any Text.isLower := by
    cases rest with
    | nil => simp
    | cons a rest => simpa using (Text.isLower_eq (ascii a (by simp))).symm
  rw [wordStartsAt, capital, small]
  rcases List.eq_nil_or_concat front with rfl | ⟨front, b, rfl⟩
  · simp [startsWord]
  · have known : b.toNat < 0x80 := ascii b (by simp)
    simp [startsWord, Text.isUpper_eq known, Text.isLower_eq known]

/-- The rest of a name is spelled letter by letter, with an underscore wherever a word starts in the
whole name. -/
theorem snakeFrom_eq_flatMap (front rest : List Char)
    (ascii : ∀ c ∈ front ++ rest, c.toNat < 0x80) :
    snakeFrom front.getLast? rest = (rest.zipIdx front.length).flatMap fun (c, i) =>
      if wordStartsAt (front ++ rest) i then ['_', c.toLower] else [c.toLower] := by
  induction rest generalizing front with
  | nil => rfl
  | cons c rest ih =>
      have here : c.toNat < 0x80 := ascii c (by simp)
      have later := ih (front ++ [c]) (by simpa using ascii)
      rw [List.getLast?_concat, List.length_append, List.length_singleton, List.append_assoc,
        List.singleton_append] at later
      rw [List.zipIdx_cons, List.flatMap_cons, ← later, snakeFrom, Text.isUpper_eq here,
        Text.lower_eq here]
      dsimp only
      rw [wordStartsAt_length ascii]
      cases capital : c.isUpper with
      | true =>
          rw [if_pos rfl, Bool.true_and]
          split <;> rfl
      | false =>
          have same : c.toLower = c := Text.toLower_of_not_isUpper here capital
          rw [if_neg Bool.false_ne_true, Bool.false_and, if_neg Bool.false_ne_true, same]
          rfl

section

variable {s : String} (ascii : ∀ c ∈ s.toList, c.toNat < 0x80)

include ascii

theorem toList_snakeCase :
    (snakeCase s).toList = s.toList.zipIdx.flatMap fun (c, i) =>
      if wordStartsAt s.toList i then ['_', c.toLower] else [c.toLower] := by
  rw [snakeCase, String.toList_ofList]
  exact snakeFrom_eq_flatMap [] s.toList ascii

theorem eq_of_mem_snakeCase {d : Char} (member : d ∈ (snakeCase s).toList) :
    d = '_' ∨ ∃ c ∈ s.toList, d = c.toLower := by
  rw [toList_snakeCase ascii] at member
  obtain ⟨⟨c, i⟩, place, member⟩ := List.mem_flatMap.mp member
  have known : c ∈ s.toList := List.fst_mem_of_mem_zipIdx place
  dsimp only at member
  split at member
  · rcases List.mem_cons.mp member with rfl | last
    · exact Or.inl rfl
    · exact Or.inr ⟨c, known, List.mem_singleton.mp last⟩
  · exact Or.inr ⟨c, known, List.mem_singleton.mp member⟩

theorem small_of_mem_snakeCase {d : Char} (member : d ∈ (snakeCase s).toList) :
    d.toNat < 0x80 ∧ d.isUpper = false := by
  rcases eq_of_mem_snakeCase ascii member with rfl | ⟨c, known, rfl⟩
  · decide
  · exact ⟨Text.toNat_toLower_lt (ascii c known), Text.isUpper_toLower (ascii c known)⟩

/-- Apart from underscores, spelling a name only makes its letters small. -/
theorem filter_snakeCase :
    (snakeCase s).toList.filter (· ≠ '_') = (s.toList.map Char.toLower).filter (· ≠ '_') := by
  have bare (p : Char × Nat) :
      (if wordStartsAt s.toList p.2 then ['_', p.1.toLower] else [p.1.toLower]).filter (· ≠ '_') =
        [p.1.toLower].filter (· ≠ '_') := by
    split <;> rfl
  have letters : s.toList.zipIdx.flatMap (fun p => [p.1.toLower]) = s.toList.map Char.toLower :=
    calc s.toList.zipIdx.flatMap (fun p => [p.1.toLower])
      _ = (s.toList.zipIdx.map Prod.fst).map Char.toLower := by
        rw [List.map_map, List.map_eq_flatMap]
        rfl
      _ = s.toList.map Char.toLower := by rw [List.zipIdx_map_fst]
  rw [toList_snakeCase ascii, List.filter_flatMap, List.flatMap_congr fun p _ => bare p,
    ← List.filter_flatMap, letters]

end

/-- A name without capitals keeps its spelling. -/
theorem snakeFrom_of_small {cs : List Char} (small : ∀ c ∈ cs, Text.isUpper c = false)
    (before : Option Char) : snakeFrom before cs = cs := by
  induction cs generalizing before with
  | nil => rfl
  | cons c rest ih =>
      obtain ⟨here, later⟩ := List.forall_mem_cons.mp small
      rw [snakeFrom, here, if_neg Bool.false_ne_true, ih later]

theorem snakeCase_snakeCase {s : String} (ascii : ∀ c ∈ s.toList, c.toNat < 0x80) :
    snakeCase (snakeCase s) = snakeCase s := by
  have small : ∀ c ∈ (snakeCase s).toList, Text.isUpper c = false := by
    intro c member
    obtain ⟨known, capital⟩ := small_of_mem_snakeCase ascii member
    rw [Text.isUpper_eq known, capital]
  rw [snakeCase, snakeFrom_of_small small, String.ofList_toList]

/-- Only what stands after the last dot counts. -/
theorem lastComponent_append_dot (front back : List Char) :
    lastComponent (front ++ '.' :: back) = lastComponent back := by
  have stops : ('.' :: front.reverse).takeWhile (· ≠ '.') = [] := rfl
  rw [lastComponent, lastComponent, List.reverse_append, List.reverse_cons, List.append_assoc,
    List.singleton_append, List.takeWhile_append, stops, List.append_nil]
  split
  · next whole =>
      rw [(List.takeWhile_prefix _).eq_of_length whole]
  · rfl

theorem caseNameOfType_qualified (qualifier type : String) :
    caseNameOfType (qualifier ++ "." ++ type) = caseNameOfType type := by
  have dotted : (qualifier ++ "." ++ type).toList = qualifier.toList ++ '.' :: type.toList := by
    simp
  rw [caseNameOfType, caseNameOfType, dotted, lastComponent_append_dot]

example : caseNameOfType "Action.ViewAction" = "view" := by decide

/-- No capital is left in the spelling of a name. Without underscores it is the name in small
letters, without underscores too. An underscore is put in front of each capital that comes behind a
small letter, or behind a capital and before a small letter, and nowhere else. To spell the result
again changes nothing. The case of a type that has this name is the same whatever encloses the
type. -/
theorem snakeCase_of_ascii {s : String} (ascii : ∀ c ∈ s.toList, c.toNat < 0x80) :
    (∀ c ∈ (snakeCase s).toList, c.toNat < 0x80 ∧ c.isUpper = false) ∧
    (snakeCase s).toList.filter (· ≠ '_') = (s.toList.map Char.toLower).filter (· ≠ '_') ∧
    (snakeCase s).toList = (s.toList.zipIdx.flatMap fun (c, i) =>
      if wordStartsAt s.toList i then ['_', c.toLower] else [c.toLower]) ∧
    snakeCase (snakeCase s) = snakeCase s ∧
    ∀ qualifier, caseNameOfType (qualifier ++ "." ++ s) = caseNameOfType s :=
  ⟨fun _ => small_of_mem_snakeCase ascii, filter_snakeCase ascii, toList_snakeCase ascii,
    snakeCase_snakeCase ascii, fun qualifier => caseNameOfType_qualified qualifier s⟩

/-- A name with an acronym, an underscore of its own, and a digit, behind which no word starts. -/
theorem snakeCase_of_ascii_session :
    let s := "URLSession_V2Action"
    (∀ c ∈ s.toList, c.toNat < 0x80) ∧
      (snakeCase s).toList = "url_session_v2action".toList ∧
      (snakeCase s).toList.filter (· ≠ '_') = "urlsessionv2action".toList ∧
      snakeCase (snakeCase s) = snakeCase s ∧
      caseNameOfType ("Network.Feature" ++ "." ++ s) = "url_session_v2" := by
  intro s
  have ascii : ∀ c ∈ s.toList, c.toNat < 0x80 := by simp [s]
  obtain ⟨_, letters, places, again, qualified⟩ := snakeCase_of_ascii ascii
  exact ⟨ascii, places.trans (by decide +kernel), letters.trans (by decide +kernel), again,
    (qualified "Network.Feature").trans (by decide +kernel)⟩

end Naming

end StateWeave
