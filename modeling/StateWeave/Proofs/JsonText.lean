import Mathlib.Data.List.DropRight
import StateWeave.Proofs.JsonLeaves

/-!
# JSON values are read as they were printed

The printer puts every item and entry on a line of its own, and the parser passes over the blanks
in front of a value, so what it makes of a printed value does not depend on the level that the
value is printed at. Containers go as deep as the parser is told to keep them.
-/

namespace StateWeave.Json

mutual

/-- The printer gives a value back that the parser accepts: no number is kept as a text, and
integers fit into 64 bits. -/
def Writable : Json → Prop
  | .int value => value.natAbs < UInt64.size
  | .decimal _ => False
  | .arr items => AllWritable items
  | .obj entries => EntriesWritable entries
  | _ => True

def AllWritable : List Json → Prop
  | [] => True
  | item :: rest => item.Writable ∧ AllWritable rest

def EntriesWritable : List (String × Json) → Prop
  | [] => True
  | (_, value) :: rest => value.Writable ∧ EntriesWritable rest

end

namespace Parser

open Transcript (ofJson ofItems ofEntries depth depthItems depthEntries)

theorem skipSpaces_newLine (level : Nat) (cs : List Char) :
    skipSpaces (newLine level ++ cs) = skipSpaces cs :=
  List.dropWhile_append_of_pos fun c member => by
    rcases List.mem_cons.mp member with rfl | blank
    · rfl
    · rw [List.eq_of_mem_replicate blank]
      rfl

theorem skipSpaces_skipSpaces (cs : List Char) : skipSpaces (skipSpaces cs) = skipSpaces cs :=
  List.dropWhile_idempotent isSpace cs

/-- Only what stands behind the blanks counts. -/
theorem value_congr {cs others : List Char} (same : skipSpaces cs = skipSpaces others)
    (depth : Nat) : value depth cs = value depth others := by
  unfold value
  rw [same]

theorem value_newLine (depth level : Nat) (cs : List Char) :
    value depth (newLine level ++ cs) = value depth cs :=
  value_congr (skipSpaces_newLine level cs) depth

theorem value_space (depth : Nat) (cs : List Char) : value depth (' ' :: cs) = value depth cs := by
  have same : skipSpaces (' ' :: cs) = skipSpaces cs := rfl
  exact value_congr same depth

/-- A value that is no container is a leaf. -/
theorem value_leaf {c : Char} (visible : isSpace c = false) (square : c ≠ '[') (curly : c ≠ '{')
    (depth : Nat) (cs : List Char) : value depth (c :: cs) = leaf (c :: cs) := by
  have kept : skipSpaces (c :: cs) = c :: cs :=
    List.dropWhile_cons_of_neg (by rw [visible]; decide)
  rw [value, kept]
  all_goals
    intro others
    rw [kept]
    intros
    simp_all

theorem isSpace_of_isDigit {c : Char} (h : c.isDigit = true) :
    isSpace c = false ∧ c ≠ '[' ∧ c ≠ '{' ∧ c ≠ '"' := by
  refine ⟨?_, ?_, ?_, ?_⟩
  · by_contra blank
    simp only [isSpace, Bool.not_eq_false, Bool.or_eq_true, decide_eq_true_eq] at blank
    rcases blank with ((rfl | rfl) | rfl) | rfl <;> cases h
  all_goals
    rintro rfl
    cases h

theorem value_printInt {n : Int} (fits : n.natAbs < UInt64.size) (depth : Nat) {rest : List Char}
    (ends : EndsValue rest) : value depth (printInt n ++ rest) = (.int n, some rest) := by
  have number := number_printInt fits ends
  cases n with
  | ofNat n =>
      obtain ⟨c, ds, digits, digit⟩ := toDigits_eq_cons n
      obtain ⟨visible, square, curly, quote⟩ := isSpace_of_isDigit digit
      rw [printInt, digits, List.cons_append] at number ⊢
      rw [value_leaf visible square curly, leaf]
      · simp [digit, number]
      · exact quote
  | negSucc n =>
      rw [printInt, List.cons_append] at number ⊢
      rw [value_leaf rfl (by decide) (by decide), leaf]
      · simp [number]
      · decide

/-- Behind its opening quote, a printed text goes on to its closing quote. -/
theorem printText_append (s : String) (rest : List Char) :
    printText s ++ rest = '"' :: (s.toList.flatMap escapeChar ++ '"' :: rest) := by
  rw [printText, List.cons_append, List.append_assoc, List.singleton_append]

theorem value_printText (s : String) (depth : Nat) (rest : List Char) :
    value depth (printText s ++ rest) = (.str s, some rest) := by
  have inside := text_escaped s rest
  rw [printText_append, value_leaf rfl (by decide) (by decide), leaf]
  simp [quotedText, inside]

section

variable {read : List Char → Outcome} {t : Transcript} {cs after rest : List Char}

theorem items_last (item : read cs = (t, some after)) (ends : skipSpaces after = ']' :: rest)
    (bound : Nat) : items read (bound + 1) cs = ([t], some rest) := by
  simp only [items, item, ends]

theorem items_next {others : List Transcript} {left : Option (List Char)} {bound : Nat}
    (item : read cs = (t, some after)) (comma : skipSpaces after = ',' :: rest)
    (following : items read bound rest = (others, left)) :
    items read (bound + 1) cs = (t :: others, left) := by
  simp only [items, item, comma, following]

def namedText (name : String) (cs : List Char) : List Char := printText name ++ ':' :: ' ' :: cs

theorem skipSpaces_colon (cs : List Char) : skipSpaces (':' :: cs) = ':' :: cs := rfl

theorem entries_last {name : String} (named : skipSpaces cs = namedText name rest)
    (item : read (' ' :: rest) = (t, some after)) {left : List Char}
    (ends : skipSpaces after = '}' :: left) (bound : Nat) :
    entries read (bound + 1) cs = ⟨[(name, t)], .closed, some left⟩ := by
  rw [namedText, printText_append] at named
  simp only [entries, named, text_escaped, skipSpaces_colon, item, ends]
  rfl

theorem entries_next {name : String} (named : skipSpaces cs = namedText name rest)
    (item : read (' ' :: rest) = (t, some after)) {more : List Char}
    (comma : skipSpaces after = ',' :: more) {list : EntryList} {bound : Nat}
    (following : entries read bound more = list) :
    entries read (bound + 1) cs = { list with entries := (name, t) :: list.entries } := by
  rw [namedText, printText_append] at named
  simp only [entries, named, text_escaped, skipSpaces_colon, item, comma, following]
  rfl

end

/-- The parser reads a printed value, whatever level it stands on. -/
def Reads (depth : Nat) (json : Json) : Prop :=
  ∀ (level : Nat) (rest : List Char), EndsValue rest →
    value depth (prettyChars level json ++ rest) = (ofJson json, some rest)

theorem Reads.behind_newLine {depth : Nat} {json : Json} (reads : Reads depth json) (level : Nat)
    {rest : List Char} (ends : EndsValue rest) :
    value depth (newLine level ++ (prettyChars level json ++ rest)) = (ofJson json, some rest) := by
  rw [value_newLine, reads level rest ends]

theorem endsValue_newLine (level : Nat) (cs : List Char) : EndsValue (newLine level ++ cs) :=
  Or.inr rfl

theorem endsValue_comma (cs : List Char) : EndsValue (',' :: cs) := Or.inl rfl

theorem items_prettyItems {depth : Nat} {first : Json} {others : List Json}
    (reads : ∀ json ∈ first :: others, Reads depth json) {bound : Nat}
    (enough : others.length < bound) (level outer : Nat) (rest : List Char) :
    items (value depth) bound
        (prettyItems level (first :: others) ++ (newLine outer ++ ']' :: rest)) =
      (ofItems (first :: others), some rest) := by
  induction others generalizing first bound with
  | nil =>
      obtain _ | bound := bound
      · cases enough
      rw [prettyItems, List.append_assoc]
      exact items_last ((reads first List.mem_cons_self).behind_newLine level
        (endsValue_newLine outer _))
        (skipSpaces_newLine outer _) bound
  | cons second others ih =>
      obtain _ | bound := bound
      · cases enough
      have following := ih (fun json member => reads json (List.mem_cons_of_mem first member))
        (Nat.lt_of_succ_lt_succ enough)
      rw [prettyItems, List.append_assoc, List.append_assoc]
      · exact items_next ((reads first List.mem_cons_self).behind_newLine level
          (endsValue_comma _)) rfl following
      · exact List.cons_ne_nil _ _

theorem Reads.behind_space {depth : Nat} {json : Json} (reads : Reads depth json) (level : Nat)
    {rest : List Char} (ends : EndsValue rest) :
    value depth (' ' :: (prettyChars level json ++ rest)) = (ofJson json, some rest) :=
  (value_space depth _).trans (reads level rest ends)

theorem skipSpaces_namedText (level : Nat) (name : String) (cs : List Char) :
    skipSpaces (newLine level ++ namedText name cs) = namedText name cs := by
  rw [skipSpaces_newLine]
  rfl

theorem prettyEntries_last (level : Nat) (name : String) (json : Json) (rest : List Char) :
    prettyEntries level [(name, json)] ++ rest =
      newLine level ++ namedText name (prettyChars level json ++ rest) := by
  simp only [prettyEntries, namedText, List.append_assoc, List.cons_append]

theorem prettyEntries_next (level : Nat) (name : String) (json : Json) (second : String × Json)
    (others : List (String × Json)) (rest : List Char) :
    prettyEntries level ((name, json) :: second :: others) ++ rest =
      newLine level ++ namedText name (prettyChars level json ++
        ',' :: (prettyEntries level (second :: others) ++ rest)) := by
  rw [prettyEntries]
  · simp only [namedText, List.append_assoc, List.cons_append]
  · exact List.cons_ne_nil _ _

theorem entries_prettyEntries {depth : Nat} {first : String × Json}
    {others : List (String × Json)} (reads : ∀ entry ∈ first :: others, Reads depth entry.2)
    {bound : Nat} (enough : others.length < bound) (level outer : Nat) (rest : List Char) :
    entries (value depth) bound
        (prettyEntries level (first :: others) ++ (newLine outer ++ '}' :: rest)) =
      ⟨ofEntries (first :: others), .closed, some rest⟩ := by
  induction others generalizing first bound with
  | nil =>
      obtain _ | bound := bound
      · cases enough
      obtain ⟨name, json⟩ := first
      rw [prettyEntries_last]
      exact entries_last (skipSpaces_namedText level name _)
        ((reads (name, json) List.mem_cons_self).behind_space level (endsValue_newLine outer _))
        (skipSpaces_newLine outer _) bound
  | cons second others ih =>
      obtain _ | bound := bound
      · cases enough
      obtain ⟨name, json⟩ := first
      have following := ih (fun entry member => reads entry (List.mem_cons_of_mem _ member))
        (Nat.lt_of_succ_lt_succ enough)
      rw [prettyEntries_next]
      exact entries_next (skipSpaces_namedText level name _)
        ((reads (name, json) List.mem_cons_self).behind_space level (endsValue_comma _)) rfl
        following

/-- No comma is lost with the blanks. -/
theorem count_le_length_skipSpaces (cs : List Char) :
    cs.count ',' ≤ (skipSpaces cs).length := by
  induction cs with
  | nil => exact Nat.le_refl _
  | cons c cs ih =>
      rw [skipSpaces, List.dropWhile_cons]
      split
      · rename_i blank
        have other : c ≠ ',' := by
          rintro rfl
          cases blank
        rw [List.count_cons_of_ne other]
        exact ih
      · exact List.count_le_length

theorem length_le_count_prettyItems (level : Nat) (first : Json) (others : List Json) :
    others.length ≤ (prettyItems level (first :: others)).count ',' := by
  induction others generalizing first with
  | nil => exact Nat.zero_le _
  | cons second others ih =>
      have following := ih second
      rw [prettyItems, List.count_append, List.count_cons_self, List.length_cons]
      · omega
      · exact List.cons_ne_nil _ _

theorem length_le_count_prettyEntries (level : Nat) (first : String × Json)
    (others : List (String × Json)) :
    others.length ≤ (prettyEntries level (first :: others)).count ',' := by
  induction others generalizing first with
  | nil => exact Nat.zero_le _
  | cons second others ih =>
      have following := ih second
      obtain ⟨name, json⟩ := first
      rw [prettyEntries, List.count_append, List.count_append, List.count_cons, List.count_cons,
        List.count_append, List.count_cons_self, List.length_cons]
      · omega
      · exact List.cons_ne_nil _ _

/-- The text of the items is long enough for the parser to come to their end. -/
theorem length_lt_of_count {n : Nat} {cs : List Char} (commas : n ≤ cs.count ',')
    (rest : List Char) : n < (skipSpaces (cs ++ rest)).length + 1 := by
  have kept := count_le_length_skipSpaces (cs ++ rest)
  rw [List.count_append] at kept
  omega

theorem array_of_items {depth : Nat} {ts : List Transcript} {cs rest : List Char}
    (list : items (value depth) ((skipSpaces cs).length + 1) cs = (ts, some rest)) :
    array (value depth) cs = (.arr ts, some rest) := by
  have kept : items (value depth) ((skipSpaces cs).length + 1) (skipSpaces cs) =
      (ts, some rest) := by
    rw [items, value_congr (skipSpaces_skipSpaces cs), ← items]
    exact list
  rw [array.eq_def]
  split
  · -- No item starts with a closing bracket.
    rename_i others closed
    rw [closed, items, value_leaf rfl (by decide) (by decide)] at kept
    cases kept
  · rw [kept]

theorem object_of_entries {read : List Char → Outcome} {es : List (String × Transcript)}
    {cs rest : List Char}
    (list : entries read ((skipSpaces cs).length + 1) cs = ⟨es, .closed, some rest⟩) :
    object read cs = (.obj es .closed, some rest) := by
  have kept : entries read ((skipSpaces cs).length + 1) (skipSpaces cs) =
      ⟨es, .closed, some rest⟩ := by
    simp only [entries, skipSpaces_skipSpaces] at list ⊢
    exact list
  rw [object.eq_def]
  split
  · -- No entry starts with a closing brace.
    rename_i others closed
    rw [entries, closed] at list
    cases list
  · rw [kept]

theorem array_pretty {depth : Nat} {items : List Json}
    (reads : ∀ json ∈ items, Reads depth json) : Reads (depth + 1) (.arr items) := by
  intro level rest ends
  cases items with
  | nil => rfl
  | cons first others =>
      have bound := length_lt_of_count (length_le_count_prettyItems (level + 1) first others)
        (newLine level ++ ']' :: rest)
      have list := items_prettyItems reads bound (level + 1) level rest
      rw [prettyChars, List.cons_append, List.append_assoc, List.append_assoc,
        List.singleton_append]
      exact array_of_items list

theorem object_pretty {depth : Nat} {entries : List (String × Json)}
    (reads : ∀ entry ∈ entries, Reads depth entry.2) : Reads (depth + 1) (.obj entries) := by
  intro level rest ends
  cases entries with
  | nil => rfl
  | cons first others =>
      have bound := length_lt_of_count (length_le_count_prettyEntries (level + 1) first others)
        (newLine level ++ '}' :: rest)
      have list := entries_prettyEntries reads bound (level + 1) level rest
      rw [prettyChars, List.cons_append, List.append_assoc, List.append_assoc,
        List.singleton_append]
      exact object_of_entries list

mutual

/-- A writable value reads as itself at every depth that its containers need. -/
theorem reads_value : ∀ (json : Json) (deep : Nat), json.Writable →
    depth (ofJson json) ≤ deep → Reads deep json
  | .null, deep, _, _ => fun _ rest _ => value_leaf rfl (by decide) (by decide) deep _
  | .bool true, deep, _, _ => fun _ rest _ => value_leaf rfl (by decide) (by decide) deep _
  | .bool false, deep, _, _ => fun _ rest _ => value_leaf rfl (by decide) (by decide) deep _
  | .int _, deep, fits, _ => fun _ _ ends => value_printInt fits deep ends
  | .decimal _, _, writable, _ => writable.elim
  | .str s, deep, _, _ => fun _ rest _ => value_printText s deep rest
  | .arr _, 0, _, within => absurd within (Nat.not_succ_le_zero _)
  | .obj _, 0, _, within => absurd within (Nat.not_succ_le_zero _)
  | .arr items, deep + 1, writable, within =>
      array_pretty (reads_items items deep writable (Nat.le_of_succ_le_succ within))
  | .obj entries, deep + 1, writable, within =>
      object_pretty (reads_entries entries deep writable (Nat.le_of_succ_le_succ within))

theorem reads_items : ∀ (items : List Json) (deep : Nat), AllWritable items →
    depthItems (ofItems items) ≤ deep → ∀ json ∈ items, Reads deep json
  | [], _, _, _ => by
      rintro _ ⟨⟩
  | first :: others, deep, writable, within => by
      rw [ofItems, depthItems, Nat.max_le] at within
      exact List.forall_mem_cons.mpr ⟨reads_value first deep writable.1 within.1,
        reads_items others deep writable.2 within.2⟩

theorem reads_entries : ∀ (entries : List (String × Json)) (deep : Nat), EntriesWritable entries →
    depthEntries (ofEntries entries) ≤ deep → ∀ entry ∈ entries, Reads deep entry.2
  | [], _, _, _ => by
      rintro _ ⟨⟩
  | (_, json) :: others, deep, writable, within => by
      rw [ofEntries, depthEntries, Nat.max_le] at within
      exact List.forall_mem_cons.mpr ⟨reads_value json deep writable.1 within.1,
        reads_entries others deep writable.2 within.2⟩

end

end Parser

/-- The text of a writable value is its transcript, and nothing follows. -/
theorem Transcript.ofText_pretty {json : Json} (writable : json.Writable)
    (within : (ofJson json).depth ≤ maxDepth) : ofText json.pretty = (ofJson json, true) := by
  have read := Parser.reads_value json maxDepth writable within 0 [] trivial
  rw [List.append_nil] at read
  rw [ofText, pretty, String.toList_ofList, read]
  rfl

end StateWeave.Json
