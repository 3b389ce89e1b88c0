import StateWeave.Json.Printer
import StateWeave.Proofs.Digits

/-!
# Texts and numbers are read as they were written

A text is written character by character, and the reader makes one unit of what is written for
each. An integer is written without leading zeros and without fraction and exponent, so it reads
as an integer whenever its digits fit into 64 bits.
-/

namespace StateWeave.Json.Parser

/-- The controls that have an escape of their own. -/
def namedControls : List Nat := [0x08, 0x09, 0x0A, 0x0C, 0x0D]

/-- The unit that a character is read as. -/
def unitOf (c : Char) : TextUnit :=
  if c.toNat < 0x20 ∧ c.toNat ∉ namedControls then .code c.toNat else .char c

section

variable (read : List TextUnit) (rest : List Char)

theorem hexValue?_digitChar {d : Nat} (h : d < 16) : hexValue? (Nat.digitChar d) = some d := by
  revert d
  decide

theorem textUnits_code {n : Nat} (h : n < 256) :
    textUnits .plain read ('\\' :: 'u' :: '0' :: '0' :: Nat.digitChar (n / 16) ::
        Nat.digitChar (n % 16) :: rest) = textUnits .plain (.code n :: read) rest := by
  have high := hexValue?_digitChar (d := n / 16) (by omega)
  have low := hexValue?_digitChar (d := n % 16) (by omega)
  have value : n / 16 * 16 + n % 16 = n := by omega
  change textUnits (.digits 1 0) read (Nat.digitChar (n / 16) :: Nat.digitChar (n % 16) :: rest) = _
  simp only [textUnits, high, low, Nat.zero_mul, Nat.zero_add, value]

theorem textUnits_controlEscape {c : Char} (control : c.toNat < 0x20) :
    textUnits .plain read (controlEscape c.toNat ++ rest) =
      textUnits .plain (unitOf c :: read) rest := by
  by_cases named : c.toNat ∈ namedControls
  · have of_code {n : Nat} (h : c.toNat = n) : c = Char.ofNat n := by rw [← h, Char.ofNat_toNat]
    simp only [namedControls, List.mem_cons, List.not_mem_nil, or_false] at named
    rcases named with code | code | code | code | code <;>
      (rw [of_code code]; rfl)
  · have unit : unitOf c = .code c.toNat := if_pos ⟨control, named⟩
    simp only [namedControls, List.mem_cons, List.not_mem_nil, or_false, not_or] at named
    obtain ⟨backspace, tab, feed, form, carriage⟩ := named
    rw [unit, controlEscape, if_neg backspace, if_neg tab, if_neg feed, if_neg form,
      if_neg carriage]
    exact textUnits_code read rest (by omega)

/-- What is written for a character reads as its unit. -/
theorem textUnits_escapeChar (c : Char) :
    textUnits .plain read (escapeChar c ++ rest) = textUnits .plain (unitOf c :: read) rest := by
  unfold escapeChar
  split
  · rename_i quote
    rw [quote]
    rfl
  split
  · rename_i quote slash
    rw [slash]
    rfl
  split
  · rename_i control
    exact textUnits_controlEscape read rest control
  · rename_i quote slash visible
    have unit : unitOf c = .char c := if_neg fun both => visible both.1
    rw [unit, List.singleton_append, textUnits]
    simp only [quote, slash, visible, if_false]

end

theorem textUnits_chars (cs : List Char) (read : List TextUnit) (rest : List Char) :
    textUnits .plain read (cs.flatMap escapeChar ++ '"' :: rest) =
      some (read.reverse ++ cs.map unitOf, rest) := by
  induction cs generalizing read with
  | nil => simp [textUnits]
  | cons c cs ih =>
      rw [List.flatMap_cons, List.append_assoc, textUnits_escapeChar, ih, List.reverse_cons,
        List.append_assoc]
      rfl

/-- No control is half of a pair. -/
theorem joinUnits_unitOf (c : Char) (read : List Char) (units : List TextUnit) :
    joinUnits none read (unitOf c :: units) = joinUnits none (c :: read) units := by
  unfold unitOf
  split
  · rename_i control
    have alone : joinUnit none c.toNat = some (none, some c) := by
      rw [joinUnit, if_neg (by omega), if_neg (by omega), Char.ofNat_toNat]
    simp only [joinUnits, alone]
  · rfl

theorem joinUnits_map_unitOf (cs read : List Char) :
    joinUnits none read (cs.map unitOf) = some (String.ofList (read.reverse ++ cs)) := by
  induction cs generalizing read with
  | nil => simp [joinUnits]
  | cons c cs ih => rw [List.map_cons, joinUnits_unitOf, ih, List.reverse_cons, List.append_assoc,
      List.singleton_append]

/-- A text reads as itself after its opening quote. -/
theorem text_escaped (s : String) (rest : List Char) :
    text (s.toList.flatMap escapeChar ++ '"' :: rest) = some (some s, rest) := by
  rw [text, textUnits_chars, Option.map_some]
  dsimp only
  rw [List.reverse_nil, List.nil_append, joinUnits_map_unitOf, List.reverse_nil, List.nil_append,
    String.ofList_toList]

/-- What may follow a value in a text: nothing, a comma or a new line. -/
def EndsValue : List Char → Prop
  | [] => True
  | c :: _ => c = ',' ∨ c = '\n'

theorem EndsValue.endsNumber {rest : List Char} (ends : EndsValue rest) :
    Digits.EndsNumber rest := by
  cases rest with
  | nil => rfl
  | cons c rest => rcases ends with rfl | rfl <;> rfl

theorem EndsValue.fractionPart {rest : List Char} (ends : EndsValue rest) :
    fractionPart rest = some ([], rest) := by
  cases rest with
  | nil => rfl
  | cons c rest => rcases ends with rfl | rfl <;> rfl

theorem EndsValue.exponentPart {rest : List Char} (ends : EndsValue rest) :
    exponentPart rest = some (none, rest) := by
  cases rest with
  | nil => rfl
  | cons c rest => rcases ends with rfl | rfl <;> rfl

theorem eq_zero_of_digitChar {d : Nat} (h : d < 10) (zero : Nat.digitChar d = '0') : d = 0 := by
  revert d
  decide

/-- Only the number zero is written with a zero in front. -/
theorem eq_zero_of_toDigits_eq_cons {n : Nat} {ds : List Char}
    (h : Nat.toDigits 10 n = '0' :: ds) : n = 0 := by
  induction n using Nat.strongRecOn generalizing ds with
  | ind n ih =>
      rw [Nat.toDigits_eq_if (by decide)] at h
      split at h
      · rename_i small
        exact eq_zero_of_digitChar small (List.cons.inj h).1
      · cases front : Nat.toDigits 10 (n / 10) with
        | nil => exact absurd front Nat.toDigits_ne_nil
        | cons c cs =>
            rw [front] at h
            cases h
            have := ih (n / 10) (by omega) front
            omega

theorem toDigits_eq_cons (n : Nat) :
    ∃ c ds, Nat.toDigits 10 n = c :: ds ∧ c.isDigit = true := by
  cases digits : Nat.toDigits 10 n with
  | nil => exact absurd digits Nat.toDigits_ne_nil
  | cons c ds =>
      exact ⟨c, ds, rfl, Digits.isDigit_of_mem_toDigits (digits ▸ List.mem_cons_self)⟩

theorem wholePart_toDigits (n : Nat) {rest : List Char} (ends : Digits.EndsNumber rest) :
    wholePart (Nat.toDigits 10 n ++ rest) = some (Nat.toDigits 10 n, rest) := by
  have digits : digits? (Nat.toDigits 10 n ++ rest) = some (Nat.toDigits 10 n, rest) := by
    have all := fun c (member : c ∈ Nat.toDigits 10 n) => Digits.isDigit_of_mem_toDigits member
    rw [digits?, Digits.takeWhile_append all ends, Digits.dropWhile_append all ends]
    split
    · rename_i none
      exact absurd none Nat.toDigits_ne_nil
    · rfl
  rw [wholePart, digits]
  split
  · rename_i zero
    obtain ⟨leading, -⟩ := Prod.mk.inj (Option.some.inj zero)
    rw [eq_zero_of_toDigits_eq_cons leading] at leading
    cases leading
  · rfl

end StateWeave.Json.Parser

namespace StateWeave.Json.Magnitude

theorem le_foldl (n : Nat) (ds : List Char) :
    n ≤ ds.foldl (fun n c => n * 10 + digitValue c) n := by
  induction ds generalizing n with
  | nil => exact Nat.le_refl n
  | cons c ds ih =>
      have longer := ih (n * 10 + digitValue c)
      rw [List.foldl_cons]
      omega

/-- All digits are taken of a number that fits into 64 bits. -/
theorem append_eq {n : Nat} {ds : List Char}
    (fits : ds.foldl (fun n c => n * 10 + digitValue c) n < UInt64.size) :
    append n ds = (ds.foldl (fun n c => n * 10 + digitValue c) n, []) := by
  induction ds generalizing n with
  | nil => rfl
  | cons c ds ih =>
      rw [List.foldl_cons] at fits ⊢
      have longer := le_foldl (n * 10 + digitValue c) ds
      simp only [append]
      rw [if_pos (by omega), ih fits]

theorem nearest_le (n : Nat) : nearest n ≤ 2 * n := by
  rcases Nat.eq_zero_or_pos n with zero | positive
  · rw [zero]
    decide
  · have unit : 1 <<< (n.log2 - 52) ≤ n := by
      rw [Nat.one_shiftLeft]
      calc 2 ^ (n.log2 - 52) ≤ 2 ^ n.log2 := Nat.pow_le_pow_right (by decide) (Nat.sub_le _ _)
        _ ≤ n := Nat.log2_self_le (Nat.ne_of_gt positive)
    have below : n / 1 <<< (n.log2 - 52) * 1 <<< (n.log2 - 52) ≤ n := Nat.div_mul_le_self _ _
    rw [nearest]
    split
    · rw [Nat.add_mul]
      omega
    · omega

/-- A whole number of 64 bits is within the bound. -/
theorem isBounded_whole {ds : List Char}
    (fits : ds.foldl (fun n c => n * 10 + digitValue c) 0 < UInt64.size) :
    isBounded ds [] 0 = true := by
  have one : nearest 1 = 1 := nearest_of_log2_le (by decide)
  have small := nearest_le (ds.foldl (fun n c => n * 10 + digitValue c) 0)
  have limit : 2 * UInt64.size < 1 <<< 1024 - 1 <<< 970 := by decide
  rw [isBounded, append_eq fits]
  simp [append, one]
  omega

end StateWeave.Json.Magnitude

namespace StateWeave.Json.Parser

theorem unsigned_toDigits (negative : Bool) {n : Nat} (fits : n < UInt64.size)
    (sign : negative = true → n ≠ 0) {rest : List Char} (ends : EndsValue rest) :
    unsigned negative (Nat.toDigits 10 n ++ rest) =
      some (.int (if negative then -(n : Int) else n), rest) := by
  have digits := natOfDigits_toDigits n
  have bounded : Magnitude.isBounded (Nat.toDigits 10 n) [] 0 = true :=
    Magnitude.isBounded_whole (Nat.lt_of_le_of_lt (Nat.le_of_eq digits) fits)
  have zero : (negative && n == 0) = false := by
    cases negative with
    | false => rfl
    | true => simpa using sign rfl
  have number : numberOf negative (Nat.toDigits 10 n) [] none =
      .int (if negative then -(n : Int) else n) := by
    simp [numberOf, bounded, digits, zero]
  rw [unsigned, wholePart_toDigits n ends.endsNumber]
  simp only [Option.bind_eq_bind, Option.bind_some, ends.fractionPart, ends.exponentPart, number]
  rfl

theorem number_printInt {value : Int} (fits : value.natAbs < UInt64.size) {rest : List Char}
    (ends : EndsValue rest) : number (printInt value ++ rest) = some (.int value, rest) := by
  cases value with
  | ofNat n =>
      have size : n < UInt64.size := fits
      rw [printInt, number]
      · exact unsigned_toDigits false size (fun signed => nomatch signed) ends
      · intro others signed
        obtain ⟨c, ds, digits, digit⟩ := toDigits_eq_cons n
        rw [digits] at signed
        cases signed
        cases digit
  | negSucc n =>
      rw [printInt, List.cons_append, number]
      exact unsigned_toDigits true fits (fun _ => Nat.succ_ne_zero n) ends

end StateWeave.Json.Parser
