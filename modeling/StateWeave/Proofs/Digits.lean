import Mathlib.Algebra.Group.Nat.Defs
import Mathlib.Data.List.Basic
import StateWeave.Json.Parser
import StateWeave.Timestamp

/-!
# Numbers read from their digits

Numbers are written with the decimal digits of the library and read by a fold over the digits.
A reader of digits goes on until something else comes, so the law of a number that stands in a
text is about a rest that does not start with a digit.
-/

namespace StateWeave.Digits

/-- The fold that reads a number is the library's own, up to the order of a product. -/
theorem ofDigitChars_eq (ds : List Char) :
    Nat.ofDigitChars 10 ds 0 = ds.foldl (fun n c => n * 10 + (c.toNat - '0'.toNat)) 0 := by
  rw [Nat.ofDigitChars_eq_foldl]
  congr 1
  funext n c
  rw [Nat.mul_comm]

theorem isDigit_of_mem_toDigits {n : Nat} {c : Char} (h : c ∈ Nat.toDigits 10 n) :
    c.isDigit = true :=
  Nat.isDigit_of_mem_toDigits (by decide) (by decide) h

theorem exists_of_mem_toDigits {base n : Nat} {c : Char} (wide : 1 < base)
    (h : c ∈ Nat.toDigits base n) : ∃ digit < base, c = Nat.digitChar digit := by
  induction n using Nat.strongRecOn with
  | ind n ih =>
      rw [Nat.toDigits_eq_if wide] at h
      split at h
      · next small => exact ⟨n, small, List.mem_singleton.mp h⟩
      · next large =>
          rcases List.mem_append.mp h with front | last
          · exact ih _ (Nat.div_lt_self (by omega) wide) front
          · exact ⟨n % base, Nat.mod_lt _ (by omega), List.mem_singleton.mp last⟩

/-- The text does not go on with a digit. -/
def EndsNumber (rest : List Char) : Prop := rest.takeWhile Char.isDigit = []

section

variable {digits rest : List Char}

theorem takeWhile_append (all : ∀ c ∈ digits, c.isDigit = true) (ends : EndsNumber rest) :
    (digits ++ rest).takeWhile Char.isDigit = digits := by
  rw [List.takeWhile_append_of_pos all, ends, List.append_nil]

theorem dropWhile_append (all : ∀ c ∈ digits, c.isDigit = true) (ends : EndsNumber rest) :
    (digits ++ rest).dropWhile Char.isDigit = rest := by
  have parts := List.takeWhile_append_dropWhile (p := Char.isDigit) (l := rest)
  rw [ends, List.nil_append] at parts
  rw [List.dropWhile_append_of_pos all, parts]

end

end StateWeave.Digits

namespace StateWeave.Json.Parser

theorem natOfDigits_toDigits (n : Nat) : natOfDigits (Nat.toDigits 10 n) = n :=
  (Digits.ofDigitChars_eq _).symm.trans (Nat.ofDigitChars_toDigits (by decide) (by decide))

end StateWeave.Json.Parser

namespace StateWeave.Timestamp

variable {width n : Nat}

theorem isDigit_of_mem_padded {c : Char} (h : c ∈ padded width n) : c.isDigit = true := by
  rcases List.mem_append.mp h with zero | digit
  · rw [List.eq_of_mem_replicate zero]
    rfl
  · exact Digits.isDigit_of_mem_toDigits digit

theorem padded_ne_nil : padded width n ≠ [] :=
  List.append_ne_nil_of_right_ne_nil _ Nat.toDigits_ne_nil

theorem length_padded (wide : 0 < width) (fits : n < 10 ^ width) :
    (padded width n).length = width := by
  have short := (Nat.length_toDigits_le_iff (by decide) wide).mpr fits
  rw [padded, List.length_append, List.length_replicate]
  omega

/-- Zeros in front do not count. -/
theorem digitsValue_padded (width n : Nat) : digitsValue (padded width n) = n := by
  refine (Digits.ofDigitChars_eq _).symm.trans ?_
  rw [padded, Nat.ofDigitChars_append, Nat.ofDigitChars_replicate_zero, Nat.mul_zero,
    Nat.ofDigitChars_toDigits (by decide) (by decide)]

end StateWeave.Timestamp
