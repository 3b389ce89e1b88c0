import StateWeave.Proofs.Digits

/-!
# Times are read as they were written

The text that a time is written as reads as that very time: there are no blanks to be passed
over, every number has as many digits as its reader takes, and the name of UTC stands at the end,
so that nothing is moved.
-/

namespace StateWeave.Timestamp

open Calendar
open Digits (EndsNumber takeWhile_append)

variable {width n : Nat} {rest : List Char}

theorem isBlank_of_isDigit {c : Char} (h : c.isDigit = true) : Text.isBlank c = false := by
  simp only [Char.isDigit, Bool.and_eq_true, decide_eq_true_eq, ge_iff_le,
    UInt32.le_iff_toNat_le] at h
  simp only [Text.isBlank, Char.toNat]
  grind

/-- A number starts with a digit. -/
theorem exists_cons_padded (width n : Nat) (rest : List Char) :
    ∃ c others, padded width n ++ rest = c :: others ∧ c.isDigit = true := by
  cases digits : padded width n with
  | nil => exact absurd digits padded_ne_nil
  | cons c others =>
      exact ⟨c, others ++ rest, rfl,
        isDigit_of_mem_padded (digits ▸ List.mem_cons_self : c ∈ padded width n)⟩

theorem trimLeft_padded (width n : Nat) (rest : List Char) :
    Text.trimLeft (padded width n ++ rest) = padded width n ++ rest := by
  obtain ⟨c, others, text, digit⟩ := exists_cons_padded width n rest
  rw [text, Text.trimLeft_cons_of_not_blank (isBlank_of_isDigit digit)]

theorem takeWhile_padded (width n : Nat) (ends : EndsNumber rest) :
    (padded width n ++ rest).takeWhile Char.isDigit = padded width n :=
  takeWhile_append (fun _ member => isDigit_of_mem_padded member) ends

theorem readNumber_padded (wide : 0 < width) (fits : n < 10 ^ width) (rest : List Char) :
    readNumber width (padded width n ++ rest) = some (n, rest) := by
  have digits : (padded width n ++ []).takeWhile Char.isDigit = padded width n :=
    takeWhile_padded width n rfl
  rw [List.append_nil] at digits
  rw [readNumber, trimLeft_padded, List.take_left' (length_padded wide fits), digits]
  simp only [List.isEmpty_iff, padded_ne_nil, if_false, digitsValue_padded, List.drop_left]

theorem unlimited_padded (width n : Nat) (ends : EndsNumber rest) :
    readYear.unlimited (padded width n ++ rest) = some (n, rest) := by
  rw [readYear.unlimited, takeWhile_padded width n ends]
  simp only [List.isEmpty_iff, padded_ne_nil, if_false, digitsValue_padded, List.drop_left]

/-- A year without a sign has four digits, and one with a sign is read to its end. -/
theorem readYear_printYear {year : Int} (ends : EndsNumber rest) :
    readYear (printYear year ++ rest) = some (year, rest) := by
  rw [printYear]
  split
  · have fits : year.toNat < 10 ^ 4 := by omega
    have number := readNumber_padded (by decide) fits rest
    obtain ⟨c, others, text, digit⟩ := exists_cons_padded 4 year.toNat rest
    rw [readYear, trimLeft_padded]
    split
    · rename_i signed
      rw [text] at signed
      cases signed
      cases digit
    · rename_i signed
      rw [text] at signed
      cases signed
      cases digit
    · have value : (year.toNat : Int) = year := Int.toNat_of_nonneg (by omega)
      rw [number]
      exact congrArg (fun y => some (y, rest)) value
  · have digits := unlimited_padded 4 year.natAbs ends
    by_cases negative : year < 0
    · have value : -(year.natAbs : Int) = year := by omega
      rw [if_pos negative]
      change (readYear.unlimited (padded 4 year.natAbs ++ rest)).map _ = _
      rw [digits]
      exact congrArg (fun y => some (y, rest)) value
    · have value : (year.natAbs : Int) = year := by omega
      rw [if_neg negative]
      change (readYear.unlimited (padded 4 year.natAbs ++ rest)).map _ = _
      rw [digits]
      exact congrArg (fun y => some (y, rest)) value

theorem readMark_cons {mark : Char} (visible : Text.isBlank mark = false) (rest : List Char) :
    readMark mark (mark :: rest) = some rest := by
  rw [readMark, Text.trimLeft_cons_of_not_blank visible]
  exact if_pos rfl

theorem readFraction_padded (width n : Nat) (wide : 0 < width) (short : width ≤ 9)
    (fits : n < 10 ^ width) :
    readFraction ('.' :: padded width n ++ ['Z']) = some (n * 10 ^ (9 - width), ['Z']) := by
  have length := length_padded wide fits
  rw [List.cons_append, readFraction, takeWhile_padded width n (by rfl),
    List.take_of_length_le (by omega)]
  simp only [List.isEmpty_iff, padded_ne_nil, if_false, digitsValue_padded, length]
  rw [List.drop_left' length]
  rfl

/-- The digits that are left out are zeros. -/
theorem readFraction_printFraction {nanosecond : Nat} (fits : nanosecond < 1000000000) :
    readFraction (printFraction nanosecond ++ ['Z']) = some (nanosecond, ['Z']) := by
  rw [printFraction]
  split
  · rename_i none
    rw [none]
    rfl
  · split
    · have value : nanosecond / 1000000 * 10 ^ (9 - 3) = nanosecond := by omega
      rw [readFraction_padded 3 _ (by decide) (by decide) (by omega), value]
    · split
      · have value : nanosecond / 1000 * 10 ^ (9 - 6) = nanosecond := by omega
        rw [readFraction_padded 6 _ (by decide) (by decide) (by omega), value]
      · rw [readFraction_padded 9 _ (by decide) (by decide) (by omega), Nat.pow_zero,
          Nat.mul_one]

theorem lt_of_date_valid {d : Date} (valid : d.Valid) : d.month < 10 ^ 2 ∧ d.day < 10 ^ 2 := by
  obtain ⟨_, _, _, month, _, day⟩ := valid
  have days : daysIn d.year d.month ≤ 31 := by
    unfold daysIn
    grind
  omega

theorem readDate_print {d : Date} (valid : d.Valid) (rest : List Char) :
    readDate (printYear d.year ++ '-' :: (padded 2 d.month ++ '-' :: (padded 2 d.day ++ rest))) =
      some (d, rest) := by
  obtain ⟨month, day⟩ := lt_of_date_valid valid
  rw [readDate, readYear_printYear (by rfl)]
  simp only [Option.bind_eq_bind, Option.bind_some, Option.pure_def]
  rw [readMark_cons (by decide), Option.bind_some, readNumber_padded (by decide) month]
  simp only [Option.bind_some]
  rw [readMark_cons (by decide), Option.bind_some, readNumber_padded (by decide) day]
  rfl

theorem toUtc_zero {date : Date} {hour minute : Nat} (h : hour < 24) (m : minute < 60) :
    toUtc date hour minute 0 = (date, hour, minute) := by
  simp only [toUtc]
  grind

theorem ofParts?_self (t : Timestamp) :
    ofParts? t.date t.hour t.minute t.second t.nanosecond = some t :=
  dif_pos ⟨t.date_valid, t.hour_lt, t.minute_lt, t.second_le, t.nanosecond_lt⟩

theorem readOffset_utc : readOffset ['Z'] = some (0, []) := rfl

theorem parse?_print (t : Timestamp) : parse? t.print = some t := by
  have hour : t.hour < 10 ^ 2 := Nat.lt_trans t.hour_lt (by decide)
  have minute : t.minute < 10 ^ 2 := Nat.lt_trans t.minute_lt (by decide)
  have second : t.second < 10 ^ 2 := Nat.lt_of_le_of_lt t.second_le (by decide)
  rw [parse?, print, String.toList_ofList]
  simp only [List.append_assoc, List.cons_append, Option.bind_eq_bind]
  rw [readDate_print t.date_valid, Option.bind_some]
  change Option.bind (readNumber 2 _) _ = _
  rw [readNumber_padded (by decide) hour, Option.bind_some]
  dsimp only
  rw [readMark_cons (by decide), Option.bind_some, readNumber_padded (by decide) minute,
    Option.bind_some]
  dsimp only
  rw [readMark_cons (by decide), Option.bind_some, readNumber_padded (by decide) second,
    Option.bind_some]
  dsimp only
  rw [readFraction_printFraction t.nanosecond_lt, Option.bind_some, readOffset_utc,
    Option.bind_some]
  change Option.bind (ofParts? t.date t.hour t.minute t.second t.nanosecond) _ = _
  rw [ofParts?_self, Option.bind_some, toUtc_zero t.hour_lt t.minute_lt]
  exact ofParts?_self t

end StateWeave.Timestamp
