import StateWeave.Text.CaseTables

/-!
# Letter case, one character at a time

Upper and lower case follow the properties Uppercase and Lowercase, and the
lower case of a character never depends on its neighbours. ASCII is decided
without the tables, so reasoning about ASCII text never has to open them.
-/

namespace StateWeave.Text

/-- Whether a character has the property Uppercase. -/
def isUpper (c : Char) : Bool :=
  if c.toNat < 0x80 then 'A' ≤ c && c ≤ 'Z'
  else upperRuns.any (·.contains c.toNat)

/-- Whether a character has the property Lowercase. -/
def isLower (c : Char) : Bool :=
  if c.toNat < 0x80 then 'a' ≤ c && c ≤ 'z'
  else lowerRuns.any (·.contains c.toNat)

/-- One character may become two: U+0130 turns into `i` and a combining dot. -/
def lower (c : Char) : List Char :=
  if c.toNat < 0x80 then
    if 'A' ≤ c && c ≤ 'Z' then [Char.ofNat (c.toNat + 0x20)] else [c]
  else if c.toNat = 0x130 then ['i', Char.ofNat 0x307]
  else match loweringShifts.find? (·.run.contains c.toNat) with
    | some shift => [Char.ofNat (c.toNat + shift.offset).toNat]
    | none => [c]

end StateWeave.Text
