/-!
# Blank characters

The blanks are the twenty-five characters of the property White_Space. Trimming
removes them from both ends of a text and nothing from its inside, so a second
trim finds nothing left to remove.
-/

namespace StateWeave.Text

/-- Whether a character has the property White_Space. -/
def isBlank (c : Char) : Bool :=
  let n := c.toNat
  (0x09 ≤ n && n ≤ 0x0D) || n == 0x20 || n == 0x85 || n == 0xA0 || n == 0x1680 ||
    (0x2000 ≤ n && n ≤ 0x200A) || n == 0x2028 || n == 0x2029 || n == 0x202F ||
    n == 0x205F || n == 0x3000

/-- Drop the blanks in front; the rest is left as it stands. -/
def trimLeft (cs : List Char) : List Char := cs.dropWhile isBlank

/-- Drop the blanks behind. -/
def trimRight (cs : List Char) : List Char := (trimLeft cs.reverse).reverse

def trim (text : String) : String :=
  String.ofList (trimRight (trimLeft text.toList))

@[simp] theorem trimLeft_nil : trimLeft [] = [] := rfl

@[simp] theorem trimRight_nil : trimRight [] = [] := rfl

theorem trimLeft_cons_of_not_blank {c : Char} (h : isBlank c = false) (cs : List Char) :
    trimLeft (c :: cs) = c :: cs := by
  simp [trimLeft, h]

end StateWeave.Text
