import StateWeave.Text.PrintableTables

/-!
# Quoted text

A text is quoted so that it stays on one line and shows every character: quotes,
backslashes and the common controls get their usual two-character escapes, and
any other character that does not print by itself is written by its code point.
-/

namespace StateWeave.Text

def isInvisible (c : Char) : Bool :=
  invisibleRanges.any fun (first, last) => first ≤ c.toNat && c.toNat ≤ last

/-- A character that joins the one before it on the screen. -/
def isExtending (c : Char) : Bool :=
  extendingRanges.any fun (first, last) => first ≤ c.toNat && c.toNat ≤ last

/-- The escape by code point: `u` and the number in lower-case hexadecimal,
between braces. -/
def codePointEscape (c : Char) : List Char :=
  '\\' :: 'u' :: '{' :: (Nat.toDigits 16 c.toNat ++ ['}'])

def escapeChar (c : Char) : List Char :=
  if c = '"' then ['\\', '"']
  else if c = '\\' then ['\\', '\\']
  else if c = '\n' then ['\\', 'n']
  else if c = '\r' then ['\\', 'r']
  else if c = '\t' then ['\\', 't']
  else if c = Char.ofNat 0 then ['\\', '0']
  else if isInvisible c || isExtending c then codePointEscape c
  else [c]

def quoted (text : String) : String :=
  String.ofList ('"' :: (text.toList.flatMap escapeChar ++ ['"']))

end StateWeave.Text
