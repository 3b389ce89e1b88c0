import StateWeave.Json.Basic

/-!
# Writing JSON

Two layouts of the same tokens: `compact` on one line with no blanks, and
`pretty` with one entry or item a line, two spaces a level, and empty containers
closed at once. Texts are escaped only where JSON requires it.
-/

namespace StateWeave.Json

/-- Controls without an escape of their own are written by number. -/
def controlEscape (n : Nat) : List Char :=
  if n = 0x08 then ['\\', 'b']
  else if n = 0x09 then ['\\', 't']
  else if n = 0x0A then ['\\', 'n']
  else if n = 0x0C then ['\\', 'f']
  else if n = 0x0D then ['\\', 'r']
  else ['\\', 'u', '0', '0', Nat.digitChar (n / 16), Nat.digitChar (n % 16)]

def escapeChar (c : Char) : List Char :=
  if c = '"' then ['\\', '"']
  else if c = '\\' then ['\\', '\\']
  else if c.toNat < 0x20 then controlEscape c.toNat
  else [c]

def printText (text : String) : List Char :=
  '"' :: (text.toList.flatMap escapeChar ++ ['"'])

def printInt : Int → List Char
  | .ofNat n => Nat.toDigits 10 n
  | .negSucc n => '-' :: Nat.toDigits 10 (n + 1)

mutual

def compactChars : Json → List Char
  | .null => ['n', 'u', 'l', 'l']
  | .bool true => ['t', 'r', 'u', 'e']
  | .bool false => ['f', 'a', 'l', 's', 'e']
  | .int value => printInt value
  | .decimal text => text.toList
  | .str text => printText text
  | .arr items => '[' :: (compactItems items ++ [']'])
  | .obj entries => '{' :: (compactEntries entries ++ ['}'])

def compactItems : List Json → List Char
  | [] => []
  | [item] => compactChars item
  | item :: rest => compactChars item ++ ',' :: compactItems rest

def compactEntries : List (String × Json) → List Char
  | [] => []
  | [(name, value)] => printText name ++ ':' :: compactChars value
  | (name, value) :: rest =>
    printText name ++ ':' :: (compactChars value ++ ',' :: compactEntries rest)

end

def compact (json : Json) : String := String.ofList (compactChars json)

/-- A line feed and the indentation of a level. -/
def newLine (level : Nat) : List Char := '\n' :: List.replicate (2 * level) ' '

mutual

def prettyChars (level : Nat) : Json → List Char
  | .null => ['n', 'u', 'l', 'l']
  | .bool true => ['t', 'r', 'u', 'e']
  | .bool false => ['f', 'a', 'l', 's', 'e']
  | .int value => printInt value
  | .decimal text => text.toList
  | .str text => printText text
  | .arr [] => ['[', ']']
  | .arr (item :: rest) =>
    '[' :: (prettyItems (level + 1) (item :: rest) ++ newLine level ++ [']'])
  | .obj [] => ['{', '}']
  | .obj (entry :: rest) =>
    '{' :: (prettyEntries (level + 1) (entry :: rest) ++ newLine level ++ ['}'])

def prettyItems (level : Nat) : List Json → List Char
  | [] => []
  | [item] => newLine level ++ prettyChars level item
  | item :: rest => newLine level ++ prettyChars level item ++ ',' :: prettyItems level rest

def prettyEntries (level : Nat) : List (String × Json) → List Char
  | [] => []
  | [(name, value)] =>
    newLine level ++ printText name ++ ':' :: ' ' :: prettyChars level value
  | (name, value) :: rest =>
    newLine level ++ printText name ++
      ':' :: ' ' :: (prettyChars level value ++ ',' :: prettyEntries level rest)

end

def pretty (json : Json) : String := String.ofList (prettyChars 0 json)

end StateWeave.Json
