import StateWeave.Text.LetterCase

/-!
# Names made from names

Types are written in words that start with capitals and cases in lower-case words
joined by underscores. `snakeCase` finds the word boundaries: before a capital that
follows a small letter, and before the last capital of an acronym when a small
letter follows it. The other functions join names with dots.
-/

namespace StateWeave.Naming

/-- Whether a new word starts at a capital, seen with both its neighbours. -/
def startsWord (before after : Option Char) : Bool :=
  match before with
  | none => false
  | some b => Text.isLower b || (Text.isUpper b && after.any Text.isLower)

/-- Rewrite the rest of a name, seen from the character before it. -/
def snakeFrom (before : Option Char) : List Char → List Char
  | [] => []
  | c :: rest =>
    if Text.isUpper c then
      (if startsWord before rest.head? then ['_'] else []) ++ Text.lower c ++
        snakeFrom (some c) rest
    else c :: snakeFrom (some c) rest

/-- Lower-case words joined by underscores: `SyncUp` gives `sync_up` and
`URLSession` gives `url_session`. -/
def snakeCase (name : String) : String := String.ofList (snakeFrom none name.toList)

/-- What stands after the last dot. -/
def lastComponent (cs : List Char) : List Char := (cs.reverse.takeWhile (· ≠ '.')).reverse

/-- Drop an ending, once, if it is there. -/
def dropEnding (ending cs : List Char) : List Char :=
  if ending.isSuffixOf cs then cs.take (cs.length - ending.length) else cs

/-- The case that stands for a type of actions: the last component of the type's
name without its ending `Action`. Nothing may be left of it. -/
def caseNameOfType (type : String) : String :=
  String.ofList <|
    snakeFrom none (dropEnding ['A', 'c', 't', 'i', 'o', 'n'] (lastComponent type.toList))

/-- A name seen from outside the declarations that enclose it. -/
def qualified (scopes : List String) (name : String) : String :=
  ".".intercalate (scopes ++ [name])

/-- The parts between the dots of a name; a name without dots is its only part. -/
def componentsOf : List Char → List (List Char)
  | [] => [[]]
  | c :: rest =>
    if c = '.' then [] :: componentsOf rest
    else
      match componentsOf rest with
      | [] => [[c]]
      | first :: others => (c :: first) :: others

def components (name : String) : List String := (componentsOf name.toList).map String.ofList

/-- The key under which a list's own name is known to the module that declares the list. -/
def nestedKey (list name : String) : String := list ++ "." ++ name

end StateWeave.Naming
