import StateWeave.Json.Magnitude
import StateWeave.Json.Transcript

/-!
# Reading JSON text

Each step of the parser takes the text that is left and gives the transcript of what
it read, together with the rest of the text unless the notation broke. The notation
is strict: no comments, no commas before a closing bracket, no leading zeros, no raw
controls in texts, nothing but blanks after the value.

Containers may be nested `maxDepth` deep; the limit doubles as the measure on which
the parser recurses. Below it nothing is kept, and the parser only follows the
brackets to their end.

A text is first cut into units, which is a question of notation, and the units are
then joined to characters, which fails when half of a surrogate pair stands alone.
-/

namespace StateWeave.Json

/-- How many containers may lie inside one another. -/
def maxDepth : Nat := 127

namespace Parser

/-- What a step read and the text that is left, if the notation did not break. -/
abbrev Outcome := Transcript × Option (List Char)

def broken : Outcome := (.broken, none)

def isSpace (c : Char) : Bool := c = ' ' || c = '\n' || c = '\t' || c = '\r'

def skipSpaces (cs : List Char) : List Char := cs.dropWhile isSpace

def hexValue? (c : Char) : Option Nat :=
  if '0' ≤ c ∧ c ≤ '9' then some (c.toNat - '0'.toNat)
  else if 'a' ≤ c ∧ c ≤ 'f' then some (c.toNat - 'a'.toNat + 10)
  else if 'A' ≤ c ∧ c ≤ 'F' then some (c.toNat - 'A'.toNat + 10)
  else none

def simpleEscape? (c : Char) : Option Char :=
  match c with
  | '"' => some '"'
  | '\\' => some '\\'
  | '/' => some '/'
  | 'b' => some (Char.ofNat 8)
  | 'f' => some (Char.ofNat 12)
  | 'n' => some '\n'
  | 'r' => some '\r'
  | 't' => some '\t'
  | _ => none

/-- A character as it stands, or the sixteen bits of an escape by number. -/
inductive TextUnit where
  | char (c : Char)
  | code (bits : Nat)

/-- Where the reader of a text is: between characters, after a backslash, or
inside the digits of an escape by number. -/
inductive TextMode where
  | plain
  | escaped
  | digits (left bits : Nat)

/-- Cut the inside of a text into units, up to its closing quote. `read` holds the
units so far, the last one first. -/
def textUnits (mode : TextMode) (read : List TextUnit) :
    List Char → Option (List TextUnit × List Char)
  | [] => none
  | c :: rest =>
    match mode with
    | .plain =>
      if c = '\\' then textUnits .escaped read rest
      else if c = '"' then some (read.reverse, rest)
      else if c.toNat < 0x20 then none
      else textUnits .plain (.char c :: read) rest
    | .escaped =>
      if c = 'u' then textUnits (.digits 3 0) read rest
      else match simpleEscape? c with
        | some char => textUnits .plain (.char char :: read) rest
        | none => none
    | .digits left bits =>
      match hexValue? c with
      | none => none
      | some digit =>
        match left with
        | left + 1 => textUnits (.digits left (bits * 16 + digit)) read rest
        | 0 => textUnits .plain (.code (bits * 16 + digit) :: read) rest

/-- What sixteen bits stand for, given the first half of a pair if one is open: a
character, the first half of a pair, or nothing. -/
def joinUnit (high : Option Nat) (bits : Nat) : Option (Option Nat × Option Char) :=
  match high with
  | some first =>
    if 0xDC00 ≤ bits ∧ bits < 0xE000 then
      some (none, some (Char.ofNat (0x10000 + (first - 0xD800) * 0x400 + (bits - 0xDC00))))
    else none
  | none =>
    if 0xD800 ≤ bits ∧ bits < 0xDC00 then some (some bits, none)
    else if 0xDC00 ≤ bits ∧ bits < 0xE000 then none
    else some (none, some (Char.ofNat bits))

/-- Join units to a text. `high` holds the first half of a pair while its second half
is awaited, and `read` the characters so far, the last one first. -/
def joinUnits (high : Option Nat) (read : List Char) : List TextUnit → Option String
  | [] => if high.isSome then none else some (String.ofList read.reverse)
  | .char c :: rest => if high.isSome then none else joinUnits none (c :: read) rest
  | .code bits :: rest =>
    match joinUnit high bits with
    | none => none
    | some (high, none) => joinUnits high read rest
    | some (high, some char) => joinUnits high (char :: read) rest

/-- A text after its opening quote. Correct notation may yet stand for no text. -/
def text (cs : List Char) : Option (Option String × List Char) :=
  (textUnits .plain [] cs).map fun (units, rest) => (joinUnits none [] units, rest)

/-- At least one digit. -/
def digits? (cs : List Char) : Option (List Char × List Char) :=
  match cs.takeWhile Char.isDigit with
  | [] => none
  | ds => some (ds, cs.dropWhile Char.isDigit)

/-- The digits before the point: no zero stands in front of another digit. -/
def wholePart (cs : List Char) : Option (List Char × List Char) :=
  match digits? cs with
  | some ('0' :: _ :: _, _) => none
  | result => result

/-- The digits after the point, if there is one. -/
def fractionPart : List Char → Option (List Char × List Char)
  | '.' :: rest => digits? rest
  | rest => some ([], rest)

/-- The number that decimal digits stand for. -/
def natOfDigits (ds : List Char) : Nat :=
  ds.foldl (fun n c => n * 10 + Magnitude.digitValue c) 0

/-- A power of ten as it is written: its mark and sign, and its digits. -/
structure Exponent where
  mark : List Char
  negative : Bool
  digits : List Char

namespace Exponent

def value (e : Exponent) : Int :=
  if e.negative then -(natOfDigits e.digits : Int) else natOfDigits e.digits

end Exponent

/-- The part of a number that starts with `e`, if there is one. -/
def exponentPart : List Char → Option (Option Exponent × List Char)
  | [] => some (none, [])
  | c :: rest =>
    if c = 'e' ∨ c = 'E' then
      let (sign, negative, rest) :=
        match rest with
        | '+' :: rest => (['+'], false, rest)
        | '-' :: rest => (['-'], true, rest)
        | rest => ([], false, rest)
      (digits? rest).map fun (ds, rest) => (some ⟨c :: sign, negative, ds⟩, rest)
    else some (none, c :: rest)

/-- A number without fraction and exponent is an integer, but for `-0`, which is the
zero that keeps its sign. -/
def numberOf (negative : Bool) (whole fraction : List Char) (exponent : Option Exponent) :
    Transcript :=
  let n := natOfDigits whole
  if !Magnitude.isBounded whole fraction ((exponent.map Exponent.value).getD 0) then .garbled
  else if fraction.isEmpty && exponent.isNone && !(negative && n == 0) then
    .int (if negative then -(n : Int) else n)
  else
    let sign := if negative then ['-'] else []
    let point := if fraction.isEmpty then [] else '.' :: fraction
    let tail := (exponent.map fun e => e.mark ++ e.digits).getD []
    .decimal (String.ofList (sign ++ whole ++ point ++ tail))

def unsigned (negative : Bool) (cs : List Char) : Option (Transcript × List Char) := do
  let (whole, cs) ← wholePart cs
  let (fraction, cs) ← fractionPart cs
  let (exponent, cs) ← exponentPart cs
  return (numberOf negative whole fraction exponent, cs)

def number : List Char → Option (Transcript × List Char)
  | '-' :: rest => unsigned true rest
  | cs => unsigned false cs

/-- One of the three words, as far as it is spelled out. -/
def word : List Char → Option (Transcript × List Char)
  | 'n' :: 'u' :: 'l' :: 'l' :: rest => some (.null, rest)
  | 't' :: 'r' :: 'u' :: 'e' :: rest => some (.bool true, rest)
  | 'f' :: 'a' :: 'l' :: 's' :: 'e' :: rest => some (.bool false, rest)
  | _ => none

def quotedText (cs : List Char) : Option (Transcript × List Char) :=
  (text cs).map fun (text?, rest) => ((text?.map .str).getD .garbled, rest)

/-- Everything that holds no other value. -/
def leaf (cs : List Char) : Outcome :=
  let result :=
    match cs with
    | '"' :: rest => quotedText rest
    | c :: _ => if c = '-' || c.isDigit then number cs else word cs
    | [] => none
  match result with
  | some (t, rest) => (t, some rest)
  | none => broken

inductive Bracket where
  | square
  | curly

/-- What has to come next inside the innermost open bracket. -/
inductive Due where
  | value
  | name
  | firstValue
  | firstName
  | separator

/-- Follow a value to its end without keeping anything of it. `enclosing` holds the
brackets that are open, the innermost first. Every step takes at least one
character, so the length of the text bounds the steps. -/
def passOver : Nat → List Bracket → Due → List Char → Option (List Char)
  | 0, _, _, _ => none
  | bound + 1, enclosing, due, cs =>
    let ended (enclosing : List Bracket) (rest : List Char) : Option (List Char) :=
      if enclosing.isEmpty then some rest else passOver bound enclosing .separator rest
    let value (cs : List Char) : Option (List Char) :=
      match cs with
      | '[' :: rest => passOver bound (.square :: enclosing) .firstValue rest
      | '{' :: rest => passOver bound (.curly :: enclosing) .firstName rest
      | cs =>
        match (leaf cs).2 with
        | some rest => ended enclosing rest
        | none => none
    let name (cs : List Char) : Option (List Char) :=
      match cs with
      | '"' :: rest =>
        match text rest with
        | some (_, rest) =>
          match skipSpaces rest with
          | ':' :: rest => passOver bound enclosing .value rest
          | _ => none
        | none => none
      | _ => none
    match due, enclosing, skipSpaces cs with
    | .firstValue, .square :: outer, ']' :: rest => ended outer rest
    | .firstName, .curly :: outer, '}' :: rest => ended outer rest
    | .separator, .square :: outer, ']' :: rest => ended outer rest
    | .separator, .curly :: outer, '}' :: rest => ended outer rest
    | .separator, .square :: _, ',' :: rest => passOver bound enclosing .value rest
    | .separator, .curly :: _, ',' :: rest => passOver bound enclosing .name rest
    | .separator, _, _ => none
    | .value, _, cs | .firstValue, _, cs => value cs
    | .name, _, cs | .firstName, _, cs => name cs

/-- A container below the deepest level that is kept. -/
def buried (cs : List Char) : Outcome :=
  match passOver (cs.length + 1) [] .value cs with
  | some rest => (.garbled, some rest)
  | none => broken

/-- The items of an array after its opening bracket, the first of them due next.
Every item takes at least one character, so the length of the text bounds their
number. -/
def items (value : List Char → Outcome) :
    Nat → List Char → List Transcript × Option (List Char)
  | 0, _ => ([.broken], none)
  | bound + 1, cs =>
    match value cs with
    | (item, none) => ([item], none)
    | (item, some rest) =>
      match skipSpaces rest with
      | ',' :: rest =>
        let (others, rest) := items value bound rest
        (item :: others, rest)
      | ']' :: rest => ([item], some rest)
      | _ => ([item, .broken], none)

/-- Entries of an object and how they end, with the text that is left. -/
structure EntryList where
  entries : List (String × Transcript)
  ending : Ending
  rest : Option (List Char)

namespace EntryList

/-- The notation breaks with no entry in front. -/
def broken : EntryList := ⟨[], .broken, none⟩

/-- Put an entry in front. After a name that stands for no text nothing is kept. -/
def cons (name? : Option String) (value : Transcript) (following : EntryList) : EntryList :=
  match name? with
  | some name => { following with entries := (name, value) :: following.entries }
  | none => ⟨[], if following.ending.isWhole then .garbled else .broken, following.rest⟩

end EntryList

/-- The entries of an object, the first name due next. -/
def entries (value : List Char → Outcome) : Nat → List Char → EntryList
  | 0, _ => .broken
  | bound + 1, cs =>
    match skipSpaces cs with
    | '"' :: rest =>
      match text rest with
      | none => .broken
      | some (name?, rest) =>
        match skipSpaces rest with
        | ':' :: rest =>
          match value rest with
          | (item, none) => .cons name? item .broken
          | (item, some rest) =>
            match skipSpaces rest with
            | ',' :: rest => .cons name? item (entries value bound rest)
            | '}' :: rest => .cons name? item ⟨[], .closed, some rest⟩
            | _ => .cons name? item .broken
        | _ => .cons name? .broken .broken
    | _ => .broken

/-- An array behind its opening bracket. -/
def array (value : List Char → Outcome) (cs : List Char) : Outcome :=
  match skipSpaces cs with
  | ']' :: rest => (.arr [], some rest)
  | cs =>
    let (items, rest) := items value (cs.length + 1) cs
    (.arr items, rest)

/-- An object behind its opening brace. -/
def object (value : List Char → Outcome) (cs : List Char) : Outcome :=
  match skipSpaces cs with
  | '}' :: rest => (.obj [] .closed, some rest)
  | cs =>
    let list := entries value (cs.length + 1) cs
    (.obj list.entries list.ending, list.rest)

/-- One value with blanks in front, holding containers at most `depth` deep. -/
def value : Nat → List Char → Outcome
  | depth, cs =>
    match skipSpaces cs, depth with
    | '[' :: rest, depth + 1 => array (value depth) rest
    | '{' :: rest, depth + 1 => object (value depth) rest
    | '[' :: rest, 0 => buried ('[' :: rest)
    | '{' :: rest, 0 => buried ('{' :: rest)
    | cs, _ => leaf cs

end Parser

/-- The transcript of a text, and whether nothing but blanks follows it. -/
def Transcript.ofText (text : String) : Transcript × Bool :=
  match Parser.value maxDepth text.toList with
  | (t, some rest) => (t, (Parser.skipSpaces rest).isEmpty)
  | (t, none) => (t, false)

/-- The value that a whole text holds. -/
def parse? (text : String) : Option Json :=
  match Transcript.ofText text with
  | (t, true) => t.toJson?
  | (_, false) => none

end StateWeave.Json
