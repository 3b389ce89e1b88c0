import StateWeave.Text.Blank

/-!
# Points in time

A timestamp is a date and a time of day in UTC to the nanosecond, a leap second
being written as second 60. Its text is the internet profile of the international
date format: `2024-05-06T07:08:09.250Z`, with as few of zero, three, six or nine
fraction digits as lose nothing.

Reading is more generous than writing. It takes any offset below a day and moves
the time to UTC, which crosses midnight at most once; it also takes single digits,
blanks before numbers and marks and at the end, a blank for the `T`, and `UTC` for
the `Z`.
-/

namespace StateWeave

namespace Calendar

def isLeap (year : Int) : Bool :=
  year % 4 == 0 && (year % 100 != 0 || year % 400 == 0)

/-- The days of a month, the first month being 1. -/
def daysIn (year : Int) (month : Nat) : Nat :=
  match month with
  | 2 => if isLeap year then 29 else 28
  | 4 | 6 | 9 | 11 => 30
  | _ => 31

def minYear : Int := -262143

def maxYear : Int := 262142

/-- A day of the proleptic calendar, inside the range of years that is kept. -/
structure Date where
  year : Int
  month : Nat
  day : Nat
  deriving DecidableEq, Repr

namespace Date

/-- There is such a day, and its year is one of those that are kept. -/
def Valid (d : Date) : Prop :=
  minYear ≤ d.year ∧ d.year ≤ maxYear ∧ 1 ≤ d.month ∧ d.month ≤ 12 ∧
    1 ≤ d.day ∧ d.day ≤ daysIn d.year d.month

instance (d : Date) : Decidable d.Valid := by
  unfold Valid
  infer_instance

def next (d : Date) : Date :=
  if d.day < daysIn d.year d.month then { d with day := d.day + 1 }
  else if d.month < 12 then { d with month := d.month + 1, day := 1 }
  else ⟨d.year + 1, 1, 1⟩

def previous (d : Date) : Date :=
  if 1 < d.day then { d with day := d.day - 1 }
  else if 1 < d.month then ⟨d.year, d.month - 1, daysIn d.year (d.month - 1)⟩
  else ⟨d.year - 1, 12, 31⟩

end Date

end Calendar

open Calendar in
/-- A date and a time of day in UTC. -/
structure Timestamp where
  date : Date
  hour : Nat
  minute : Nat
  second : Nat
  nanosecond : Nat
  date_valid : date.Valid
  hour_lt : hour < 24
  minute_lt : minute < 60
  second_le : second ≤ 60
  nanosecond_lt : nanosecond < 1000000000
  deriving DecidableEq

namespace Timestamp

open Calendar

/-- The timestamp with the given parts, if they are in range. -/
def ofParts? (date : Date) (hour minute second nanosecond : Nat) : Option Timestamp :=
  if h : date.Valid ∧ hour < 24 ∧ minute < 60 ∧ second ≤ 60 ∧ nanosecond < 1000000000 then
    some ⟨date, hour, minute, second, nanosecond, h.1, h.2.1, h.2.2.1, h.2.2.2.1, h.2.2.2.2⟩
  else none

/-- Decimal digits, filled up with zeros in front. -/
def padded (width n : Nat) : List Char :=
  let digits := Nat.toDigits 10 n
  List.replicate (width - digits.length) '0' ++ digits

/-- Years outside the four-digit range carry their sign. -/
def printYear (year : Int) : List Char :=
  if 0 ≤ year ∧ year ≤ 9999 then padded 4 year.toNat
  else (if year < 0 then '-' else '+') :: padded 4 year.natAbs

/-- As many groups of three digits as are needed. -/
def printFraction (nanosecond : Nat) : List Char :=
  if nanosecond = 0 then []
  else if nanosecond % 1000000 = 0 then '.' :: padded 3 (nanosecond / 1000000)
  else if nanosecond % 1000 = 0 then '.' :: padded 6 (nanosecond / 1000)
  else '.' :: padded 9 nanosecond

def print (t : Timestamp) : String :=
  String.ofList <|
    printYear t.date.year ++ '-' :: padded 2 t.date.month ++ '-' :: padded 2 t.date.day ++
    'T' :: padded 2 t.hour ++ ':' :: padded 2 t.minute ++ ':' :: padded 2 t.second ++
    printFraction t.nanosecond ++ ['Z']

def digitsValue (digits : List Char) : Nat :=
  digits.foldl (fun n c => n * 10 + (c.toNat - '0'.toNat)) 0

/-- A number of one to `width` digits with blanks in front. -/
def readNumber (width : Nat) (cs : List Char) : Option (Nat × List Char) :=
  let cs := Text.trimLeft cs
  let digits := (cs.take width).takeWhile Char.isDigit
  if digits.isEmpty then none else some (digitsValue digits, cs.drop digits.length)

/-- A year of up to four digits, or of any length behind a sign. -/
def readYear (cs : List Char) : Option (Int × List Char) :=
  match Text.trimLeft cs with
  | '-' :: rest => (unlimited rest).map fun (n, rest) => (-(n : Int), rest)
  | '+' :: rest => (unlimited rest).map fun (n, rest) => ((n : Int), rest)
  | cs => (readNumber 4 cs).map fun (n, rest) => ((n : Int), rest)
where
  unlimited (cs : List Char) : Option (Nat × List Char) :=
    let digits := cs.takeWhile Char.isDigit
    if digits.isEmpty then none else some (digitsValue digits, cs.drop digits.length)

/-- A separating mark with blanks in front. -/
def readMark (mark : Char) (cs : List Char) : Option (List Char) :=
  match Text.trimLeft cs with
  | c :: rest => if c = mark then some rest else none
  | [] => none

/-- Digits after the ninth do not count. -/
def readFraction : List Char → Option (Nat × List Char)
  | '.' :: rest =>
    let digits := rest.takeWhile Char.isDigit
    if digits.isEmpty then none
    else
      let kept := digits.take 9
      some (digitsValue kept * Nat.pow 10 (9 - kept.length), rest.drop digits.length)
  | rest => some (0, rest)

/-- Minutes east of UTC as two digits each for hours and minutes, with any number of
colons and blanks in between; an hour count of a day or more is refused. -/
def readSignedOffset (negative : Bool) (cs : List Char) : Option (Int × List Char) :=
  match cs with
  | h₁ :: h₂ :: rest =>
    match rest.dropWhile fun c => c = ':' || Text.isBlank c with
    | m₁ :: m₂ :: rest =>
      if [h₁, h₂, m₁, m₂].all Char.isDigit then
        let hours := digitsValue [h₁, h₂]
        let minutes := digitsValue [m₁, m₂]
        if hours < 24 ∧ minutes < 60 then
          let offset : Int := hours * 60 + minutes
          some (if negative then -offset else offset, rest)
        else none
      else none
    | _ => none
  | _ => none

def isUtcWord (u t c : Char) : Bool :=
  (u = 'U' || u = 'u') && (t = 'T' || t = 't') && (c = 'C' || c = 'c')

/-- What is left after a name of UTC. -/
def readUtcName : List Char → Option (List Char)
  | u :: t :: c :: rest =>
    if isUtcWord u t c then some rest
    else if u = 'Z' || u = 'z' then some (t :: c :: rest) else none
  | u :: rest => if u = 'Z' || u = 'z' then some rest else none
  | [] => none

/-- A name of UTC or a signed offset, with blanks in front. -/
def readOffset (cs : List Char) : Option (Int × List Char) :=
  let cs := Text.trimLeft cs
  match readUtcName cs with
  | some rest => some (0, rest)
  | none =>
    match cs with
    | c :: rest =>
      if c = '+' then readSignedOffset false rest
      else if c = '-' ∨ c = Char.ofNat 0x2212 then readSignedOffset true rest
      else none
    | [] => none

/-- Move a local time of day to UTC. -/
def toUtc (date : Date) (hour minute : Nat) (offset : Int) : Date × Nat × Nat :=
  let minutes : Int := hour * 60 + minute - offset
  let (date, minutes) :=
    if minutes < 0 then (date.previous, minutes + 1440)
    else if 1440 ≤ minutes then (date.next, minutes - 1440)
    else (date, minutes)
  (date, minutes.toNat / 60, minutes.toNat % 60)

def isDateTimeMark (c : Char) : Bool := c = 'T' || c = 't' || c = ' '

/-- A date as it is written; whether there is such a day is asked later. -/
def readDate (cs : List Char) : Option (Date × List Char) := do
  let (year, cs) ← readYear cs
  let (month, cs) ← readNumber 2 (← readMark '-' cs)
  let (day, cs) ← readNumber 2 (← readMark '-' cs)
  return (⟨year, month, day⟩, cs)

/-- The parts have to be in range before the time is moved, and so has the date
after it. -/
def parse? (text : String) : Option Timestamp := do
  let (date, cs) ← readDate text.toList
  match cs with
  | c :: cs =>
    if !isDateTimeMark c then none
    let (hour, cs) ← readNumber 2 cs
    let (minute, cs) ← readNumber 2 (← readMark ':' cs)
    let (second, cs) ← readNumber 2 (← readMark ':' cs)
    let (nanosecond, cs) ← readFraction cs
    let (offset, cs) ← readOffset cs
    if !(Text.trimLeft cs).isEmpty then none
    let here ← ofParts? date hour minute second nanosecond
    let (date, hour, minute) := toUtc date hour minute offset
    ofParts? date hour minute here.second here.nanosecond
  | [] => none

end Timestamp

end StateWeave
