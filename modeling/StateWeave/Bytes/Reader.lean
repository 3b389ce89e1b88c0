import StateWeave.Bytes.Writer

/-!
# Reading binary records

A reader takes a value off the front of the bytes that are left, or refuses
them: they may be too few, a flag may be neither zero nor one, a tag may name no
case, or a text may not be UTF-8. A reader never looks at what follows its value,
so records can be read one after the other.
-/

namespace StateWeave

namespace Bytes

/-- Takes a value off the front and gives the bytes behind it, or refuses. -/
abbrev Reader (α : Type) := Bytes → Option (α × Bytes)

namespace Reader

variable {α β : Type}

def pure (value : α) : Reader α := fun bytes => some (value, bytes)

/-- Read one value after another; the first refusal is final. -/
def bind (read : Reader α) (next : α → Reader β) : Reader β := fun bytes =>
  match read bytes with
  | some (value, rest) => next value rest
  | none => none

instance : Monad Reader where
  pure := pure
  bind := bind

def fail : Reader α := fun _ => none

def byte : Reader UInt8
  | [] => none
  | b :: rest => some (b, rest)

/-- A number of so many bytes, lowest first. -/
def littleEndian : Nat → Reader Nat
  | 0 => pure 0
  | width + 1 => do
    let low ← byte
    let high ← littleEndian width
    return low.toNat + 256 * high

def word32 : Reader UInt32 := do return UInt32.ofNat (← littleEndian 4)

def count : Reader Nat := littleEndian 8

def bool : Reader Bool := do
  match ← byte with
  | 0 => return false
  | 1 => return true
  | _ => fail

/-- Take so many bytes, which all have to be there. -/
def take (n : Nat) : Reader Bytes := fun bytes =>
  if n ≤ bytes.length then some (bytes.take n, bytes.drop n) else none

/-- Bytes that are not UTF-8 are refused. -/
def text : Reader String := do
  let bytes ← take (← count)
  match String.fromUTF8? ⟨bytes.toArray⟩ with
  | some text => return text
  | none => fail

def option (read : Reader α) : Reader (Option α) := do
  if ← bool then return some (← read) else return none

/-- So many values in a row. -/
def times (read : Reader α) : Nat → Reader (List α)
  | 0 => return []
  | n + 1 => do
    let item ← read
    let others ← times read n
    return item :: others

def list (read : Reader α) : Reader (List α) := do times read (← count)

/-- The reader of the case whose position comes first in the bytes. -/
def sum (cases : List (Reader α)) : Reader α := do
  match cases[← littleEndian 4]? with
  | some read => read
  | none => fail

end Reader

end Bytes

/-- Types that can be read from bytes. -/
class OfBytes (α : Type) where
  get : Bytes.Reader α

export OfBytes (get)

instance : OfBytes Bool := ⟨Bytes.Reader.bool⟩
instance : OfBytes String := ⟨Bytes.Reader.text⟩
instance : OfBytes UInt32 := ⟨Bytes.Reader.word32⟩
instance : OfBytes Nat := ⟨Bytes.Reader.count⟩
instance {α : Type} [OfBytes α] : OfBytes (Option α) := ⟨Bytes.Reader.option get⟩
instance {α : Type} [OfBytes α] : OfBytes (List α) := ⟨Bytes.Reader.list get⟩

end StateWeave
