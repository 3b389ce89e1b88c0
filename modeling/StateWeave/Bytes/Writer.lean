/-!
# Writing binary records

Records are written field after field with no padding: words in little-endian
order, lengths and counts as eight bytes, texts as their length and UTF-8 bytes,
lists as their length and elements, missing values as one zero byte, and cases
of a sum as their four-byte position followed by what they carry.
-/

namespace StateWeave

/-- Bytes in the order in which they are stored. -/
abbrev Bytes := List UInt8

namespace Bytes

/-- The lowest `width` bytes of a number, lowest first. -/
def littleEndian : Nat → Nat → Bytes
  | 0, _ => []
  | width + 1, n => UInt8.ofNat n :: littleEndian width (n / 256)

@[simp] theorem length_littleEndian (width n : Nat) :
    (littleEndian width n).length = width := by
  induction width generalizing n with
  | zero => rfl
  | succ width ih => simp [littleEndian, ih]

def putWord32 (n : UInt32) : Bytes := littleEndian 4 n.toNat

/-- Lengths and counts; only the lowest 64 bits are kept. -/
def putCount (n : Nat) : Bytes := littleEndian 8 n

def putBool (b : Bool) : Bytes := [if b then 1 else 0]

/-- The length of a text counts its bytes, not its characters. -/
def putText (text : String) : Bytes :=
  putCount text.utf8ByteSize ++ text.toUTF8.data.toList

/-- The tag of a case is its position in the declaration. -/
def putTag (position : Nat) : Bytes := littleEndian 4 position

variable {α : Type}

def putOption (put : α → Bytes) : Option α → Bytes
  | none => [0]
  | some value => 1 :: put value

def putList (put : α → Bytes) (items : List α) : Bytes :=
  putCount items.length ++ items.flatMap put

end Bytes

/-- Types with one binary form. -/
class ToBytes (α : Type) where
  put : α → Bytes

export ToBytes (put)

instance : ToBytes Bool := ⟨Bytes.putBool⟩
instance : ToBytes String := ⟨Bytes.putText⟩
instance : ToBytes UInt32 := ⟨Bytes.putWord32⟩
instance : ToBytes Nat := ⟨Bytes.putCount⟩
instance {α : Type} [ToBytes α] : ToBytes (Option α) := ⟨Bytes.putOption put⟩
instance {α : Type} [ToBytes α] : ToBytes (List α) := ⟨Bytes.putList put⟩

end StateWeave
