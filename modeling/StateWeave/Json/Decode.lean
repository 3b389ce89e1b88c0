import StateWeave.Json.Parser

/-!
# Reading typed values from JSON

A decoder turns a transcript into a typed value or names the first fault. Records and
sums have one reading each:

* a record is an object whose entries may come in any order and may have unknown
  companions, or a bare array with the fields in declaration order;
* a case of a sum is its tag as a text when it carries nothing, and an object of
  exactly one entry otherwise.

Among several faults in one record the one met first while reading wins. A field
that is missing is found out only at the end, after every entry that is there
has been read, and missing fields come in declaration order.

A text is read from front to back, and a value is there as a whole before its
reading starts. This makes a difference in a few places, which `Medium` decides.
-/

namespace StateWeave.Json

/-- What is read: a text, while its notation is being checked, or a value.

* The first entry of an object that is a case of a sum is read before it is known
  whether there are others; of a value this is known at once.
* A case with named fields may be written as an array in a text only.
* What can be no case of any sum, and items that are left over behind a record,
  count as bad notation in a text and as bad content in a value. -/
inductive Medium where
  | text
  | value
  deriving DecidableEq, Repr

/-- What can be wrong with what is read. -/
inductive DecodeError where
  /-- The notation is wrong. -/
  | malformed
  /-- The content is of another kind than it has to be. -/
  | mismatch
  | missingField (name : String)
  | unknownVariant (found : String) (known : List String)
  | duplicateField (name : String)
  deriving DecidableEq, Repr

namespace DecodeError

private def backticked (name : String) : String := "`" ++ name ++ "`"

/-- The expectation names every known variant, in declaration order. -/
def expectation : List String → String
  | [] => "there are no variants"
  | [only] => "expected " ++ backticked only
  | [one, other] => "expected " ++ backticked one ++ " or " ++ backticked other
  | names => "expected one of " ++ ", ".intercalate (names.map backticked)

/-- Only faults that name something have a text. -/
def message? : DecodeError → Option String
  | malformed => none
  | mismatch => none
  | missingField name => some ("missing field " ++ backticked name)
  | unknownVariant found known =>
    some ("unknown variant " ++ backticked found ++ ", " ++ expectation known)
  | duplicateField name => some ("duplicate field " ++ backticked name)

end DecodeError

/-- What is wrong with a transcript where something of another kind is expected. -/
def Transcript.fault : Transcript → DecodeError
  | .garbled => .malformed
  | .broken => .malformed
  | _ => .mismatch

/-- Reads a typed value off a transcript, or names the first fault. -/
abbrev Decoder (α : Type) := Medium → Transcript → Except DecodeError α

namespace Decoder

def text : Decoder String
  | _, .str text => .ok text
  | _, t => .error t.fault

def bool : Decoder Bool
  | _, .bool value => .ok value
  | _, t => .error t.fault

/-- Integers below a bound; numbers in any other notation do not count. -/
def natBelow (bound : Nat) : Decoder Nat
  | _, .int value => if 0 ≤ value ∧ value < bound then .ok value.toNat else .error .mismatch
  | _, t => .error t.fault

def word32 : Decoder UInt32 := fun medium t => (natBelow UInt32.size medium t).map UInt32.ofNat

/-- Counts are limited to 64 bits when they are read. -/
def count : Decoder Nat := natBelow UInt64.size

def int64 : Decoder Int64
  | _, .int value =>
    if Int64.minValue.toInt ≤ value ∧ value ≤ Int64.maxValue.toInt then .ok (Int64.ofInt value)
    else .error .mismatch
  | _, t => .error t.fault

variable {α β : Type}

/-- All items have to be in order; the first that is not counts. -/
def items (read : Decoder α) (medium : Medium) : List Transcript → Except DecodeError (List α)
  | [] => .ok []
  | t :: rest => do
    let item ← read medium t
    let others ← items read medium rest
    return item :: others

def list (read : Decoder α) : Decoder (List α)
  | medium, .arr ts => items read medium ts
  | _, t => .error t.fault

/-- `null` stands for a missing value. -/
def option (read : Decoder α) : Decoder (Option α)
  | _, .null => .ok none
  | medium, t => (read medium t).map some

/-- An array of two. Both parts are read before their number is judged. -/
def pair (first : Decoder α) (second : Decoder β) : Decoder (α × β)
  | medium, .arr ts =>
    match ts with
    | [] => .error .mismatch
    | [t] => (first medium t).bind fun _ => .error .mismatch
    | t :: u :: rest => do
      let a ← first medium t
      let b ← second medium u
      if rest.isEmpty then return (a, b)
      else .error (match medium with | .text => .malformed | .value => .mismatch)
  | _, t => .error t.fault

def map (f : α → β) (read : Decoder α) : Decoder β := fun medium t => (read medium t).map f

end Decoder

/-- A fault and its place in reading order. -/
structure Fault where
  place : Nat
  error : DecodeError

/-- The contents of a record: named entries in the order written, or bare items
in declaration order. -/
inductive Row where
  | named (entries : List (String × Transcript))
  | listed (items : List Transcript)

/-- A reader of some consecutive fields of a record. `names` lists them, and `run` is
told how many fields are declared before its own. -/
structure Fields (α : Type) where
  names : List String
  run : Medium → Nat → Row → Except Fault α

namespace Fields

variable {α β : Type}

def pure (value : α) : Fields α := ⟨[], fun _ _ _ => .ok value⟩

/-- Read two groups of fields; if both have a fault, the earlier one counts. -/
def seq (first : Fields (α → β)) (second : Fields α) : Fields β where
  names := first.names ++ second.names
  run medium start row :=
    match first.run medium start row, second.run medium (start + first.names.length) row with
    | .ok f, .ok value => .ok (f value)
    | .error fault, .ok _ => .error fault
    | .ok _, .error fault => .error fault
    | .error fault, .error other => .error (if other.place < fault.place then other else fault)

instance : Applicative Fields where
  pure := pure
  seq first second := seq first (second ())

/-- Where the entries of one name stand among all entries. -/
def occurrences (name : String) (entries : List (String × Transcript)) : List (Nat × Transcript) :=
  entries.zipIdx.filterMap fun ((key, value), place) =>
    if key = name then some (place, value) else none

/-- Read a named entry. A second entry of the same name is a fault at its own place,
whatever its value; with no entry at all, `absent` decides after the end of the object. -/
def readNamed (name : String) (read : Transcript → Except DecodeError α)
    (absent : Except DecodeError α) (declared : Nat) (entries : List (String × Transcript)) :
    Except Fault α :=
  match occurrences name entries with
  | [] => absent.mapError (⟨entries.length + 1 + declared, ·⟩)
  | [(place, t)] => (read t).mapError (⟨place, ·⟩)
  | (place, t) :: (again, _) :: _ =>
    match read t with
    | .ok _ => .error ⟨again, .duplicateField name⟩
    | .error error => .error ⟨place, error⟩

/-- Read a field by its place among bare items. -/
def readListed (read : Transcript → Except DecodeError α) (absent : Except DecodeError α)
    (declared : Nat) (items : List Transcript) : Except Fault α :=
  match items[declared]? with
  | some t => (read t).mapError (⟨declared, ·⟩)
  | none => absent.mapError (⟨declared, ·⟩)

/-- One field, with what holds if an object lacks it and if an array is too short. -/
def field (name : String) (read : Decoder α) (unnamed unlisted : Except DecodeError α) :
    Fields α where
  names := [name]
  run
    | medium, declared, .named entries => readNamed name (read medium) unnamed declared entries
    | medium, declared, .listed items => readListed (read medium) unlisted declared items

/-- A field that has to be there in either form. -/
def required (name : String) (read : Decoder α) : Fields α :=
  field name read (.error (.missingField name)) (.error .mismatch)

/-- A field that may be missing from an object or hold `null`; an array has to
hold something at its place. -/
def optional (name : String) (read : Decoder α) : Fields (Option α) :=
  field name (Decoder.option read) (.ok none) (.error .mismatch)

/-- A field that may be missing altogether, though not `null`. -/
def withDefault (name : String) (read : Decoder α) (value : α) : Fields α :=
  field name read (.ok value) (.ok value)

/-- Where the notation of an object fails outside of its known entries: at the first
unknown entry that cannot be passed over, or at the end. -/
def strayFault? (known : List String) (entries : List (String × Transcript)) (ending : Ending) :
    Option Nat :=
  let unknown := entries.zipIdx.find? fun ((name, value), _) =>
    !known.contains name && !value.isWhole
  match unknown with
  | some (_, place) => some place
  | none => if ending = .closed then none else some entries.length

/-- Of a fault in the fields and one in the notation around them the earlier counts. -/
def readObject (fields : Fields α) (medium : Medium) (entries : List (String × Transcript))
    (ending : Ending) : Except DecodeError α :=
  match fields.run medium 0 (.named entries), strayFault? fields.names entries ending with
  | .ok value, none => .ok value
  | .ok _, some _ => .error .malformed
  | .error fault, none => .error fault.error
  | .error fault, some place => .error (if place < fault.place then .malformed else fault.error)

/-- Items beyond the last field are a fault, which is met after all of them. -/
def readArray (fields : Fields α) (medium : Medium) (items : List Transcript) :
    Except DecodeError α :=
  match fields.run medium 0 (.listed items) with
  | .error fault => .error fault.error
  | .ok value =>
    if items.length ≤ fields.names.length then .ok value
    else .error (match medium with | .text => .malformed | .value => .mismatch)

/-- A record in either form. -/
def decoder (fields : Fields α) : Decoder α
  | medium, .obj entries ending => fields.readObject medium entries ending
  | medium, .arr items => fields.readArray medium items
  | _, t => .error t.fault

/-- The record of a case with named fields. -/
def payloadDecoder (fields : Fields α) : Decoder α
  | .value, .arr _ => .error .mismatch
  | medium, t => fields.decoder medium t

end Fields

/-- One case of a sum: a bare tag, or a tag with a reader of what it carries. -/
inductive Case (α : Type) where
  | bare (name : String) (value : α)
  | carrying (name : String) (read : Decoder α)

namespace Case

variable {α : Type}

def name : Case α → String
  | bare name _ => name
  | carrying name _ => name

/-- A bare case may be spelled out with a `null` payload. -/
def readPayload : Case α → Decoder α
  | bare _ value, _, .null => .ok value
  | bare _ _, _, t => .error t.fault
  | carrying _ read, medium, t => read medium t

/-- What a tag alone gives, which is nothing for a case that carries something. -/
def readTag : Case α → Except DecodeError α
  | bare _ value => .ok value
  | carrying _ _ => .error .mismatch

/-- The case of a name; an unknown name is answered with the list of the known ones. -/
def named (cases : List (Case α)) (name : String) : Except DecodeError (Case α) :=
  match cases.find? (·.name = name) with
  | some case => .ok case
  | none => .error (.unknownVariant name (cases.map Case.name))

end Case

/-- Read one of `cases`. -/
def Decoder.sum {α : Type} (cases : List (Case α)) : Decoder α
  | _, .str name => do (← Case.named cases name).readTag
  | .value, .obj [(name, payload)] .closed => do
    (← Case.named cases name).readPayload .value payload
  | .text, .obj ((name, payload) :: others) ending => do
    let value ← (← Case.named cases name).readPayload .text payload
    if others.isEmpty && ending = .closed then return value else .error .malformed
  | .text, _ => .error .malformed
  | .value, t => .error t.fault

/-- Types that can be read from JSON. -/
class OfJson (α : Type) where
  decode : Decoder α

export OfJson (decode)

instance : OfJson Bool := ⟨Decoder.bool⟩
instance : OfJson String := ⟨Decoder.text⟩
instance : OfJson Nat := ⟨Decoder.count⟩
instance : OfJson UInt32 := ⟨Decoder.word32⟩
instance : OfJson Int64 := ⟨Decoder.int64⟩
instance {α : Type} [OfJson α] : OfJson (List α) := ⟨Decoder.list decode⟩
instance {α : Type} [OfJson α] : OfJson (Option α) := ⟨Decoder.option decode⟩
instance {α β : Type} [OfJson α] [OfJson β] : OfJson (α × β) := ⟨Decoder.pair decode decode⟩

/-- Read a value. -/
def decodeValue {α : Type} [OfJson α] (json : Json) : Except DecodeError α :=
  decode .value (Transcript.ofJson json)

/-- Read a text. What follows the value is looked at last. -/
def decodeText {α : Type} [OfJson α] (text : String) : Except DecodeError α :=
  let (t, complete) := Transcript.ofText text
  match (decode .text t : Except DecodeError α) with
  | .error error => .error error
  | .ok value => if complete then .ok value else .error .malformed

end StateWeave.Json
