import StateWeave.Json.Decode
import StateWeave.Value.Basic

/-!
# JSON forms of values

A case is a pair of its name and its payload. Of a record's fields with one name
the last one counts.
-/

namespace StateWeave

open Json (OfJson Decoder DecodeError Fields Medium Transcript decode)
open Json.Case (bare carrying)

namespace Value

mutual

def toJsonForm : Value → Json
  | .unit => .tag "Unit"
  | .int value => .tagged "Int" (toJson value)
  | .text value => .tagged "Text" (toJson value)
  | .record fields => .tagged "Record" (.obj (fieldForms fields))
  | .case name payload => .tagged "Case" (.arr [toJson name, toJsonForm payload])
  | .optional inner => .tagged "Optional" (optionForm inner)
  | .presented inner => .tagged "Presented" (toJsonForm inner)
  | .keyed id value => .tagged "Keyed" (.obj [("id", toJson id), ("value", toJsonForm value)])

def optionForm : Option Value → Json
  | none => .null
  | some value => toJsonForm value

def fieldForms : List (String × Value) → List (String × Json)
  | [] => []
  | (name, value) :: rest => (name, toJsonForm value) :: fieldForms rest

end

/-- Fields of a record, read one by one. -/
def decodeFields (read : Decoder Value) (medium : Medium) :
    List (String × Transcript) → Except DecodeError (List (String × Value))
  | [] => .ok []
  | (name, t) :: rest => do
    let value ← read medium t
    let others ← decodeFields read medium rest
    return (name, value) :: others

/-- Entries may come in any order, and of one name the last counts. -/
def decodeRecord (read : Decoder Value) : Decoder Value
  | medium, .obj entries ending => do
    let fields ← decodeFields read medium entries
    if ending = .closed then return .record (Dict.ofList fields) else .error .malformed
  | _, t => .error t.fault

/-- Read a value of at most so many levels. -/
def decodeWithin : Nat → Decoder Value
  | 0 => fun _ _ => .error .mismatch
  | depth + 1 =>
    let read := decodeWithin depth
    Decoder.sum [
      bare "Unit" unit,
      carrying "Int" (Decoder.map int decode),
      carrying "Text" (Decoder.map text decode),
      carrying "Record" (decodeRecord read),
      carrying "Case" (Decoder.map (fun (name, payload) => case name payload)
        (Decoder.pair decode read)),
      carrying "Optional" (Decoder.map optional (Decoder.option read)),
      carrying "Presented" (Decoder.map presented read),
      carrying "Keyed" (keyed <$> Fields.required "id" decode
        <*> Fields.required "value" read : Fields _).payloadDecoder]

end Value

instance : ToJson Value := ⟨Value.toJsonForm⟩
instance : OfJson Value := ⟨fun medium t => Value.decodeWithin (t.depth + 1) medium t⟩

end StateWeave
