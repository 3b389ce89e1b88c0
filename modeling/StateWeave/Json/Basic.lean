import StateWeave.Dict

/-!
# JSON values

A value keeps the entries of an object in the order in which they were written,
repeated names included, so a reader can tell which fault comes first. Numbers
written as plain integers are integers of any size; every other number is kept
as its text, because no part of this library accepts one.
-/

namespace StateWeave

inductive Json where
  | null
  | bool (value : Bool)
  | int (value : Int)
  | decimal (text : String)
  | str (text : String)
  | arr (items : List Json)
  | obj (entries : List (String × Json))
  deriving Inhabited

namespace Json

mutual

/-- The same content with each object's entries in key order and, of several
entries with one name, the last. -/
def normalized : Json → Json
  | .arr items => .arr (normalizedItems items)
  | .obj entries => .obj (Dict.ofList (normalizedEntries entries))
  | json => json

def normalizedItems : List Json → List Json
  | [] => []
  | item :: rest => normalized item :: normalizedItems rest

def normalizedEntries : List (String × Json) → List (String × Json)
  | [] => []
  | (name, value) :: rest => (name, normalized value) :: normalizedEntries rest

end

/-- The entry of a name, with a missing entry and a non-object alike giving `none`. -/
def get? (json : Json) (name : String) : Option Json :=
  match json with
  | .obj entries => Dict.find? name entries
  | _ => none

/-- The written form of one case of a sum: its tag alone, as a text. -/
def tag (name : String) : Json := .str name

/-- The written form of a case that carries something. -/
def tagged (name : String) (payload : Json) : Json := .obj [(name, payload)]

end Json

/-- Types with one written form in JSON. -/
class ToJson (α : Type) where
  toJson : α → Json

export ToJson (toJson)

instance : ToJson Json := ⟨id⟩
instance : ToJson Bool := ⟨.bool⟩
instance : ToJson String := ⟨.str⟩
instance : ToJson Nat := ⟨fun n => .int n⟩
instance : ToJson UInt32 := ⟨fun n => .int n.toNat⟩
instance : ToJson Int64 := ⟨fun n => .int n.toInt⟩

instance {α : Type} [ToJson α] : ToJson (List α) := ⟨fun items => .arr (items.map toJson)⟩

/-- A missing value is written as `null`. -/
instance {α : Type} [ToJson α] : ToJson (Option α) where
  toJson
    | none => .null
    | some value => toJson value

end StateWeave
