import StateWeave.Json.Basic

/-!
# Transcripts of JSON text

A text that is meant to be JSON may stop being JSON somewhere. Its transcript keeps
what it says up to that point, so that whoever reads it can name the first thing
that is wrong, be it the notation or the content. Text that is JSON throughout has
a transcript without any damage, and only such a transcript is a value:
`toJson?_ofJson` says that values and their transcripts correspond.
-/

namespace StateWeave.Json

/-- How the entries of an object end. -/
inductive Ending where
  /-- With the closing brace. -/
  | closed
  /-- With the closing brace as well, but the entries from some name on are left
  out, because that name stands for no text. -/
  | garbled
  /-- The notation breaks before the closing brace. -/
  | broken
  deriving DecidableEq, Repr

/-- Whether the closing brace is there. -/
def Ending.isWhole : Ending → Bool
  | .closed | .garbled => true
  | .broken => false

/-- What a text says, as far as it is JSON. An array whose notation breaks between
two items, or before its closing bracket, has a broken item at its end. -/
inductive Transcript where
  | null
  | bool (value : Bool)
  | int (value : Int)
  | decimal (text : String)
  | str (text : String)
  | arr (items : List Transcript)
  | obj (entries : List (String × Transcript)) (ending : Ending)
  /-- Correct notation that stands for no value: a text with half of a surrogate
  pair, a number beyond all bounds, or containers nested too deep. It can be passed
  over but not read. -/
  | garbled
  /-- The notation breaks here. -/
  | broken
  deriving Inhabited

namespace Transcript

mutual

/-- Whether the notation is correct to the end, so that the rest of the text can be
read even if this part of it is not. -/
def isWhole : Transcript → Bool
  | .arr items => areWhole items
  | .obj entries ending => ending.isWhole && entriesAreWhole entries
  | .broken => false
  | _ => true

def areWhole : List Transcript → Bool
  | [] => true
  | item :: rest => isWhole item && areWhole rest

def entriesAreWhole : List (String × Transcript) → Bool
  | [] => true
  | (_, value) :: rest => isWhole value && entriesAreWhole rest

end

mutual

/-- How many containers lie on the longest way down to a leaf. -/
def depth : Transcript → Nat
  | .arr items => depthItems items + 1
  | .obj entries _ => depthEntries entries + 1
  | _ => 0

def depthItems : List Transcript → Nat
  | [] => 0
  | item :: rest => max (depth item) (depthItems rest)

def depthEntries : List (String × Transcript) → Nat
  | [] => 0
  | (_, value) :: rest => max (depth value) (depthEntries rest)

end

mutual

/-- The transcript of a text that is a value throughout. -/
def ofJson : Json → Transcript
  | .null => .null
  | .bool value => .bool value
  | .int value => .int value
  | .decimal text => .decimal text
  | .str text => .str text
  | .arr items => .arr (ofItems items)
  | .obj entries => .obj (ofEntries entries) .closed

def ofItems : List Json → List Transcript
  | [] => []
  | item :: rest => ofJson item :: ofItems rest

def ofEntries : List (String × Json) → List (String × Transcript)
  | [] => []
  | (name, value) :: rest => (name, ofJson value) :: ofEntries rest

end

mutual

/-- The value that an undamaged transcript stands for. -/
def toJson? : Transcript → Option Json
  | .null => some .null
  | .bool value => some (.bool value)
  | .int value => some (.int value)
  | .decimal text => some (.decimal text)
  | .str text => some (.str text)
  | .arr items => (itemsToJson? items).map .arr
  | .obj entries .closed => (entriesToJson? entries).map .obj
  | .obj _ _ => none
  | .garbled => none
  | .broken => none

def itemsToJson? : List Transcript → Option (List Json)
  | [] => some []
  | item :: rest =>
    match toJson? item, itemsToJson? rest with
    | some item, some rest => some (item :: rest)
    | _, _ => none

def entriesToJson? : List (String × Transcript) → Option (List (String × Json))
  | [] => some []
  | (name, value) :: rest =>
    match toJson? value, entriesToJson? rest with
    | some value, some rest => some ((name, value) :: rest)
    | _, _ => none

end

mutual

@[simp] theorem toJson?_ofJson : ∀ json : Json, (ofJson json).toJson? = some json
  | .null => rfl
  | .bool _ => rfl
  | .int _ => rfl
  | .decimal _ => rfl
  | .str _ => rfl
  | .arr items => by simp [ofJson, toJson?, itemsToJson?_ofItems items]
  | .obj entries => by simp [ofJson, toJson?, entriesToJson?_ofEntries entries]

theorem itemsToJson?_ofItems : ∀ items : List Json, itemsToJson? (ofItems items) = some items
  | [] => rfl
  | item :: rest => by
    simp [ofItems, itemsToJson?, toJson?_ofJson item, itemsToJson?_ofItems rest]

theorem entriesToJson?_ofEntries :
    ∀ entries : List (String × Json), entriesToJson? (ofEntries entries) = some entries
  | [] => rfl
  | (_, value) :: rest => by
    simp [ofEntries, entriesToJson?, toJson?_ofJson value, entriesToJson?_ofEntries rest]

end

end Transcript

end StateWeave.Json
