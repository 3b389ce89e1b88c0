import StateWeave.Artifact.Basic
import StateWeave.Json.Forms.Declarations
import StateWeave.Json.Printer

/-!
# Artifacts as JSON text
-/

namespace StateWeave

open Json (OfJson Decoder DecodeError Fields decode)
open Json.Fields (required)

/-- Times are written as texts. -/
instance : ToJson Timestamp := ⟨fun t => .str t.print⟩

instance : OfJson Timestamp where
  decode medium t := do
    match Timestamp.parse? (← Decoder.text medium t) with
    | some time => return time
    | none => .error .mismatch

instance : ToJson Artifact where
  toJson a := .obj
    [("version", toJson a.version), ("id", toJson a.id), ("created_at", toJson a.createdAt),
      ("module", toJson a.module), ("declarations", toJson a.declarations),
      ("diagnostics", toJson a.diagnostics)]

instance : OfJson Artifact where
  decode := (Artifact.mk <$> required "version" decode <*> required "id" decode
    <*> required "created_at" decode <*> required "module" decode
    <*> required "declarations" decode <*> required "diagnostics" decode : Fields _).decoder

namespace Artifact

def toText (a : Artifact) : String := (toJson a).pretty

/-- Read an artifact from text and check it. -/
def ofText (text : String) : Except LoadError Artifact :=
  match (Json.decodeText text : Except DecodeError Artifact) with
  | .ok a => a.validate
  | .error error => .error (.unreadable error.message?)

end Artifact

end StateWeave
