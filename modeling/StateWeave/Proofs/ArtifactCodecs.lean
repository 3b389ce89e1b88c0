import StateWeave.Proofs.ArtifactBytes
import StateWeave.Proofs.ArtifactForms

/-!
# What is loaded is what was stored

An artifact that is written, as text or as bytes, and read again comes back as it was, and then
only its checks decide whether it is accepted. The parser of texts keeps containers down to a
certain depth, and a count of bytes is a number of 64 bits; a text or an array of bytes within
these limits loses nothing.
-/

namespace StateWeave.Artifact

open Json (Transcript)

variable {a : Artifact}

/-- The text of an artifact reads as the artifact, which then has to pass its checks. -/
theorem ofText_toText (fit : SlotsFit a.calls)
    (within : (Transcript.ofJson (toJson a)).depth ≤ Json.maxDepth) :
    ofText a.toText = a.validate := by
  have read : (Json.decodeText a.toText : Except Json.DecodeError Artifact) = .ok a :=
    (Artifact.restores fit).decodeText_pretty within
  rw [ofText, read]

/-- The bytes of an artifact read as the artifact, which then has to pass its checks. -/
theorem ofBytes_toBytes (fit : SlotsFit a.calls) (short : a.toBytes.length < UInt64.size) :
    ofBytes a.toBytes = a.validate := by
  have read := Artifact.readsBack fit short []
  rw [List.append_nil] at read
  change (get : Bytes.Reader Artifact) a.toBytes = some (a, []) at read
  rw [ofBytes, read]

theorem validate_eq_ok (supported : a.version = supportedVersion) (named : a.module ≠ "")
    (reported : (∃ d ∈ a.declarations, d.isError = true) →
      ∃ d ∈ a.diagnostics, d.isError = true) :
    a.validate = .ok a := by
  have silent : ¬ (0 < a.errorCount ∧ a.hasErrors = false) := by
    rintro ⟨some, none⟩
    have error : a.hasErrors = true := List.any_eq_true.mpr (reported (List.countP_pos_iff.mp some))
    rw [error] at none
    cases none
  rw [validate, if_neg (not_not_intro supported), if_neg named, if_neg silent]

/-- Both ways of storing an artifact lose nothing of it: not its declarations however deep they
are nested, not its diagnostics, and no character of a text. Of its errors only those among its own
declarations need a diagnostic. -/
theorem load_stored (a : Artifact) (supported : a.version = supportedVersion)
    (named : a.module ≠ "")
    (reported : (∃ d ∈ a.declarations, d.isError = true) →
      ∃ d ∈ a.diagnostics, d.isError = true)
    (fit : SlotsFit a.calls) :
    ((Transcript.ofJson (toJson a)).depth ≤ Json.maxDepth → ofText a.toText = .ok a) ∧
      (a.toBytes.length < UInt64.size → ofBytes a.toBytes = .ok a) := by
  have accepted := validate_eq_ok supported named reported
  constructor
  · intro within
    rw [ofText_toText fit within, accepted]
  · intro short
    rw [ofBytes_toBytes fit short, accepted]

/-- An artifact with a nested module, errors at two levels, a slot and a text that is escaped. -/
def sheets : Artifact where
  version := 1
  id := "7f"
  createdAt := ⟨⟨2024, 5, 6⟩, 7, 8, 9, 250000000, by decide, by decide, by decide, by decide,
    by decide⟩
  module := "Sheets"
  declarations :=
    [.nested ⟨.package, "Sheet", .destination "Sheet" "Sheets", [.error "no children"]⟩,
      .pipeline ⟨.hidden, [.fragment ⟨"open", [⟨"state", true⟩], true, .placeholder 1, ⟨3, 5⟩⟩]⟩,
      .error "no body"]
  diagnostics := [⟨.error, .structural, "a \"quote\"\n", ⟨3, 5⟩, [], some ⟨"rename", ⟨4, 1⟩⟩⟩]

theorem load_stored_sheets :
    (sheets.version = supportedVersion ∧ sheets.module ≠ "" ∧ SlotsFit sheets.calls) ∧
      ofText sheets.toText = .ok sheets ∧ ofBytes sheets.toBytes = .ok sheets := by
  have supported : sheets.version = supportedVersion := rfl
  have named : sheets.module ≠ "" := by decide
  have fit : SlotsFit sheets.calls := by
    intro f member
    cases member with
    | head =>
        intro slot waits
        cases waits
        decide
    | tail _ none => cases none
  have stored := load_stored sheets supported named
    (fun _ => ⟨_, List.mem_cons_self, rfl⟩) fit
  exact ⟨⟨supported, named, fit⟩, stored.1 (by decide +kernel), stored.2 (by decide +kernel)⟩

end StateWeave.Artifact
