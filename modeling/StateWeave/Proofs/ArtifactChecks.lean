import StateWeave.Proofs.ArtifactCodecs

/-!
# Which artifacts are accepted

An artifact is checked when it is read, be it from a text or from bytes. An error among its
declarations asks for an error among its diagnostics, but only the artifact's own declarations are
looked at: an error that stands in a nested module asks for nothing. `load_accepts_iff` says which
artifacts pass, and which of them pass only because their errors are nested.
-/

namespace StateWeave

/-- An error stands among declarations, or in a module among them, at any depth. -/
inductive Declaration.HasError : List Declaration → Prop
  | here {ds : List Declaration} {d : Declaration} : d ∈ ds → d.isError = true → HasError ds
  | inside {ds : List Declaration} {m : NestedModule} :
      .nested m ∈ ds → HasError m.declarations → HasError ds

namespace Artifact

variable {a : Artifact}

/-- There is an error among the diagnostics, or none among the declarations at whatever depth. -/
def IsHonest (a : Artifact) : Prop :=
  a.hasErrors = true ∨ ¬Declaration.HasError a.declarations

/-- There are errors, all of them in nested modules, and no diagnostic tells of one. -/
structure HidesErrors (a : Artifact) : Prop where
  silent : a.hasErrors = false
  above : ∀ d ∈ a.declarations, d.isError = false
  below : Declaration.HasError a.declarations

/-- What comes of loading an artifact from a text or from bytes that it is read from. Bytes may go
on behind it. -/
inductive LoadsAs (a : Artifact) : Except LoadError Artifact → Prop
  | text {text : String} :
      (Json.decodeText text : Except Json.DecodeError Artifact) = .ok a → LoadsAs a (ofText text)
  | bytes {bytes rest : Bytes} :
      (get : Bytes.Reader Artifact) bytes = some (a, rest) → LoadsAs a (ofBytes bytes)

theorem loadsAs_toText (fit : SlotsFit a.calls)
    (within : (Json.Transcript.ofJson (toJson a)).depth ≤ Json.maxDepth) :
    a.LoadsAs (ofText a.toText) :=
  .text ((Artifact.restores fit).decodeText_pretty within)

theorem loadsAs_toBytes (fit : SlotsFit a.calls) (short : a.toBytes.length < UInt64.size) :
    a.LoadsAs (ofBytes a.toBytes) := by
  have read := Artifact.readsBack fit short []
  rw [List.append_nil] at read
  exact .bytes read

/-- Once it is read, only the checks decide about an artifact. -/
theorem LoadsAs.eq_validate {result : Except LoadError Artifact} (loaded : a.LoadsAs result) :
    result = a.validate := by
  cases loaded with
  | text read => rw [ofText, read]
  | bytes read => rw [ofBytes, read]

theorem validate_eq_error (supported : a.version = supportedVersion) (named : a.module ≠ "")
    (errors : ∃ d ∈ a.declarations, d.isError = true) (silent : a.hasErrors = false) :
    a.validate = .error (.unreportedErrors a.module a.errorCount) := by
  have counted : 0 < a.errorCount := List.countP_pos_iff.mpr errors
  rw [validate, if_neg (not_not_intro supported), if_neg named, if_pos ⟨counted, silent⟩]

/-- Looking at an artifact's own declarations lets through what is honest, and what hides its
errors. -/
theorem isHonest_or_hidesErrors_iff :
    a.IsHonest ∨ a.HidesErrors ↔
      ((∃ d ∈ a.declarations, d.isError = true) → a.hasErrors = true) := by
  constructor
  · rintro ((reported | clean) | hides) ⟨d, member, error⟩
    · exact reported
    · exact absurd (.here member error) clean
    · rw [hides.above d member] at error
      cases error
  · intro reported
    by_cases honest : a.IsHonest
    · exact Or.inl honest
    · obtain ⟨unreported, below⟩ := not_or.mp honest
      refine Or.inr ⟨Bool.eq_false_iff.mpr unreported, ?_, Classical.not_not.mp below⟩
      intro d member
      apply Bool.eq_false_iff.mpr
      intro error
      exact unreported (reported ⟨d, member, error⟩)

/-- Loading succeeds for artifacts that report their errors, whatever the depth of these, and it
succeeds also for artifacts that report none of their errors because all of them are in nested
modules. Every other artifact is refused with the count of the errors among its own
declarations. -/
theorem load_accepts_iff {a : Artifact} (supported : a.version = supportedVersion)
    (named : a.module ≠ "") {result : Except LoadError Artifact} (loaded : a.LoadsAs result) :
    ((∃ b, result = .ok b) ↔ a.IsHonest ∨ a.HidesErrors) ∧
      (result = .ok a ∨ result = .error (.unreportedErrors a.module a.errorCount)) := by
  rw [loaded.eq_validate, isHonest_or_hidesErrors_iff]
  by_cases reported : (∃ d ∈ a.declarations, d.isError = true) → a.hasErrors = true
  · have accepted : a.validate = .ok a := by
      refine validate_eq_ok supported named fun errors => ?_
      exact List.any_eq_true.mp (reported errors)
    refine ⟨⟨fun _ => reported, fun _ => ⟨a, accepted⟩⟩, Or.inl accepted⟩
  · obtain ⟨errors, unreported⟩ := Classical.not_imp.mp reported
    have refused := validate_eq_error supported named errors (Bool.eq_false_iff.mpr unreported)
    refine ⟨⟨?_, fun other => absurd other reported⟩, Or.inr refused⟩
    rintro ⟨b, accepted⟩
    rw [refused] at accepted
    cases accepted

/-- An artifact with an error two levels down that no diagnostic tells of. -/
def folded : Artifact where
  version := 1
  id := "7f"
  createdAt := ⟨⟨2025, 2, 3⟩, 17, 28, 39, 0, by decide, by decide, by decide, by decide, by decide⟩
  module := "Feature"
  declarations :=
    [.nested ⟨.hidden, "Sheet", .destination "sheet" "Feature",
      [.nested ⟨.hidden, "Steps", .stack "steps" "Sheet", [.error "never resolved"]⟩]⟩]
  diagnostics := []

theorem load_accepts_iff_folded :
    (folded.version = supportedVersion ∧ folded.module ≠ "" ∧
        folded.LoadsAs (ofText folded.toText) ∧ folded.LoadsAs (ofBytes folded.toBytes)) ∧
      ¬folded.IsHonest ∧ (∃ b, ofText folded.toText = .ok b) ∧
        ∃ b, ofBytes folded.toBytes = .ok b := by
  have supported : folded.version = supportedVersion := rfl
  have named : folded.module ≠ "" := by decide
  have fit : SlotsFit folded.calls := fun _ member => nomatch member
  have text := loadsAs_toText fit (by decide +kernel)
  have bytes := loadsAs_toBytes fit (by decide +kernel)
  have hides : folded.HidesErrors := by
    refine ⟨rfl, by decide, ?_⟩
    exact .inside List.mem_cons_self
      (.inside List.mem_cons_self (.here List.mem_cons_self rfl))
  have dishonest : ¬folded.IsHonest := by
    rintro (reported | clean)
    · cases reported
    · exact clean hides.below
  exact ⟨⟨supported, named, text, bytes⟩, dishonest,
    (load_accepts_iff supported named text).1.mpr (Or.inr hides),
    (load_accepts_iff supported named bytes).1.mpr (Or.inr hides)⟩

end Artifact

end StateWeave
