import StateWeave.Proofs.DeclarationLayout
import StateWeave.Proofs.PipelineLayout
import StateWeave.Proofs.RefusedMembers

/-!
# Pipelines written by hand

A variable `body` without a directive is taken for a pipeline that the author wrote. It leaves a
mark and a warning behind. The mark is not looked at before the module's own pipeline is declared,
and so a module with such a variable has the declarations that it has without it, but for this one
pipeline, and one report more.
-/

namespace StateWeave

theorem Contribution.mark_comm_of_ne_pipeline {c : Contribution}
    (other : ∀ location, c ≠ .pipeline location) (written : HandAuthored) (location : Location) :
    { c.mark written with pipeline := some location } =
      c.mark { written with pipeline := some location } := by
  cases c with
  | pipeline location => exact absurd rfl (other location)
  | _ => rfl

/-- The warning that is left by a pipeline written by hand. -/
def Diagnostic.ofSuppressed (module : String) (location : Location) : Diagnostic :=
  (ofProblem (.generationSuppressed module) location).withFixIt
    "Delete or rename `body` to enable generation" location

namespace SymbolTable

/-- What a pipeline written by hand is to a table that is read on from there. -/
def suppression (module : String) (location : Location) (earlier : Diagnostics) : Retouch where
  written h := { h with pipeline := some location }
  earlier := earlier ++ [.ofSuppressed module location]

variable {definition : ModuleDef} {front back : List Member} {body : VariableDecl}

/-- The table of a module with a pipeline written by hand and that of the module without it are the
same but for the mark, and for the warning between what is reported before and behind. -/
theorem exists_ofModule_suppressed (policy : Policy) (resolver : Resolver) (c : Composition)
    (generated : definition.hasBody = false) (place : definition.members = front ++ back)
    (named : body.name = "body") (plain : Directive.find? body.attributes = none) :
    ∃ (t : SymbolTable) (earlier : Diagnostics),
      ofModule policy resolver definition c = t.retouched { earlier := earlier } ∧
      ofModule policy resolver { definition with members := front ++ .variable body :: back } c =
        t.retouched (suppression definition.name body.location earlier) := by
  let t := read policy resolver { definition with members := front } c
  let rest (u : SymbolTable) : SymbolTable :=
    ((Contribution.ofMembers back).foldl contribute u).resolve
  have written : Contribution.ofVisit ⟨[], .variable body⟩ = .pipeline body.location :=
    Contribution.ofVisit_of_isBody (by simp [Member.isBody, named, plain])
  have others : ∀ c ∈ Contribution.ofMembers back, ∀ location, c ≠ .pipeline location := by
    rw [ModuleDef.hasBody, place, List.any_append, Bool.or_eq_false_iff] at generated
    exact fun c member => Contribution.ne_pipeline_of_mem_ofMembers generated.2 member
  have unmarked : Respects { earlier := t.diagnostics } rest :=
    respects_resolve_foldl (fun _ _ _ => rfl) fun _ => rfl
  have marked : Respects (suppression definition.name body.location t.diagnostics) rest :=
    respects_resolve_foldl (fun c member written =>
      Contribution.mark_comm_of_ne_pipeline (others c member) written body.location) fun _ => rfl
  let u := t.withDiagnostics []
  have opened : t = u.retouched { earlier := t.diagnostics } :=
    congrArg ({ t with diagnostics := · }) (List.append_nil t.diagnostics).symm
  have suppressed : t.contribute (.pipeline body.location) =
      u.retouched (suppression definition.name body.location t.diagnostics) := by
    have module : t.module = definition.name := module_read policy resolver _ c
    have reports : t.diagnostics ++ [.ofSuppressed t.module body.location] =
        (suppression t.module body.location t.diagnostics).earlier ++ u.diagnostics :=
      (List.append_nil _).symm
    rw [← module, retouched, ← reports]
    rfl
  refine ⟨rest u, t.diagnostics, ?_, ?_⟩
  · rw [← unmarked u, ← opened]
    have whole : definition = { definition with members := front ++ back } := by rw [← place]
    exact congrArg resolve ((congrArg (read policy resolver · c) whole).trans
      (read_append policy resolver definition c front back))
  · rw [← marked u, ← suppressed]
    have inserted := read_append policy resolver definition c front (.variable body :: back)
    have first : Contribution.ofMembers (.variable body :: back) =
        .pipeline body.location :: Contribution.ofMembers back :=
      (Contribution.ofMembers_insert [] back body).trans (congrArg (· :: _) written)
    rw [first, List.foldl_cons] at inserted
    exact congrArg resolve inserted

/-- A table that has a pipeline declares the same with a pipeline written by hand as without one,
but for this pipeline. -/
theorem exists_declare_suppressed {t : SymbolTable} (resolver : Resolver)
    (resolved : t.isResolved = true) {earlier : Diagnostics} {p : Pipeline}
    (own : (t.retouched { earlier := earlier }).pipeline? = some p) (module : String)
    (location : Location) :
    ∃ above below reports,
      (t.retouched { earlier := earlier }).declare resolver =
        ⟨above ++ .pipeline p :: below, reports⟩ ∧
      (t.retouched (suppression module location earlier)).declare resolver =
        ⟨above ++ below, reports⟩ ∧
      ∀ d ∈ above ++ below, d.pipeline? = none := by
  let marked := t.retouched (suppression module location earlier)
  have same : SameLists (t.retouched { earlier := earlier }) marked :=
    ⟨rfl, rfl, rfl, rfl, rfl, rfl⟩
  obtain ⟨below, reports, generates, leaves⟩ := same.declare resolver resolved resolved rfl
  let above : List Declaration := [.state t.stateDecl, .action t.actionDecl]
  have part : marked.declare resolver = ⟨above ++ (t.scopeTables ++ below), reports⟩ := leaves
  refine ⟨above, t.scopeTables ++ below, reports, ?_, part, ?_⟩
  · rw [generates, ownDeclarations, own]
    rfl
  · have pipelines := pipelines_declare resolver (t := marked) resolved
    rw [part] at pipelines
    exact List.filterMap_eq_nil_iff.mp pipelines

end SymbolTable

namespace Expansion

open SymbolTable

/-- A pipeline that the author wrote suppresses the generated one and nothing else. Wherever among
the members at the top level of a module without such a pipeline a variable `body` without
a directive is put in, the module has the declarations that it had, less its own pipeline, and the
diagnostics that it had, with one warning more. -/
theorem pipeline_suppressed (policy : Policy) (resolver : Resolver) {definition : ModuleDef}
    {c : Composition} (single : definition.directives = [c])
    (generated : definition.hasBody = false) {front back : List Member}
    (place : definition.members = front ++ back) {body : VariableDecl}
    (named : body.name = "body") (plain : Directive.find? body.attributes = none) :
    let e := ofModule policy resolver definition
    let suppressed :=
      ofModule policy resolver { definition with members := front ++ .variable body :: back }
    let warning := Diagnostic.ofSuppressed definition.name body.location
    (∃ above p below,
      e.declarations = above ++ .pipeline p :: below ∧
      suppressed.declarations = above ++ below ∧
      ∀ d ∈ above ++ below, d.pipeline? = none) ∧
    (∃ before behind,
      e.diagnostics = before ++ behind ∧
      suppressed.diagnostics = before ++ warning :: behind) ∧
    warning.severity = .warning := by
  intro e suppressed warning
  obtain ⟨t, earlier, bare, marked⟩ :=
    exists_ofModule_suppressed policy resolver c generated place named plain
  have resolved : t.isResolved = true := by
    have made := isResolved_ofModule policy resolver definition c
    rwa [bare] at made
  let p : Pipeline := ⟨definition.access,
    (c.layout policy resolver definition.placement.isRoot definition.members).stages⟩
  have own : (t.retouched { earlier := earlier }).pipeline? = some p := by
    rw [← bare]
    exact SymbolTable.pipeline?_ofModule generated
  obtain ⟨above, below, reports, whole, part, other⟩ :=
    exists_declare_suppressed resolver resolved own definition.name body.location
  rw [← bare] at whole
  rw [← marked] at part
  let inserted : ModuleDef := { definition with members := front ++ .variable body :: back }
  have also : inserted.directives = [c] := single
  refine ⟨⟨above, p, below, ?_, ?_, other⟩, ⟨earlier, t.diagnostics ++ reports, ?_, ?_⟩, rfl⟩
  · exact (declarations_ofModule single).trans (congrArg Outcome.declarations whole)
  · exact (declarations_ofModule also).trans (congrArg Outcome.declarations part)
  · refine (diagnostics_ofModule single).trans ?_
    rw [whole, bare]
    exact List.append_assoc _ _ _
  · refine (diagnostics_ofModule also).trans ?_
    rw [part, marked]
    change (earlier ++ [warning] ++ t.diagnostics) ++ reports = _
    simp only [List.append_assoc, List.cons_append, List.nil_append]

def stopwatch (between : List Member) : ModuleDef where
  name := "Stopwatch"
  directives := [{
    children := [
      ⟨.reducer, false, some (.string "display"), some (.named "Display"), none, {}⟩,
      ⟨.destination none [⟨.reducer, false, some (.string "laps"), some (.named "Laps"), none, {}⟩],
        false, none, none, none, {}⟩] }]
  members :=
    .function {
      name := "count"
      attributes := [{ name := "compose_body" }]
      returnType := none } ::
    between ++ [.type { name := "State", form := .struct }]

/-- The stopwatch with a pipeline between its function and its state is not given one, and is told
so. -/
theorem pipeline_suppressed_stopwatch :
    let body : VariableDecl := { name := "body", type := none }
    let e := ofModule {} .textual (stopwatch [])
    let suppressed := ofModule {} .textual (stopwatch [.variable body])
    (∃ above p below, e.declarations = above ++ .pipeline p :: below ∧
      suppressed.declarations = above ++ below) ∧
    e.diagnostics = [] ∧ suppressed.diagnostics = [.ofSuppressed "Stopwatch" {}] := by
  intro body e suppressed
  have single : (stopwatch []).directives = [_] := rfl
  have place : (stopwatch []).members = [_] ++ [_] := rfl
  have named : body.name = "body" := rfl
  have plain : Directive.find? body.attributes = none := rfl
  obtain ⟨⟨above, p, below, whole, part, _⟩, ⟨before, behind, silent, told⟩, _⟩ :=
    pipeline_suppressed {} .textual single (by decide) place named plain
  have quiet : e.diagnostics = [] := by decide
  obtain ⟨rfl, rfl⟩ : before = [] ∧ behind = [] :=
    List.append_eq_nil_iff.mp (silent.symm.trans quiet)
  exact ⟨⟨above, p, below, whole, part⟩, quiet, told⟩

end Expansion

end StateWeave
