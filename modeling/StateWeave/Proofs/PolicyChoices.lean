import StateWeave.Proofs.DeclarationLayout
import StateWeave.Proofs.DeclarationNames
import StateWeave.Proofs.Retouches
import StateWeave.Proofs.TableReports

/-!
# What a choice of policy decides

Two policies that a project chooses are looked at only once a module has been read: the order of
action cases, as declarations are made, and the word on unbound placeholders, as a table is
resolved. A different choice changes the table of a module, and those of its lists at any depth, in
nothing but the policy and these reports. `policy_choices` says what is left of the difference in
an expansion.
-/

namespace StateWeave

namespace Diagnostic

/-- Whether a diagnostic is the warning on a placeholder that nobody has bound. -/
def IsUnboundReport (d : Diagnostic) : Prop :=
  ∃ (kind : PlaceholderKind) (name : String),
    d = .ofProblem (.unboundPlaceholder kind.text name) d.location

/-- The name in such a warning, which stands quoted between two set phrases. -/
def unboundName (kind : PlaceholderKind) (d : Diagnostic) : String :=
  let rest := d.message.toList.drop (kind.text ++ " placeholder '").toList.length
  String.ofList (rest.take (rest.length - "' is never bound and will be omitted".toList.length))

theorem unboundName_ofProblem (kind : PlaceholderKind) (name : String) (location : Location) :
    (ofProblem (.unboundPlaceholder kind.text name) location).unboundName kind = name := by
  have message : (Problem.unboundPlaceholder kind.text name).message.toList =
      (kind.text ++ " placeholder '").toList ++
        (name.toList ++ "' is never bound and will be omitted".toList) := by
    rw [Problem.message_unboundPlaceholder]
    simp [String.toList_append]
  rw [unboundName, ofProblem]
  dsimp only
  rw [message, List.drop_left, List.length_append, Nat.add_sub_cancel, List.take_left,
    String.ofList_toList]

theorem isUnboundReport_iff (d : Diagnostic) :
    d.IsUnboundReport ↔
      ∃ kind ∈ [PlaceholderKind.alert, .confirmationDialog],
        d = .ofProblem (.unboundPlaceholder kind.text (d.unboundName kind)) d.location := by
  constructor
  · rintro ⟨kind, name, same⟩
    refine ⟨kind, by cases kind <;> simp, ?_⟩
    rw [same, unboundName_ofProblem]
    rfl
  · rintro ⟨kind, _, same⟩
    exact ⟨kind, _, same⟩

instance : DecidablePred IsUnboundReport := fun d =>
  decidable_of_iff _ d.isUnboundReport_iff.symm

theorem not_isUnboundReport_of_message_ne {d : Diagnostic}
    (differs : ∀ (kind : PlaceholderKind) (name : String),
      d.message ≠ (Problem.unboundPlaceholder kind.text name).message) :
    ¬d.IsUnboundReport := by
  rintro ⟨kind, name, same⟩
  exact differs kind name (congrArg Diagnostic.message same)

theorem IsOfReading.not_isUnboundReport {d : Diagnostic} (ofReading : d.IsOfReading) :
    ¬d.IsUnboundReport := by
  obtain ⟨p, known, _, message⟩ := ofReading
  exact not_isUnboundReport_of_message_ne fun kind name same =>
    known.message_ne kind name (message.symm.trans same)

end Diagnostic

theorem PlaceholderRegistry.not_isUnboundReport_failureReport
    (failure : PendingBinding × BindError) : ¬(failureReport failure).IsUnboundReport :=
  Diagnostic.not_isUnboundReport_of_message_ne
    (Problem.message_problem_ne_unbound failure.1 failure.2)

theorem SymbolTable.not_isUnboundReport_contractViolation (t : SymbolTable) (reason : String) :
    ¬(t.contractViolation reason).IsUnboundReport :=
  Diagnostic.not_isUnboundReport_of_message_ne fun kind name same =>
    Problem.IsOrdinary.message_ne (p := .unboundPlaceholder kind.text name) ⟨kind, rfl⟩ reason
      same.symm

theorem Placeholder.isUnboundReport_of_unboundReport? {policy : Policy} {p : Placeholder}
    {d : Diagnostic} (reported : p.unboundReport? policy = some d) : d.IsUnboundReport := by
  rw [unboundReport?] at reported
  split at reported
  · cases reported
    exact ⟨p.kind, p.name, rfl⟩
  · cases reported

/-- A change of policies that no plan of an entry depends on, with a test for the reports that are
made under the changed policy all the same. These are all reports but some on unbound
placeholders. -/
structure PolicyChange where
  policy : Policy → Policy
  isKept : Diagnostic → Bool
  plan (e : ChildEntry) (p : Policy) (resolve : Resolver) :
    e.plan (policy p) resolve = e.plan p resolve
  reading {d : Diagnostic} : d.IsOfReading → isKept d = true
  failure (failed : PendingBinding × BindError) :
    isKept (PlaceholderRegistry.failureReport failed) = true
  violation (t : SymbolTable) (reason : String) : isKept (t.contractViolation reason) = true
  unbound (p : Policy) (placeholder : Placeholder) :
    placeholder.unboundReport? (policy p) = (placeholder.unboundReport? p).filter isKept

/-- What a change of policies is to a table that is being read. -/
def PolicyChange.retouch (change : PolicyChange) : Retouch where
  policy := change.policy
  plan := change.plan

namespace SymbolTable

def under (t : SymbolTable) (change : PolicyChange) : SymbolTable :=
  { t with
    policy := change.policy t.policy
    diagnostics := t.diagnostics.filter change.isKept }

variable (change : PolicyChange)

/-- A table that has been read resolves under changed policies to what it resolves to, under the
changed policies. -/
theorem resolve_under {t : SymbolTable} (fresh : t.isResolved = false)
    (read : ∀ d ∈ t.diagnostics, d.IsOfReading) :
    (t.retouched change.retouch).resolve = t.resolve.under change := by
  have early : t.diagnostics.filter change.isKept = t.diagnostics :=
    List.filter_eq_self.mpr fun d member => change.reading (read d member)
  have failures (failed : List (PendingBinding × BindError)) :
      (failed.map PlaceholderRegistry.failureReport).filter change.isKept =
        failed.map PlaceholderRegistry.failureReport := by
    refine List.filter_eq_self.mpr fun d member => ?_
    obtain ⟨failure, _, rfl⟩ := List.mem_map.mp member
    exact change.failure failure
  have unbound (ps : List Placeholder) :
      (ps.filterMap (Placeholder.unboundReport? t.policy)).filter change.isKept =
        ps.filterMap (Placeholder.unboundReport? (change.policy t.policy)) := by
    rw [List.filter_filterMap]
    exact congrArg (ps.filterMap ·) (funext fun p => (change.unbound t.policy p).symm)
  have scopes (queue : List PendingScope) (actions : List ActionMember) :
      (queue.filterMap (PendingScope.report? actions)).filter change.isKept =
        queue.filterMap (PendingScope.report? actions) := by
    refine List.filter_eq_self.mpr fun d member => ?_
    obtain ⟨s, _, reported⟩ := List.mem_filterMap.mp member
    exact change.reading (PendingScope.isOfItem_of_report? reported).isOfReading
  have reports : (t.retouched change.retouch).resolve.diagnostics =
      t.resolve.diagnostics.filter change.isKept := by
    have also : (t.retouched change.retouch).isResolved = false := fresh
    rw [diagnostics_resolve_eq also, diagnostics_resolve_eq fresh]
    simp only [List.filter_append, early, failures, unbound, scopes]
    rfl
  obtain ⟨diagnostics, result⟩ := resolve_eq fresh
  obtain ⟨others, changed⟩ := resolve_eq (t := t.retouched change.retouch) fresh
  rw [changed, result] at reports ⊢
  rw [diagnostics_withDiagnostics, diagnostics_withDiagnostics] at reports
  rw [reports, resolved_retouched]
  generalize t.resolved = u
  rfl

variable (resolver : Resolver)

theorem ofModule_under (policy : Policy) (definition : ModuleDef) (c : Composition) :
    ofModule (change.policy policy) resolver definition c =
      (ofModule policy resolver definition c).under change := by
  have steps : Respects change.retouch fun t =>
      (t.compose c resolver).collect definition.members :=
    (respects_compose _ c resolver).andThen
      (Respects.foldl fun v _ => respects_contribute _ fun _ => rfl)
  have same : read (change.policy policy) resolver definition c =
      (read policy resolver definition c).retouched change.retouch :=
    steps (blank policy definition c)
  exact (congrArg resolve same).trans
    (resolve_under change (isResolved_read policy resolver definition c)
      (fun _ => isOfReading_read policy resolver definition c))

theorem ofList_under (parent : SymbolTable) (list module : String) (placement : Placement)
    (children : List ChildEntry) :
    ofList resolver (parent.under change) list module placement children =
      (ofList resolver parent list module placement children).under change := by
  let site : ListSite := ⟨parent, list, module, placement, children⟩
  have read : ∀ d ∈ (site.started.compose site.composition resolver).diagnostics,
      d.IsOfReading := by
    obtain ⟨added, reports, ofReading⟩ :=
      reportsOnly_compose (fun _ => id) site.started site.composition resolver
    have none : site.started.diagnostics = [] := rfl
    rwa [reports, none, List.nil_append]
  have same := respects_compose change.retouch site.composition resolver site.started
  exact (congrArg resolve same).trans (resolve_under change (site.isResolved_compose resolver) read)

/-- The lists of a table under changed policies get their own tables, under the same policies. -/
theorem nestedTables_under (t : SymbolTable) :
    (t.under change).nestedTables resolver = (t.nestedTables resolver).map (under · change) := by
  rw [nestedTables, nestedTables, List.map_filterMap]
  refine congrArg (t.stateMembers.filterMap ·) (funext fun m => ?_)
  rw [ofMember?, ofMember?]
  cases m.embedding with
  | destination module children => exact congrArg some (ofList_under change resolver t _ _ _ _)
  | navigationStack module children => exact congrArg some (ofList_under change resolver t _ _ _ _)
  | _ => rfl

end SymbolTable

/-- A relation between declarations that is kept when modules are made of them. -/
structure Declaration.Lifts (related : Declaration → Declaration → Prop) : Prop where
  error (reason : String) : related (.error reason) (.error reason)
  nested (access : Access) (name : String) (placement : Placement) {ds es : List Declaration} :
    List.Forall₂ related ds es →
      related (.nested ⟨access, name, placement, ds⟩) (.nested ⟨access, name, placement, es⟩)

namespace SymbolTable

variable {change : PolicyChange} {related : Declaration → Declaration → Prop}

/-- Tables are declared alike under changed policies if each table's own declarations are, and what
is reported on the way is what is reported anyway, less what is not made under the change. -/
theorem declareWithin_under (lifts : Declaration.Lifts related)
    (own : ∀ t : SymbolTable,
      List.Forall₂ related t.ownDeclarations (t.under change).ownDeclarations)
    (resolver : Resolver) (depth : Nat) (t : SymbolTable) :
    List.Forall₂ related (declareWithin resolver depth t).declarations
        (declareWithin resolver depth (t.under change)).declarations ∧
      (declareWithin resolver depth (t.under change)).diagnostics =
        (declareWithin resolver depth t).diagnostics.filter change.isKept := by
  induction depth generalizing t with
  | zero => exact ⟨.nil, rfl⟩
  | succ depth ih =>
      have resolved : (t.under change).isResolved = t.isResolved := rfl
      have violations : (t.under change).violations = t.violations := rfl
      have access : (t.under change).access = t.access := rfl
      have reported : (t.under change).contractViolation = t.contractViolation := rfl
      rw [declareWithin, declareWithin, resolved]
      split
      · simp only [nestedTables_under, violations, reported, access, List.map_map]
        constructor
        · refine List.rel_append (List.rel_append (own t) ?_) ?_
          · rw [List.forall₂_map_left_iff, List.forall₂_map_right_iff, List.forall₂_same]
            exact fun n _ => lifts.nested t.access n.module n.placement (ih n).1
          · rw [List.forall₂_map_left_iff, List.forall₂_map_right_iff, List.forall₂_same]
            exact fun reason _ => lifts.error reason
        · have kept : (t.violations.map t.contractViolation).filter change.isKept =
              t.violations.map t.contractViolation := by
            refine List.filter_eq_self.mpr fun d member => ?_
            obtain ⟨reason, _, rfl⟩ := List.mem_map.mp member
            exact change.violation t reason
          have inner (n : SymbolTable) :
              (n.diagnostics ++ (declareWithin resolver depth n).diagnostics).filter
                  change.isKept =
                (n.under change).diagnostics ++
                  (declareWithin resolver depth (n.under change)).diagnostics := by
            rw [List.filter_append, (ih n).2]
            rfl
          simp only [List.filter_append, List.filter_flatMap, List.flatMap_map, kept, inner,
            Function.comp_apply]
      · refine ⟨.cons (lifts.error _) .nil, ?_⟩
        exact (List.filter_eq_self.mpr
          (List.forall_mem_singleton.mpr (change.violation t _))).symm

end SymbolTable

namespace Expansion

open SymbolTable

/-- What is reported of a module without one composition of its own does not depend on policies. -/
theorem exists_diagnostics_of_not_single {definition : ModuleDef}
    (several : ¬∃ c, definition.directives = [c]) :
    ∃ reports : Diagnostics, (∀ d ∈ reports, d.IsOfReading) ∧
      ∀ policy resolver, (Expansion.ofModule policy resolver definition).diagnostics = reports := by
  cases directives : definition.directives with
  | nil =>
      refine ⟨[], fun _ member => absurd member List.not_mem_nil, fun policy resolver => ?_⟩
      rw [ofModule, directives]
  | cons c rest =>
      cases rest with
      | nil => exact absurd ⟨c, directives⟩ several
      | cons d rest =>
          refine ⟨_, List.forall_mem_singleton.mpr (Diagnostic.isOfReading_ofProblem
            (p := .multipleDirectives definition.name (c :: d :: rest).length) trivial
            definition.location), fun policy resolver => ?_⟩
          rw [ofModule, directives]

/-- What a change of policies leaves of an expansion. -/
theorem ofModule_under (change : PolicyChange) {related : Declaration → Declaration → Prop}
    (lifts : Declaration.Lifts related)
    (own : ∀ t : SymbolTable,
      List.Forall₂ related t.ownDeclarations (t.under change).ownDeclarations)
    (policy : Policy) (resolver : Resolver) (definition : ModuleDef) :
    let e := Expansion.ofModule policy resolver definition
    let changed := Expansion.ofModule (change.policy policy) resolver definition
    List.Forall₂ related e.declarations changed.declarations ∧
      changed.diagnostics = e.diagnostics.filter change.isKept := by
  intro e changed
  by_cases one : ∃ c, definition.directives = [c]
  · obtain ⟨c, single⟩ := one
    let t := SymbolTable.ofModule policy resolver definition c
    have made : SymbolTable.ofModule (change.policy policy) resolver definition c =
      t.under change := SymbolTable.ofModule_under change resolver policy definition c
    have declared := declareWithin_under lifts own resolver (t.nesting + 1) t
    constructor
    · rw [declarations_ofModule single, declarations_ofModule single, made]
      exact declared.1
    · rw [diagnostics_ofModule single, diagnostics_ofModule single, made, List.filter_append]
      exact congrArg (_ ++ ·) declared.2
  · obtain ⟨reports, ofReading, same⟩ := exists_diagnostics_of_not_single one
    constructor
    · rw [declarations_of_not_single one, declarations_of_not_single one]
      exact .nil
    · rw [same, same]
      exact (List.filter_eq_self.mpr fun d member => change.reading (ofReading d member)).symm

end Expansion

/-- Two declarations that are the same but for the order of action cases, in their own actions
or in those of modules inside them. -/
inductive Declaration.SameButOrder : Declaration → Declaration → Prop
  | refl (d : Declaration) : SameButOrder d d
  | action {decl : ActionDecl} {cases : List ActionCase} :
      decl.cases.Perm cases → SameButOrder (.action decl) (.action { decl with cases := cases })
  | nested {access : Access} {name : String} {placement : Placement} {ds es : List Declaration} :
      List.Forall₂ SameButOrder ds es →
        SameButOrder (.nested ⟨access, name, placement, ds⟩) (.nested ⟨access, name, placement, es⟩)

namespace PolicyChange

/-- To write action cases in another order. -/
def reorder (order : ActionOrder) : PolicyChange where
  policy p := { p with actionOrder := order }
  isKept _ := true
  plan _ _ _ := rfl
  reading _ := rfl
  failure _ := rfl
  violation _ _ := rfl
  unbound p placeholder := by
    have same : placeholder.unboundReport? { p with actionOrder := order } =
        placeholder.unboundReport? p := rfl
    rw [same]
    cases placeholder.unboundReport? p <;> rfl

/-- To say nothing of unbound placeholders. -/
def silence : PolicyChange where
  policy p := { p with unboundPlaceholders := .omit }
  isKept d := !d.IsUnboundReport
  plan _ _ _ := rfl
  reading ofReading := by simpa using ofReading.not_isUnboundReport
  failure failed := by
    simpa using PlaceholderRegistry.not_isUnboundReport_failureReport failed
  violation t reason := by simpa using t.not_isUnboundReport_contractViolation reason
  unbound p placeholder := by
    have nothing : placeholder.unboundReport? { p with unboundPlaceholders := .omit } = none := by
      rw [Placeholder.unboundReport?]
      cases placeholder.isBound <;> rfl
    cases told : placeholder.unboundReport? p with
    | none => rw [nothing, Option.filter_none]
    | some d =>
        have unbound := Placeholder.isUnboundReport_of_unboundReport? told
        simp [nothing, Option.filter_some, unbound]

end PolicyChange

namespace SymbolTable

/-- Under another order a table declares its actions with the cases in another order, and all else
as before. -/
theorem forall₂_ownDeclarations_reorder (order : ActionOrder) (t : SymbolTable) :
    List.Forall₂ Declaration.SameButOrder t.ownDeclarations
      (t.under (.reorder order)).ownDeclarations := by
  let u := t.under (.reorder order)
  have reordered : t.actionDecl.cases.Perm u.actionDecl.cases :=
    (t.perm_orderedActions.trans u.perm_orderedActions.symm).map _
  have same (ds : List Declaration) : List.Forall₂ Declaration.SameButOrder ds ds :=
    List.forall₂_same.mpr fun d _ => .refl d
  exact .cons (.refl _) (.cons (.action reordered) (same _))

end SymbolTable

namespace Expansion

theorem lifts_sameButOrder : Declaration.Lifts Declaration.SameButOrder where
  error _ := .refl _
  nested _ _ _ := .nested

theorem lifts_eq : Declaration.Lifts (· = ·) where
  error _ := rfl
  nested access name placement ds es same := by
    rw [List.forall₂_eq_eq_eq] at same
    rw [same]

/-- Choices of policy decide what they are there for, and nothing else. Under another order of
action cases a module expands with the same diagnostics to the same declarations, but for the
order of the cases of its actions and of those of its nested modules. And if unbound placeholders
are left out without a word, a module expands to the very declarations that it expands to with
warnings, and its diagnostics are the same without the warnings on unbound placeholders. -/
theorem policy_choices (policy : Policy) (resolver : Resolver) (definition : ModuleDef) :
    (∀ order,
      let e := ofModule policy resolver definition
      let reordered := ofModule { policy with actionOrder := order } resolver definition
      reordered.diagnostics = e.diagnostics ∧
        List.Forall₂ Declaration.SameButOrder e.declarations reordered.declarations) ∧
      (let warned := ofModule { policy with unboundPlaceholders := .warn } resolver definition
      let silent := ofModule { policy with unboundPlaceholders := .omit } resolver definition
      silent.declarations = warned.declarations ∧
        silent.diagnostics = warned.diagnostics.filter fun d => !d.IsUnboundReport) := by
  constructor
  · intro order e reordered
    obtain ⟨declared, reported⟩ := ofModule_under (.reorder order) lifts_sameButOrder
      (SymbolTable.forall₂_ownDeclarations_reorder order) policy resolver definition
    exact ⟨reported.trans (List.filter_true _), declared⟩
  · intro warned silent
    obtain ⟨declared, reported⟩ := ofModule_under .silence lifts_eq
      (fun t => List.forall₂_same.mpr fun _ _ => rfl)
      { policy with unboundPlaceholders := .warn } resolver definition
    rw [List.forall₂_eq_eq_eq] at declared
    exact ⟨declared.symm, reported⟩

end Expansion

end StateWeave
