import StateWeave.Proofs.OwnDeclarations
import StateWeave.Proofs.RejectedEntries
import StateWeave.Proofs.Reports

/-!
# What is reported of entries and of placeholders

An entry is reported if it is refused or if its name is taken, and a placeholder is reported if
nobody has bound it by the end. `diagnostics_addEntry` and `diagnostics_resolve_eq` say what is
added each time. The two never say the same, so that what is said about an unbound placeholder can
be told from all that is said about entries.
-/

namespace StateWeave

open Admission

/-! ## The wording of unbound placeholders -/

namespace Problem

open Text

theorem message_unboundPlaceholder (kind name : String) :
    (unboundPlaceholder kind name).message =
      kind ++
        (" placeholder " ++ (("'" ++ name ++ "'") ++ " is never bound and will be omitted")) := by
  change kind ++ " placeholder " ++ ("'" ++ name ++ "'") ++
    " is never bound and will be omitted" = _
  generalize "'" ++ name ++ "'" = quoted
  rw [String.append_assoc, String.append_assoc]

/-- To be apart from what either kind is called is decided once the words are given. -/
theorem apart_text (kind : PlaceholderKind) {words : List Char}
    (apart : ∀ k ∈ [PlaceholderKind.alert, .confirmationDialog],
      ¬k.text.toList <+: words ∧ ¬words <+: k.text.toList) :
    Apart kind.text (String.ofList words) := by
  rw [Apart, String.toList_ofList]
  cases kind with
  | alert => exact apart .alert List.mem_cons_self
  | confirmationDialog =>
      exact apart .confirmationDialog (List.mem_cons_of_mem _ List.mem_cons_self)

/-- No report that is made while a module is read reads like one on an unbound placeholder. -/
theorem IsOfReading.message_ne {p : Problem} (ofReading : p.IsOfReading) (kind : PlaceholderKind)
    (name : String) : p.message ≠ (unboundPlaceholder kind.text name).message := by
  have ticked (text : String) : Apart kind.text ("`" ++ text ++ "`") :=
    (Apart.append (apart_text kind (by decide)) text).append "`"
  have quoted (text : String) : Apart kind.text ("'" ++ text ++ "'") :=
    (Apart.append (apart_text kind (by decide)) text).append "'"
  suffices apart : Apart kind.text p.message by
    rw [message_unboundPlaceholder]
    exact apart.ne _
  cases p with
  | unsupportedDeclaration directive => exact ((ticked directive).append _).append _
  | multipleDirectives =>
      exact (((Apart.append (apart_text kind (by decide)) _).append _).append _).append _
  | missingChildName => exact apart_text kind (by decide)
  | missingChildType => exact Apart.append (apart_text kind (by decide)) _
  | valueTypeAsModule _ type => exact ((quoted type).append _).append _
  | initialCaseNotLiteral => exact apart_text kind (by decide)
  | initialCaseOnRecord => exact apart_text kind (by decide)
  | actionNameNotInferred => exact (Apart.append (apart_text kind (by decide)) _).append _
  | bindingWithoutBindable => exact (((ticked "binding").append _).append _).append _
  | malformedDirective directive => exact ((ticked directive).append _).append _
  | duplicateChild => exact Apart.append (apart_text kind (by decide)) _
  | duplicateAction => exact Apart.append (apart_text kind (by decide)) _
  | duplicateScope => exact Apart.append (apart_text kind (by decide)) _
  | unknownInitialCase name => exact (quoted name).append _
  | initialCaseWithoutDefault name => exact (quoted name).append _
  | actionPathNotRooted => exact ((Apart.append (apart_text kind (by decide)) _).append _).append _
  | statePathNotRooted => exact ((Apart.append (apart_text kind (by decide)) _).append _).append _
  | unknownScopeAction => exact ((Apart.append (apart_text kind (by decide)) _).append _).append _
  | unknownAttachment name => exact (quoted name).append _
  | mutableParameter directive => exact ((ticked directive).append _).append _
  | parameterNotAllowed directive => exact (((ticked directive).append _).append _).append _
  | idWithoutIdentifiedAction directive => exact ((ticked directive).append _).append _
  | missingActionParameter directive => exact (ticked directive).append _
  | generationSuppressed => exact ((ticked "body").append _).append _
  | tupleInitialValueIgnored => exact (Apart.append (apart_text kind (by decide)) _).append _
  | placeholderNotFound => exact ofReading.elim
  | ambiguousPlaceholder => exact ofReading.elim
  | unboundPlaceholder => exact ofReading.elim
  | contractViolation => exact ofReading.elim

/-- No report on a binding that finds nothing does, either. -/
theorem message_problem_ne_unbound (b : PendingBinding) (error : BindError)
    (kind : PlaceholderKind) (name : String) :
    (b.problem error).message ≠ (unboundPlaceholder kind.text name).message := by
  suffices apart : Apart kind.text (b.problem error).message by
    rw [message_unboundPlaceholder]
    exact apart.ne _
  cases error with
  | notFound => exact ((Apart.append (apart_text kind (by decide)) _).append _).append _
  | ambiguous => exact ((Apart.append (apart_text kind (by decide)) _).append _).append _

/-- A report on an unbound placeholder tells which placeholder it is about. -/
theorem message_unboundPlaceholder_eq_iff {kind other : PlaceholderKind} {name also : String} :
    (unboundPlaceholder kind.text name).message = (unboundPlaceholder other.text also).message ↔
      kind = other ∧ name = also := by
  constructor
  · intro same
    rw [message_unboundPlaceholder, message_unboundPlaceholder] at same
    by_cases kinds : kind = other
    · subst kinds
      refine ⟨rfl, ?_⟩
      have chars := congrArg String.toList same
      simp only [String.toList_append, List.append_cancel_left_eq, List.append_cancel_right_eq]
        at chars
      exact String.toList_inj.mp chars
    · have apart : Apart kind.text other.text := by
        cases kind <;> cases other <;>
          first
            | exact absurd rfl kinds
            | exact Apart.ofList (by decide)
      exact absurd same.symm ((apart.append _).ne _)
  · rintro ⟨rfl, rfl⟩
    rfl

end Problem

/-- Whether a diagnostic says that a placeholder of this name is not bound. -/
def Diagnostic.tellsUnbound (name : String) (d : Diagnostic) : Bool :=
  [PlaceholderKind.alert, .confirmationDialog].any fun kind =>
    d.message = (Problem.unboundPlaceholder kind.text name).message

theorem Diagnostic.tellsUnbound_eq_true_iff {name : String} {d : Diagnostic} :
    d.tellsUnbound name = true ↔
      ∃ kind : PlaceholderKind,
        d.message = (Problem.unboundPlaceholder kind.text name).message := by
  simp only [tellsUnbound, List.any_eq_true, decide_eq_true_eq]
  constructor
  · rintro ⟨kind, _, told⟩
    exact ⟨kind, told⟩
  · rintro ⟨kind, told⟩
    refine ⟨kind, ?_, told⟩
    cases kind <;> simp

/-- What is reported of a placeholder in the end: that nobody has bound it, if this is so and
anybody wants to know. -/
def Placeholder.unboundReport? (policy : Policy) (p : Placeholder) : Option Diagnostic :=
  match p.isBound, policy.unboundPlaceholders with
  | false, .warn => some (.ofProblem (.unboundPlaceholder p.kind.text p.name) p.location)
  | _, _ => none

theorem Placeholder.tellsUnbound_of_unboundReport? {policy : Policy} {p : Placeholder}
    {d : Diagnostic} (reported : p.unboundReport? policy = some d) (name : String) :
    d.tellsUnbound name = decide (p.name = name) := by
  rw [unboundReport?] at reported
  split at reported
  · cases reported
    rw [Bool.eq_iff_iff, Diagnostic.tellsUnbound_eq_true_iff, decide_eq_true_eq]
    constructor
    · rintro ⟨kind, told⟩
      exact (Problem.message_unboundPlaceholder_eq_iff.mp told).2
    · rintro rfl
      exact ⟨p.kind, rfl⟩
  · cases reported

def PendingScope.report? (actions : List ActionMember) (s : PendingScope) : Option Diagnostic :=
  match s.resolve actions with
  | .ok _ => none
  | .error problem => some (.ofProblem problem s.location)

theorem PendingScope.isOfMember_of_report? {s : PendingScope} {actions : List ActionMember}
    {d : Diagnostic} (reported : s.report? actions = some d) : d.IsOfMember := by
  rw [report?] at reported
  split at reported
  · cases reported
  · next problem unfit =>
      cases reported
      exact Diagnostic.isOfMember_ofProblem (isOfMember_of_resolve unfit) s.location

theorem PendingScope.isOfItem_of_report? {s : PendingScope} {actions : List ActionMember}
    {d : Diagnostic} (reported : s.report? actions = some d) : d.IsOfItem :=
  (isOfMember_of_report? reported).isOfItem

/-! ## Entries -/

namespace ChildEntry

/-- What may be reported of an entry: why it is refused, that its initial value is of no use, or
that its name is taken. -/
inductive MayReport (policy : Policy) (resolve : Resolver) (e : ChildEntry) : Problem → Prop
  | refused {problem : Problem} :
      e.plan policy resolve = .refused problem → MayReport policy resolve e problem
  | ignored {name : String} : MayReport policy resolve e (.tupleInitialValueIgnored name)
  | taken {name : String} : MayReport policy resolve e (.duplicateChild name)

variable {policy : Policy} {resolve : Resolver} {e : ChildEntry}

theorem MayReport.isOfEntry {problem : Problem} (told : e.MayReport policy resolve problem) :
    problem.IsOfEntry := by
  cases told with
  | refused plan => exact isOfEntry_of_refused plan
  | ignored => exact trivial
  | taken => exact trivial

theorem mayReport_of_mem_remarks {d : Diagnostic} (member : d ∈ e.remarks policy resolve) :
    ∃ p : Problem, e.MayReport policy resolve p ∧ d.message = p.message := by
  rw [remarks] at member
  split at member
  · rw [List.mem_singleton.mp member]
    exact ⟨_, .ignored, rfl⟩
  · cases member

end ChildEntry

namespace SymbolTable

variable {resolve : Resolver}

theorem diagnostics_addStaged_of_free {t : SymbolTable} {name : String}
    (free : t.firstPlace? name = none) (e : Embedding) (initialValue : Option String)
    (location : Location) (staged : Bool) :
    (t.addStaged name e initialValue location staged).diagnostics = t.diagnostics := by
  rw [addStaged_of_free (firstPlace?_eq_none_iff.mp free)]
  rfl

theorem diagnostics_addEntry_of_refused {t : SymbolTable} {e : ChildEntry} {problem : Problem}
    (refused : e.plan t.policy resolve = .refused problem) :
    (addEntry resolve t e).diagnostics = t.diagnostics ++ [.ofProblem problem e.location] := by
  rw [addEntry, refused]
  rfl

theorem diagnostics_addEntry_of_free {t : SymbolTable} {e : ChildEntry} {name : String}
    (asked : e.claim? t.policy resolve = some name) (free : t.firstPlace? name = none) :
    (addEntry resolve t e).diagnostics = t.diagnostics ++ e.remarks t.policy resolve := by
  rw [ChildEntry.claim?] at asked
  rw [addEntry, ChildEntry.remarks]
  cases plan : e.plan t.policy resolve with
  | refused =>
      rw [plan] at asked
      cases asked
  | placeholder kind own =>
      rw [plan] at asked
      obtain rfl : own = name := Option.some.inj asked
      simp only [List.append_nil]
      rw [declarePlaceholder_of_free (firstPlace?_eq_none_iff.mp free)]
      rfl
  | list own embedding children =>
      rw [plan] at asked
      obtain rfl : own = name := Option.some.inj asked
      simp only [foldl_insertListed, List.append_nil]
      generalize t.placeholders.declareAll _ = registry
      have still : (t.withPlaceholders registry).firstPlace? own = none := free
      exact diagnostics_addStaged_of_free still embedding none e.location t.placement.isRoot
  | child own embedding initialValue dropped =>
      rw [plan] at asked
      obtain rfl : own = name := Option.some.inj asked
      cases dropped with
      | false =>
          simp only [Bool.false_eq_true, if_false, List.append_nil]
          exact diagnostics_addStaged_of_free free embedding initialValue e.location true
      | true =>
          exact diagnostics_addStaged_of_free (t := t.report (.tupleInitialValueIgnored own)
            e.location) free embedding initialValue e.location true

/-- What is added to the reports when an entry is entered is about the entry. -/
theorem diagnostics_addEntry (t : SymbolTable) (resolve : Resolver) (e : ChildEntry) :
    ∃ added, (addEntry resolve t e).diagnostics = t.diagnostics ++ added ∧
      ∀ d ∈ added, ∃ p : Problem, e.MayReport t.policy resolve p ∧ d.message = p.message := by
  cases asked : e.claim? t.policy resolve with
  | none =>
      rw [ChildEntry.claim?] at asked
      cases plan : e.plan t.policy resolve with
      | refused problem =>
          refine ⟨_, diagnostics_addEntry_of_refused plan, fun d member => ?_⟩
          rw [List.mem_singleton.mp member]
          exact ⟨problem, .refused plan, rfl⟩
      | _ =>
          rw [plan] at asked
          cases asked
  | some name =>
      cases place : t.firstPlace? name with
      | none =>
          exact ⟨_, diagnostics_addEntry_of_free asked place, fun d member =>
            ChildEntry.mayReport_of_mem_remarks member⟩
      | some first =>
          refine ⟨e.remarks t.policy resolve ++
            [.ofDuplicate (.duplicateChild name) name e.location first], ?_, fun d member => ?_⟩
          · rw [addEntry_of_taken asked place, diagnostics_withDiagnostics, List.append_assoc]
          · rcases List.mem_append.mp member with remarked | reported
            · exact ChildEntry.mayReport_of_mem_remarks remarked
            · rw [List.mem_singleton.mp reported]
              exact ⟨_, .taken, rfl⟩

theorem diagnostics_addEntries (t : SymbolTable) (resolve : Resolver) (es : List ChildEntry) :
    ∃ added, (addEntries resolve t es).diagnostics = t.diagnostics ++ added ∧
      ∀ d ∈ added, ∃ e ∈ es, ∃ p : Problem,
        e.MayReport t.policy resolve p ∧ d.message = p.message := by
  induction es generalizing t with
  | nil => exact ⟨[], (List.append_nil _).symm, fun _ member => absurd member List.not_mem_nil⟩
  | cons e es ih =>
      obtain ⟨first, one, ofFirst⟩ := diagnostics_addEntry t resolve e
      obtain ⟨rest, all, ofRest⟩ := ih (addEntry resolve t e)
      refine ⟨first ++ rest, ?_, fun d member => ?_⟩
      · change (addEntries resolve (addEntry resolve t e) es).diagnostics = _
        rw [all, one, List.append_assoc]
      · rcases List.mem_append.mp member with early | late
        · exact ⟨e, List.mem_cons_self, ofFirst d early⟩
        · obtain ⟨other, below, told⟩ := ofRest d late
          rw [policy_addEntry] at told
          exact ⟨other, List.mem_cons_of_mem e below, told⟩

/-- An entry that is not let in leaves an error. -/
theorem exists_error_of_rejected {t : SymbolTable} {es : List ChildEntry}
    (rejected : admitted (ChildEntry.claim? t.policy resolve) t.names es ≠ es) :
    ∃ d ∈ (addEntries resolve t es).diagnostics, d.isError = true := by
  induction es generalizing t with
  | nil => exact absurd rfl rejected
  | cons e rest ih =>
      change ∃ d ∈ (addEntries resolve (addEntry resolve t e) rest).diagnostics, _
      cases free : isFree (ChildEntry.claim? t.policy resolve) t.names e with
      | true =>
          rw [admitted_cons, admitted_singleton_of_free free, List.singleton_append] at rejected
          refine ih fun same => rejected ?_
          rw [policy_addEntry, names_addEntry, admitted_singleton_of_free free] at same
          rw [same]
      | false =>
          obtain ⟨name, asked, place, taken⟩ : ∃ name, e.claim? t.policy resolve = some name ∧
              ∃ place, t.firstPlace? name = some place := by
            cases asked : e.claim? t.policy resolve with
            | none =>
                rw [isFree_of_none asked] at free
                cases free
            | some name =>
                refine ⟨name, rfl, Option.ne_none_iff_exists'.mp fun none => ?_⟩
                rw [(isFree_of_some asked t.names).mpr (firstPlace?_eq_none_iff.mp none)] at free
                cases free
          obtain ⟨added, reports, _⟩ :=
            diagnostics_addEntries (addEntry resolve t e) resolve rest
          refine ⟨.ofDuplicate (.duplicateChild name) name e.location place, ?_, rfl⟩
          rw [reports, addEntry_of_taken asked taken, diagnostics_withDiagnostics]
          exact List.mem_append_left _ (List.mem_append_right _ List.mem_cons_self)

/-! ## Placeholders -/

theorem diagnostics_enterPlaceholder (t : SymbolTable) (p : Placeholder) :
    (t.enterPlaceholder p).diagnostics = t.diagnostics ++ (p.unboundReport? t.policy).toList := by
  rw [enterPlaceholder, Placeholder.unboundReport?, Placeholder.isBound, Placeholder.embedding?]
  cases p.actionType with
  | some type => exact (List.append_nil _).symm
  | none =>
      dsimp only [Option.map_none, Option.isSome_none]
      split
      · next warns => rw [warns]; rfl
      · next silent => rw [silent]; exact (List.append_nil _).symm

/-- Placeholders that are not bound are reported in their order. -/
theorem diagnostics_enterPlaceholders (t : SymbolTable) :
    t.enterPlaceholders.diagnostics =
      t.diagnostics ++ t.placeholders.locals.filterMap (Placeholder.unboundReport? t.policy) := by
  have entered (ps : List Placeholder) (u : SymbolTable) :
      (ps.foldl enterPlaceholder u).diagnostics =
        u.diagnostics ++ ps.filterMap (Placeholder.unboundReport? u.policy) := by
    induction ps generalizing u with
    | nil => exact (List.append_nil _).symm
    | cons p ps ih =>
        have policy : (u.enterPlaceholder p).policy = u.policy := by
          obtain ⟨diagnostics, same⟩ := enterPlaceholder_eq u p
          rw [same]
          rfl
        rw [List.foldl_cons, ih, policy, diagnostics_enterPlaceholder,
          Contribution.filterMap_cons_toList, List.append_assoc]
  exact entered t.localPlaceholders t

theorem diagnostics_resolveScopes (t : SymbolTable) :
    t.resolveScopes.diagnostics =
      t.diagnostics ++ t.pendingScopes.filterMap (PendingScope.report? t.actionMembers) := rfl

/-- What resolving a table reports: the bindings that find nothing, the placeholders that are not
bound in the end, and the scopes that turn out to be none. -/
theorem diagnostics_resolve_eq {t : SymbolTable} (fresh : t.isResolved = false) :
    t.resolve.diagnostics =
      t.diagnostics ++
        (t.placeholders.failures t.pendingBindings).map PlaceholderRegistry.failureReport ++
        (t.placeholders.settle t.pendingBindings).locals.filterMap
          (Placeholder.unboundReport? t.policy) ++
        t.pendingScopes.filterMap (PendingScope.report? t.resolved.actionMembers) := by
  let opened : SymbolTable := { t with isResolved := true }
  let settled := opened.pushBindingAction.settleBindings
  have steps : t.resolve = settled.enterPlaceholders.placeStages.resolveScopes := by
    rw [resolve, fresh, if_neg Bool.false_ne_true]
  obtain ⟨noted, bindings⟩ := settleBindings_eq opened.pushBindingAction
  have bound : settled = t.bound.withDiagnostics noted := by
    change opened.pushBindingAction.settleBindings = _
    rw [bindings, pushBindingAction_eq]
    rfl
  have failed : settled.diagnostics = t.diagnostics ++
      (t.placeholders.failures t.pendingBindings).map PlaceholderRegistry.failureReport := by
    change opened.pushBindingAction.settleBindings.diagnostics = _
    rw [diagnostics_settleBindings, pushBindingAction_eq]
  have warned := diagnostics_enterPlaceholders settled
  obtain ⟨diagnostics, children⟩ := enterPlaceholders_eq settled
  have scopes := diagnostics_resolveScopes settled.enterPlaceholders.placeStages
  have pending : settled.enterPlaceholders.placeStages.pendingScopes = t.pendingScopes := by
    rw [children, bound]
    dsimp only [placeStages, withChildren, withDiagnostics, SymbolTable.bound, withBindings]
  have actions : settled.enterPlaceholders.placeStages.actionMembers =
      t.resolved.actionMembers := by
    rw [children, bound]
    dsimp only [placeStages, withChildren, withDiagnostics, resolved, withScopes]
  have placed : settled.enterPlaceholders.placeStages.diagnostics =
      settled.enterPlaceholders.diagnostics := rfl
  have registry : settled.placeholders = t.placeholders.settle t.pendingBindings := by
    rw [bound]
    rfl
  have policy : settled.policy = t.policy := by
    rw [bound]
    rfl
  rw [steps, scopes, pending, actions, placed, warned, failed, registry, policy]

/-- Resolving a table reports on nothing but bindings, placeholders and scopes. -/
theorem reportsOnly_resolve_of {P : Diagnostic → Prop} {t : SymbolTable}
    (fresh : t.isResolved = false)
    (bindings : ∀ failure, P (PlaceholderRegistry.failureReport failure))
    (placeholders : ∀ p d, Placeholder.unboundReport? t.policy p = some d → P d)
    (scopes : ∀ d : Diagnostic, d.IsOfMember → P d) : ReportsOnly P t t.resolve := by
  let failed :=
    (t.placeholders.failures t.pendingBindings).map PlaceholderRegistry.failureReport
  let unbound := (t.placeholders.settle t.pendingBindings).locals.filterMap
    (Placeholder.unboundReport? t.policy)
  let unfit := t.pendingScopes.filterMap (PendingScope.report? t.resolved.actionMembers)
  refine ⟨failed ++ unbound ++ unfit, ?_, ?_⟩
  · rw [diagnostics_resolve_eq fresh, List.append_assoc, List.append_assoc, List.append_assoc]
  · intro d member
    rcases List.mem_append.mp member with early | late
    · rcases List.mem_append.mp early with binding | placeholder
      · obtain ⟨failure, _, rfl⟩ := List.mem_map.mp binding
        exact bindings failure
      · obtain ⟨p, _, reported⟩ := List.mem_filterMap.mp placeholder
        exact placeholders p d reported
    · obtain ⟨s, _, reported⟩ := List.mem_filterMap.mp late
      exact scopes d (PendingScope.isOfMember_of_report? reported)

end SymbolTable

namespace ListSite

/-- A list's table reports what is to be said about its entries, and behind that the placeholders
that stay unbound. -/
theorem diagnostics_table (resolver : Resolver) (site : ListSite) :
    (site.table resolver).diagnostics =
      (SymbolTable.addEntries resolver site.started site.children).diagnostics ++
        (site.placeholders resolver).locals.filterMap
          (Placeholder.unboundReport? site.parent.policy) := by
  let t := SymbolTable.addEntries resolver site.started site.children
  obtain ⟨diagnostics, entered⟩ :=
    SymbolTable.addEntries_eq site.started resolver site.children
  have same : t = (site.entered resolver).withDiagnostics diagnostics := entered
  have fresh : t.isResolved = false := by rw [same]; rfl
  have bindings : t.pendingBindings = [] := by rw [same]; rfl
  have scopes : t.pendingScopes = [] := by rw [same]; rfl
  have placeholders : t.placeholders = site.placeholders resolver := by rw [same]; rfl
  have policy : t.policy = site.parent.policy := by rw [same]; rfl
  change t.resolve.diagnostics = t.diagnostics ++ _
  rw [SymbolTable.diagnostics_resolve_eq fresh, bindings, scopes, placeholders, policy,
    PlaceholderRegistry.settle_nil, PlaceholderRegistry.failures, List.map_nil, List.append_nil,
    List.filterMap_nil, List.append_nil]

/-- A list's table tells that a placeholder is not bound if it has one of this name that is its own
and that nobody has bound. -/
theorem filter_tellsUnbound_table (resolver : Resolver) (site : ListSite) (name : String) :
    (site.table resolver).diagnostics.filter (Diagnostic.tellsUnbound name) =
      ((site.placeholders resolver).locals.filter fun p => p.name = name).filterMap
        (Placeholder.unboundReport? site.parent.policy) := by
  have entries : (SymbolTable.addEntries resolver site.started site.children).diagnostics.filter
      (Diagnostic.tellsUnbound name) = [] := by
    obtain ⟨added, reports, ofEntries⟩ :=
      SymbolTable.diagnostics_addEntries site.started resolver site.children
    have started : site.started.diagnostics = [] := rfl
    rw [reports, started, List.nil_append, List.filter_eq_nil_iff]
    intro d member told
    obtain ⟨kind, unbound⟩ := Diagnostic.tellsUnbound_eq_true_iff.mp told
    obtain ⟨e, _, p, about, message⟩ := ofEntries d member
    exact about.isOfEntry.isOfReading.message_ne kind name (message.symm.trans unbound)
  rw [site.diagnostics_table, List.filter_append, entries, List.nil_append]
  exact filter_filterMap
    (fun _ _ reported => Placeholder.tellsUnbound_of_unboundReport? reported name) _

end ListSite

/-! ## Modules without errors -/

namespace SymbolTable

theorem KeepsReports.mem {t u : SymbolTable} (kept : KeepsReports t u) {d : Diagnostic}
    (member : d ∈ t.diagnostics) : d ∈ u.diagnostics := by
  obtain ⟨added, reports, _⟩ := kept
  rw [reports]
  exact List.mem_append_left _ member

variable (policy : Policy) (resolver : Resolver) (definition : ModuleDef) (c : Composition)

/-- What is reported while a module is read is reported in the end. -/
theorem mem_diagnostics_of_read {d : Diagnostic}
    (member : d ∈ (read policy resolver definition c).diagnostics) :
    d ∈ (ofModule policy resolver definition c).diagnostics := by
  change d ∈ (read policy resolver definition c).resolve.diagnostics
  rw [diagnostics_resolve_eq (isResolved_read policy resolver definition c), List.append_assoc,
    List.append_assoc]
  exact List.mem_append_left _ member

theorem mem_diagnostics_of_entries {d : Diagnostic}
    (member : d ∈ (addEntries resolver (c.options.foldl applyOption (blank policy definition c))
      c.children).diagnostics) :
    d ∈ (ofModule policy resolver definition c).diagnostics := by
  have composed : d ∈ ((blank policy definition c).compose c resolver).diagnostics := by
    rw [compose_eq_selected]
    exact List.mem_append_left _ member
  exact mem_diagnostics_of_read policy resolver definition c
    ((keepsReports_collect _ definition.members).mem composed)

/-- The reasons for which a member is refused are all reported. -/
theorem mem_diagnostics_of_refused {v : Visit}
    (visited : v ∈ Visit.ofMembers [] definition.members) {reports : Diagnostics}
    (refused : Contribution.ofVisit v = .refused reports) {d : Diagnostic} (member : d ∈ reports) :
    d ∈ (ofModule policy resolver definition c).diagnostics := by
  obtain ⟨before, behind, visits⟩ := List.append_of_mem visited
  refine mem_diagnostics_of_read policy resolver definition c ?_
  rw [read, collect, visits, List.foldl_append, List.foldl_cons, refused]
  have kept (t : SymbolTable) : KeepsReports t
      (behind.foldl (fun t v => t.contribute (Contribution.ofVisit v)) t) :=
    ReportsOnly.foldl
      (fun v _ u => keepsReports_contribute u (Contribution.isOrdinary_ofVisit v)) t
  exact (kept _).mem (List.mem_append_right _ member)

end SymbolTable

namespace Expansion

variable {policy : Policy} {resolver : Resolver} {definition : ModuleDef} {c : Composition}
  (single : definition.directives = [c])
  (fine : (ofModule policy resolver definition).hasErrors = false)

include single fine

theorem isError_of_fine {d : Diagnostic}
    (reported : d ∈ (SymbolTable.ofModule policy resolver definition c).diagnostics) :
    ¬d.isError = true := by
  rw [hasErrors, Diagnostics.hasErrors, List.any_eq_false, diagnostics_ofModule single] at fine
  exact fine d (List.mem_append_left _ reported)

/-- In a module without errors every entry is let in. -/
theorem entries_of_fine : c.entries policy resolver = c.children := by
  by_contra rejected
  let blank := SymbolTable.blank policy definition c
  obtain ⟨state, action, chosen⟩ := SymbolTable.withOptions_eq blank c.options
  have asked : (blank.withOptions c.options).policy = policy := by rw [chosen]; rfl
  have names : (blank.withOptions c.options).names = [] := by rw [chosen]; rfl
  have unentered : admitted
      (ChildEntry.claim? (blank.withOptions c.options).policy resolver)
      (blank.withOptions c.options).names c.children ≠ c.children := by
    rw [asked, names]
    exact rejected
  obtain ⟨d, reported, fatal⟩ := SymbolTable.exists_error_of_rejected unentered
  exact isError_of_fine single fine
    (SymbolTable.mem_diagnostics_of_entries policy resolver definition c reported) fatal

/-- In a module without errors no member is refused for one. -/
theorem ofVisit_ne_refused_of_fine {v : Visit}
    (visited : v ∈ Visit.ofMembers [] definition.members) {reports : Diagnostics}
    (error : ∃ d ∈ reports, d.isError = true) : Contribution.ofVisit v ≠ .refused reports := by
  intro refused
  obtain ⟨d, member, fatal⟩ := error
  exact isError_of_fine single fine
    (SymbolTable.mem_diagnostics_of_refused policy resolver definition c visited refused member)
    fatal

end Expansion

end StateWeave
