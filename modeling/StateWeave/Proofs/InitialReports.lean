import StateWeave.Proofs.DeclarationLayout
import StateWeave.Proofs.TableReports

/-!
# Reports on the initial case

A report on the initial case is recognized by its wording, which no other report has. Only the
selection of the initial case reports on it: what is reported of entries and members, of the queues
that are worked off when a table is resolved, and of nested lists reads otherwise.
-/

namespace StateWeave

namespace Text

theorem prefix_ofList {a b : List Char} (begins : a <+: b) :
    (String.ofList a).toList <+: (String.ofList b).toList := by
  rwa [String.toList_ofList, String.toList_ofList]

theorem suffix_ofList {a b : List Char} (ends : a <:+ b) :
    (String.ofList a).toList <:+ (String.ofList b).toList := by
  rwa [String.toList_ofList, String.toList_ofList]

end Text

namespace Problem

open Text

/-- What reports on the initial case begin with; two of them begin with a name in quotes. -/
def initialCaseLeads : List String := ["only ", "an ", "'"]

def initialCaseEnds : List String := ["initial case", "variant state", "case name"]

theorem IsOfInitialCase.exists_lead {p : Problem} (ofInitial : p.IsOfInitialCase) :
    ∃ lead ∈ initialCaseLeads, lead.toList <+: p.message.toList := by
  have quoted (name rest : String) :
      "'".toList <+: ("'" ++ name ++ "'" ++ rest).toList := by
    rw [String.append_assoc, String.append_assoc, String.toList_append]
    exact List.prefix_append _ _
  cases p with
  | initialCaseNotLiteral => exact ⟨"only ", by decide, prefix_ofList (by decide)⟩
  | initialCaseOnRecord => exact ⟨"an ", by decide, prefix_ofList (by decide)⟩
  | unknownInitialCase name => exact ⟨"'", by decide, quoted name _⟩
  | initialCaseWithoutDefault name => exact ⟨"'", by decide, quoted name _⟩
  | _ => exact ofInitial.elim

theorem IsOfInitialCase.exists_end {p : Problem} (ofInitial : p.IsOfInitialCase) :
    ∃ last ∈ initialCaseEnds, last.toList <:+ p.message.toList := by
  have behind (front : String) {last words : List Char} (ends : last <:+ words) :
      (String.ofList last).toList <:+ (front ++ String.ofList words).toList := by
    rw [String.toList_append]
    exact (suffix_ofList ends).trans (List.suffix_append _ _)
  cases p with
  | initialCaseNotLiteral => exact ⟨"initial case", by decide, suffix_ofList (by decide)⟩
  | initialCaseOnRecord => exact ⟨"variant state", by decide, suffix_ofList (by decide)⟩
  | unknownInitialCase name => exact ⟨"case name", by decide, behind _ (by decide)⟩
  | initialCaseWithoutDefault name => exact ⟨"initial case", by decide, behind _ (by decide)⟩
  | _ => exact ofInitial.elim

/-- A text with a beginning of its own is no report on the initial case. To be apart from all the
beginnings is decided once the words are given. -/
theorem IsOfInitialCase.message_ne_of_apart {p : Problem} (ofInitial : p.IsOfInitialCase)
    {text : String} (apart : ∀ lead ∈ initialCaseLeads, Apart lead text) : text ≠ p.message := by
  obtain ⟨lead, member, begins⟩ := ofInitial.exists_lead
  rintro rfl
  exact (apart lead member).1 begins

/-- Nor is a text with an end of its own. -/
theorem IsOfInitialCase.message_ne_of_end {p : Problem} (ofInitial : p.IsOfInitialCase)
    {words : List Char}
    (apart : ∀ last ∈ initialCaseEnds, ¬last.toList <:+ words ∧ ¬words <:+ last.toList)
    (front : String) : front ++ String.ofList words ≠ p.message := by
  obtain ⟨last, member, ends⟩ := ofInitial.exists_end
  intro same
  rw [← same, String.toList_append, String.toList_ofList] at ends
  rcases List.suffix_or_suffix_of_suffix ends (List.suffix_append _ _) with shorter | longer
  · exact (apart last member).1 shorter
  · exact (apart last member).2 longer

/-- No report on an entry or a member reads like one on the initial case. Two of them begin with a
name in quotes, too, but end otherwise. -/
theorem IsOfItem.message_ne {p q : Problem} (ofItem : p.IsOfItem) (ofInitial : q.IsOfInitialCase) :
    p.message ≠ q.message := by
  have ticked (text : String) : ApartFrom initialCaseLeads ("`" ++ text ++ "`") :=
    (ApartFrom.append (.ofList (by decide)) text).append "`"
  have told {text : String} (apart : ApartFrom initialCaseLeads text) : text ≠ q.message :=
    ofInitial.message_ne_of_apart apart
  cases p with
  | valueTypeAsModule name type =>
      have message : (valueTypeAsModule name type).message = "'" ++ type ++ "'" ++
          " is a value type and cannot be embedded as a child module " ++ ("'" ++ name) ++ "'" := by
        rw [String.append_assoc]
        rfl
      rw [message]
      exact ofInitial.message_ne_of_end (by decide) _
  | unknownAttachment => exact ofInitial.message_ne_of_end (by decide) _
  | unsupportedDeclaration directive => exact told (((ticked directive).append _).append _)
  | missingChildName => exact told (.ofList (by decide))
  | missingChildType => exact told (.append (.ofList (by decide)) _)
  | actionNameNotInferred => exact told (.append (.append (.ofList (by decide)) _) _)
  | bindingWithoutBindable => exact told ((((ticked "binding").append _).append _).append _)
  | malformedDirective directive => exact told (((ticked directive).append _).append _)
  | duplicateChild => exact told (.append (.ofList (by decide)) _)
  | duplicateAction => exact told (.append (.ofList (by decide)) _)
  | duplicateScope => exact told (.append (.ofList (by decide)) _)
  | actionPathNotRooted => exact told (.append (.append (.append (.ofList (by decide)) _) _) _)
  | statePathNotRooted => exact told (.append (.append (.append (.ofList (by decide)) _) _) _)
  | unknownScopeAction => exact told (.append (.append (.append (.ofList (by decide)) _) _) _)
  | mutableParameter directive => exact told (((ticked directive).append _).append _)
  | parameterNotAllowed directive => exact told ((((ticked directive).append _).append _).append _)
  | idWithoutIdentifiedAction directive => exact told (((ticked directive).append _).append _)
  | missingActionParameter directive => exact told ((ticked directive).append _)
  | generationSuppressed => exact told (((ticked "body").append _).append _)
  | tupleInitialValueIgnored => exact told (.append (.append (.ofList (by decide)) _) _)
  | _ => exact ofItem.elim

/-- No report on a binding that finds nothing does. -/
theorem message_problem_ne_initial (b : PendingBinding) (error : BindError) {q : Problem}
    (ofInitial : q.IsOfInitialCase) : (b.problem error).message ≠ q.message := by
  apply ofInitial.message_ne_of_apart
  cases error with
  | notFound => exact (((ApartFrom.ofList (by decide)).append _).append _).append _
  | ambiguous => exact (((ApartFrom.ofList (by decide)).append _).append _).append _

/-- No report on a placeholder that stays unbound does. -/
theorem message_unbound_ne_initial (kind : PlaceholderKind) (name : String) {q : Problem}
    (ofInitial : q.IsOfInitialCase) :
    (unboundPlaceholder kind.text name).message ≠ q.message := by
  apply ofInitial.message_ne_of_apart
  cases kind with
  | alert => exact (((ApartFrom.ofList (by decide)).append _).append _).append _
  | confirmationDialog => exact (((ApartFrom.ofList (by decide)).append _).append _).append _

end Problem

namespace Diagnostic

/-- Whether a diagnostic reads like a report on the initial case. -/
def IsOfInitialCase (d : Diagnostic) : Prop :=
  ∃ p : Problem, p.IsOfInitialCase ∧ d.message = p.message

theorem IsOfItem.not_isOfInitialCase {d : Diagnostic} (ofItem : d.IsOfItem) :
    ¬d.IsOfInitialCase := by
  rintro ⟨q, ofInitial, also⟩
  obtain ⟨p, known, _, message⟩ := ofItem
  exact known.message_ne ofInitial (message.symm.trans also)

end Diagnostic

theorem Placeholder.not_isOfInitialCase_of_unboundReport? {policy : Policy} {p : Placeholder}
    {d : Diagnostic} (reported : p.unboundReport? policy = some d) : ¬d.IsOfInitialCase := by
  rw [unboundReport?] at reported
  split at reported
  · cases reported
    rintro ⟨q, ofInitial, also⟩
    exact Problem.message_unbound_ne_initial p.kind p.name ofInitial also
  · cases reported

namespace SymbolTable

open ReportsOnly

theorem reportsOnly_addEntries (resolve : Resolver) (t : SymbolTable) (es : List ChildEntry) :
    ReportsOnly (fun d => ¬d.IsOfInitialCase) t (addEntries resolve t es) :=
  foldl (fun e _ u => reportsOnly_addEntry (fun _ => Diagnostic.IsOfItem.not_isOfInitialCase)
    resolve u e) t

/-- Resolving a table reports nothing on the initial case. -/
theorem reportsOnly_resolve {t : SymbolTable} (fresh : t.isResolved = false) :
    ReportsOnly (fun d => ¬d.IsOfInitialCase) t t.resolve := by
  refine reportsOnly_resolve_of fresh ?_ ?_ ?_
  · rintro ⟨b, error⟩ ⟨q, ofInitial, also⟩
    exact Problem.message_problem_ne_initial b error ofInitial also
  · exact fun p _ => p.not_isOfInitialCase_of_unboundReport?
  · exact fun _ ofMember => ofMember.isOfItem.not_isOfInitialCase

/-- No list reports on an initial case, however far lists are followed: a list has none. -/
theorem IsComplete.not_isOfInitialCase_declareWithin {resolver : Resolver} {t : SymbolTable}
    (complete : t.IsComplete) (depth : Nat) :
    ∀ d ∈ (declareWithin resolver depth t).diagnostics, ¬d.IsOfInitialCase := by
  refine complete.forall_declareWithin (fun site _ d reported => ?_) depth
  let entered := addEntries resolver site.started site.children
  have fresh : entered.isResolved = false := site.isResolved_compose resolver
  have table : site.table resolver = entered.resolve := rfl
  obtain ⟨added, reports, silent⟩ :=
    (reportsOnly_addEntries resolver site.started site.children).trans (reportsOnly_resolve fresh)
  have none : site.started.diagnostics = [] := rfl
  rw [table, reports, none, List.nil_append] at reported
  exact silent d reported

end SymbolTable

end StateWeave
