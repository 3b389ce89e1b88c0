import StateWeave.Proofs.Bindings
import StateWeave.Proofs.NestedTables

/-!
# What is reported while a table is filled and resolved

A table never takes a report back. Every step adds reports behind those that are there, and what
it adds is of two sorts: bindings that find nothing are reported when the queue is worked off,
and everything else is reported as an ordinary problem of what the author wrote. Only one thing
is never reported of a table: that it breaks its own contract.
-/

namespace StateWeave

/-- Neither of two texts begins with the other, so that they stay different whatever follows. -/
def Text.Apart (a b : String) : Prop := ¬a.toList <+: b.toList ∧ ¬b.toList <+: a.toList

namespace Text.Apart

/-- Texts that are given by their characters are compared without their bytes. -/
theorem ofList {a b : List Char} (apart : ¬a <+: b ∧ ¬b <+: a) :
    Apart (String.ofList a) (String.ofList b) := by
  rw [Apart, String.toList_ofList, String.toList_ofList]
  exact apart

theorem append {a b : String} (apart : Apart a b) (c : String) : Apart a (b ++ c) := by
  rw [Apart, String.toList_append]
  have front := List.prefix_append b.toList c.toList
  constructor
  · intro ahead
    rcases List.prefix_or_prefix_of_prefix ahead front with longer | shorter
    · exact apart.1 longer
    · exact apart.2 shorter
  · intro behind
    exact apart.2 (front.trans behind)

theorem ne {a b : String} (apart : Apart a b) (c : String) : b ≠ a ++ c := by
  intro same
  refine apart.1 ?_
  rw [same, String.toList_append]
  exact List.prefix_append a.toList c.toList

end Text.Apart

/-- A text is apart from each of some others. -/
def Text.ApartFrom (leads : List String) (text : String) : Prop := ∀ lead ∈ leads, Apart lead text

namespace Text.ApartFrom

/-- To be apart from each of some texts is decided once the words are given. -/
theorem ofList {leads : List String} {words : List Char}
    (apart : ∀ lead ∈ leads, ¬lead.toList <+: words ∧ ¬words <+: lead.toList) :
    ApartFrom leads (String.ofList words) := by
  intro lead member
  rw [Apart, String.toList_ofList]
  exact apart lead member

theorem append {leads : List String} {text : String} (apart : ApartFrom leads text)
    (rest : String) : ApartFrom leads (text ++ rest) :=
  fun lead member => (apart lead member).append rest

end Text.ApartFrom

namespace Problem

open Text

/-- Whether a problem lies in what an author wrote and has nothing to do with bindings. -/
def IsOrdinary : Problem → Prop
  | placeholderNotFound _ _ => False
  | ambiguousPlaceholder _ _ => False
  | contractViolation _ => False
  | unboundPlaceholder kind _ => ∃ k : PlaceholderKind, kind = k.text
  | _ => True

/-- Whether a problem is one that an entry for a child may have. -/
def IsOfEntry : Problem → Prop
  | missingChildName => True
  | missingChildType _ => True
  | valueTypeAsModule _ _ => True
  | duplicateChild _ => True
  | tupleInitialValueIgnored _ => True
  | _ => False

/-- Whether a problem is one that may be found while a module is read. Whether its placeholders are
bound is not known before. -/
def IsOfReading : Problem → Prop
  | placeholderNotFound _ _ => False
  | ambiguousPlaceholder _ _ => False
  | contractViolation _ => False
  | unboundPlaceholder _ _ => False
  | _ => True

/-- Whether a problem is one of the initial case. -/
def IsOfInitialCase : Problem → Prop
  | initialCaseNotLiteral => True
  | initialCaseOnRecord => True
  | unknownInitialCase _ => True
  | initialCaseWithoutDefault _ => True
  | _ => False

/-- Whether a problem is one that an entry for a child or a member may have. What the directive
itself asks for is none of them: there is to be one directive, and it may choose an initial case. -/
def IsOfItem : Problem → Prop
  | multipleDirectives _ _ => False
  | initialCaseNotLiteral => False
  | initialCaseOnRecord => False
  | unknownInitialCase _ => False
  | initialCaseWithoutDefault _ => False
  | p => p.IsOfReading

/-- Whether a problem is one that a member may have. A directive that such a problem names is one
of those that members carry. -/
def IsOfMember : Problem → Prop
  | unsupportedDeclaration directive _ => ∃ d : Directive, directive = d.name
  | actionNameNotInferred _ => True
  | bindingWithoutBindable => True
  | malformedDirective directive _ => ∃ d : Directive, directive = d.name
  | duplicateAction _ => True
  | duplicateScope _ => True
  | actionPathNotRooted _ => True
  | statePathNotRooted _ => True
  | unknownScopeAction _ _ => True
  | unknownAttachment _ => True
  | mutableParameter directive _ => ∃ d : Directive, directive = d.name
  | parameterNotAllowed directive _ => ∃ d : Directive, directive = d.name
  | idWithoutIdentifiedAction directive => ∃ d : Directive, directive = d.name
  | missingActionParameter directive => ∃ d : Directive, directive = d.name
  | generationSuppressed _ => True
  | _ => False

theorem IsOfEntry.isOfItem {p : Problem} (ofEntry : p.IsOfEntry) : p.IsOfItem := by
  cases p <;> first | exact trivial | exact ofEntry.elim

theorem IsOfMember.isOfItem {p : Problem} (ofMember : p.IsOfMember) : p.IsOfItem := by
  cases p <;> first | exact trivial | exact ofMember.elim

theorem IsOfItem.isOfReading {p : Problem} (ofItem : p.IsOfItem) : p.IsOfReading := by
  cases p <;> first | exact trivial | exact ofItem.elim

theorem IsOfEntry.isOfReading {p : Problem} (ofEntry : p.IsOfEntry) : p.IsOfReading :=
  ofEntry.isOfItem.isOfReading

theorem IsOfInitialCase.isOfReading {p : Problem} (ofInitial : p.IsOfInitialCase) :
    p.IsOfReading := by
  cases p <;> first | exact trivial | exact ofInitial.elim

theorem IsOfReading.isOrdinary {p : Problem} (ofReading : p.IsOfReading) : p.IsOrdinary := by
  cases p <;> first | exact trivial | exact ofReading.elim

theorem IsOrdinary.kind_ne {p : Problem} (ordinary : p.IsOrdinary) :
    p.kind ≠ .ambiguousPlaceholder := by
  cases p with
  | placeholderNotFound => exact ordinary.elim
  | ambiguousPlaceholder => exact ordinary.elim
  | _ => exact fun same => nomatch same

/-- The wording of an ordinary problem tells it from a broken contract. -/
theorem IsOrdinary.message_ne {p : Problem} (ordinary : p.IsOrdinary) (reason : String) :
    p.message ≠ (contractViolation reason).message := by
  have ticked (text : String) : Apart "internal contract violation: " ("`" ++ text ++ "`") :=
    (Apart.append (Apart.ofList (by decide)) text).append "`"
  have quoted (text : String) : Apart "internal contract violation: " ("'" ++ text ++ "'") :=
    (Apart.append (Apart.ofList (by decide)) text).append "'"
  suffices apart : Apart "internal contract violation: " p.message from apart.ne reason
  cases p with
  | unsupportedDeclaration directive => exact ((ticked directive).append _).append _
  | multipleDirectives =>
      exact (((Apart.append (Apart.ofList (by decide)) _).append _).append _).append _
  | missingChildName => exact Apart.ofList (by decide)
  | missingChildType => exact Apart.append (Apart.ofList (by decide)) _
  | valueTypeAsModule _ type => exact ((quoted type).append _).append _
  | initialCaseNotLiteral => exact Apart.ofList (by decide)
  | initialCaseOnRecord => exact Apart.ofList (by decide)
  | actionNameNotInferred => exact (Apart.append (Apart.ofList (by decide)) _).append _
  | bindingWithoutBindable => exact (((ticked "binding").append _).append _).append _
  | malformedDirective directive => exact ((ticked directive).append _).append _
  | duplicateChild => exact Apart.append (Apart.ofList (by decide)) _
  | duplicateAction => exact Apart.append (Apart.ofList (by decide)) _
  | duplicateScope => exact Apart.append (Apart.ofList (by decide)) _
  | unknownInitialCase name => exact (quoted name).append _
  | initialCaseWithoutDefault name => exact (quoted name).append _
  | actionPathNotRooted => exact ((Apart.append (Apart.ofList (by decide)) _).append _).append _
  | statePathNotRooted => exact ((Apart.append (Apart.ofList (by decide)) _).append _).append _
  | unknownScopeAction => exact ((Apart.append (Apart.ofList (by decide)) _).append _).append _
  | unknownAttachment name => exact (quoted name).append _
  | mutableParameter directive => exact ((ticked directive).append _).append _
  | parameterNotAllowed directive =>
      exact (((ticked directive).append _).append _).append _
  | idWithoutIdentifiedAction directive => exact ((ticked directive).append _).append _
  | missingActionParameter directive => exact (ticked directive).append _
  | generationSuppressed => exact ((ticked "body").append _).append _
  | unboundPlaceholder =>
      obtain ⟨k, rfl⟩ := ordinary
      cases k <;> exact (((Apart.append (Apart.ofList (by decide)) _).append _).append _)
  | tupleInitialValueIgnored => exact ((Apart.append (Apart.ofList (by decide)) _).append _)
  | placeholderNotFound => exact ordinary.elim
  | ambiguousPlaceholder => exact ordinary.elim
  | contractViolation => exact ordinary.elim

/-- The wording of a binding that finds nothing tells it from a broken contract, too. -/
theorem message_problem_ne (b : PendingBinding) (error : BindError) (reason : String) :
    (b.problem error).message ≠ (contractViolation reason).message := by
  cases error with
  | notFound =>
      exact ((((Apart.append (Apart.ofList (by decide)) _).append _).append _ : Apart
        "internal contract violation: " (b.problem .notFound).message)).ne reason
  | ambiguous candidates =>
      exact ((((Apart.append (Apart.ofList (by decide)) _).append _).append _ : Apart
        "internal contract violation: " (b.problem (.ambiguous candidates)).message)).ne reason

end Problem

def Diagnostic.IsOrdinary (d : Diagnostic) : Prop :=
  ∃ p : Problem, p.IsOrdinary ∧ d.kind = p.kind ∧ d.message = p.message

theorem Diagnostic.isOrdinary_ofProblem {p : Problem} (ordinary : p.IsOrdinary)
    (location : Location) : (ofProblem p location).IsOrdinary := ⟨p, ordinary, rfl, rfl⟩

def Diagnostic.IsOfReading (d : Diagnostic) : Prop :=
  ∃ p : Problem, p.IsOfReading ∧ d.kind = p.kind ∧ d.message = p.message

theorem Diagnostic.isOfReading_ofProblem {p : Problem} (ofReading : p.IsOfReading)
    (location : Location) : (ofProblem p location).IsOfReading := ⟨p, ofReading, rfl, rfl⟩

def Diagnostic.IsOfItem (d : Diagnostic) : Prop :=
  ∃ p : Problem, p.IsOfItem ∧ d.kind = p.kind ∧ d.message = p.message

theorem Diagnostic.isOfItem_ofProblem {p : Problem} (ofItem : p.IsOfItem) (location : Location) :
    (ofProblem p location).IsOfItem := ⟨p, ofItem, rfl, rfl⟩

def Diagnostic.IsOfMember (d : Diagnostic) : Prop :=
  ∃ p : Problem, p.IsOfMember ∧ d.kind = p.kind ∧ d.message = p.message

theorem Diagnostic.isOfMember_ofProblem {p : Problem} (ofMember : p.IsOfMember)
    (location : Location) : (ofProblem p location).IsOfMember := ⟨p, ofMember, rfl, rfl⟩

theorem Diagnostic.IsOfMember.isOfItem {d : Diagnostic} (ofMember : d.IsOfMember) :
    d.IsOfItem := by
  obtain ⟨p, known, kind, message⟩ := ofMember
  exact ⟨p, known.isOfItem, kind, message⟩

theorem Diagnostic.IsOfItem.isOfReading {d : Diagnostic} (ofItem : d.IsOfItem) :
    d.IsOfReading := by
  obtain ⟨p, known, kind, message⟩ := ofItem
  exact ⟨p, known.isOfReading, kind, message⟩

theorem Diagnostic.IsOfReading.isOrdinary {d : Diagnostic} (ofReading : d.IsOfReading) :
    d.IsOrdinary := by
  obtain ⟨p, known, kind, message⟩ := ofReading
  exact ⟨p, known.isOrdinary, kind, message⟩

/-! ## Refusals -/

theorem ChildEntry.planOf_ne_refused (e : ChildEntry) (name : String) (embedding : Embedding)
    (problem : Problem) : e.planOf name embedding ≠ .refused problem := by
  cases embedding <;> intro same <;> cases same

/-- An entry that has to have a type is refused if it has none, or if that of a plain value stands
where a module has to be. -/
theorem ChildEntry.typedPlan_refused {resolve : Resolver} {e : ChildEntry} {name : String}
    {problem : Problem} (refused : e.typedPlan resolve name = .refused problem) :
    (e.type = none ∧ problem = .missingChildType name) ∨
      ∃ type, problem = .valueTypeAsModule name type := by
  rw [typedPlan] at refused
  repeat' split at refused
  · next untyped =>
      cases refused
      exact Or.inl ⟨untyped, rfl⟩
  · exact absurd refused (planOf_ne_refused _ _ _ _)
  · next unfit =>
      rw [typedEmbedding] at unfit
      repeat' split at unfit
      all_goals
        cases unfit
        try
          cases refused
          exact Or.inr ⟨_, rfl⟩

/-- An entry is refused for a name of no use, for a type that is missing, or for a plain value
where a module has to be. -/
theorem ChildEntry.refused_cases {policy : Policy} {resolve : Resolver} {e : ChildEntry}
    {problem : Problem} (refused : e.plan policy resolve = .refused problem) :
    problem = .missingChildName ∨ (∃ name, problem = .missingChildType name) ∨
      ∃ name type, problem = .valueTypeAsModule name type := by
  rw [plan] at refused
  repeat' split at refused
  · cases refused
  · cases refused
  · cases refused
    exact Or.inl rfl
  · cases refused
  · exact absurd refused (planOf_ne_refused _ _ _ _)
  · rcases typedPlan_refused refused with ⟨_, rfl⟩ | ⟨type, rfl⟩
    · exact Or.inr (Or.inl ⟨_, rfl⟩)
    · exact Or.inr (Or.inr ⟨_, type, rfl⟩)

theorem ChildEntry.isOfEntry_of_refused {policy : Policy} {resolve : Resolver} {e : ChildEntry}
    {problem : Problem} (refused : e.plan policy resolve = .refused problem) :
    problem.IsOfEntry := by
  rcases refused_cases refused with rfl | ⟨name, rfl⟩ | ⟨name, type, rfl⟩ <;> exact trivial

theorem ChildEntry.isFatal_of_refused {policy : Policy} {resolve : Resolver} {e : ChildEntry}
    {problem : Problem} (refused : e.plan policy resolve = .refused problem) :
    problem.isFatal = true := by
  rcases refused_cases refused with rfl | ⟨name, rfl⟩ | ⟨name, type, rfl⟩ <;> rfl

theorem Signature.isOfMember_of_violation? {d : Directive} {identified : Bool} {p : Param}
    {v : Violation} (found : violation? d identified p = some v) : v.problem.IsOfMember := by
  rw [violation?] at found
  repeat' split at found
  all_goals
    cases found
    try exact ⟨d, rfl⟩

theorem PendingScope.isOfMember_of_resolve {s : PendingScope} {actions : List ActionMember}
    {problem : Problem} (unfit : s.resolve actions = .error problem) : problem.IsOfMember := by
  rw [PendingScope.resolve] at unfit
  repeat' split at unfit
  all_goals
    cases unfit
    try exact trivial

namespace Contribution

/-- What a contribution reports, if it is refused. -/
def reports : Contribution → Diagnostics
  | refused reports => reports
  | _ => []

def IsOrdinary (c : Contribution) : Prop := ∀ d ∈ c.reports, d.IsOrdinary

def IsOfItem (c : Contribution) : Prop := ∀ d ∈ c.reports, d.IsOfItem

def IsOfMember (c : Contribution) : Prop := ∀ d ∈ c.reports, d.IsOfMember

theorem isOfMember_of_silent {c : Contribution} (silent : c.reports = []) : c.IsOfMember := by
  intro d member
  rw [silent] at member
  cases member

theorem isOfMember_refusal {p : Problem} (ofMember : p.IsOfMember) (location : Location) :
    (refusal p location).IsOfMember := by
  intro d member
  rw [List.mem_singleton.mp member]
  exact Diagnostic.isOfMember_ofProblem ofMember location

theorem isOfMember_malformed (d : Directive) (reason : String) (a : Attribute) :
    (refused (malformed d reason a)).IsOfMember := isOfMember_refusal (by exact ⟨d, rfl⟩) a.location

theorem isOfMember_of_bodyRouting {a : Attribute} {reports : Diagnostics}
    (failed : bodyRouting a = .error reports) : (refused reports).IsOfMember := by
  rw [bodyRouting] at failed
  repeat' split at failed
  all_goals
    cases failed
    try first | exact isOfMember_malformed _ _ a | exact isOfMember_refusal (by trivial) _

theorem isOfMember_ofObserver (f : Fragment) (a : Attribute) : (ofObserver f a).IsOfMember := by
  rw [ofObserver]
  split
  · next unwatched =>
      rw [watchedPath] at unwatched
      repeat' split at unwatched
      all_goals
        cases unwatched
        try first | exact isOfMember_malformed _ _ a | exact isOfMember_refusal (by trivial) _
  · split
    · next unattached =>
        rw [attachmentOf] at unattached
        repeat' split at unattached
        all_goals
          cases unattached
          try exact isOfMember_malformed _ _ a
    · exact isOfMember_of_silent rfl

theorem isOfMember_ofSignature (scopes : List String) (d : Directive) (decl : FunctionDecl)
    (a : Attribute) (s : Signature) : (ofSignature scopes d decl a s).IsOfMember := by
  unfold ofSignature
  dsimp only
  split
  · split
    · exact isOfMember_of_silent rfl
    · next failed => exact isOfMember_of_bodyRouting failed
  · exact isOfMember_ofObserver _ a
  · split
    · exact isOfMember_refusal (by exact ⟨_, rfl⟩) _
    · exact isOfMember_of_silent rfl
  · split
    · exact isOfMember_of_silent rfl
    · exact isOfMember_refusal (by exact ⟨_, rfl⟩) _
    · exact isOfMember_of_silent rfl

theorem isOfMember_ofFunction (scopes : List String) (d : Directive) (decl : FunctionDecl)
    (a : Attribute) : (ofFunction scopes d decl a).IsOfMember := by
  rw [ofFunction]
  split
  · exact isOfMember_ofSignature scopes d decl a _
  · next found violated =>
      intro report member
      obtain ⟨v, also, rfl⟩ := List.mem_map.mp member
      rw [Signature.check] at violated
      split at violated
      · cases violated
      · cases violated
        obtain ⟨p, _, made⟩ := List.mem_filterMap.mp also
        exact Diagnostic.isOfMember_ofProblem (Signature.isOfMember_of_violation? made) _

theorem isOfMember_ofRole (scopes : List String) (m : Member) (role : Role) :
    (ofRole scopes m role).IsOfMember := by
  cases role with
  | fragment d a =>
      cases m with
      | function decl => exact isOfMember_ofFunction scopes d decl a
      | _ => exact isOfMember_of_silent rfl
  | actionCase a =>
      cases m with
      | type decl =>
          simp only [ofRole, ofActionCase]
          split
          · exact isOfMember_refusal (by trivial) _
          · exact isOfMember_of_silent rfl
      | _ => exact isOfMember_of_silent rfl
  | scopePath a =>
      cases m with
      | «variable» decl =>
          simp only [ofRole, ofScopePath]
          split
          · exact isOfMember_of_silent rfl
          · exact isOfMember_malformed _ _ a
      | _ => exact isOfMember_of_silent rfl
  | placeholder kind a => cases m <;> exact isOfMember_of_silent rfl
  | _ => cases m <;> exact isOfMember_of_silent rfl

/-- No member is refused because of a binding: bindings are not looked at before all members
have been read. -/
theorem isOfMember_ofVisit (v : Visit) : (ofVisit v).IsOfMember := by
  rw [ofVisit]
  split
  · exact isOfMember_ofRole _ _ _
  · exact isOfMember_refusal (by exact ⟨_, rfl⟩) _

theorem isOfItem_ofVisit (v : Visit) : (ofVisit v).IsOfItem :=
  fun d member => (isOfMember_ofVisit v d member).isOfItem

theorem isOrdinary_ofVisit (v : Visit) : (ofVisit v).IsOrdinary := by
  intro d member
  exact (isOfItem_ofVisit v d member).isOfReading.isOrdinary

end Contribution

namespace SymbolTable

/-- A table reports what another does, and behind that ordinary problems only. -/
def KeepsReports (t u : SymbolTable) : Prop :=
  ∃ added, u.diagnostics = t.diagnostics ++ added ∧ ∀ d ∈ added, d.IsOrdinary

/-- A table reports what another does, and behind that only diagnostics of one sort. -/
def ReportsOnly (P : Diagnostic → Prop) (t u : SymbolTable) : Prop :=
  ∃ added, u.diagnostics = t.diagnostics ++ added ∧ ∀ d ∈ added, P d

namespace ReportsOnly

variable {P : Diagnostic → Prop} {t u v : SymbolTable}

theorem of_eq (same : u.diagnostics = t.diagnostics) : ReportsOnly P t u :=
  ⟨[], by rw [same, List.append_nil], fun _ member => nomatch member⟩

theorem trans (first : ReportsOnly P t u) (second : ReportsOnly P u v) : ReportsOnly P t v := by
  obtain ⟨early, before, some⟩ := first
  obtain ⟨late, behind, more⟩ := second
  refine ⟨early ++ late, by rw [behind, before, List.append_assoc], fun d member => ?_⟩
  rcases List.mem_append.mp member with now | later
  · exact some d now
  · exact more d later

/-- A step that is repeated keeps what it keeps each time. -/
theorem foldl {α : Type} {step : SymbolTable → α → SymbolTable} {xs : List α}
    (kept : ∀ x ∈ xs, ∀ u, ReportsOnly P u (step u x)) (t : SymbolTable) :
    ReportsOnly P t (xs.foldl step t) := by
  induction xs generalizing t with
  | nil => exact of_eq rfl
  | cons x xs ih =>
      have first := kept x List.mem_cons_self t
      exact first.trans (ih (fun y member => kept y (List.mem_cons_of_mem x member)) (step t x))

end ReportsOnly

theorem KeepsReports.trans {t u v : SymbolTable} (first : KeepsReports t u)
    (second : KeepsReports u v) : KeepsReports t v := ReportsOnly.trans first second

open ReportsOnly

/-! ## Entering names -/

section Steps

variable {P : Diagnostic → Prop}

theorem reportsOnly_append (t : SymbolTable) {reports : Diagnostics} (only : ∀ d ∈ reports, P d) :
    ReportsOnly P t (t.withDiagnostics (t.diagnostics ++ reports)) :=
  ⟨reports, rfl, only⟩

theorem reportsOnly_report (t : SymbolTable) {problem : Problem} {location : Location}
    (only : P (.ofProblem problem location)) : ReportsOnly P t (t.report problem location) := by
  refine reportsOnly_append t fun d member => ?_
  rw [List.mem_singleton.mp member]
  exact only

theorem reportsOnly_pushStage (t : SymbolTable) (stage : ChildStage) :
    ReportsOnly P t (t.pushStage stage) := by
  rw [pushStage_eq]
  exact of_eq rfl

theorem reportsOnly_insertPlaceholder (t : SymbolTable) (p : Placeholder) :
    ReportsOnly P t (t.insertPlaceholder p) := by
  rw [insertPlaceholder_eq]
  exact of_eq rfl

theorem reportsOnly_pushFragment (t : SymbolTable) (position : Position) (f : Fragment) :
    ReportsOnly P t (t.pushFragment position f) := by
  cases position <;> exact of_eq rfl

/-- A name that is taken is reported in the words of the problem, with a note. -/
theorem reportsOnly_register (t : SymbolTable) {duplicate : Problem}
    (only : ∀ d : Diagnostic, d.kind = duplicate.kind → d.message = duplicate.message → P d)
    (name : String) (location : Location) {proceed : SymbolTable → SymbolTable}
    (kept : ∀ u, ReportsOnly P u (proceed u)) :
    ReportsOnly P t (t.register name location duplicate proceed).1 := by
  rw [register]
  split
  · next first _ =>
      refine reportsOnly_append t fun d member => ?_
      rw [List.mem_singleton.mp member]
      exact only _ rfl rfl
  · exact (of_eq rfl).trans (kept (t.reserve name location))

section Entries

variable (wide : ∀ d : Diagnostic, d.IsOfItem → P d)

include wide

theorem reportsOnly_addStaged (t : SymbolTable) (name : String) (e : Embedding)
    (initialValue : Option String) (location : Location) (staged : Bool) :
    ReportsOnly P t (t.addStaged name e initialValue location staged) := by
  have added : ReportsOnly P t (t.addChild name e initialValue location).1 :=
    reportsOnly_register t (fun d kind message => wide d ⟨_, by trivial, kind, message⟩) name
      location fun _ => of_eq rfl
  rw [addStaged]
  split
  · next same => rwa [same] at added
  · next same =>
      rw [same] at added
      split
      · exact added.trans (reportsOnly_pushStage _ _)
      · exact added

theorem reportsOnly_addEntry (resolve : Resolver) (t : SymbolTable) (e : ChildEntry) :
    ReportsOnly P t (addEntry resolve t e) := by
  rw [addEntry]
  cases plan : e.plan t.policy resolve with
  | refused problem =>
      exact reportsOnly_report t (wide _ (Diagnostic.isOfItem_ofProblem
        (ChildEntry.isOfEntry_of_refused plan).isOfItem e.location))
  | placeholder kind name =>
      refine reportsOnly_register t (fun d kind message => wide d ⟨_, by trivial, kind, message⟩)
        name e.location fun u => ?_
      have inserted : ReportsOnly P u _ :=
        reportsOnly_insertPlaceholder u (placeholderOf name kind e resolve)
      split
      · exact inserted.trans (reportsOnly_pushStage _ _)
      · exact inserted
  | list name embedding children =>
      have listed : ReportsOnly P t (children.foldl (insertListed name resolve) t) := by
        rw [foldl_insertListed]
        exact of_eq rfl
      exact listed.trans (reportsOnly_addStaged wide _ _ _ _ _ _)
  | child name embedding initialValue dropped =>
      refine ReportsOnly.trans ?_ (reportsOnly_addStaged wide _ _ _ _ _ _)
      split
      · exact reportsOnly_report t
          (wide _ (Diagnostic.isOfItem_ofProblem (by trivial) e.location))
      · exact of_eq rfl

end Entries

/-! ## Entering contributions -/

section Members

variable (wide : ∀ d : Diagnostic, d.IsOfMember → P d)

include wide

theorem reportsOnly_attachObserver (t : SymbolTable) (attachment : Attachment) (o : Observer)
    (location : Location) : ReportsOnly P t (t.attachObserver attachment o location).1 := by
  have reported {problem : Problem} (ofMember : problem.IsOfMember) :
      ReportsOnly P t (t.report problem location) :=
    reportsOnly_report t (wide _ (Diagnostic.isOfMember_ofProblem ofMember location))
  cases attachment with
  | core => exact of_eq rfl
  | binding =>
      rw [attachObserver]
      split
      · exact of_eq rfl
      · exact reported (by trivial)
  | scope name =>
      rw [attachObserver]
      split
      · exact of_eq rfl
      · exact reported (by trivial)

theorem reportsOnly_contribute (t : SymbolTable) {c : Contribution} (only : ∀ d ∈ c.reports, P d) :
    ReportsOnly P t (t.contribute c) := by
  have taken {p : Problem} (ofMember : p.IsOfMember) (d : Diagnostic) (kind : d.kind = p.kind)
      (message : d.message = p.message) : P d := wide d ⟨p, ofMember, kind, message⟩
  cases c with
  | refused reports => exact reportsOnly_append t only
  | pipeline location =>
      refine ⟨_, rfl, fun d member => ?_⟩
      rw [List.mem_singleton.mp member]
      exact wide _ ⟨.generationSuppressed t.module, trivial, rfl, rfl⟩
  | action name type location =>
      exact reportsOnly_register t (taken (by trivial)) name location fun _ => of_eq rfl
  | scope pending =>
      exact reportsOnly_register t (taken (by trivial)) pending.name pending.location
        fun _ => of_eq rfl
  | fragment position f => exact reportsOnly_pushFragment t position f
  | actionFragment position name type location f =>
      have added : ReportsOnly P t (t.addAction name type location).1 :=
        reportsOnly_register t (taken (by trivial)) name location fun _ => of_eq rfl
      rw [contribute]
      split
      · next same =>
          rw [same] at added
          exact added.trans (reportsOnly_pushFragment _ _ _)
      · next same => rwa [same] at added
  | boundFragment position pending f =>
      have queued : ReportsOnly P t (t.queueBinding pending).1 := of_eq rfl
      exact queued.trans (reportsOnly_pushFragment _ _ _)
  | observer attachment o location =>
      exact reportsOnly_attachObserver wide t attachment o location
  | _ => exact of_eq rfl

theorem reportsOnly_collect (t : SymbolTable) (members : List Member) :
    ReportsOnly P t (t.collect members) := by
  refine foldl (fun v _ u => reportsOnly_contribute wide u fun d member => ?_) t
  exact wide d (Contribution.isOfMember_ofVisit v d member)

end Members

end Steps

/-! ## Applying a composition -/

theorem isOfInitialCase_of_checkInitialCase {t : SymbolTable} {e : Expr} {problem : Problem}
    (wrong : t.checkInitialCase e = .error problem) : problem.IsOfInitialCase := by
  rw [checkInitialCase] at wrong
  repeat' split at wrong
  all_goals
    cases wrong
    try exact trivial

theorem isOfInitialCase_of_initialReport? {t : SymbolTable} {c : Composition} {d : Diagnostic}
    (reported : t.initialReport? c = some d) :
    ∃ p : Problem, p.IsOfInitialCase ∧ d.kind = p.kind ∧ d.message = p.message := by
  obtain ⟨⟨e, location⟩, _, report⟩ := Option.bind_eq_some_iff.mp reported
  split at report
  · cases report
  · next problem wrong =>
      cases report
      exact ⟨problem, isOfInitialCase_of_checkInitialCase wrong, rfl, rfl⟩

theorem isOfReading_of_initialReport? {t : SymbolTable} {c : Composition} {d : Diagnostic}
    (reported : t.initialReport? c = some d) : d.IsOfReading := by
  obtain ⟨p, ofInitial, kind, message⟩ := isOfInitialCase_of_initialReport? reported
  exact ⟨p, ofInitial.isOfReading, kind, message⟩

theorem reportsOnly_compose {P : Diagnostic → Prop} (wide : ∀ d : Diagnostic, d.IsOfReading → P d)
    (t : SymbolTable) (c : Composition) (resolve : Resolver) :
    ReportsOnly P t (t.compose c resolve) := by
  have options : ReportsOnly P t (t.withOptions c.options) := by
    obtain ⟨state, action, chosen⟩ := withOptions_eq t c.options
    rw [chosen]
    exact of_eq rfl
  have entries : ReportsOnly P (t.withOptions c.options)
      (addEntries resolve (t.withOptions c.options) c.children) :=
    foldl
      (fun e _ u => reportsOnly_addEntry (fun d ofItem => wide d ofItem.isOfReading) resolve u e) _
  rw [compose_eq_selected]
  refine (options.trans entries).trans ⟨_, rfl, ?_⟩
  intro d member
  exact wide d (isOfReading_of_initialReport? (Option.mem_toList.mp member))

/-- Reading a module reports on what is read, and on nothing that is found out later. -/
theorem isOfReading_read (policy : Policy) (resolver : Resolver) (definition : ModuleDef)
    (c : Composition) {d : Diagnostic}
    (member : d ∈ (read policy resolver definition c).diagnostics) : d.IsOfReading := by
  have composed := reportsOnly_compose (fun _ => id) (blank policy definition c) c resolver
  have collected := reportsOnly_collect (fun _ ofMember => ofMember.isOfItem.isOfReading)
    ((blank policy definition c).compose c resolver) definition.members
  obtain ⟨added, reports, ofReading⟩ := composed.trans collected
  have none : (blank policy definition c).diagnostics = [] := rfl
  rw [none, List.nil_append] at reports
  rw [read, reports] at member
  exact ofReading d member

theorem keepsReports_compose (t : SymbolTable) (c : Composition) (resolve : Resolver) :
    KeepsReports t (t.compose c resolve) :=
  reportsOnly_compose (fun _ => Diagnostic.IsOfReading.isOrdinary) t c resolve

theorem keepsReports_contribute (t : SymbolTable) {c : Contribution} (ordinary : c.IsOrdinary) :
    KeepsReports t (t.contribute c) :=
  reportsOnly_contribute (fun _ ofMember => ofMember.isOfItem.isOfReading.isOrdinary) t ordinary

theorem keepsReports_collect (t : SymbolTable) (members : List Member) :
    KeepsReports t (t.collect members) :=
  reportsOnly_collect (fun _ ofMember => ofMember.isOfItem.isOfReading.isOrdinary) t members

/-! ## Resolving -/

theorem keepsReports_enterPlaceholders (t : SymbolTable) :
    KeepsReports t t.enterPlaceholders := by
  refine foldl (fun p _ u => ?_) t
  rw [enterPlaceholder]
  split
  · exact of_eq rfl
  · split
    · exact reportsOnly_report u (Diagnostic.isOrdinary_ofProblem (by exact ⟨p.kind, rfl⟩) p.location)
    · exact of_eq rfl

theorem keepsReports_resolveScopes (t : SymbolTable) : KeepsReports t t.resolveScopes := by
  refine ⟨_, rfl, fun d member => ?_⟩
  obtain ⟨s, _, missing⟩ := List.mem_filterMap.mp member
  split at missing
  · cases missing
  · next problem unfit =>
      cases missing
      exact Diagnostic.isOrdinary_ofProblem
        (PendingScope.isOfMember_of_resolve unfit).isOfItem.isOfReading.isOrdinary s.location

theorem diagnostics_settleBindings (t : SymbolTable) :
    t.settleBindings.diagnostics =
      t.diagnostics ++
        (t.placeholders.failures t.pendingBindings).map PlaceholderRegistry.failureReport :=
  congrArg (t.diagnostics ++ ·) (PlaceholderRegistry.reports_bindAll _ _)

/-- Resolving a table reports the failures of its queue, and ordinary problems behind them. -/
theorem diagnostics_resolve {t : SymbolTable} (fresh : t.isResolved = false) :
    ∃ added,
      t.resolve.diagnostics =
        t.diagnostics ++
          (t.placeholders.failures t.pendingBindings).map PlaceholderRegistry.failureReport ++
          added ∧
      ∀ d ∈ added, d.IsOrdinary := by
  let settled := ({ t with isResolved := true } : SymbolTable).pushBindingAction.settleBindings
  have kept : KeepsReports settled t.resolve := by
    have placed (u : SymbolTable) : KeepsReports u u.placeStages := of_eq rfl
    rw [resolve, fresh, if_neg Bool.false_ne_true]
    exact ((keepsReports_enterPlaceholders settled).trans (placed _)).trans
      (keepsReports_resolveScopes _)
  have failed : settled.diagnostics = t.diagnostics ++
      (t.placeholders.failures t.pendingBindings).map PlaceholderRegistry.failureReport := by
    change ({ t with isResolved := true } : SymbolTable).pushBindingAction.settleBindings.diagnostics
      = _
    rw [diagnostics_settleBindings, pushBindingAction_eq]
  obtain ⟨added, result, ordinary⟩ := kept
  exact ⟨added, by rw [result, failed], ordinary⟩

end SymbolTable

end StateWeave
