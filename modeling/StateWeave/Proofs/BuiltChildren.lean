import StateWeave.Proofs.InitialReports
import StateWeave.Proofs.ListPlaceholders
import StateWeave.Proofs.PlacedChains

/-!
# Children that were built

A child is checked twice: when it is built, and again when its module is expanded. What was built
passes the second check, whatever calls it was built by. It has a name and a type where its kind
asks for them, and its list holds no lists. `built_children_accepted` says what this means for a
module that gets all its children in this way: none of them is reported for a lack of these, at any
level, and the modules of its lists have no modules in them.
-/

namespace StateWeave

/-! ## What is built -/

def ChildKind.entries : ChildKind → List ChildEntry
  | destination _ children => children
  | navigationStack _ children => children
  | _ => []

namespace ChildEntry

/-- Whether an entry has a name and a type where its kind asks for them. -/
structure IsReady (e : ChildEntry) : Prop where
  named : e.kind.isList = false → e.name?.isSome = true
  typed : e.kind.requiresType = true → e.type.isSome = true

/-- Whether an entry for a list may have this one in it. -/
structure IsItem (e : ChildEntry) : Prop extends IsReady e where
  single : e.kind.isList = false

/-- Whether an entry is ready, and so are the entries of its list, none of which is a list. -/
structure IsBuilt (e : ChildEntry) : Prop extends IsReady e where
  items : ∀ inner ∈ e.kind.entries, inner.IsItem

end ChildEntry

namespace ChildDraft

/-- Whether the entries of a list in the making are ready and no lists. -/
def HoldsItems (d : ChildDraft) : Prop := ∀ inner ∈ d.kind.entries, inner.IsItem

theorem holdsItems_draft (start : ChildStart) : start.draft.HoldsItems := by
  cases start <;> exact fun _ member => absurd member List.not_mem_nil

/-- A draft that can be built has a name and a type where they are asked for. -/
theorem isReady_of_build {d : ChildDraft} {e : ChildEntry} (built : d.build = .ok e) :
    e = d.entry ∧ e.IsReady := by
  rw [build] at built
  split at built
  · cases built
  · next named =>
      split at built
      · cases built
      · next typed =>
          obtain rfl : d.entry = e := Except.ok.inj built
          refine ⟨rfl, ?_, ?_⟩
          · intro single
            have kind : d.kind.isList = false := single
            rw [ChildEntry.name?, entry]
            cases name : d.name with
            | none =>
                have free : d.kind.requiresName = false := by simpa [name] using named
                rw [ChildKind.requiresName, kind, Bool.or_false] at free
                cases of : d.kind <;> first | rfl | (rw [of] at free; cases free)
            | some text =>
                have said : text ≠ "" := by simpa [name] using named
                simp [Expr.nonemptyLiteral?, Expr.literal?, said]
          · intro asks
            have kind : d.kind.requiresType = true := asks
            change d.type.isSome = true
            cases type : d.type with
            | some type => rfl
            | none => simp [kind, type] at typed

theorem entries_withModule (kind : ChildKind) (module : String) :
    (kind.withModule module).entries = kind.entries := by
  cases kind <;> rfl

theorem entries_of_longer {kind longer : ChildKind} {e : ChildEntry}
    (added : kind.withEntry? e = some longer) : longer.entries = kind.entries ++ [e] := by
  cases kind <;> cases added <;> rfl

theorem HoldsItems.addChild {d inner result : ChildDraft} (holds : d.HoldsItems)
    (added : d.addChild inner = .ok result) : result.HoldsItems := by
  obtain ⟨e, built, added⟩ := exists_of_bind_eq_ok added
  obtain ⟨_, ready⟩ := isReady_of_build built
  dsimp only at added
  split at added
  · cases added
  · next single =>
      split at added
      · next kind longer =>
          cases added
          intro item member
          change item ∈ kind.entries at member
          rw [entries_of_longer longer] at member
          rcases List.mem_append.mp member with old | new
          · exact holds item old
          · rw [List.mem_singleton.mp new]
            exact ⟨ready, by simpa using single⟩
      · cases added

/-- No call brings an entry to a list but those that build it. -/
theorem HoldsItems.call {d result : ChildDraft} (holds : d.HoldsItems) {k : ChildCall}
    (called : d.call k = .ok result) : result.HoldsItems := by
  cases k with
  | child start calls =>
      rw [ChildDraft.call] at called
      obtain ⟨inner, _, added⟩ := exists_of_bind_eq_ok called
      exact holds.addChild added
  | «module» name =>
      cases called
      intro item member
      change item ∈ (d.kind.withModule name).entries at member
      rw [entries_withModule] at member
      exact holds item member
  | _ =>
      cases called
      exact holds

theorem HoldsItems.callAll {d result : ChildDraft} (holds : d.HoldsItems)
    {calls : List ChildCall} (called : d.callAll calls = .ok result) : result.HoldsItems := by
  induction calls generalizing d with
  | nil =>
      cases called
      exact holds
  | cons k rest ih =>
      rw [ChildDraft.callAll] at called
      obtain ⟨next, made, others⟩ := exists_of_bind_eq_ok called
      exact ih (holds.call made) others

theorem isBuilt_of_calls {start : ChildStart} {calls : List ChildCall} {e : ChildEntry}
    (built : (start.draft.callAll calls >>= build) = .ok e) : e.IsBuilt := by
  obtain ⟨d, made, built⟩ := exists_of_bind_eq_ok built
  obtain ⟨rfl, ready⟩ := isReady_of_build built
  exact ⟨ready, (holdsItems_draft start).callAll made⟩

end ChildDraft

/-- Whether a call brings no entries but those that it builds itself. -/
def ModuleCall.buildsEntries : ModuleCall → Bool
  | entry _ => false
  | composition c => c.children.isEmpty
  | _ => true

namespace ModuleDraft

/-- Whether all entries of a module in the making were built. -/
def HoldsBuilt (d : ModuleDraft) : Prop :=
  ∀ c ∈ d.composition.toList ++ d.others, ∀ e ∈ c.children, e.IsBuilt

theorem HoldsBuilt.replace {d : ModuleDraft} (holds : d.HoldsBuilt) {c : Composition}
    (built : ∀ e ∈ c.children, e.IsBuilt) : HoldsBuilt { d with composition := some c } := by
  intro other member
  rcases List.mem_cons.mp member with rfl | behind
  · exact built
  · exact holds other (List.mem_append_right _ behind)

theorem HoldsBuilt.change {d result : ModuleDraft} (holds : d.HoldsBuilt)
    {f : Composition → Composition}
    (kept : ∀ c, (∀ e ∈ c.children, e.IsBuilt) → ∀ e ∈ (f c).children, e.IsBuilt)
    (changed : d.change f = .ok result) : result.HoldsBuilt := by
  rw [ModuleDraft.change] at changed
  split at changed
  · next c started =>
      cases changed
      exact holds.replace (kept c (holds c (by rw [started]; exact List.mem_cons_self)))
  · cases changed

theorem HoldsBuilt.withOption {d result : ModuleDraft} (holds : d.HoldsBuilt)
    {option : CompositionOption} (chosen : d.withOption option = .ok result) :
    result.HoldsBuilt :=
  holds.change (f := fun c => { c with options := c.options ++ [option] }) (fun _ => id) chosen

theorem HoldsBuilt.withShape {d : ModuleDraft} (holds : d.HoldsBuilt) (shape : StateShape) :
    (d.withShape shape).HoldsBuilt := by
  refine holds.replace ?_
  cases started : d.composition with
  | none => exact fun _ member => absurd member List.not_mem_nil
  | some c => exact holds c (by rw [started]; exact List.mem_cons_self)

theorem HoldsBuilt.withLocation {d : ModuleDraft} (holds : d.HoldsBuilt) (location : Location) :
    (d.withLocation location).HoldsBuilt := by
  intro other member
  rcases List.mem_append.mp member with own | behind
  · obtain ⟨c, started, rfl⟩ := Option.map_eq_some_iff.mp (Option.mem_toList.mp own)
    exact holds c (List.mem_append_left _ (Option.mem_toList.mpr started))
  · exact holds other (List.mem_append_right _ behind)

theorem HoldsBuilt.withComposition {d : ModuleDraft} (holds : d.HoldsBuilt) {c : Composition}
    (built : ∀ e ∈ c.children, e.IsBuilt) : (d.withComposition c).HoldsBuilt := by
  rw [ModuleDraft.withComposition]
  split
  · intro other member
    rw [← List.append_assoc] at member
    rcases List.mem_append.mp member with early | late
    · exact holds other early
    · rw [List.mem_singleton.mp late]
      exact built
  · exact holds.replace built

/-- No call brings an entry to a module but those that build it. -/
theorem HoldsBuilt.call {d result : ModuleDraft} (holds : d.HoldsBuilt) {k : ModuleCall}
    (builds : k.buildsEntries = true) (called : d.call k = .ok result) : result.HoldsBuilt := by
  cases k with
  | entry e => cases builds
  | child start calls =>
      rw [call_child] at called
      obtain ⟨e, made, entered⟩ := exists_of_bind_eq_ok called
      refine holds.change (fun c early other member => ?_) entered
      rcases List.mem_append.mp member with old | new
      · exact early other old
      · rw [List.mem_singleton.mp new]
        exact ChildDraft.isBuilt_of_calls made
  | composition c =>
      cases called
      have empty : c.children = [] := List.isEmpty_iff.mp builds
      refine holds.withComposition fun e member => ?_
      rw [empty] at member
      exact absurd member List.not_mem_nil
  | record =>
      cases called
      exact holds.withShape .record
  | variant =>
      cases called
      exact holds.withShape .variant
  | located location =>
      cases called
      exact holds.withLocation location
  | bindable => exact holds.withOption called
  | initialCase name => exact holds.withOption called
  | stateConformances list => exact holds.withOption called
  | actionConformances list => exact holds.withOption called
  | _ =>
      cases called
      exact holds

theorem HoldsBuilt.callAll {d result : ModuleDraft} (holds : d.HoldsBuilt)
    {calls : List ModuleCall} (build : ∀ k ∈ calls, k.buildsEntries = true)
    (called : d.callAll calls = .ok result) : result.HoldsBuilt := by
  induction calls generalizing d with
  | nil =>
      cases called
      exact holds
  | cons k rest ih =>
      obtain ⟨first, others⟩ := List.forall_mem_cons.mp build
      obtain ⟨next, made, after⟩ := exists_of_bind_eq_ok called
      exact ih (holds.call first made) others after

/-- All entries of a module are built if its calls build them. -/
theorem isBuilt_of_built {name : String} {calls : List ModuleCall} {definition : ModuleDef}
    (build : ∀ k ∈ calls, k.buildsEntries = true)
    (built : ModuleDraft.built name calls = .ok definition) :
    ∀ c ∈ definition.directives, ∀ e ∈ c.children, e.IsBuilt := by
  obtain ⟨d, called, rfl⟩ := exists_draft built
  have empty : HoldsBuilt { name := name } := fun _ member => absurd member List.not_mem_nil
  exact empty.callAll build called

end ModuleDraft

/-! ## Problems that building averts -/

namespace Problem

open Text

/-- Whether a problem is one that a child is checked for when it is built. -/
def IsAverted : Problem → Prop
  | missingChildName => True
  | missingChildType _ => True
  | malformedDirective directive _ => directive = "children"
  | _ => False

/-- What reports on these problems begin with. -/
def avertedLeads : List String := ["invalid or missing ", "`children`"]

theorem IsAverted.isOfItem {p : Problem} (averted : p.IsAverted) : p.IsOfItem := by
  cases p <;> first | exact trivial | exact averted.elim

theorem IsAverted.exists_lead {p : Problem} (averted : p.IsAverted) :
    ∃ lead ∈ avertedLeads, lead.toList <+: p.message.toList := by
  cases p with
  | missingChildName => exact ⟨"invalid or missing ", by decide, prefix_ofList (by decide)⟩
  | missingChildType name =>
      refine ⟨"invalid or missing ", by decide, ?_⟩
      have message : (missingChildType name).message =
          "invalid or missing type for child " ++ ("'" ++ name ++ "'") := rfl
      rw [message, String.toList_append]
      exact (prefix_ofList (by decide)).trans (List.prefix_append _ _)
  | malformedDirective directive reason =>
      obtain rfl : directive = "children" := averted
      refine ⟨"`children`", by decide, ?_⟩
      have message : (malformedDirective "children" reason).message =
          "`children`" ++ " is malformed: " ++ reason := rfl
      rw [message, String.append_assoc, String.toList_append]
      exact List.prefix_append _ _
  | _ => exact averted.elim

/-- A text with a beginning of its own is no report on such a problem. -/
theorem IsAverted.message_ne_of_apart {p : Problem} (averted : p.IsAverted) {text : String}
    (apart : ApartFrom avertedLeads text) : text ≠ p.message := by
  obtain ⟨lead, member, begins⟩ := averted.exists_lead
  rintro rfl
  exact (apart lead member).1 begins

theorem apartFrom_ticked {words : List Char}
    (apart : ∀ lead ∈ avertedLeads,
      ¬ lead.toList <+: '`' :: words ++ ['`'] ∧ ¬ ('`' :: words ++ ['`'] <+: lead.toList)) :
    ApartFrom avertedLeads ("`" ++ String.ofList words ++ "`") := by
  intro lead member
  rw [Apart, String.toList_append, String.toList_append, String.toList_ofList (l := words)]
  exact apart lead member

/-- No report on a member reads like one on these problems. The directives that members carry have
other names. -/
theorem IsOfMember.message_ne_averted {p q : Problem} (ofMember : p.IsOfMember)
    (averted : q.IsAverted) : p.message ≠ q.message := by
  have carried {directive : String} (named : ∃ d : Directive, directive = d.name) :
      ApartFrom avertedLeads ("`" ++ directive ++ "`") := by
    obtain ⟨d, rfl⟩ := named
    cases d <;> exact apartFrom_ticked (by decide)
  have told {text : String} (apart : ApartFrom avertedLeads text) : text ≠ q.message :=
    averted.message_ne_of_apart apart
  cases p with
  | unsupportedDeclaration => exact told (((carried ofMember).append _).append _)
  | malformedDirective => exact told (((carried ofMember).append _).append _)
  | mutableParameter => exact told (((carried ofMember).append _).append _)
  | parameterNotAllowed => exact told ((((carried ofMember).append _).append _).append _)
  | idWithoutIdentifiedAction => exact told (((carried ofMember).append _).append _)
  | missingActionParameter => exact told ((carried ofMember).append _)
  | actionNameNotInferred => exact told (.append (.append (.ofList (by decide)) _) _)
  | bindingWithoutBindable =>
      have binding : ApartFrom avertedLeads ("`" ++ "binding" ++ "`") :=
        apartFrom_ticked (by decide)
      exact told (((binding.append _).append _).append _)
  | duplicateAction => exact told (.append (.ofList (by decide)) _)
  | duplicateScope => exact told (.append (.ofList (by decide)) _)
  | actionPathNotRooted => exact told (.append (.append (.append (.ofList (by decide)) _) _) _)
  | statePathNotRooted => exact told (.append (.append (.append (.ofList (by decide)) _) _) _)
  | unknownScopeAction => exact told (.append (.append (.append (.ofList (by decide)) _) _) _)
  | unknownAttachment => exact told (.append (.append (.append (.ofList (by decide)) _) _) _)
  | generationSuppressed =>
      have body : ApartFrom avertedLeads ("`" ++ "body" ++ "`") := apartFrom_ticked (by decide)
      exact told ((body.append _).append _)
  | _ => exact ofMember.elim

/-- No report on a binding that finds nothing does. -/
theorem message_problem_ne_averted (b : PendingBinding) (error : BindError) {q : Problem}
    (averted : q.IsAverted) : (b.problem error).message ≠ q.message := by
  apply averted.message_ne_of_apart
  cases error with
  | notFound => exact (((ApartFrom.ofList (by decide)).append _).append _).append _
  | ambiguous => exact (((ApartFrom.ofList (by decide)).append _).append _).append _

end Problem

namespace ChildEntry

variable {policy : Policy} {resolve : Resolver} {e : ChildEntry}

/-- An entry that is ready is refused for no more than a plain value where a module has to be. -/
theorem IsReady.refused (ready : e.IsReady) {problem : Problem}
    (refused : e.plan policy resolve = .refused problem) :
    ∃ name type, problem = .valueTypeAsModule name type := by
  have typed {name : String} (asks : e.kind.requiresType = true)
      (refused : e.typedPlan resolve name = .refused problem) :
      ∃ name type, problem = .valueTypeAsModule name type := by
    rcases typedPlan_refused refused with ⟨untyped, _⟩ | ⟨type, rfl⟩
    · have type := ready.typed asks
      rw [untyped] at type
      cases type
    · exact ⟨name, type, rfl⟩
  have named (single : e.kind.isList = false) : ∃ name, e.name? = some name :=
    Option.isSome_iff_exists.mp (ready.named single)
  rw [plan] at refused
  cases kind : e.kind with
  | destination | navigationStack =>
      rw [kind] at refused
      cases refused
  | alert | confirmationDialog | stateless =>
      obtain ⟨name, said⟩ := named (by rw [kind]; rfl)
      simp only [kind, said, PlaceholderKind.ofChild?] at refused
      cases refused
  | reducer | identifiedArray | state =>
      obtain ⟨name, said⟩ := named (by rw [kind]; rfl)
      simp only [kind, said, PlaceholderKind.ofChild?] at refused
      exact typed (by rw [kind]; rfl) refused

/-- What is reported of an entry that is ready reads like none of these problems. -/
theorem IsReady.message_ne_averted (ready : e.IsReady) {p q : Problem}
    (told : e.MayReport policy resolve p) (averted : q.IsAverted) : p.message ≠ q.message := by
  apply averted.message_ne_of_apart
  cases told with
  | refused plan =>
      obtain ⟨name, type, rfl⟩ := ready.refused plan
      have quoted : Text.ApartFrom Problem.avertedLeads ("'" ++ type ++ "'") :=
        .append (.append (.ofList (by decide)) type) "'"
      exact (quoted.append _).append _
  | ignored => exact ((Text.ApartFrom.ofList (by decide)).append _).append _
  | taken => exact (Text.ApartFrom.ofList (by decide)).append _

end ChildEntry

/-! ## Where reports come from -/

/-- What a report on a table is about: an entry, the initial case, a member, a binding that finds
nothing, or a placeholder that stays unbound. -/
inductive Diagnostic.Origin (policy : Policy) (resolve : Resolver) (entries : List ChildEntry)
    (d : Diagnostic) : Prop
  | entry {e : ChildEntry} {p : Problem} : e ∈ entries → e.MayReport policy resolve p →
      d.message = p.message → Origin policy resolve entries d
  | initialCase : d.IsOfInitialCase → Origin policy resolve entries d
  | member : d.IsOfMember → Origin policy resolve entries d
  | binding (b : PendingBinding) (error : BindError) :
      d.message = (b.problem error).message → Origin policy resolve entries d
  | placeholder (kind : PlaceholderKind) (name : String) :
      d.message = (Problem.unboundPlaceholder kind.text name).message →
        Origin policy resolve entries d

namespace SymbolTable

open Diagnostic ReportsOnly

variable (policy : Policy) (resolver : Resolver)

theorem origin_addEntries (t : SymbolTable) (es : List ChildEntry) :
    ReportsOnly (Origin t.policy resolver es) t (addEntries resolver t es) := by
  obtain ⟨added, reports, ofEntries⟩ := diagnostics_addEntries t resolver es
  refine ⟨added, reports, ?_⟩
  intro d member
  obtain ⟨e, entry, p, told, message⟩ := ofEntries d member
  exact .entry entry told message

theorem origin_compose (t : SymbolTable) (c : Composition) :
    ReportsOnly (Origin t.policy resolver c.children) t (t.compose c resolver) := by
  obtain ⟨state, action, chosen⟩ := withOptions_eq t c.options
  have options : ReportsOnly (Origin t.policy resolver c.children) t (t.withOptions c.options) := by
    rw [chosen]
    exact of_eq rfl
  have same : (t.withOptions c.options).policy = t.policy := by rw [chosen]
  have entries := origin_addEntries resolver (t.withOptions c.options) c.children
  rw [same] at entries
  rw [compose_eq_selected]
  refine (options.trans entries).trans ⟨_, rfl, ?_⟩
  intro d member
  obtain ⟨p, ofInitial, _, message⟩ :=
    isOfInitialCase_of_initialReport? (Option.mem_toList.mp member)
  exact .initialCase ⟨p, ofInitial, message⟩

theorem origin_resolve {t : SymbolTable} (fresh : t.isResolved = false)
    (entries : List ChildEntry) : ReportsOnly (Origin policy resolver entries) t t.resolve := by
  refine reportsOnly_resolve_of fresh ?_ ?_ ?_
  · rintro ⟨b, error⟩
    exact .binding b error rfl
  · intro p d reported
    rw [Placeholder.unboundReport?] at reported
    split at reported
    · cases reported
      exact .placeholder p.kind p.name rfl
    · cases reported
  · exact fun _ => .member

/-- Each report on a module is about one of its entries, about its initial case, about a member, or
about what was left open when all of them had been read. -/
theorem origin_ofModule (definition : ModuleDef) (c : Composition) :
    ∀ d ∈ (ofModule policy resolver definition c).diagnostics,
      d.Origin policy resolver c.children := by
  have composed := origin_compose resolver (blank policy definition c) c
  have collected : ReportsOnly (Origin policy resolver c.children)
      ((blank policy definition c).compose c resolver) (read policy resolver definition c) :=
    reportsOnly_collect (fun _ => .member) _ definition.members
  have resolved := origin_resolve policy resolver (isResolved_read policy resolver definition c)
    c.children
  obtain ⟨added, reports, origins⟩ := (composed.trans collected).trans resolved
  have none : (blank policy definition c).diagnostics = [] := rfl
  have table : ofModule policy resolver definition c =
      (read policy resolver definition c).resolve := rfl
  rw [table, reports, none, List.nil_append]
  exact origins

theorem origin_table (site : ListSite) :
    ∀ d ∈ (site.table resolver).diagnostics, d.Origin site.parent.policy resolver site.children := by
  have composed := origin_compose resolver site.started site.composition
  have resolved := origin_resolve site.parent.policy resolver (site.isResolved_compose resolver)
    site.children
  obtain ⟨added, reports, origins⟩ := composed.trans resolved
  have none : site.started.diagnostics = [] := rfl
  have table : site.table resolver =
      (site.started.compose site.composition resolver).resolve := rfl
  rw [table, reports, none, List.nil_append]
  exact origins

end SymbolTable

namespace Diagnostic

/-- Whether a diagnostic reads like a report on a problem that a child is checked for when it is
built. -/
def IsAverted (d : Diagnostic) : Prop := ∃ p : Problem, p.IsAverted ∧ d.message = p.message

/-- Where all entries are ready, no report reads like one on these problems. -/
theorem Origin.not_isAverted {policy : Policy} {resolve : Resolver} {entries : List ChildEntry}
    {d : Diagnostic} (origin : d.Origin policy resolve entries)
    (ready : ∀ e ∈ entries, e.IsReady) : ¬d.IsAverted := by
  rintro ⟨q, averted, also⟩
  cases origin with
  | entry member told message =>
      exact (ready _ member).message_ne_averted told averted (message.symm.trans also)
  | initialCase ofInitial =>
      obtain ⟨p, known, message⟩ := ofInitial
      exact averted.isOfItem.message_ne known (also.symm.trans message)
  | member ofMember =>
      obtain ⟨p, known, _, message⟩ := ofMember
      exact known.message_ne_averted averted (message.symm.trans also)
  | binding b error message =>
      exact Problem.message_problem_ne_averted b error averted (message.symm.trans also)
  | placeholder kind name message =>
      exact averted.isOfItem.isOfReading.message_ne kind name (also.symm.trans message)

end Diagnostic

/-! ## Lists that were built -/

namespace ListSite

/-- A list has the entries that were given with the entry for it. -/
theorem entries_of_ofChild? {parent : SymbolTable} {e : ChildEntry} {site : ListSite}
    (asks : ofChild? parent e = some site) : e.kind.entries = site.children := by
  rw [ofChild?] at asks
  split at asks
  · next kind => cases asks; rw [kind]; rfl
  · next kind => cases asks; rw [kind]; rfl
  · cases asks

theorem ofChild?_of_single {e : ChildEntry} (single : e.kind.isList = false)
    (parent : SymbolTable) : ofChild? parent e = none := by
  rw [ofChild?]
  cases kind : e.kind with
  | destination | navigationStack =>
      rw [kind] at single
      cases single
  | _ => rfl

/-- A list without lists among its entries has no lists in its table. -/
theorem lists_table_of_items {site : ListSite} (items : ∀ e ∈ site.children, e.IsItem)
    (resolver : Resolver) : (site.table resolver).lists = [] := by
  rw [lists_table, List.filterMap_eq_nil_iff]
  intro e letIn
  exact ofChild?_of_single (items e (Admission.mem_of_mem_admitted letIn)).single _

end ListSite

namespace SymbolTable

variable {policy : Policy} {resolver : Resolver} {definition : ModuleDef} {c : Composition}
  (built : ∀ e ∈ c.children, e.IsBuilt)

include built

theorem items_of_mem_lists {site : ListSite}
    (list : site ∈ (ofModule policy resolver definition c).lists) :
    ∀ e ∈ site.children, e.IsItem := by
  rw [lists_ofModule] at list
  obtain ⟨e, letIn, asks⟩ := List.mem_filterMap.mp list
  rw [← ListSite.entries_of_ofChild? asks]
  exact (built e (Admission.mem_of_mem_admitted letIn)).items

/-- All lists stand in the module itself. -/
theorem mem_lists_of_hasList {site : ListSite}
    (list : HasList resolver (ofModule policy resolver definition c) site) :
    site ∈ (ofModule policy resolver definition c).lists := by
  induction list with
  | own list => exact list
  | nested _ list ih =>
      rw [ListSite.lists_table_of_items (items_of_mem_lists built ih)] at list
      exact absurd list List.not_mem_nil

end SymbolTable

namespace Expansion

/-- Without a composition there are no children, and of several none is looked at. -/
theorem not_isAverted_of_not_single {policy : Policy} {resolver : Resolver}
    {definition : ModuleDef} (several : ¬∃ c, definition.directives = [c]) :
    ∀ d ∈ (ofModule policy resolver definition).diagnostics, ¬d.IsAverted := by
  rw [ofModule]
  split
  · exact fun _ member => absurd member List.not_mem_nil
  · next c single => exact absurd ⟨c, single⟩ several
  · intro d member
    rw [List.mem_singleton.mp member]
    rintro ⟨q, averted, also⟩
    refine averted.message_ne_of_apart ?_ also
    exact ((((Text.ApartFrom.ofList (by decide)).append _).append _).append _).append _

section

variable {policy : Policy} {resolver : Resolver} {definition : ModuleDef}
  (built : ∀ c ∈ definition.directives, ∀ e ∈ c.children, e.IsBuilt)

include built

/-- Nothing that building averts is reported of built children, at any level. -/
theorem not_isAverted_of_built :
    ∀ d ∈ (ofModule policy resolver definition).diagnostics, ¬d.IsAverted := by
  by_cases single : ∃ c, definition.directives = [c]
  · obtain ⟨c, single⟩ := single
    have children : ∀ e ∈ c.children, e.IsBuilt := built c (by rw [single]; exact List.mem_cons_self)
    have complete := SymbolTable.isComplete_ofModule policy resolver definition c
    intro d member
    rw [diagnostics_ofModule single] at member
    rcases List.mem_append.mp member with own | nested
    · exact (SymbolTable.origin_ofModule policy resolver definition c d own).not_isAverted
        fun child below => (children child below).toIsReady
    · refine complete.forall_declareWithin (P := fun d => ¬d.IsAverted) ?_ _ d nested
      intro site list d reported
      have items := SymbolTable.items_of_mem_lists children
        (SymbolTable.mem_lists_of_hasList children list)
      exact (SymbolTable.origin_table resolver site d reported).not_isAverted
        fun child below => (items child below).toIsReady
  · exact not_isAverted_of_not_single single

/-- Lists of built children bring one level of modules. -/
theorem modulesIn_of_built :
    ∀ m ∈ Declaration.modulesIn (ofModule policy resolver definition).declarations,
      Declaration.modulesIn m.declarations = [] := by
  intro m member
  obtain ⟨site, ⟨c, single, list⟩, rfl⟩ :=
    (mem_modulesIn_ofModule_iff policy resolver definition m).mp member
  have children : ∀ e ∈ c.children, e.IsBuilt := built c (by rw [single]; exact List.mem_cons_self)
  have items := SymbolTable.items_of_mem_lists children
    (SymbolTable.mem_lists_of_hasList children list)
  have flat := ListSite.lists_table_of_items items resolver
  change Declaration.modulesIn ((site.table resolver).declare resolver).declarations = []
  rw [SymbolTable.modulesIn_declare resolver (site.isResolved_table resolver), flat]
  rfl

end

/-- A module whose children were all built, by whatever calls, is not reported for a child without
a name or a type, nor for a list in a list, whoever resolves its types and whatever the policy is.
The reports are those of all levels, and the modules of its lists have no modules in them. -/
theorem built_children_accepted {name : String} {calls : List ModuleCall} {definition : ModuleDef}
    (build : ∀ k ∈ calls, k.buildsEntries = true)
    (built : ModuleDraft.built name calls = .ok definition) (policy : Policy)
    (resolver : Resolver) :
    let e := ofModule policy resolver definition
    (∀ d ∈ e.diagnostics,
      d.message ≠ Problem.missingChildName.message ∧
      (∀ child, d.message ≠ (Problem.missingChildType child).message) ∧
      ∀ reason, d.message ≠ (Problem.malformedDirective "children" reason).message) ∧
    ∀ m ∈ Declaration.modulesIn e.declarations, Declaration.modulesIn m.declarations = [] := by
  intro e
  have children := ModuleDraft.isBuilt_of_built build built
  have accepted : ∀ d ∈ e.diagnostics, ¬d.IsAverted := not_isAverted_of_built children
  refine ⟨fun d member => ⟨?_, ?_, ?_⟩, modulesIn_of_built children⟩
  · exact fun same => accepted d member ⟨.missingChildName, trivial, same⟩
  · exact fun child same => accepted d member ⟨.missingChildType child, trivial, same⟩
  · exact fun reason same => accepted d member ⟨.malformedDirective "children" reason, rfl, same⟩

/-- A shop with a cart, and with a sheet that asks before it closes. The sheet is named only after
its entries have been added. -/
def shop : List ModuleCall :=
  [.record,
    .child .destination
      [.child .alert [.presents], .child (.reducer "detail") [.of "Detail"], .named "sheet"],
    .child (.reducer "cart") [.of "Cart?"],
    .located ⟨2, 1⟩]

/-- The shop is built, and the module of its sheet has no module in it. -/
theorem built_children_accepted_shop :
    ∃ definition, ModuleDraft.built "Shop" shop = .ok definition ∧
      let e := ofModule {} .textual definition
      (Declaration.modulesIn e.declarations).map NestedModule.name = ["Destination"] ∧
        (∀ m ∈ Declaration.modulesIn e.declarations, Declaration.modulesIn m.declarations = []) ∧
        ∀ d ∈ e.diagnostics, d.message ≠ Problem.missingChildName.message := by
  refine ⟨_, rfl, ?_⟩
  intro e
  obtain ⟨reports, flat⟩ :=
    @built_children_accepted "Shop" shop _ (by decide) rfl {} .textual
  refine ⟨?_, flat, fun d member => (reports d member).1⟩
  rfl

end Expansion

end StateWeave
