import StateWeave.Proofs.ChildNames
import StateWeave.Proofs.TableReports

/-!
# What becomes of an entry

An entry of a list of children comes out in one of three ways. It becomes a child at once, with
its state, its action and its scope; or it declares a placeholder, whose child comes later if
anything binds it; or it is turned away with one error. `exists_fate_addEntry` finds the way from
the plan of the entry and from whether its name is free, and `EntryFate.unique` tells the ways
apart by what they leave in the table. Later entries take nothing of it back.
-/

namespace StateWeave

open Admission

namespace SymbolTable

/-- Whether a table has one child more than another, with all that follows from a child. -/
structure GainsChild (t u : SymbolTable) (c : NamedChild) : Prop where
  stateMembers : u.stateMembers = t.stateMembers ++ [c.member]
  actionMembers : u.actionMembers = t.actionMembers ++ c.action?.toList
  scopes : u.scopes = t.scopes ++ (t.scopeOf? c).toList
  scopeCases : u.scopeCases = t.scopeCases ++ t.casesOf [c]

structure SameChildren (t u : SymbolTable) : Prop where
  stateMembers : u.stateMembers = t.stateMembers
  actionMembers : u.actionMembers = t.actionMembers
  scopes : u.scopes = t.scopes
  scopeCases : u.scopeCases = t.scopeCases

/-- Whether two tables have the same stages, those that wait to be placed among them. -/
structure SameStages (t u : SymbolTable) : Prop where
  childStages : u.childStages = t.childStages
  guardedStages : u.guardedStages = t.guardedStages
  beforeCore : u.beforeCore = t.beforeCore
  core : u.core = t.core
  coreModifiers : u.coreModifiers = t.coreModifiers
  afterCore : u.afterCore = t.afterCore

/-- Whether these are the errors that one table reports behind all that another reports. -/
def ReportsErrors (t u : SymbolTable) (errors : Diagnostics) : Prop :=
  ∃ added, u.diagnostics = t.diagnostics ++ added ∧ added.filter Diagnostic.isError = errors

theorem ReportsErrors.unique {t u : SymbolTable} {errors others : Diagnostics}
    (first : ReportsErrors t u errors) (second : ReportsErrors t u others) : errors = others := by
  obtain ⟨added, one, rfl⟩ := first
  obtain ⟨also, two, rfl⟩ := second
  rw [one] at two
  rw [List.append_cancel_left two]

/-- Whether all that a table holds stands in front in another one. -/
structure GrowsInto (t u : SymbolTable) : Prop where
  stateMembers : t.stateMembers <+: u.stateMembers
  actionMembers : t.actionMembers <+: u.actionMembers
  scopes : t.scopes <+: u.scopes
  scopeCases : t.scopeCases <+: u.scopeCases
  places : t.places <+: u.places
  placeholders : t.placeholders.names <+: u.placeholders.names
  childStages : t.childStages <+: u.childStages
  guardedStages : t.guardedStages <+: u.guardedStages
  diagnostics : t.diagnostics <+: u.diagnostics

namespace GrowsInto

variable {t u v : SymbolTable}

theorem refl (t : SymbolTable) : GrowsInto t t :=
  ⟨List.prefix_rfl, List.prefix_rfl, List.prefix_rfl, List.prefix_rfl, List.prefix_rfl,
    List.prefix_rfl, List.prefix_rfl, List.prefix_rfl, List.prefix_rfl⟩

theorem trans (first : GrowsInto t u) (second : GrowsInto u v) : GrowsInto t v where
  stateMembers := first.stateMembers.trans second.stateMembers
  actionMembers := first.actionMembers.trans second.actionMembers
  scopes := first.scopes.trans second.scopes
  scopeCases := first.scopeCases.trans second.scopeCases
  places := first.places.trans second.places
  placeholders := first.placeholders.trans second.placeholders
  childStages := first.childStages.trans second.childStages
  guardedStages := first.guardedStages.trans second.guardedStages
  diagnostics := first.diagnostics.trans second.diagnostics

end GrowsInto

end SymbolTable

/-- The ways in which an entry comes out. -/
inductive EntryFate where
  | child
  | placeholder
  | refusal
  deriving DecidableEq

namespace EntryFate

open SymbolTable

/-- What an entry has done when it has come out in some way and the table `t` has become `u`. A
child and a placeholder take their name; a placeholder adds no child yet; an entry that is turned
away adds nothing, and it alone leaves an error, which lies where the entry lies. -/
def Holds (resolve : Resolver) (t u : SymbolTable) (e : ChildEntry) : EntryFate → Prop
  | child =>
    ∃ c, e.child? t.policy resolve = some c ∧ u.places = t.places ++ [(c.name, e.location)] ∧
      GainsChild t u c ∧ ReportsErrors t u []
  | placeholder =>
    ∃ p, e.own? t.policy resolve = some p ∧ u.places = t.places ++ [(p.name, e.location)] ∧
      u.placeholders = t.placeholders.declare p ∧ (u.placeholders.get? p.name).isSome = true ∧
      SameChildren t u ∧ ReportsErrors t u []
  | refusal =>
    ∃ d, d.location = e.location ∧ ReportsErrors t u [d] ∧ u.places = t.places ∧
      SameChildren t u ∧ SameStages t u

/-- No entry comes out in two ways. -/
theorem unique {resolve : Resolver} {t u : SymbolTable} {e : ChildEntry} {f g : EntryFate}
    (first : f.Holds resolve t u e) (second : g.Holds resolve t u e) : f = g := by
  have children {c : NamedChild} (gains : GainsChild t u c) (same : SameChildren t u) : False := by
    have longer := congrArg List.length (same.stateMembers.symm.trans gains.stateMembers)
    rw [List.length_append, List.length_singleton] at longer
    omega
  have errors {d : Diagnostic} (silent : ReportsErrors t u []) (fatal : ReportsErrors t u [d]) :
      False := by
    have same := silent.unique fatal
    cases same
  cases f with
  | child =>
      obtain ⟨c, _, _, gains, silent⟩ := first
      cases g with
      | child => rfl
      | placeholder =>
          obtain ⟨p, _, _, _, _, same, _⟩ := second
          exact (children gains same).elim
      | refusal =>
          obtain ⟨d, _, _, _, same, _⟩ := second
          exact (children gains same).elim
  | placeholder =>
      obtain ⟨p, _, _, _, _, same, silent⟩ := first
      cases g with
      | child =>
          obtain ⟨c, _, _, gains, _⟩ := second
          exact (children gains same).elim
      | placeholder => rfl
      | refusal =>
          obtain ⟨d, _, fatal, _⟩ := second
          exact (errors silent fatal).elim
  | refusal =>
      obtain ⟨d, _, fatal, _, same, _⟩ := first
      cases g with
      | child =>
          obtain ⟨c, _, _, gains, _⟩ := second
          exact (children gains same).elim
      | placeholder =>
          obtain ⟨p, _, _, _, _, _, silent⟩ := second
          exact (errors silent fatal).elim
      | refusal => rfl

end EntryFate

/-- Of declarations under one name one stands. -/
theorem PlaceholderRegistry.isSome_standing {p : Placeholder} {ps : List Placeholder}
    (member : p ∈ ps) : (standing ps).isSome = true := by
  have last : ps.getLast?.isSome = true := by
    apply Option.isSome_iff_ne_none.mpr
    intro none
    exact List.ne_nil_of_mem member (List.getLast?_eq_none_iff.mp none)
  rw [standing, Option.isSome_or, last, Bool.or_true]

namespace ChildEntry

variable {policy : Policy} {resolve : Resolver} {e : ChildEntry}

theorem declared_of_own? {p : Placeholder} (own : e.own? policy resolve = some p) :
    e.declared policy resolve true = [p] := by
  rw [own?] at own
  rw [declared]
  split at own
  · next planned =>
      cases own
      rw [planned]
      rfl
  · cases own

/-- An entry that is let in declares what it declares under its own name. -/
theorem mem_declarations_of_own {es : List ChildEntry} {p : Placeholder}
    (own : e.own? policy resolve = some p) {taken : List String}
    (entered : e ∈ admitted (claim? policy resolve) taken es) :
    p ∈ declarations policy resolve taken es := by
  induction es generalizing taken with
  | nil => cases entered
  | cons first rest ih =>
      rw [admitted_cons] at entered
      rw [declarations]
      rcases List.mem_append.mp entered with now | later
      · apply List.mem_append_left
        cases free : isFree (claim? policy resolve) taken first with
        | false =>
            rw [admitted_singleton_of_taken free] at now
            cases now
        | true =>
            rw [admitted_singleton_of_free free] at now
            obtain rfl := List.mem_singleton.mp now
            rw [declared_of_own? own]
            exact List.mem_cons_self
      · exact List.mem_append_right _ (ih later)

/-- Only an entry that is refused asks for no name. -/
theorem refused_of_claim?_none (anonymous : e.claim? policy resolve = none) :
    ∃ problem, e.plan policy resolve = .refused problem := by
  rw [claim?] at anonymous
  cases plan : e.plan policy resolve with
  | refused problem => exact ⟨problem, rfl⟩
  | _ =>
      rw [plan] at anonymous
      cases anonymous

end ChildEntry

namespace SymbolTable

variable {resolve : Resolver}

/-- An entry whose name is free is let in, and its remarks are no errors. -/
theorem addEntry_of_free {t : SymbolTable} {e : ChildEntry} {name : String}
    (asked : e.claim? t.policy resolve = some name) (free : t.firstPlace? name = none) :
    addEntry resolve t e =
      ((t.withEntries resolve [e]).withPlaceholders
        (t.placeholders.declareAll (e.declared t.policy resolve true))).withDiagnostics
        (t.diagnostics ++ e.remarks t.policy resolve) := by
  have isFree : isFree (ChildEntry.claim? t.policy resolve) t.names e = true :=
    (isFree_of_some asked t.names).mpr (firstPlace?_eq_none_iff.mp free)
  have reports := diagnostics_addEntry_of_free asked free
  obtain ⟨diagnostics, entered⟩ := addEntry_eq t resolve e
  rw [isFree, admitted_singleton_of_free isFree] at entered
  rw [entered] at reports ⊢
  rw [diagnostics_withDiagnostics] at reports
  rw [reports]

theorem reportsErrors_remarks (resolve : Resolver) {t u : SymbolTable} {e : ChildEntry}
    {errors : Diagnostics}
    (reports : u.diagnostics = t.diagnostics ++ (e.remarks t.policy resolve ++ errors))
    (fatal : ∀ d ∈ errors, d.isError = true) : ReportsErrors t u errors := by
  refine ⟨_, reports, ?_⟩
  have silent : (e.remarks t.policy resolve).filter Diagnostic.isError = [] := by
    apply List.filter_eq_nil_iff.mpr
    intro d member
    rw [e.isError_of_mem_remarks t.policy resolve member]
    exact Bool.false_ne_true
  rw [List.filter_append, silent, List.nil_append]
  exact List.filter_eq_self.mpr fatal

theorem gainsChild_withChildren (t : SymbolTable) (c : NamedChild) :
    GainsChild t (t.withChildren [c]) c := by
  have single {α : Type} (f : NamedChild → Option α) : [c].filterMap f = (f c).toList := by
    rw [Contribution.filterMap_cons_toList, List.filterMap_nil, List.append_nil]
  refine ⟨rfl, ?_, ?_, rfl⟩
  · rw [← single NamedChild.action?]
    rfl
  · rw [← single t.scopeOf?]
    rfl

theorem sameChildren_with (t : SymbolTable) (places : List (String × Location))
    (stages : List ChildStage) (registry : PlaceholderRegistry) (reports : Diagnostics) :
    SameChildren t
      ((((t.withPlaces places).withStages stages).withPlaceholders registry).withDiagnostics
        reports) := by
  dsimp only [withPlaces, withStages, withPlaceholders, withDiagnostics]
  exact ⟨rfl, rfl, rfl, rfl⟩

/-- An entry that is let in is a child, or an alert or a dialog. -/
theorem exists_fate_of_free {t : SymbolTable} {e : ChildEntry} {name : String}
    (asked : e.claim? t.policy resolve = some name) (free : t.firstPlace? name = none) :
    ∃ fate : EntryFate, fate.Holds resolve t (addEntry resolve t e) e := by
  have entered := addEntry_of_free asked free
  have silent : ReportsErrors t (addEntry resolve t e) [] := by
    apply reportsErrors_remarks resolve
    · rw [entered, diagnostics_withDiagnostics, List.append_nil]
    · intro d member
      cases member
  have places : (addEntry resolve t e).places = t.places ++ [(name, e.location)] := by
    rw [entered, withEntries_singleton, ChildEntry.place?, asked]
    rfl
  rcases ChildEntry.claim?_cases _ _ asked with ⟨_, c, child, rfl⟩ | ⟨_, p, own, rfl⟩
  · refine ⟨.child, c, child, places, ?_, silent⟩
    have gains := gainsChild_withChildren t c
    rw [entered, withEntries_singleton, child]
    exact ⟨gains.stateMembers, gains.actionMembers, gains.scopes, gains.scopeCases⟩
  · have childless : e.child? t.policy resolve = none := by
      cases child : e.child? t.policy resolve with
      | none => rfl
      | some c =>
          rw [ChildEntry.own?_of_child? (by rw [child]; rfl)] at own
          cases own
    have registry : (addEntry resolve t e).placeholders = t.placeholders.declare p := by
      rw [entered, ChildEntry.declared_of_own? own]
      rfl
    have held : ((t.placeholders.declare p).get? p.name).isSome = true := by
      rw [PlaceholderRegistry.get?_declare_self]
      exact PlaceholderRegistry.isSome_standing (List.mem_append_right _ List.mem_cons_self)
    refine ⟨.placeholder, p, own, places, registry, ?_, ?_, silent⟩
    · rw [registry]
      exact held
    · rw [entered, withEntries_singleton, childless, Option.toList_none, withChildren_nil]
      exact sameChildren_with t _ _ _ _

/-- An entry whose name is taken is turned away, and so is one that asks for none. -/
theorem exists_fate_addEntry (resolve : Resolver) (t : SymbolTable) (e : ChildEntry) :
    ∃ fate : EntryFate, fate.Holds resolve t (addEntry resolve t e) e := by
  cases asked : e.claim? t.policy resolve with
  | none =>
      obtain ⟨problem, refused⟩ := ChildEntry.refused_of_claim?_none asked
      have result : addEntry resolve t e = t.report problem e.location := by
        rw [addEntry, refused]
      have fatal : (Diagnostic.ofProblem problem e.location).isError = true := by
        rw [Diagnostic.isError_ofProblem]
        exact ChildEntry.isFatal_of_refused refused
      refine ⟨.refusal, .ofProblem problem e.location, rfl, ?_, ?_, ?_, ?_⟩
      · refine ⟨[.ofProblem problem e.location], ?_, ?_⟩
        · rw [result]
          rfl
        · exact List.filter_cons_of_pos fatal
      · rw [result]
        rfl
      · rw [result]
        exact ⟨rfl, rfl, rfl, rfl⟩
      · rw [result]
        exact ⟨rfl, rfl, rfl, rfl, rfl, rfl⟩
  | some name =>
      cases place : t.firstPlace? name with
      | none => exact exists_fate_of_free asked place
      | some first =>
          have result := addEntry_of_taken asked place
          refine ⟨.refusal, .ofDuplicate (.duplicateChild name) name e.location first, rfl, ?_, ?_,
            ?_, ?_⟩
          · apply reportsErrors_remarks resolve
            · rw [result, diagnostics_withDiagnostics, List.append_assoc]
            · intro d member
              rw [List.mem_singleton.mp member]
              rfl
          · rw [result]
            rfl
          · rw [result]
            exact ⟨rfl, rfl, rfl, rfl⟩
          · rw [result]
            exact ⟨rfl, rfl, rfl, rfl, rfl, rfl⟩

theorem growsInto_addEntry (resolve : Resolver) (t : SymbolTable) (e : ChildEntry) :
    GrowsInto t (addEntry resolve t e) := by
  obtain ⟨added, reports, _⟩ := diagnostics_addEntry t resolve e
  obtain ⟨diagnostics, entered⟩ := addEntry_eq t resolve e
  have behind : t.diagnostics <+: (addEntry resolve t e).diagnostics := by
    rw [reports]
    exact List.prefix_append _ _
  rw [entered] at behind ⊢
  generalize e.declared t.policy resolve _ = declared
  obtain ⟨fresh, names⟩ := PlaceholderRegistry.names_declareAll t.placeholders declared
  exact ⟨List.prefix_append _ _, List.prefix_append _ _, List.prefix_append _ _,
    List.prefix_append _ _, List.prefix_append _ _, ⟨fresh, names.symm⟩, List.prefix_append _ _,
    List.prefix_append _ _, behind⟩

theorem growsInto_addEntries (resolve : Resolver) (t : SymbolTable) (es : List ChildEntry) :
    GrowsInto t (addEntries resolve t es) := by
  induction es generalizing t with
  | nil => exact .refl t
  | cons e es ih => exact (growsInto_addEntry resolve t e).trans (ih (addEntry resolve t e))

theorem addEntries_drop (resolve : Resolver) (t : SymbolTable) (es : List ChildEntry)
    (count : Nat) :
    addEntries resolve (addEntries resolve t (es.take count)) (es.drop count) =
      addEntries resolve t es := by
  rw [addEntries, addEntries, ← List.foldl_append, List.take_append_drop]
  rfl

variable (module : String) (access : Access) (placement : Placement) (shape : StateShape)
  (policy : Policy) (location : Location) (placeholders : PlaceholderRegistry)

/-- Every entry of a composition is accounted for once. Between the table before an entry and the
table behind it lies exactly one of the three ways in which an entry comes out, and all that is
in the table behind the entry stands in front in the table of the whole composition, which has
nothing behind its last entry but the choice of the initial case. -/
theorem entry_fate_unique (c : Composition) (resolve : Resolver) :
    let start := (fresh module access placement shape policy location placeholders)
    let after (count : Nat) :=
      addEntries resolve (start.withOptions c.options) (c.children.take count)
    (∀ i : Fin c.children.length,
      (∃! fate : EntryFate, fate.Holds resolve (after i) (after (i + 1)) c.children[i]) ∧
        GrowsInto (after (i + 1)) (start.compose c resolve)) ∧
      ∃ initial reports, start.compose c resolve =
        ((after c.children.length).withInitialName initial).withDiagnostics
          ((after c.children.length).diagnostics ++ reports) := by
  intro start after
  have whole : after c.children.length =
      addEntries resolve (start.withOptions c.options) c.children := by
    show addEntries resolve _ (c.children.take c.children.length) = _
    rw [List.take_length]
  have composed := compose_eq_addEntries start c resolve
  refine ⟨?_, ?_⟩
  · intro i
    have step : after (i + 1) = addEntry resolve (after i) c.children[i] := by
      show addEntries resolve _ (c.children.take (i + 1)) = _
      rw [List.take_succ_eq_append_getElem i.isLt, addEntries, List.foldl_append]
      rfl
    constructor
    · obtain ⟨fate, holds⟩ := exists_fate_addEntry resolve (after i) c.children[i]
      refine ⟨fate, ?_, ?_⟩
      · show fate.Holds resolve (after i) (after (i + 1)) c.children[i]
        rw [step]
        exact holds
      · intro other also
        apply EntryFate.unique also
        rw [step]
        exact holds
    · have grown := growsInto_addEntries resolve (after (i + 1)) (c.children.drop (i + 1))
      rw [addEntries_drop] at grown
      obtain ⟨initial, reports, result⟩ := composed
      rw [result]
      exact ⟨grown.stateMembers, grown.actionMembers, grown.scopes, grown.scopeCases, grown.places,
        grown.placeholders, grown.childStages, grown.guardedStages,
        grown.diagnostics.trans (List.prefix_append _ _)⟩
  · rw [whole]
    exact composed

end SymbolTable

end StateWeave
