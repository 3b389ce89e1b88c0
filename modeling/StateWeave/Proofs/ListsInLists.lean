import StateWeave.Proofs.Levels
import StateWeave.Proofs.NestedPaths
import StateWeave.Proofs.RejectedEntries

/-!
# Lists in lists

The entries of a list are entered like those of a module, and this holds for destinations and
stacks among them, too. An entry for a list in a list is not refused. It enters a member and gets
a module inside the module of the list around it, however deep that one lies.
`lists_in_lists_expand` says what becomes of such entries one by one, and which modules a list's
module has in it after all of them.
-/

namespace StateWeave

open Admission

namespace ListSite

/-- The list that an entry asks for in the table that it is entered into. -/
def ofChild? (parent : SymbolTable) (e : ChildEntry) : Option ListSite :=
  match e.kind with
  | .destination module children =>
    let name := e.listName parent.policy.destinationName
    some ⟨parent, name, module.getD parent.policy.destinationModule,
      .destination name parent.module, children⟩
  | .navigationStack module children =>
    let name := e.listName parent.policy.stackName
    some ⟨parent, name, module.getD parent.policy.stackModule, .stack name parent.module, children⟩
  | _ => none

/-- The placeholders that the entries of a list declare for the table around it. -/
def listed (resolver : Resolver) (site : ListSite) : List Placeholder :=
  site.children.filterMap (ChildEntry.listed? resolver site.list)

end ListSite

/-- What becomes of an entry for a list in a nested table: a member that brings the list, or a
report that the name is taken. Nothing else is ever reported of it. -/
inductive ListSite.Enters (resolver : Resolver) (t : SymbolTable) (e : ChildEntry)
    (inner : ListSite) : SymbolTable → Prop
  | free {child : NamedChild} : t.firstPlace? inner.list = none →
      ListSite.ofMember? t child.member = some inner →
      Enters resolver t e inner
        (((t.withPlaceholders (t.placeholders.declareAll (inner.listed resolver))).withPlaces
          [(inner.list, e.location)]).withChildren [child])
  | taken {first : Location} : t.firstPlace? inner.list = some first →
      Enters resolver t e inner
        ((t.withPlaceholders (t.placeholders.declareAll (inner.listed resolver))).withDiagnostics
          (t.diagnostics ++
            [.ofDuplicate (.duplicateChild inner.list) inner.list e.location first]))

namespace ListSite

theorem plan_of_ofChild? {t : SymbolTable} {e : ChildEntry} {inner : ListSite}
    (asks : ofChild? t e = some inner) (resolver : Resolver) :
    ∃ embedding, e.plan t.policy resolver = .list inner.list embedding inner.children ∧
      ofMember? t (NamedChild.mk inner.list embedding none).member = some inner := by
  rw [ofChild?] at asks
  split at asks
  · next module children kind =>
      cases asks
      refine ⟨.destination (module.getD t.policy.destinationModule) children, ?_, rfl⟩
      rw [ChildEntry.plan, kind]
  · next module children kind =>
      cases asks
      refine ⟨.navigationStack (module.getD t.policy.stackModule) children, ?_, rfl⟩
      rw [ChildEntry.plan, kind]
  · cases asks

theorem enters_addEntry {t : SymbolTable} {e : ChildEntry} {inner : ListSite}
    (nested : t.placement.isRoot = false) (asks : ofChild? t e = some inner)
    (resolver : Resolver) : inner.Enters resolver t e (SymbolTable.addEntry resolver t e) := by
  obtain ⟨embedding, plan, brings⟩ := plan_of_ofChild? asks resolver
  rw [SymbolTable.addEntry, plan]
  simp only [SymbolTable.foldl_insertListed, nested]
  let u := t.withPlaceholders (t.placeholders.declareAll (inner.listed resolver))
  change inner.Enters resolver t e (u.addStaged inner.list embedding none e.location false)
  cases known : t.firstPlace? inner.list with
  | none =>
      have free : inner.list ∉ u.names := SymbolTable.firstPlace?_eq_none_iff.mp known
      rw [SymbolTable.addStaged_of_free free, if_neg Bool.false_ne_true,
        SymbolTable.withStages_nil]
      exact .free known brings
  | some first =>
      have taken : u.firstPlace? inner.list = some first := known
      rw [SymbolTable.addStaged_of_place taken]
      exact .taken known

theorem ofMember?_of_nesting {m : StateMember} (flat : m.embedding.nesting = 0)
    (parent : SymbolTable) : ofMember? parent m = none := by
  rw [Option.eq_none_iff_forall_ne_some]
  intro inner brings
  have deep := nesting_of_ofMember? brings
  omega

/-- The child of an entry brings the list that the entry asks for. -/
theorem bind_ofMember?_child? (t : SymbolTable) (resolver : Resolver) (e : ChildEntry) :
    (e.child? t.policy resolver).bind (fun c => ofMember? t c.member) = ofChild? t e := by
  cases asks : ofChild? t e with
  | some inner =>
      obtain ⟨embedding, plan, brings⟩ := plan_of_ofChild? asks resolver
      rw [ChildEntry.child?, plan]
      exact brings
  | none =>
      rw [Option.bind_eq_none_iff]
      intro c child
      rcases ChildEntry.child?_cases child with ⟨_, _, kind, _⟩ | ⟨_, _, kind, _⟩ | empty |
        ⟨type, value, _⟩ | ⟨type, module, made⟩
      · rw [ofChild?, kind] at asks
        cases asks
      · rw [ofChild?, kind] at asks
        cases asks
      · apply ofMember?_of_nesting
        rw [NamedChild.embedding_member, empty]
        rfl
      · apply ofMember?_of_nesting
        rw [NamedChild.embedding_member, value, ChildEntry.nesting_stateEmbedding]
      · apply ofMember?_of_nesting
        rw [NamedChild.embedding_member, made, ChildEntry.nesting_moduleEmbedding]

/-- The lists of a table whose members are children of entries and placeholders are those that the
entries ask for. -/
theorem lists_of_stateMembers {t : SymbolTable} {policy : Policy} {resolver : Resolver}
    {entries : List ChildEntry} {placeholders : PlaceholderRegistry} (same : t.policy = policy)
    (members : t.stateMembers =
      (entries.filterMap (ChildEntry.child? policy resolver) ++ placeholders.children).map
        NamedChild.member) :
    t.lists = entries.filterMap (ofChild? t) := by
  subst same
  have early : (entries.filterMap (ChildEntry.child? t.policy resolver)).filterMap
      (fun c => ofMember? t c.member) = entries.filterMap (ofChild? t) := by
    rw [List.filterMap_filterMap]
    congr 1
    funext e
    exact bind_ofMember?_child? t resolver e
  have late : placeholders.children.filterMap (fun c => ofMember? t c.member) = [] := by
    rw [List.filterMap_eq_nil_iff]
    intro c child
    obtain ⟨p, _, found⟩ := List.mem_filterMap.mp child
    exact ofMember?_of_nesting (Placeholder.nesting_of_child? found) _
  rw [SymbolTable.lists, members, List.filterMap_map]
  change List.filterMap (fun c => ofMember? t (NamedChild.member c)) _ = _
  rw [List.filterMap_append, early, late, List.append_nil]

variable (resolver : Resolver) (site : ListSite)

/-- The lists in a list are those that its entries ask for, as far as they are let in. -/
theorem lists_table :
    (site.table resolver).lists =
      (site.entries resolver).filterMap (ofChild? (site.table resolver)) :=
  lists_of_stateMembers (site.policy_table resolver) (site.stateMembers_table resolver)

theorem placement_addEntries (es : List ChildEntry) :
    (SymbolTable.addEntries resolver site.started es).placement = site.placement := by
  obtain ⟨diagnostics, entered⟩ := SymbolTable.addEntries_eq site.started resolver es
  rw [entered]
  rfl

end ListSite

namespace Expansion

/-- Lists nest, at any depth. The entries of a list are entered one after the other. Whatever stands
before it, an entry for a destination or a stack among them is either turned away because its name
is taken, with one report that says so, or enters a member without any report. The module of the
outer list has in it one module for each of these entries that is let in, in their order. -/
theorem lists_in_lists_expand {policy : Policy} {resolver : Resolver} {definition : ModuleDef}
    {site : ListSite} (list : definition.HasList policy resolver site) :
    site.table resolver =
        (SymbolTable.addEntries resolver site.started site.children).resolve ∧
      (∀ before e inner,
        let t := SymbolTable.addEntries resolver site.started before
        ListSite.ofChild? t e = some inner →
          inner.Enters resolver t e (SymbolTable.addEntry resolver t e)) ∧
      (site.made resolver).declarations.filterMap Declaration.module? =
        ((site.entries resolver).filterMap
          (ListSite.ofChild? (site.table resolver))).map (ListSite.made resolver) := by
  refine ⟨rfl, ?_, ?_⟩
  · intro before e inner t asks
    obtain ⟨c, _, within⟩ := list
    have nested : t.placement.isRoot = false := by
      rw [site.placement_addEntries resolver before]
      rcases within.placement with stack | destination
      · rw [stack]
        rfl
      · rw [destination]
        rfl
    exact ListSite.enters_addEntry nested asks resolver
  · rw [← site.lists_table]
    exact (SymbolTable.isComplete_table resolver site).modules_eq resolver

def sheetSteps : ChildEntry where
  kind := .navigationStack (some "Steps") []
  name := some (.string "steps")
  type := none
  initialValue := none

def stepsInSheet : Composition where
  children := [⟨.destination (some "Sheet") [sheetSteps], false, some (.string "sheet"), none,
    none, {}⟩]

def guidedTour : ModuleDef where
  name := "Tour"
  directives := [stepsInSheet]

/-- The sheet of the tour has a module for its stack in it, and nothing is reported. -/
theorem lists_in_lists_expand_guidedTour :
    ∃ site, guidedTour.HasList {} .textual site ∧ site.children = [sheetSteps] ∧
      ((site.made .textual).declarations.filterMap Declaration.module?).map NestedModule.name =
        ["Steps"] ∧
      (SymbolTable.addEntry .textual site.started sheetSteps).diagnostics = [] := by
  let table := SymbolTable.ofModule {} .textual guidedTour stepsInSheet
  let sheet : ListSite := ⟨table, "sheet", "Sheet", .destination "sheet" "Tour", [sheetSteps]⟩
  let steps : ListSite := ⟨sheet.started, "steps", "Steps", .stack "steps" "Sheet", []⟩
  have list : guidedTour.HasList {} .textual sheet := ⟨_, rfl, .own List.mem_cons_self⟩
  obtain ⟨_, entered, modules⟩ := lists_in_lists_expand list
  refine ⟨sheet, list, rfl, ?_, ?_⟩
  · rw [modules]
    rfl
  · have asks : ListSite.ofChild? sheet.started sheetSteps = some steps := rfl
    have result : steps.Enters .textual sheet.started sheetSteps
        (SymbolTable.addEntry .textual sheet.started sheetSteps) :=
      entered [] sheetSteps steps asks
    generalize SymbolTable.addEntry .textual sheet.started sheetSteps = after at result ⊢
    cases result with
    | free _ _ => rfl
    | taken known => cases known

end Expansion

end StateWeave
