import StateWeave.Proofs.DeclarationNames
import StateWeave.Proofs.NestedModules

/-!
# The names in nested modules

The entries of a list take distinct names like those of any composition. The placeholders
that the parent hands down take none: one that is bound becomes a child whatever entry
has its name. `hasDistinctNames_iff` says when this puts a name in a nested module twice,
and that nothing else does.
-/

namespace StateWeave

open Admission

/-- A nested module in which no name stands twice in one place. -/
structure NestedModule.HasDistinctNames (m : NestedModule) : Prop where
  state : (m.declarations.flatMap Declaration.stateNames).Nodup
  actions : (m.declarations.flatMap Declaration.actionNames).Nodup
  accessors : (m.declarations.flatMap Declaration.accessorNames).Nodup
  cases : (m.declarations.flatMap Declaration.switchNames).Nodup

namespace PlaceholderRegistry

theorem toList_of_localName? {list name rest : String} (h : localName? list name = some rest) :
    name.toList = list.toList ++ ['.'] ++ rest.toList := by
  rw [localName?] at h
  obtain ⟨fits, named⟩ := Option.ite_none_right_eq_some.mp h
  obtain ⟨behind, split⟩ := List.isPrefixOf_iff_prefix.mp fits
  rw [← Option.some.inj named, ← split, List.drop_left, String.toList_ofList]

/-- Different entries of a list are different in the list, too. -/
theorem nodup_names_forList {r : PlaceholderRegistry} (distinct : r.names.Nodup)
    (list : String) : (r.forList list).names.Nodup := by
  have names : (r.forList list).names = r.names.filterMap (localName? list) := by
    rw [names, forList, PlaceholderRegistry.names, List.map_filterMap, List.filterMap_map]
    congr 1
    funext p
    simp [Function.comp_def]
  rw [names]
  refine distinct.filterMap fun a b rest left right => ?_
  have same : a.toList = b.toList := by
    rw [toList_of_localName? left, toList_of_localName? right]
  exact String.toList_inj.mp same

/-- Where names are distinct, a name is bound if it leads to a bound entry. -/
theorem mem_boundNames_iff_get? {r : PlaceholderRegistry} (distinct : r.names.Nodup)
    {name : String} :
    name ∈ r.boundNames ↔
      ∃ p, r.get? name = some p ∧ p.isLocal = true ∧ p.isBound = true := by
  rw [boundNames, locals, List.mem_map]
  constructor
  · rintro ⟨p, member, rfl⟩
    obtain ⟨own, bound⟩ := List.mem_filter.mp member
    obtain ⟨known, isLocal⟩ := List.mem_filter.mp own
    exact ⟨p, get?_of_mem distinct known, isLocal, bound⟩
  · rintro ⟨p, found, isLocal, bound⟩
    obtain ⟨known, same⟩ := mem_of_get? found
    exact ⟨p, List.mem_filter.mpr ⟨List.mem_filter.mpr ⟨known, isLocal⟩, bound⟩, same⟩

end PlaceholderRegistry

namespace ListSite

variable (resolver : Resolver) (site : ListSite)

/-- Whether a name is that of a placeholder that is handed down bound and of a child: the
first entry that asks for it asks for it as a child. -/
def HasClash : Prop :=
  ∃ p ∈ site.seeds.locals, p.isBound = true ∧
    ∃ e, site.children.find?
        (fun e => e.claim? site.parent.policy resolver = some p.name) = some e ∧
      (e.child? site.parent.policy resolver).isSome = true

/-- A name is that of a child in a list if the first entry that asks for it asks for it as
a child. -/
theorem mem_names_children_iff (name : String) :
    name ∈ ((site.entries resolver).filterMap
        (ChildEntry.child? site.parent.policy resolver)).map NamedChild.name ↔
      ∃ e, site.children.find?
          (fun e => e.claim? site.parent.policy resolver = some name) = some e ∧
        (e.child? site.parent.policy resolver).isSome = true := by
  have first {e : ChildEntry} (asked : e.claim? site.parent.policy resolver = some name) :
      e ∈ site.entries resolver ↔
        site.children.find?
          (fun e => e.claim? site.parent.policy resolver = some name) = some e :=
    mem_admitted_iff_find? asked (List.not_mem_nil)
  constructor
  · intro h
    obtain ⟨c, member, rfl⟩ := List.mem_map.mp h
    obtain ⟨e, entry, child⟩ := List.mem_filterMap.mp member
    exact ⟨e, (first (ChildEntry.claim?_of_child? child)).mp entry, by rw [child]; rfl⟩
  · rintro ⟨e, found, child⟩
    have asked := name_of_find? found
    obtain ⟨c, child⟩ := Option.isSome_iff_exists.mp child
    have same : c.name = name :=
      Option.some.inj ((ChildEntry.claim?_of_child? child).symm.trans asked)
    rw [← same]
    exact List.mem_map_of_mem (List.mem_filterMap.mpr ⟨e, (first asked).mpr found, child⟩)

theorem nodup_claims_entries :
    ((site.entries resolver).filterMap
      (ChildEntry.claim? site.parent.policy resolver)).Nodup :=
  site.composition.nodup_claims_entries site.parent.policy resolver

/-- No entry of a list declares a placeholder under the name of a child, unless it is one
of a list further in. -/
theorem not_mem_declarations_of_child {p : Placeholder} (own : p.isLocal = true)
    (child : p.name ∈ ((site.entries resolver).filterMap
      (ChildEntry.child? site.parent.policy resolver)).map NamedChild.name) :
    p.name ∉ (ChildEntry.declarations site.parent.policy resolver []
      site.children).map Placeholder.name := by
  intro declared
  obtain ⟨q, member, same⟩ := List.mem_map.mp declared
  have isLocal : q.isLocal = true := (Placeholder.isLocal_congr same).trans own
  have entered := List.mem_filter.mpr ⟨member, isLocal⟩
  rw [ChildEntry.filter_isLocal_declarations] at entered
  have taken : q.name ∈ ((site.entries resolver).filterMap
      (ChildEntry.own? site.parent.policy resolver)).map Placeholder.name :=
    List.mem_map_of_mem (List.mem_filter.mp entered).1
  have distinct := site.nodup_claims_entries resolver
  rw [(ChildEntry.perm_claims site.parent.policy resolver _).nodup_iff] at distinct
  exact (List.nodup_append.mp distinct).2.2 _ child _ taken same.symm

/-- The name of a child is bound in a list if it was when the list was handed its
placeholders. -/
theorem mem_boundNames_placeholders_iff (distinct : site.seeds.names.Nodup) {name : String}
    (child : name ∈ ((site.entries resolver).filterMap
      (ChildEntry.child? site.parent.policy resolver)).map NamedChild.name) :
    name ∈ (site.placeholders resolver).boundNames ↔ name ∈ site.seeds.boundNames := by
  have later := PlaceholderRegistry.nodup_names_declareAll distinct
    (ChildEntry.declarations site.parent.policy resolver [] site.children)
  have kept {p : Placeholder} (same : p.name = name) (own : p.isLocal = true) :
      (site.placeholders resolver).get? name = site.seeds.get? name := by
    rw [← same] at child ⊢
    exact PlaceholderRegistry.get?_declareAll_of_not_mem
      (site.not_mem_declarations_of_child resolver own child) site.seeds
  rw [PlaceholderRegistry.mem_boundNames_iff_get? distinct]
  refine (PlaceholderRegistry.mem_boundNames_iff_get? later).trans ?_
  constructor
  · rintro ⟨p, found, own, bound⟩
    exact ⟨p, kept (PlaceholderRegistry.mem_of_get? found).2 own ▸ found, own, bound⟩
  · rintro ⟨p, found, own, bound⟩
    exact ⟨p, (kept (PlaceholderRegistry.mem_of_get? found).2 own).trans found, own, bound⟩

/-- The children of a list have distinct names unless one is named like a placeholder that
is handed down bound. -/
theorem nodup_names_embedded_iff (distinct : site.seeds.names.Nodup) :
    ((site.embedded resolver).map NamedChild.name).Nodup ↔ ¬site.HasClash resolver := by
  have early : (((site.entries resolver).filterMap
      (ChildEntry.child? site.parent.policy resolver)).map NamedChild.name).Nodup :=
    (sublist_names (fun _ _ => ChildEntry.claim?_of_child?) _).nodup
      (site.nodup_claims_entries resolver)
  have late : (site.placeholders resolver).boundNames.Nodup := by
    have names := PlaceholderRegistry.nodup_names_declareAll distinct
      (ChildEntry.declarations site.parent.policy resolver [] site.children)
    have locals : ((site.placeholders resolver).locals.map Placeholder.name).Nodup :=
      (List.filter_sublist.map Placeholder.name).nodup names
    exact (PlaceholderRegistry.sublist_boundNames _).nodup locals
  rw [embedded, List.map_append, PlaceholderRegistry.map_name_children, List.nodup_append]
  constructor
  · rintro ⟨_, _, apart⟩ ⟨p, member, bound, child⟩
    have named := (site.mem_names_children_iff resolver p.name).mpr child
    have seeded : p.name ∈ site.seeds.boundNames :=
      List.mem_map_of_mem (List.mem_filter.mpr ⟨member, bound⟩)
    have entered := (site.mem_boundNames_placeholders_iff resolver distinct named).mpr seeded
    exact apart _ named _ entered rfl
  · intro clear
    refine ⟨early, late, ?_⟩
    rintro name named _ entered rfl
    have seeded := (site.mem_boundNames_placeholders_iff resolver distinct named).mp entered
    obtain ⟨p, member, rfl⟩ := List.mem_map.mp seeded
    obtain ⟨own, bound⟩ := List.mem_filter.mp member
    exact clear ⟨p, own, bound, (site.mem_names_children_iff resolver p.name).mp named⟩

theorem sublist_accessorNames :
    ((site.table resolver).accessors.map Accessor.name).Sublist
      ((site.embedded resolver).map NamedChild.name) := by
  have named : ∀ c s, site.started.scopeOf? c = some s → s.name = c.name :=
    fun _ _ => SymbolTable.name_of_scopeOf?
  have scopes := sublist_labels named (site.embedded resolver)
  rw [SymbolTable.accessors, scopes_table]
  exact (sublist_labels (fun _ _ => SymbolTable.name_of_accessor?) _).trans scopes

theorem nodup_actionNames (distinct : ((site.embedded resolver).map NamedChild.name).Nodup) :
    ((site.table resolver).orderedActions.map ActionMember.name).Nodup := by
  have named : ∀ c a, NamedChild.action? c = some a → a.name = c.name :=
    fun _ _ => NamedChild.name_of_action?
  rw [((SymbolTable.perm_orderedActions _).map _).nodup_iff, actionMembers_table]
  exact (sublist_labels named _).nodup distinct

/-- A list's module has distinct names if its children have. -/
theorem hasDistinctNames_made_iff :
    (site.made resolver).HasDistinctNames ↔
      ((site.embedded resolver).map NamedChild.name).Nodup := by
  have resolved := site.isResolved_table resolver
  have state : (site.made resolver).declarations.flatMap Declaration.stateNames =
      (site.embedded resolver).map NamedChild.name := by
    refine (SymbolTable.stateNames_declare resolver _ resolved).trans ?_
    rw [stateMembers_table, List.map_map]
    rfl
  have actions : (site.made resolver).declarations.flatMap Declaration.actionNames =
      (site.table resolver).orderedActions.map ActionMember.name :=
    SymbolTable.actionNames_declare resolver _ resolved
  have accessors : (site.made resolver).declarations.flatMap Declaration.accessorNames =
      if (site.table resolver).needsScopePaths then
        (site.table resolver).accessors.map Accessor.name
      else [] := SymbolTable.accessorNames_declare resolver _ resolved
  have cases : (site.made resolver).declarations.flatMap Declaration.switchNames =
      if (site.table resolver).needsScopeCases then
        (site.embedded resolver).map NamedChild.name
      else [] := by
    refine (SymbolTable.switchNames_declare resolver _ resolved).trans ?_
    rw [scopeCases_table, List.map_map]
    rfl
  constructor
  · intro h
    rw [← state]
    exact h.state
  · intro distinct
    refine ⟨?_, ?_, ?_, ?_⟩
    · rw [state]
      exact distinct
    · rw [actions]
      exact site.nodup_actionNames resolver distinct
    · rw [accessors]
      split
      · exact (site.sublist_accessorNames resolver).nodup distinct
      · exact List.nodup_nil
    · rw [cases]
      split
      · exact distinct
      · exact List.nodup_nil

end ListSite

namespace SymbolTable

/-- The placeholders that lists are handed down have distinct names, at any depth. -/
theorem HasList.nodup_names_seeds {resolver : Resolver} {t : SymbolTable}
    (distinct : t.placeholders.names.Nodup) {site : ListSite} (h : HasList resolver t site) :
    site.seeds.names.Nodup := by
  induction h with
  | own list =>
      rw [ListSite.seeds, parent_of_mem_lists list]
      exact PlaceholderRegistry.nodup_names_forList distinct _
  | @nested outer site _ list ih =>
      rw [ListSite.seeds, parent_of_mem_lists list, ListSite.placeholders_table]
      exact PlaceholderRegistry.nodup_names_forList
        (PlaceholderRegistry.nodup_names_declareAll ih _) _

theorem nodup_names_placeholders_ofModule (policy : Policy) (resolver : Resolver)
    (definition : ModuleDef) (c : Composition) :
    (ofModule policy resolver definition c).placeholders.names.Nodup := by
  rw [placeholders_ofModule, Composition.settled, PlaceholderRegistry.names_settle]
  have none : PlaceholderRegistry.empty.names.Nodup := List.nodup_nil
  exact PlaceholderRegistry.nodup_names_declareAll none _

end SymbolTable

/-- The lists of a module, at any depth. -/
def ModuleDef.HasList (policy : Policy) (resolver : Resolver) (definition : ModuleDef)
    (site : ListSite) : Prop :=
  ∃ c, definition.directives = [c] ∧
    SymbolTable.HasList resolver (SymbolTable.ofModule policy resolver definition c) site

namespace Expansion

theorem mem_modulesIn_ofModule_iff (policy : Policy) (resolver : Resolver)
    (definition : ModuleDef) (m : NestedModule) :
    m ∈ Declaration.modulesIn (Expansion.ofModule policy resolver definition).declarations ↔
      ∃ site, definition.HasList policy resolver site ∧ m = site.made resolver := by
  rw [ofModule]
  split
  · next directives => simp [Declaration.modulesIn, ModuleDef.HasList, directives]
  · next c single =>
      have resolved := SymbolTable.isResolved_ofModule policy resolver definition c
      refine (SymbolTable.mem_modulesIn_declare_iff resolver resolved m).trans ?_
      constructor
      · rintro ⟨site, list, made⟩
        exact ⟨site, ⟨c, single, list⟩, made⟩
      · rintro ⟨site, ⟨d, directives, list⟩, made⟩
        obtain rfl : c = d := by
          rw [single] at directives
          exact (List.cons.inj directives).1
        exact ⟨site, list, made⟩
  · next several =>
      simp only [Declaration.modulesIn, List.not_mem_nil, false_iff]
      rintro ⟨site, ⟨c, single, _⟩, _⟩
      exact several c single

/-- The nested modules of a module are those of its lists, at any depth. In one of them a
name stands twice just where the list was handed a bound placeholder under the name of one
of its children. -/
theorem nested_names_distinct_iff (policy : Policy) (resolver : Resolver)
    (definition : ModuleDef) :
    (∀ m, m ∈ Declaration.modulesIn
          (Expansion.ofModule policy resolver definition).declarations ↔
        ∃ site, definition.HasList policy resolver site ∧ m = site.made resolver) ∧
      ∀ site, definition.HasList policy resolver site →
        ((site.made resolver).HasDistinctNames ↔ ¬site.HasClash resolver) := by
  refine ⟨mem_modulesIn_ofModule_iff policy resolver definition, ?_⟩
  rintro site ⟨c, _, list⟩
  rw [ListSite.hasDistinctNames_made_iff]
  exact site.nodup_names_embedded_iff resolver (list.nodup_names_seeds
    (SymbolTable.nodup_names_placeholders_ofModule policy resolver definition c))

example :
    ((Declaration.modulesIn
      (Expansion.ofModule {} .textual
        { name := "Feature"
          directives := [{
            children := [
              ⟨.destination none [
                ⟨.reducer, false, some (.string "alert"), some (.named "Edit"), none, {}⟩,
                ⟨.alert, false, some (.string "alert"), some (.named "Foo"), none, {}⟩],
                false, none, none, none, {}⟩] }] }).declarations).map fun m =>
      m.declarations.flatMap Declaration.stateNames) = [["alert", "alert"]] := by
  decide

end Expansion

end StateWeave
