import StateWeave.Proofs.DeclarationLayout
import StateWeave.Proofs.NestedNames

/-!
# The levels of an expansion

The declarations of a module are one level, and those of each nested module are one more. A level
comes from a table: that of the module, or that of a list in it, at any depth. What every complete
table declares is therefore known at every level.
-/

namespace StateWeave

def Declaration.module? : Declaration → Option NestedModule
  | .nested m => some m
  | _ => none

/-- The declarations of a module, and those of the modules in it, at any depth. -/
inductive Expansion.HasLevel (e : Expansion) : List Declaration → Prop
  | outermost : HasLevel e e.declarations
  | nested {m : NestedModule} :
      m ∈ Declaration.modulesIn e.declarations → HasLevel e m.declarations

/-- The levels of the expansion of a module that has a place of its own, each with its place. -/
inductive Expansion.HasLevelAt (e : Expansion) (own : Placement) :
    Placement → List Declaration → Prop
  | outermost : HasLevelAt e own own e.declarations
  | nested {m : NestedModule} :
      m ∈ Declaration.modulesIn e.declarations → HasLevelAt e own m.placement m.declarations

theorem Expansion.HasLevel.exists_place {e : Expansion} {ds : List Declaration}
    (level : e.HasLevel ds) (own : Placement) : ∃ placement, e.HasLevelAt own placement ds := by
  cases level with
  | outermost => exact ⟨own, .outermost⟩
  | @nested m inner => exact ⟨m.placement, .nested inner⟩

/-- The tables that a module with one composition is expanded from: its own, and those of its
lists, at any depth. -/
inductive ModuleDef.HasTable (policy : Policy) (resolver : Resolver) (definition : ModuleDef) :
    SymbolTable → Prop
  | own {c : Composition} : definition.directives = [c] →
      HasTable policy resolver definition (.ofModule policy resolver definition c)
  | list {site : ListSite} : definition.HasList policy resolver site →
      HasTable policy resolver definition (site.table resolver)

namespace ModuleDef.HasTable

variable {policy : Policy} {resolver : Resolver} {definition : ModuleDef} {t : SymbolTable}

theorem isComplete (h : definition.HasTable policy resolver t) : t.IsComplete := by
  cases h with
  | own _ => exact SymbolTable.isComplete_ofModule policy resolver definition _
  | @list site _ => exact SymbolTable.isComplete_table resolver site

theorem hasList (h : definition.HasTable policy resolver t) {site : ListSite}
    (list : site ∈ t.lists) : definition.HasList policy resolver site := by
  cases h with
  | own single => exact ⟨_, single, .own list⟩
  | list outer =>
      obtain ⟨c, single, above⟩ := outer
      exact ⟨c, single, .nested above list⟩

/-- All levels are seen by whoever sees the module. -/
theorem access_eq (h : definition.HasTable policy resolver t) : t.access = definition.access := by
  cases h with
  | own _ => exact SymbolTable.access_ofModule policy resolver definition _
  | @list site list =>
      obtain ⟨c, _, within⟩ := list
      rw [site.access_table]
      induction within with
      | own list =>
          rw [SymbolTable.parent_of_mem_lists list]
          exact SymbolTable.access_ofModule policy resolver definition c
      | @nested outer site _ list ih =>
          rw [SymbolTable.parent_of_mem_lists list, outer.access_table]
          exact ih

/-- All levels are made under the policy of the module. -/
theorem policy_eq (h : definition.HasTable policy resolver t) : t.policy = policy := by
  cases h with
  | own _ => exact SymbolTable.policy_ofModule policy resolver definition _
  | @list site list =>
      obtain ⟨c, _, within⟩ := list
      rw [site.policy_table]
      induction within with
      | own list =>
          rw [SymbolTable.parent_of_mem_lists list]
          exact SymbolTable.policy_ofModule policy resolver definition c
      | @nested outer site _ list ih =>
          rw [SymbolTable.parent_of_mem_lists list, outer.policy_table]
          exact ih

end ModuleDef.HasTable

namespace SymbolTable

theorem filterMap_module?_ownDeclarations (t : SymbolTable) :
    t.ownDeclarations.filterMap Declaration.module? = [] := by
  rw [ownDeclarations, scopeTables]
  cases t.pipeline? <;> cases t.needsScopePaths <;> cases t.needsScopeCases <;> rfl

theorem filterMap_module?_nested (modules : List NestedModule) :
    (modules.map Declaration.nested).filterMap Declaration.module? = modules := by
  rw [List.filterMap_map]
  exact List.filterMap_some

/-- A complete table declares one module for each of its lists. -/
theorem IsComplete.modules_eq {t : SymbolTable} (complete : t.IsComplete) (resolver : Resolver) :
    (t.declare resolver).declarations.filterMap Declaration.module? =
      t.lists.map (ListSite.made resolver) := by
  rw [complete.declare_eq, List.filterMap_append, filterMap_module?_ownDeclarations,
    List.nil_append, filterMap_module?_nested]

end SymbolTable

namespace Expansion

variable {policy : Policy} {resolver : Resolver} {definition : ModuleDef} {ds : List Declaration}

/-- The levels of a module with one composition are what its tables declare. -/
theorem hasLevel_iff {c : Composition} (single : definition.directives = [c]) :
    (ofModule policy resolver definition).HasLevel ds ↔
      ∃ t, definition.HasTable policy resolver t ∧ ds = (t.declare resolver).declarations := by
  constructor
  · intro level
    cases level with
    | outermost => exact ⟨_, .own single, declarations_ofModule single⟩
    | nested member =>
        obtain ⟨site, list, rfl⟩ :=
          (mem_modulesIn_ofModule_iff policy resolver definition _).mp member
        exact ⟨_, .list list, rfl⟩
  · rintro ⟨t, table, rfl⟩
    cases table with
    | own known =>
        rw [← declarations_ofModule known]
        exact .outermost
    | list list =>
        exact .nested ((mem_modulesIn_ofModule_iff policy resolver definition _).mpr
          ⟨_, list, rfl⟩)

/-- A level with anything on it comes from a table in the same place. -/
theorem HasLevelAt.exists_table {placement : Placement}
    (level : (ofModule policy resolver definition).HasLevelAt definition.placement placement ds)
    {d : Declaration} (member : d ∈ ds) :
    ∃ t, definition.HasTable policy resolver t ∧ t.placement = placement ∧
      ds = (t.declare resolver).declarations := by
  cases level with
  | outermost =>
      obtain ⟨c, single⟩ : ∃ c, definition.directives = [c] := by
        by_contra several
        rw [declarations_of_not_single several] at member
        cases member
      exact ⟨_, .own single, SymbolTable.placement_ofModule policy resolver definition c,
        declarations_ofModule single⟩
  | nested inner =>
      obtain ⟨site, list, rfl⟩ :=
        (mem_modulesIn_ofModule_iff policy resolver definition _).mp inner
      exact ⟨_, .list list, rfl, rfl⟩

theorem exists_table_of_mem (level : (ofModule policy resolver definition).HasLevel ds)
    {d : Declaration} (member : d ∈ ds) :
    ∃ t, definition.HasTable policy resolver t ∧ ds = (t.declare resolver).declarations := by
  obtain ⟨_, level⟩ := level.exists_place definition.placement
  obtain ⟨t, table, _, same⟩ := level.exists_table member
  exact ⟨t, table, same⟩

end Expansion

end StateWeave
