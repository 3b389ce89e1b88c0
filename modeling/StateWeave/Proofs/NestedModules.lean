import StateWeave.Proofs.NestedTables

/-!
# The modules of nested lists

Declarations are made with a bound on how far nested lists are followed. The bound is
always enough, and so the modules among a table's declarations are those of its lists,
each with the declarations of its own table.
-/

namespace StateWeave

mutual

/-- The modules in a declaration, at any depth. -/
def Declaration.modules : Declaration → List NestedModule
  | .nested ⟨access, name, placement, declarations⟩ =>
    ⟨access, name, placement, declarations⟩ :: Declaration.modulesIn declarations
  | _ => []

def Declaration.modulesIn : List Declaration → List NestedModule
  | [] => []
  | d :: rest => d.modules ++ Declaration.modulesIn rest

end

namespace Declaration

theorem modulesIn_append (ds es : List Declaration) :
    modulesIn (ds ++ es) = modulesIn ds ++ modulesIn es := by
  induction ds with
  | nil => simp [modulesIn]
  | cons d ds ih => rw [List.cons_append, modulesIn, modulesIn, ih, List.append_assoc]

theorem modulesIn_map {α : Type} (f : α → Declaration) (xs : List α) :
    modulesIn (xs.map f) = xs.flatMap fun x => (f x).modules := by
  induction xs with
  | nil => simp [modulesIn]
  | cons x xs ih => rw [List.map_cons, modulesIn, ih, List.flatMap_cons]

mutual

/-- The modules in a module of a declaration are modules of the declaration. -/
theorem mem_modules_of_inner {m inner : NestedModule}
    (below : inner ∈ modulesIn m.declarations) :
    ∀ d : Declaration, m ∈ d.modules → inner ∈ d.modules
  | .nested ⟨access, name, placement, declarations⟩, h => by
      rw [modules] at h ⊢
      rcases List.mem_cons.mp h with rfl | deeper
      · exact List.mem_cons_of_mem _ below
      · exact List.mem_cons_of_mem _ (mem_modulesIn_of_inner below declarations deeper)
  | .state _, h => by simp [modules] at h
  | .action _, h => by simp [modules] at h
  | .pipeline _, h => by simp [modules] at h
  | .scopePaths _, h => by simp [modules] at h
  | .scopeCases _, h => by simp [modules] at h
  | .error _, h => by simp [modules] at h

theorem mem_modulesIn_of_inner {m inner : NestedModule}
    (below : inner ∈ modulesIn m.declarations) :
    ∀ ds : List Declaration, m ∈ modulesIn ds → inner ∈ modulesIn ds
  | [], h => by simp [modulesIn] at h
  | d :: rest, h => by
      rw [modulesIn] at h ⊢
      rcases List.mem_append.mp h with now | later
      · exact List.mem_append_left _ (mem_modules_of_inner below d now)
      · exact List.mem_append_right _ (mem_modulesIn_of_inner below rest later)

end

end Declaration

namespace SymbolTable

variable (resolver : Resolver)

/-- Any bound beyond the nesting of a table is enough. -/
theorem declareWithin_congr {t : SymbolTable} {depth more : Nat} (enough : t.nesting < depth)
    (also : t.nesting < more) : declareWithin resolver depth t = declareWithin resolver more t := by
  induction depth generalizing t more with
  | zero => exact absurd enough (Nat.not_lt_zero _)
  | succ depth ih =>
      obtain ⟨more, rfl⟩ : ∃ k, more = k + 1 := Nat.exists_eq_succ_of_ne_zero (by omega)
      have inner : ∀ n ∈ t.nestedTables resolver,
          declareWithin resolver depth n = declareWithin resolver more n := by
        rw [nestedTables_eq]
        intro n member
        obtain ⟨site, list, rfl⟩ := List.mem_map.mp member
        have smaller := nesting_lt_of_mem_lists list resolver
        exact ih (by omega) (by omega)
      have same : (t.nestedTables resolver).map (fun n => (n, declareWithin resolver depth n)) =
          (t.nestedTables resolver).map (fun n => (n, declareWithin resolver more n)) :=
        List.map_congr_left fun n member => by rw [inner n member]
      rw [declareWithin, declareWithin, same]

end SymbolTable

/-- The module that a list is made into. -/
def ListSite.made (resolver : Resolver) (site : ListSite) : NestedModule where
  access := site.parent.access
  name := (site.table resolver).module
  placement := (site.table resolver).placement
  declarations := ((site.table resolver).declare resolver).declarations

namespace SymbolTable

variable (resolver : Resolver)

theorem modulesIn_ownDeclarations (t : SymbolTable) :
    Declaration.modulesIn t.ownDeclarations = [] := by
  rw [ownDeclarations, scopeTables]
  cases t.pipeline? <;>
    cases t.needsScopePaths <;>
    cases t.needsScopeCases <;>
    simp [Declaration.modulesIn, Declaration.modules]

/-- The bound of a table is enough for the tables of its lists. -/
theorem declareWithin_of_mem_lists {t : SymbolTable} {site : ListSite} (h : site ∈ t.lists) :
    declareWithin resolver t.nesting (site.table resolver) =
      (site.table resolver).declare resolver := by
  have smaller := nesting_lt_of_mem_lists h resolver
  exact declareWithin_congr resolver smaller (Nat.lt_succ_self _)

/-- A list's module, as its parent declares it. -/
theorem nestedDeclaration_eq {t : SymbolTable} {site : ListSite} (h : site ∈ t.lists) :
    nestedDeclaration t.access (site.table resolver)
        (declareWithin resolver t.nesting (site.table resolver)) =
      .nested (site.made resolver) := by
  rw [declareWithin_of_mem_lists resolver h, nestedDeclaration, ListSite.made,
    parent_of_mem_lists h]

theorem modules_nestedDeclaration {t : SymbolTable} {site : ListSite} (h : site ∈ t.lists) :
    (nestedDeclaration t.access (site.table resolver)
        (declareWithin resolver t.nesting (site.table resolver))).modules =
      site.made resolver ::
        Declaration.modulesIn ((site.table resolver).declare resolver).declarations := by
  rw [nestedDeclaration_eq resolver h]
  simp only [ListSite.made, Declaration.modules]

/-- The modules among a table's declarations: that of each list and the modules in it. -/
theorem modulesIn_declare {t : SymbolTable} (resolved : t.isResolved = true) :
    Declaration.modulesIn (t.declare resolver).declarations =
      t.lists.flatMap fun site =>
        site.made resolver ::
          Declaration.modulesIn ((site.table resolver).declare resolver).declarations := by
  have errors : Declaration.modulesIn (t.violations.map .error) = [] := by
    rw [Declaration.modulesIn_map]
    simp [Declaration.modules]
  rw [declare, declareWithin, resolved, if_pos rfl]
  simp only [Declaration.modulesIn_append, modulesIn_ownDeclarations, errors, List.nil_append,
    List.append_nil, nestedTables_eq, List.map_map, Declaration.modulesIn_map]
  rw [List.flatMap_def, List.flatMap_def]
  exact congrArg List.flatten
    (List.map_congr_left fun site h => modules_nestedDeclaration resolver h)

theorem HasList.of_mem_modulesIn {t : SymbolTable} (resolved : t.isResolved = true)
    {m : NestedModule} (h : m ∈ Declaration.modulesIn (t.declare resolver).declarations) :
    ∃ site, HasList resolver t site ∧ m = site.made resolver := by
  induction bound : t.nesting using Nat.strongRecOn generalizing t with
  | ind nesting ih =>
      rw [modulesIn_declare resolver resolved] at h
      obtain ⟨site, list, member⟩ := List.mem_flatMap.mp h
      rcases List.mem_cons.mp member with made | deeper
      · exact ⟨site, .own list, made⟩
      · have smaller := nesting_lt_of_mem_lists list resolver
        obtain ⟨inner, below, made⟩ :=
          ih (site.table resolver).nesting (by omega) (site.isResolved_table resolver) deeper rfl
        exact ⟨inner, .trans (.own list) below, made⟩

theorem HasList.mem_modulesIn {resolver : Resolver} {t : SymbolTable}
    (resolved : t.isResolved = true) {site : ListSite} (h : HasList resolver t site) :
    site.made resolver ∈ Declaration.modulesIn (t.declare resolver).declarations := by
  induction h with
  | own list =>
      rw [modulesIn_declare resolver resolved]
      exact List.mem_flatMap.mpr ⟨_, list, List.mem_cons_self⟩
  | @nested outer site _ list ih =>
      refine Declaration.mem_modulesIn_of_inner ?_ _ ih
      change site.made resolver ∈
        Declaration.modulesIn ((outer.table resolver).declare resolver).declarations
      rw [modulesIn_declare resolver (outer.isResolved_table resolver)]
      exact List.mem_flatMap.mpr ⟨site, list, List.mem_cons_self⟩

/-- The modules among a table's declarations are those of its lists, at any depth. -/
theorem mem_modulesIn_declare_iff {t : SymbolTable} (resolved : t.isResolved = true)
    (m : NestedModule) :
    m ∈ Declaration.modulesIn (t.declare resolver).declarations ↔
      ∃ site, HasList resolver t site ∧ m = site.made resolver := by
  constructor
  · exact HasList.of_mem_modulesIn resolver resolved
  · rintro ⟨site, list, rfl⟩
    exact list.mem_modulesIn resolved

end SymbolTable

end StateWeave
