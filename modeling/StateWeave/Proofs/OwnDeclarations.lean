import Mathlib.Data.List.Basic
import StateWeave.Expansion

/-!
# What a table declares itself

A table declares its state and its actions once each, its pipeline unless the author wrote
one, and the tables of scopes that it needs. Modules of nested lists and errors come behind
these. Whatever is read off neither is therefore read off the table's own declarations.
-/

namespace StateWeave

namespace Declaration

def state? : Declaration → Option StateDecl
  | .state decl => some decl
  | _ => none

def action? : Declaration → Option ActionDecl
  | .action decl => some decl
  | _ => none

def scopePaths? : Declaration → Option ScopeTable
  | .scopePaths table => some table
  | _ => none

def scopeCases? : Declaration → Option SwitchTable
  | .scopeCases table => some table
  | _ => none

/-- What is read off declarations of one sort are the declarations of this sort. -/
theorem mem_filterMap_iff {α : Type} {make : α → Declaration} {read : Declaration → Option α}
    (reads : ∀ d x, read d = some x ↔ d = make x) (ds : List Declaration) (x : α) :
    x ∈ ds.filterMap read ↔ make x ∈ ds := by
  rw [List.mem_filterMap]
  constructor
  · rintro ⟨d, member, found⟩
    rwa [← (reads d x).mp found]
  · intro member
    exact ⟨make x, member, (reads _ x).mpr rfl⟩

theorem state?_eq_some_iff (d : Declaration) (decl : StateDecl) :
    d.state? = some decl ↔ d = .state decl := by
  cases d <;> simp [state?]

theorem scopePaths?_eq_some_iff (d : Declaration) (table : ScopeTable) :
    d.scopePaths? = some table ↔ d = .scopePaths table := by
  cases d <;> simp [scopePaths?]

theorem scopeCases?_eq_some_iff (d : Declaration) (table : SwitchTable) :
    d.scopeCases? = some table ↔ d = .scopeCases table := by
  cases d <;> simp [scopeCases?]

end Declaration

def NestedModule.pipeline? (m : NestedModule) : Option Pipeline :=
  m.declarations.findSome? Declaration.pipeline?

namespace SymbolTable

variable {α : Type} (resolver : Resolver) {t : SymbolTable} (resolved : t.isResolved = true)

include resolved

theorem flatMap_declarations_declare {f : Declaration → List α} (modules : ∀ m, f (.nested m) = [])
    (errors : ∀ reason, f (.error reason) = []) :
    (t.declare resolver).declarations.flatMap f = t.ownDeclarations.flatMap f := by
  have silent {β : Type} (d : β → Declaration) (xs : List β) (none : ∀ x, f (d x) = []) :
      (xs.map d).flatMap f = [] := by
    simp [List.flatMap_map, none]
  have nested (n : SymbolTable × Outcome) : f (nestedDeclaration t.access n.1 n.2) = [] :=
    modules _
  rw [declare, declareWithin, resolved, if_pos rfl]
  simp only [List.flatMap_append]
  rw [silent _ t.violations errors, silent _ _ nested, List.append_nil, List.append_nil]

theorem filterMap_declarations_declare {f : Declaration → Option α}
    (modules : ∀ m, f (.nested m) = none) (errors : ∀ reason, f (.error reason) = none) :
    (t.declare resolver).declarations.filterMap f = t.ownDeclarations.filterMap f := by
  rw [List.filterMap_eq_flatMap_toList, List.filterMap_eq_flatMap_toList]
  refine flatMap_declarations_declare resolver resolved (fun m => ?_) fun reason => ?_
  · rw [modules]
    rfl
  · rw [errors]
    rfl

theorem states_declare :
    (t.declare resolver).declarations.filterMap Declaration.state? = [t.stateDecl] := by
  rw [filterMap_declarations_declare resolver resolved (fun _ => rfl) fun _ => rfl,
    ownDeclarations, scopeTables]
  cases t.pipeline? <;> cases t.needsScopePaths <;> cases t.needsScopeCases <;> rfl

theorem actions_declare :
    (t.declare resolver).declarations.filterMap Declaration.action? = [t.actionDecl] := by
  rw [filterMap_declarations_declare resolver resolved (fun _ => rfl) fun _ => rfl,
    ownDeclarations, scopeTables]
  cases t.pipeline? <;> cases t.needsScopePaths <;> cases t.needsScopeCases <;> rfl

theorem scopePaths_declare :
    (t.declare resolver).declarations.filterMap Declaration.scopePaths? =
      if t.needsScopePaths then [⟨t.access, t.accessors⟩] else [] := by
  rw [filterMap_declarations_declare resolver resolved (fun _ => rfl) fun _ => rfl,
    ownDeclarations, scopeTables]
  cases t.pipeline? <;> cases t.needsScopePaths <;> cases t.needsScopeCases <;> rfl

theorem scopeCases_declare :
    (t.declare resolver).declarations.filterMap Declaration.scopeCases? =
      if t.needsScopeCases then [⟨t.access, t.scopeCases.map switchCase⟩] else [] := by
  rw [filterMap_declarations_declare resolver resolved (fun _ => rfl) fun _ => rfl,
    ownDeclarations, scopeTables]
  cases t.pipeline? <;> cases t.needsScopePaths <;> cases t.needsScopeCases <;> rfl

theorem mem_state_declare_iff (decl : StateDecl) :
    .state decl ∈ (t.declare resolver).declarations ↔ decl = t.stateDecl := by
  rw [← Declaration.mem_filterMap_iff Declaration.state?_eq_some_iff,
    states_declare resolver resolved, List.mem_singleton]

theorem mem_scopePaths_declare_iff (table : ScopeTable) :
    .scopePaths table ∈ (t.declare resolver).declarations ↔
      t.needsScopePaths = true ∧ table = ⟨t.access, t.accessors⟩ := by
  rw [← Declaration.mem_filterMap_iff Declaration.scopePaths?_eq_some_iff,
    scopePaths_declare resolver resolved, List.mem_ite_nil_right, List.mem_singleton]

theorem mem_scopeCases_declare_iff (table : SwitchTable) :
    .scopeCases table ∈ (t.declare resolver).declarations ↔
      t.needsScopeCases = true ∧ table = ⟨t.access, t.scopeCases.map switchCase⟩ := by
  rw [← Declaration.mem_filterMap_iff Declaration.scopeCases?_eq_some_iff,
    scopeCases_declare resolver resolved, List.mem_ite_nil_right, List.mem_singleton]

theorem exists_scopePaths_iff :
    (∃ table, .scopePaths table ∈ (t.declare resolver).declarations) ↔
      t.needsScopePaths = true := by
  constructor
  · rintro ⟨table, declared⟩
    exact ((mem_scopePaths_declare_iff resolver resolved table).mp declared).1
  · intro needed
    exact ⟨_, (mem_scopePaths_declare_iff resolver resolved _).mpr ⟨needed, rfl⟩⟩

theorem exists_scopeCases_iff :
    (∃ table, .scopeCases table ∈ (t.declare resolver).declarations) ↔
      t.needsScopeCases = true := by
  constructor
  · rintro ⟨table, declared⟩
    exact ((mem_scopeCases_declare_iff resolver resolved table).mp declared).1
  · intro needed
    exact ⟨_, (mem_scopeCases_declare_iff resolver resolved _).mpr ⟨needed, rfl⟩⟩

theorem pipelines_declare :
    (t.declare resolver).declarations.filterMap Declaration.pipeline? = t.pipeline?.toList := by
  rw [filterMap_declarations_declare resolver resolved (fun _ => rfl) fun _ => rfl,
    ownDeclarations, scopeTables]
  cases t.pipeline? <;> cases t.needsScopePaths <;> cases t.needsScopeCases <;> rfl

theorem findSome?_pipeline?_declare :
    (t.declare resolver).declarations.findSome? Declaration.pipeline? = t.pipeline? := by
  rw [← List.head?_filterMap, pipelines_declare resolver resolved, Option.head?_toList]

end SymbolTable

/-- A module with one composition declares what its table does. -/
theorem Expansion.declarations_ofModule {policy : Policy} {resolver : Resolver}
    {definition : ModuleDef} {c : Composition} (single : definition.directives = [c]) :
    (Expansion.ofModule policy resolver definition).declarations =
      ((SymbolTable.ofModule policy resolver definition c).declare resolver).declarations := by
  rw [ofModule, single]
  rfl

/-- A module without a composition, or with several, declares nothing. -/
theorem Expansion.declarations_of_not_single {policy : Policy} {resolver : Resolver}
    {definition : ModuleDef} (several : ¬∃ c, definition.directives = [c]) :
    (Expansion.ofModule policy resolver definition).declarations = [] := by
  rw [ofModule]
  split
  · rfl
  · next c single => exact absurd ⟨c, single⟩ several
  · rfl

/-- Only a module with one composition has a pipeline. -/
theorem Expansion.exists_single_of_pipeline? {policy : Policy} {resolver : Resolver}
    {definition : ModuleDef} {p : Pipeline}
    (generated : (Expansion.ofModule policy resolver definition).pipeline? = some p) :
    ∃ c, definition.directives = [c] := by
  by_contra several
  rw [pipeline?, declarations_of_not_single several] at generated
  cases generated

/-- The reports on a module with one composition: those of its table, and behind them those that
are made as it is declared. -/
theorem Expansion.diagnostics_ofModule {policy : Policy} {resolver : Resolver}
    {definition : ModuleDef} {c : Composition} (single : definition.directives = [c]) :
    let t := SymbolTable.ofModule policy resolver definition c
    (Expansion.ofModule policy resolver definition).diagnostics =
      t.diagnostics ++ (t.declare resolver).diagnostics := by
  rw [ofModule, single]
  rfl

end StateWeave
