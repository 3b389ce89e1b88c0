import StateWeave.Proofs.AccessorTypes
import StateWeave.Proofs.NestedNames
import StateWeave.Proofs.Reports

/-!
# The declarations of a module, in their order

Making declarations has a way out for tables that are not resolved and for scopes that nobody
resolved: an error in the place of a declaration, and a report that a contract is broken. Neither
is ever taken. Whatever an author writes, all tables that are made from it are resolved with all
their scopes, so that the declarations at each level have one layout.
-/

namespace StateWeave

/-- The declarations of one module. -/
structure DeclarationLayout where
  state : StateDecl
  action : ActionDecl
  pipeline : Option Pipeline
  scopePaths : Option ScopeTable
  scopeCases : Option SwitchTable
  modules : List NestedModule

namespace DeclarationLayout

def declarations (l : DeclarationLayout) : List Declaration :=
  [.state l.state, .action l.action] ++ (l.pipeline.map .pipeline).toList ++
    (l.scopePaths.map .scopePaths).toList ++ (l.scopeCases.map .scopeCases).toList ++
    l.modules.map .nested

theorem isError_of_mem {l : DeclarationLayout} {d : Declaration} (member : d ∈ l.declarations) :
    d.isError = false := by
  simp only [declarations, List.mem_append, List.mem_cons, List.not_mem_nil, or_false,
    Option.mem_toList, Option.map_eq_some_iff, List.mem_map] at member
  rcases member with ((((rfl | rfl) | ⟨_, _, rfl⟩) | ⟨_, _, rfl⟩) | ⟨_, _, rfl⟩) | ⟨_, _, rfl⟩ <;>
    rfl

end DeclarationLayout

def Diagnostic.IsViolation (d : Diagnostic) : Prop :=
  ∃ reason, d.message = (Problem.contractViolation reason).message

theorem Diagnostic.IsOrdinary.not_isViolation {d : Diagnostic} (ordinary : d.IsOrdinary) :
    ¬d.IsViolation := by
  rintro ⟨reason, same⟩
  obtain ⟨p, plain, _, message⟩ := ordinary
  exact plain.message_ne reason (message.symm.trans same)

theorem PlaceholderRegistry.not_isViolation_failureReport
    (failure : PendingBinding × BindError) : ¬(failureReport failure).IsViolation := by
  rintro ⟨reason, same⟩
  exact Problem.message_problem_ne failure.1 failure.2 reason same

namespace SymbolTable

theorem isResolved_of_scopeOf? {t : SymbolTable} {child : NamedChild} {s : Scope}
    (h : t.scopeOf? child = some s) : s.isResolved = true := by
  obtain ⟨type, _, rfl⟩ := Option.map_eq_some_iff.mp h
  rfl

/-- Whether a table is resolved with all its scopes. -/
structure IsComplete (t : SymbolTable) : Prop where
  resolved : t.isResolved = true
  scopes : ∀ s ∈ t.scopes, s.isResolved = true

theorem isComplete_ofModule (policy : Policy) (resolver : Resolver) (definition : ModuleDef)
    (c : Composition) : (ofModule policy resolver definition c).IsComplete where
  resolved := isResolved_ofModule policy resolver definition c
  scopes := by
    intro s member
    rcases (mem_scopes_ofModule_iff policy resolver definition c s).mp member with
      ⟨child, _, own⟩ | ⟨pending, _, found⟩
    · exact isResolved_of_scopeOf? own
    · obtain ⟨m, _, rfl⟩ := PendingScope.eq_of_scope? found
      rfl

theorem isComplete_table (resolver : Resolver) (site : ListSite) :
    (site.table resolver).IsComplete where
  resolved := site.isResolved_table resolver
  scopes := by
    intro s member
    rw [site.scopes_table] at member
    obtain ⟨child, _, own⟩ := List.mem_filterMap.mp member
    exact isResolved_of_scopeOf? own

namespace IsComplete

variable {t : SymbolTable} (complete : t.IsComplete)

include complete

theorem violations_eq_nil : t.violations = [] := by
  have entered : t.scopes.filter (fun s => (t.accessor? s).isNone) = [] := by
    rw [List.filter_eq_nil_iff]
    intro s member missing
    have typed := complete.scopes s member
    rw [accessor?] at missing
    split at missing
    · cases missing
    · rw [Option.isNone_map, Option.isNone_iff_eq_none] at missing
      rw [Scope.isResolved, missing] at typed
      cases typed
  rw [violations, unresolvedScopes, entered, List.map_nil, ite_self]

/-- What is reported as a complete table is declared is what the tables of its lists have reported,
however far its lists are followed. -/
theorem forall_declareWithin {P : Diagnostic → Prop} {resolver : Resolver}
    (tables : ∀ site, HasList resolver t site → ∀ d ∈ (site.table resolver).diagnostics, P d)
    (depth : Nat) : ∀ d ∈ (declareWithin resolver depth t).diagnostics, P d := by
  induction depth generalizing t with
  | zero => exact fun _ member => absurd member List.not_mem_nil
  | succ depth ih =>
      rw [declareWithin, complete.resolved, if_pos rfl, complete.violations_eq_nil,
        nestedTables_eq]
      intro d member
      have inner := (List.mem_append.mp member).resolve_right List.not_mem_nil
      obtain ⟨⟨n, o⟩, made, reported⟩ := List.mem_flatMap.mp inner
      obtain ⟨u, table, same⟩ := List.mem_map.mp made
      obtain ⟨site, list, rfl⟩ := List.mem_map.mp table
      cases same
      rcases List.mem_append.mp reported with own | deeper
      · exact tables site (.own list) d own
      · exact ih (isComplete_table resolver site)
          (fun other below => tables other (.trans (.own list) below)) d deeper

end IsComplete

/-- What a table declares, with a module for each of its lists. -/
def layout (resolver : Resolver) (t : SymbolTable) : DeclarationLayout where
  state := t.stateDecl
  action := t.actionDecl
  pipeline := t.pipeline?
  scopePaths := if t.needsScopePaths then some ⟨t.access, t.accessors⟩ else none
  scopeCases :=
    if t.needsScopeCases then some ⟨t.access, t.scopeCases.map switchCase⟩ else none
  modules := t.lists.map (ListSite.made resolver)

/-- A complete table declares what is its own and a module for each of its lists, and reports
what each list's table has reported with what the list's module reports in turn. -/
theorem IsComplete.declare_eq {t : SymbolTable} (complete : t.IsComplete) (resolver : Resolver) :
    t.declare resolver =
      ⟨t.ownDeclarations ++ (t.lists.map (ListSite.made resolver)).map .nested,
        t.lists.flatMap fun site => (site.table resolver).diagnostics ++
          ((site.table resolver).declare resolver).diagnostics⟩ := by
  have modules : t.lists.map (fun site => nestedDeclaration t.access (site.table resolver)
      (declareWithin resolver t.nesting (site.table resolver))) =
        t.lists.map fun site => .nested (site.made resolver) :=
    List.map_congr_left fun site list => nestedDeclaration_eq resolver list
  have reports : t.lists.map (fun site => (site.table resolver).diagnostics ++
      (declareWithin resolver t.nesting (site.table resolver)).diagnostics) =
        t.lists.map fun site => (site.table resolver).diagnostics ++
          ((site.table resolver).declare resolver).diagnostics := by
    refine List.map_congr_left fun site list => ?_
    rw [declareWithin_of_mem_lists resolver list]
  rw [declare, declareWithin, complete.resolved, if_pos rfl]
  simp only [complete.violations_eq_nil, List.map_nil, List.append_nil, nestedTables_eq,
    List.map_map, List.flatMap_def, Function.comp_def, modules, reports]

theorem IsComplete.declarations_eq {t : SymbolTable} (complete : t.IsComplete)
    (resolver : Resolver) :
    (t.declare resolver).declarations = (t.layout resolver).declarations := by
  have paths : ((if t.needsScopePaths then some (ScopeTable.mk t.access t.accessors)
      else none).map Declaration.scopePaths).toList =
        if t.needsScopePaths then [.scopePaths ⟨t.access, t.accessors⟩] else [] := by
    split <;> rfl
  have cases : ((if t.needsScopeCases then
        some (SwitchTable.mk t.access (t.scopeCases.map switchCase)) else none).map
      Declaration.scopeCases).toList =
        if t.needsScopeCases then [.scopeCases ⟨t.access, t.scopeCases.map switchCase⟩]
        else [] := by
    split <;> rfl
  rw [complete.declare_eq]
  simp only [ownDeclarations, scopeTables, layout, DeclarationLayout.declarations, paths, cases,
    List.append_assoc]

def IsSound (t : SymbolTable) : Prop := ∀ d ∈ t.diagnostics, ¬d.IsViolation

theorem KeepsReports.isSound {t u : SymbolTable} (kept : KeepsReports t u) (sound : t.IsSound) :
    u.IsSound := by
  obtain ⟨added, result, ordinary⟩ := kept
  intro d member
  rw [result] at member
  rcases List.mem_append.mp member with old | new
  · exact sound d old
  · exact (ordinary d new).not_isViolation

theorem IsSound.resolve {t : SymbolTable} (sound : t.IsSound) : t.resolve.IsSound := by
  cases fresh : t.isResolved with
  | true =>
      rw [resolve_of_isResolved fresh]
      exact sound
  | false =>
      obtain ⟨added, result, ordinary⟩ := diagnostics_resolve fresh
      intro d member
      rw [result, List.mem_append, List.mem_append] at member
      rcases member with (old | failed) | new
      · exact sound d old
      · obtain ⟨failure, _, rfl⟩ := List.mem_map.mp failed
        exact PlaceholderRegistry.not_isViolation_failureReport failure
      · exact (ordinary d new).not_isViolation

theorem isSound_ofModule (policy : Policy) (resolver : Resolver) (definition : ModuleDef)
    (c : Composition) : (ofModule policy resolver definition c).IsSound := by
  refine IsSound.resolve ?_
  refine ((keepsReports_compose _ c resolver).trans
    (keepsReports_collect _ definition.members)).isSound ?_
  exact fun _ member => nomatch member

theorem isSound_table (resolver : Resolver) (site : ListSite) :
    (site.table resolver).IsSound := by
  refine IsSound.resolve ?_
  refine (keepsReports_compose _ site.composition resolver).isSound ?_
  exact fun _ member => nomatch member

/-- Declarations of a complete table are made without a report of a broken contract, however far
its lists are followed. -/
theorem IsComplete.not_isViolation_declareWithin {resolver : Resolver} {t : SymbolTable}
    (complete : t.IsComplete) (depth : Nat) :
    ∀ d ∈ (declareWithin resolver depth t).diagnostics, ¬d.IsViolation :=
  complete.forall_declareWithin (fun site _ => isSound_table resolver site) depth

end SymbolTable

namespace Expansion

theorem not_isViolation_of_mem (policy : Policy) (resolver : Resolver) (definition : ModuleDef) :
    ∀ d ∈ (ofModule policy resolver definition).diagnostics, ¬d.IsViolation := by
  rw [ofModule]
  split
  · exact fun _ member => absurd member List.not_mem_nil
  · next c _ =>
      intro d member
      rcases List.mem_append.mp member with own | made
      · exact SymbolTable.isSound_ofModule policy resolver definition c d own
      · exact (SymbolTable.isComplete_ofModule policy resolver definition
          c).not_isViolation_declareWithin _ d made
  · intro d member
    rw [List.mem_singleton.mp member]
    exact (Diagnostic.isOrdinary_ofProblem (by trivial) definition.location).not_isViolation

section

variable {policy : Policy} {resolver : Resolver} {definition : ModuleDef}

/-- The declarations of a module with one composition have the layout of its table. -/
theorem declarations_eq_layout {c : Composition} (single : definition.directives = [c]) :
    (ofModule policy resolver definition).declarations =
      ((SymbolTable.ofModule policy resolver definition c).layout resolver).declarations :=
  (declarations_ofModule single).trans
    ((SymbolTable.isComplete_ofModule policy resolver definition c).declarations_eq resolver)

/-- The declarations of a nested module have a layout, at any depth. -/
theorem exists_layout_of_nested {m : NestedModule}
    (nested : m ∈ Declaration.modulesIn (ofModule policy resolver definition).declarations) :
    ∃ l : DeclarationLayout, m.declarations = l.declarations := by
  obtain ⟨site, _, rfl⟩ := (mem_modulesIn_ofModule_iff policy resolver definition m).mp nested
  exact ⟨_, (SymbolTable.isComplete_table resolver site).declarations_eq resolver⟩

theorem isError_of_mem {d : Declaration}
    (member : d ∈ (ofModule policy resolver definition).declarations) : d.isError = false := by
  by_cases one : ∃ c, definition.directives = [c]
  · obtain ⟨c, single⟩ := one
    rw [declarations_eq_layout single] at member
    exact DeclarationLayout.isError_of_mem member
  · rw [declarations_of_not_single one] at member
    exact absurd member List.not_mem_nil

theorem isError_of_nested {m : NestedModule}
    (nested : m ∈ Declaration.modulesIn (ofModule policy resolver definition).declarations)
    {d : Declaration} (member : d ∈ m.declarations) : d.isError = false := by
  obtain ⟨l, laid⟩ := exists_layout_of_nested nested
  rw [laid] at member
  exact DeclarationLayout.isError_of_mem member

end

/-- Expanding a module never breaks a contract, whatever the author wrote: there is no error among
the declarations, at any depth, and no report of a broken contract; the module's table and those
of its lists are resolved with all their scopes; and a module with one composition declares its
state and its actions, then its pipeline, its table of scopes and its table of cases as far as it
has them, and at last the modules of its lists, each of which does the same. -/
theorem contract_kept (policy : Policy) (resolver : Resolver) (definition : ModuleDef) :
    let e := ofModule policy resolver definition
    (∀ d ∈ e.declarations, d.isError = false) ∧
      (∀ m ∈ Declaration.modulesIn e.declarations, ∀ d ∈ m.declarations, d.isError = false) ∧
      (∀ d ∈ e.diagnostics, ∀ reason, d.message ≠ (Problem.contractViolation reason).message) ∧
      match definition.directives with
      | [c] =>
        let t := SymbolTable.ofModule policy resolver definition c
        t.IsComplete ∧
          (∀ site, SymbolTable.HasList resolver t site → (site.table resolver).IsComplete) ∧
          e.declarations = (t.layout resolver).declarations ∧
          ∀ m ∈ Declaration.modulesIn e.declarations,
            ∃ l : DeclarationLayout, m.declarations = l.declarations
      | _ => e.declarations = [] := by
  intro e
  refine ⟨fun d => isError_of_mem, fun m nested d => isError_of_nested nested,
    fun d member reason same =>
      not_isViolation_of_mem policy resolver definition d member ⟨reason, same⟩, ?_⟩
  split
  · next c single =>
      exact ⟨SymbolTable.isComplete_ofModule policy resolver definition c,
        fun site _ => SymbolTable.isComplete_table resolver site, declarations_eq_layout single,
        fun m => exists_layout_of_nested⟩
  · next several => exact declarations_of_not_single fun ⟨c, single⟩ => several c single

end Expansion

end StateWeave
