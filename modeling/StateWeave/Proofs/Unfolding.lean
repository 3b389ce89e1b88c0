import Mathlib.Data.List.Forall2
import StateWeave.Proofs.Levels

/-!
# Unfolding lists

Declarations are made within a bound on how far lists are followed, and the bound is taken from
the members of the table. `Unfolds` says without a bound what a table comes to: member after
member, a list unfolds into a module, out of a table that is made from the list alone. Expansion
gives what the table of a module unfolds into, so the bound cuts nothing off, and the modules lie
no deeper inside one another than the lists of the directive do.
-/

namespace StateWeave

mutual

/-- How many modules lie inside one another in a declaration. -/
def Declaration.moduleDepth : Declaration → Nat
  | .nested ⟨_, _, _, declarations⟩ => Declaration.moduleDepthIn declarations + 1
  | _ => 0

def Declaration.moduleDepthIn : List Declaration → Nat
  | [] => 0
  | d :: rest => max d.moduleDepth (Declaration.moduleDepthIn rest)

end

theorem Declaration.moduleDepthIn_append (ds es : List Declaration) :
    moduleDepthIn (ds ++ es) = max (moduleDepthIn ds) (moduleDepthIn es) := by
  induction ds with
  | nil => rw [List.nil_append, moduleDepthIn, Nat.zero_max]
  | cons d ds ih => rw [List.cons_append, moduleDepthIn, moduleDepthIn, ih, Nat.max_assoc]

def StateMember.bringsList (m : StateMember) : Bool := m.embedding.isNestedList

/-- A nested module stands for a member of a table that brings a list: it is called as the member
says, for whoever may see the table, and it is placed by the names of the member and the table. -/
structure NestedModule.StandsFor (access : Access) (t : SymbolTable) (m : StateMember)
    (n : NestedModule) : Prop where
  access : n.access = access
  placed :
    (∃ children, m.embedding = .destination n.name children) ∧
        n.placement = .destination m.name t.module ∨
      (∃ children, m.embedding = .navigationStack n.name children) ∧
        n.placement = .stack m.name t.module

namespace ListSite

theorem made_eq {t : SymbolTable} {m : StateMember} {site : ListSite}
    (found : ofMember? t m = some site) (resolver : Resolver) :
    site.made resolver = ⟨t.access, site.module, site.placement,
      ((site.table resolver).declare resolver).declarations⟩ := by
  rw [made, site.module_table, site.placement_table, parent_of_ofMember? found]

theorem isSome_ofMember? (t : SymbolTable) (m : StateMember) :
    (ofMember? t m).isSome = m.bringsList := by
  rw [ofMember?, StateMember.bringsList]
  cases m.embedding <;> rfl

theorem standsFor_made {t : SymbolTable} {m : StateMember} {site : ListSite}
    (found : ofMember? t m = some site) (resolver : Resolver) :
    (site.made resolver).StandsFor t.access t m := by
  rw [made_eq found]
  refine ⟨rfl, ?_⟩
  rw [ofMember?] at found
  split at found
  · next module children destination =>
      cases found
      exact Or.inl ⟨⟨children, destination⟩, rfl⟩
  · next module children stack =>
      cases found
      exact Or.inr ⟨⟨children, stack⟩, rfl⟩
  · cases found

end ListSite

namespace SymbolTable

mutual

/-- What a table comes to: its own declarations, behind them a module for each of its lists, and
the reports that are made on the way. -/
inductive Unfolds (resolver : Resolver) (access : Access) :
    SymbolTable → List Declaration → Diagnostics → Prop
  | table {t : SymbolTable} {modules : List NestedModule} {reports : Diagnostics} :
      UnfoldsMembers resolver access t t.stateMembers modules reports →
      Unfolds resolver access t (t.ownDeclarations ++ modules.map .nested) reports

/-- What members of a table come to: a module for each list among them, in their order, and for
each list the reports of its own table before those that are made while it unfolds. -/
inductive UnfoldsMembers (resolver : Resolver) (access : Access) :
    SymbolTable → List StateMember → List NestedModule → Diagnostics → Prop
  | nil {t : SymbolTable} : UnfoldsMembers resolver access t [] [] []
  | plain {t : SymbolTable} {m : StateMember} {ms : List StateMember}
      {modules : List NestedModule} {reports : Diagnostics} :
      ListSite.ofMember? t m = none →
      UnfoldsMembers resolver access t ms modules reports →
      UnfoldsMembers resolver access t (m :: ms) modules reports
  | list {t : SymbolTable} {m : StateMember} {ms : List StateMember} {site : ListSite}
      {ds : List Declaration} {inner reports : Diagnostics} {modules : List NestedModule} :
      ListSite.ofMember? t m = some site →
      Unfolds resolver access (site.table resolver) ds inner →
      UnfoldsMembers resolver access t ms modules reports →
      UnfoldsMembers resolver access t (m :: ms)
        (⟨access, site.module, site.placement, ds⟩ :: modules)
        ((site.table resolver).diagnostics ++ inner ++ reports)

end

variable {resolver : Resolver} {access : Access}

mutual

theorem Unfolds.unique {t : SymbolTable} {ds es : List Declaration} {reports others : Diagnostics}
    (first : Unfolds resolver access t ds reports) (second : Unfolds resolver access t es others) :
    ds = es ∧ reports = others := by
  match first, second with
  | .table members, .table also =>
    obtain ⟨rfl, rfl⟩ := members.unique also
    exact ⟨rfl, rfl⟩

theorem UnfoldsMembers.unique {t : SymbolTable} {ms : List StateMember}
    {modules others : List NestedModule} {reports remarks : Diagnostics}
    (first : UnfoldsMembers resolver access t ms modules reports)
    (second : UnfoldsMembers resolver access t ms others remarks) :
    modules = others ∧ reports = remarks := by
  match first, second with
  | .nil, .nil => exact ⟨rfl, rfl⟩
  | .plain _ rest, .plain _ also => exact rest.unique also
  | .plain missing _, .list found _ _ =>
    rw [missing] at found
    cases found
  | .list found _ _, .plain missing _ =>
    rw [missing] at found
    cases found
  | .list found unfolds rest, .list same also others =>
    rw [found] at same
    cases same
    obtain ⟨rfl, rfl⟩ := unfolds.unique also
    obtain ⟨rfl, rfl⟩ := rest.unique others
    exact ⟨rfl, rfl⟩

end

/-- Members unfold into what is declared for them if the tables of their lists do. -/
theorem unfoldsMembers_of_lists {t : SymbolTable} (seen : t.access = access)
    (ms : List StateMember)
    (each : ∀ site ∈ ms.filterMap (ListSite.ofMember? t),
      Unfolds resolver access (site.table resolver)
        ((site.table resolver).declare resolver).declarations
        ((site.table resolver).declare resolver).diagnostics) :
    UnfoldsMembers resolver access t ms
      ((ms.filterMap (ListSite.ofMember? t)).map (ListSite.made resolver))
      ((ms.filterMap (ListSite.ofMember? t)).flatMap fun site =>
        (site.table resolver).diagnostics ++
          ((site.table resolver).declare resolver).diagnostics) := by
  induction ms with
  | nil => exact .nil
  | cons m ms ih =>
      cases found : ListSite.ofMember? t m with
      | none =>
          rw [List.filterMap_cons_none found] at each ⊢
          exact .plain found (ih each)
      | some site =>
          rw [List.filterMap_cons_some found] at each ⊢
          obtain ⟨unfolds, rest⟩ := List.forall_mem_cons.mp each
          rw [List.map_cons, List.flatMap_cons, ListSite.made_eq found, seen]
          exact .list found unfolds (ih rest)

/-- A complete table unfolds into what it declares. The induction is on how deep its lists lie
inside one another: the table of a list is read from the list's entries, which lie deeper. -/
theorem IsComplete.unfolds {t : SymbolTable} (complete : t.IsComplete) (seen : t.access = access) :
    Unfolds resolver access t (t.declare resolver).declarations
      (t.declare resolver).diagnostics := by
  induction nesting : t.nesting using Nat.strongRecOn generalizing t with
  | ind n ih =>
      rw [complete.declare_eq]
      refine .table (unfoldsMembers_of_lists seen t.stateMembers ?_)
      intro site list
      have smaller := nesting_lt_of_mem_lists list resolver
      apply ih (site.table resolver).nesting (by omega) (isComplete_table resolver site) ?_ rfl
      rw [site.access_table, parent_of_mem_lists list]
      exact seen

theorem moduleDepthIn_ownDeclarations (t : SymbolTable) :
    Declaration.moduleDepthIn t.ownDeclarations = 0 := by
  rw [ownDeclarations, scopeTables]
  cases t.pipeline? <;>
    cases t.needsScopePaths <;>
    cases t.needsScopeCases <;>
    simp [Declaration.moduleDepthIn, Declaration.moduleDepth]

mutual

/-- Modules lie no deeper inside one another than the lists of the table that unfolds. -/
theorem Unfolds.moduleDepthIn_le {t : SymbolTable} {ds : List Declaration} {reports : Diagnostics}
    (h : Unfolds resolver access t ds reports) : Declaration.moduleDepthIn ds ≤ t.nesting := by
  match h with
  | .table members =>
    have inner := members.moduleDepthIn_le ((nesting_le_iff t t.nesting).mp (Nat.le_refl _))
    rw [Declaration.moduleDepthIn_append, moduleDepthIn_ownDeclarations, Nat.zero_max]
    exact inner

theorem UnfoldsMembers.moduleDepthIn_le {t : SymbolTable} {ms : List StateMember}
    {modules : List NestedModule} {reports : Diagnostics}
    (h : UnfoldsMembers resolver access t ms modules reports) {bound : Nat}
    (within : ∀ m ∈ ms, m.embedding.nesting ≤ bound) :
    Declaration.moduleDepthIn (modules.map .nested) ≤ bound := by
  match h with
  | .nil => exact Nat.zero_le _
  | .plain _ rest => exact rest.moduleDepthIn_le (List.forall_mem_cons.mp within).2
  | .list found unfolds rest =>
    obtain ⟨reach, others⟩ := List.forall_mem_cons.mp within
    have smaller := ListSite.nesting_table_lt found resolver
    have inner := unfolds.moduleDepthIn_le
    have behind := rest.moduleDepthIn_le others
    rw [List.map_cons, Declaration.moduleDepthIn, Declaration.moduleDepth]
    omega

end

/-- The modules of lists stand for the members that bring the lists, in their order. -/
theorem forall₂_standsFor (t : SymbolTable) (resolver : Resolver) (ms : List StateMember) :
    List.Forall₂ (NestedModule.StandsFor t.access t)
      (ms.filter StateMember.bringsList)
      ((ms.filterMap (ListSite.ofMember? t)).map (ListSite.made resolver)) := by
  induction ms with
  | nil => exact .nil
  | cons m ms ih =>
      have list := ListSite.isSome_ofMember? t m
      cases found : ListSite.ofMember? t m with
      | none =>
          rw [found] at list
          have plain : ¬m.bringsList = true := Bool.eq_false_iff.mp list.symm
          rw [List.filterMap_cons_none found, List.filter_cons_of_neg plain]
          exact ih
      | some site =>
          rw [found] at list
          have brings : m.bringsList = true := list.symm
          rw [List.filterMap_cons_some found, List.map_cons, List.filter_cons_of_pos brings]
          exact .cons (ListSite.standsFor_made found resolver) ih

end SymbolTable

namespace Expansion

open SymbolTable

/-- A module with one composition expands into what its table unfolds into, which is one thing
only: its declarations are those that come of the unfolding, and its diagnostics are the reports
of its table and behind them those of the unfolding. On every level there is one nested module for
each list that a member of the level's table brings, and no other. The modules lie no deeper
inside one another than the lists of the composition do. -/
theorem expansion_unfolds (policy : Policy) (resolver : Resolver) (definition : ModuleDef) :
    let e := ofModule policy resolver definition
    match definition.directives with
    | [c] =>
      let t := SymbolTable.ofModule policy resolver definition c
      (∃ reports, e.diagnostics = t.diagnostics ++ reports ∧
        ∀ ds others, Unfolds resolver definition.access t ds others ↔
          ds = e.declarations ∧ others = reports) ∧
      (∀ ds, e.HasLevel ds → ∃ u, definition.HasTable policy resolver u ∧
        (∃ reports, Unfolds resolver definition.access u ds reports) ∧
        List.Forall₂ (NestedModule.StandsFor definition.access u)
          (u.stateMembers.filter StateMember.bringsList)
          (ds.filterMap Declaration.module?)) ∧
      Declaration.moduleDepthIn e.declarations ≤ ChildKind.nestingOfAll c.children
    | _ => e.declarations = [] := by
  intro e
  by_cases one : ∃ c, definition.directives = [c]
  · obtain ⟨c, single⟩ := one
    rw [single]
    let t := SymbolTable.ofModule policy resolver definition c
    have unfolds : Unfolds resolver definition.access t (t.declare resolver).declarations
        (t.declare resolver).diagnostics :=
      (isComplete_ofModule policy resolver definition c).unfolds
        (access_ofModule policy resolver definition c)
    have declared : e.declarations = (t.declare resolver).declarations :=
      declarations_ofModule single
    have reported : e.diagnostics = t.diagnostics ++ (t.declare resolver).diagnostics :=
      diagnostics_ofModule single
    refine ⟨⟨(t.declare resolver).diagnostics, reported, ?_⟩, ?_, ?_⟩
    · intro ds others
      rw [declared]
      constructor
      · intro also
        exact also.unique unfolds
      · rintro ⟨rfl, rfl⟩
        exact unfolds
    · intro ds level
      obtain ⟨u, table, rfl⟩ := (hasLevel_iff single).mp level
      have complete := table.isComplete
      refine ⟨u, table, ⟨_, complete.unfolds table.access_eq⟩, ?_⟩
      rw [complete.modules_eq, ← table.access_eq]
      exact forall₂_standsFor u resolver u.stateMembers
    · rw [declared]
      exact Nat.le_trans unfolds.moduleDepthIn_le (nesting_ofModule_le policy resolver definition c)
  · split
    · next c single => exact absurd ⟨c, single⟩ one
    · exact declarations_of_not_single one

end Expansion

end StateWeave
