import StateWeave.Proofs.AccessorTypes

/-!
# The order of state members

Children are entered in two phases: modules, values and lists while the composition is applied,
alerts and dialogs once all bindings are settled. Fields, accessors and cases are listed as the
children were entered. Two children of one phase are therefore listed in the order of the
composition, while an alert or a dialog is listed behind every child that is neither, wherever
its own entry stands. `fields_in_order_iff` says so for any two children.
-/

namespace StateWeave

open Admission

section

variable {names part : List String} {a b : String}

/-- In a list without repetition two names are in one order only. -/
theorem not_pair_sublist_swap (distinct : names.Nodup) (order : [a, b].Sublist names) :
    ¬[b, a].Sublist names := by
  intro swapped
  obtain ⟨rfl, -⟩ := List.cons_eq_cons.mp
    ((distinct.perm_iff_eq_of_sublist order swapped).mp (List.Perm.swap b a []))
  exact List.pairwise_iff_forall_sublist.mp distinct order rfl

/-- Two names of a list are in one order or in the other. -/
theorem pair_sublist_or (first : a ∈ names) (second : b ∈ names) (differ : a ≠ b) :
    [a, b].Sublist names ∨ [b, a].Sublist names := by
  obtain ⟨front, back, rfl⟩ := List.append_of_mem first
  rcases List.mem_append.mp second with before | behind
  · have last : [a].Sublist (a :: back) := List.singleton_sublist.mpr List.mem_cons_self
    exact Or.inr ((List.singleton_sublist.mpr before).append last)
  · rcases List.mem_cons.mp behind with same | later
    · exact absurd same.symm differ
    · have rest : [a, b].Sublist (a :: back) := (List.singleton_sublist.mpr later).cons_cons a
      exact Or.inl (rest.trans (List.sublist_append_right front _))

/-- Two names are in the same order in a list as in any part of it that has both. -/
theorem pair_sublist_iff (distinct : names.Nodup) (sub : part.Sublist names)
    (listed : a ∈ part ∧ b ∈ part) : [a, b].Sublist part ↔ [a, b].Sublist names := by
  constructor
  · exact fun order => order.trans sub
  · intro order
    have differ : a ≠ b := List.pairwise_iff_forall_sublist.mp distinct order
    refine (pair_sublist_or listed.1 listed.2 differ).resolve_right fun swapped => ?_
    exact not_pair_sublist_swap distinct order (swapped.trans sub)

end

namespace Composition

variable (policy : Policy) (resolver : Resolver) (c : Composition) (members : List Member)

/-- The names of the children that are entered with the composition. -/
def plainNames : List String :=
  ((c.entries policy resolver).filterMap (ChildEntry.child? policy resolver)).map NamedChild.name

/-- The names of the placeholders that entries declare for the module itself, bound or not. -/
def ownNames : List String :=
  ((c.entries policy resolver).filterMap (ChildEntry.own? policy resolver)).map Placeholder.name

theorem map_name_embedded :
    (c.embedded policy resolver members).map NamedChild.name =
      c.plainNames policy resolver ++ (c.settled policy resolver members).boundNames := by
  rw [embedded, List.map_append, PlaceholderRegistry.map_name_children, plainNames]

theorem sublist_boundNames_ownNames :
    (c.settled policy resolver members).boundNames.Sublist (c.ownNames policy resolver) :=
  (c.settled policy resolver members).sublist_boundNames.trans
    (c.sublist_names_locals policy resolver members)

variable {policy resolver c members} {e : ChildEntry} (member : e ∈ c.entries policy resolver)

include member

theorem mem_plainNames {child : NamedChild} (embeds : e.child? policy resolver = some child) :
    child.name ∈ c.plainNames policy resolver :=
  List.mem_map_of_mem (List.mem_filterMap.mpr ⟨e, member, embeds⟩)

/-- A placeholder that has become a child is among those that were bound, because no other entry
has its name. -/
theorem mem_boundNames_of_own {p : Placeholder} (declares : e.own? policy resolver = some p)
    (embedded : p.name ∈ (c.embedded policy resolver members).map NamedChild.name) :
    p.name ∈ (c.settled policy resolver members).boundNames := by
  rw [map_name_embedded] at embedded
  refine (List.mem_append.mp embedded).resolve_left fun plain => ?_
  have own : p.name ∈ c.ownNames policy resolver :=
    List.mem_map_of_mem (List.mem_filterMap.mpr ⟨e, member, declares⟩)
  have distinct := (ChildEntry.perm_claims policy resolver _).nodup_iff.mp
    (c.nodup_claims_entries policy resolver)
  exact (List.nodup_append.mp distinct).2.2 p.name plain p.name own rfl

omit member

/-- Of the children with a state those that are neither alerts nor dialogs come first, and each
phase keeps the order of the composition. -/
theorem pair_sublist_embedded_iff {first second : ChildEntry} {a b : String}
    (order : [first, second].Sublist (c.entries policy resolver))
    (asked : first.claim? policy resolver = some a ∧ second.claim? policy resolver = some b)
    (known : a ∈ (c.embedded policy resolver members).map NamedChild.name ∧
      b ∈ (c.embedded policy resolver members).map NamedChild.name) :
    [a, b].Sublist ((c.embedded policy resolver members).map NamedChild.name) ↔
      (first.kind.isPlaceholder = true → second.kind.isPlaceholder = true) := by
  have front : first ∈ c.entries policy resolver := order.subset List.mem_cons_self
  have back : second ∈ c.entries policy resolver :=
    order.subset (List.mem_cons_of_mem _ List.mem_cons_self)
  have distinct := c.nodup_names_embedded policy resolver members
  have phases := c.map_name_embedded policy resolver members
  rcases ChildEntry.claim?_cases policy resolver asked.1 with
    ⟨plain, child, embeds, rfl⟩ | ⟨alert, p, declares, rfl⟩ <;>
  rcases ChildEntry.claim?_cases policy resolver asked.2 with
    ⟨plain', other, embeds', rfl⟩ | ⟨alert', q, declares', rfl⟩
  · -- Both are entered with the composition.
    have same : [child.name, other.name].Sublist (c.plainNames policy resolver) := by
      have kept := (order.filterMap (ChildEntry.child? policy resolver)).map NamedChild.name
      simpa [plainNames, embeds, embeds'] using kept
    rw [phases]
    refine iff_of_true (same.trans (List.sublist_append_left _ _)) fun alert => ?_
    rw [plain] at alert
    cases alert
  · rw [phases]
    refine iff_of_true ?_ fun _ => alert'
    exact (List.singleton_sublist.mpr (mem_plainNames front embeds)).append
      (List.singleton_sublist.mpr (mem_boundNames_of_own back declares' known.2))
  · refine iff_of_false (not_pair_sublist_swap distinct ?_) fun follows => ?_
    · rw [phases]
      exact (List.singleton_sublist.mpr (mem_plainNames back embeds')).append
        (List.singleton_sublist.mpr (mem_boundNames_of_own front declares known.1))
    · rw [plain'] at follows
      cases follows alert
  · -- Both wait for their bindings.
    have own : [p.name, q.name].Sublist (c.ownNames policy resolver) := by
      have kept := (order.filterMap (ChildEntry.own? policy resolver)).map Placeholder.name
      simpa [ownNames, declares, declares'] using kept
    have bound := (pair_sublist_iff (c.nodup_names_own policy resolver)
      (c.sublist_boundNames_ownNames policy resolver members)
      ⟨mem_boundNames_of_own front declares known.1,
        mem_boundNames_of_own back declares' known.2⟩).mpr own
    rw [phases]
    exact iff_of_true (bound.trans (List.sublist_append_right _ _)) fun _ => alert'

end Composition

namespace Expansion

def stateNames (e : Expansion) : List String := e.declarations.flatMap Declaration.stateNames

def switchNames (e : Expansion) : List String := e.declarations.flatMap Declaration.switchNames

variable {policy : Policy} {resolver : Resolver} {definition : ModuleDef} {c : Composition}

theorem stateNames_ofModule (single : definition.directives = [c]) :
    (ofModule policy resolver definition).stateNames =
      (c.embedded policy resolver definition.members).map NamedChild.name := by
  have resolved := SymbolTable.isResolved_ofModule policy resolver definition c
  rw [stateNames, declarations_ofModule single, SymbolTable.stateNames_declare _ _ resolved,
    SymbolTable.stateMembers_ofModule, List.map_map]
  rfl

/-- A table of cases lists children, all of them or none. -/
theorem sublist_switchNames (single : definition.directives = [c]) :
    (ofModule policy resolver definition).switchNames.Sublist
      ((c.embedded policy resolver definition.members).map NamedChild.name) := by
  have resolved := SymbolTable.isResolved_ofModule policy resolver definition c
  rw [switchNames, declarations_ofModule single, SymbolTable.switchNames_declare _ _ resolved,
    SymbolTable.scopeCases_ofModule, SymbolTable.casesOf]
  split
  · split
    · rw [List.map_map]
      exact List.Sublist.refl _
    · exact List.nil_sublist _
  · exact List.nil_sublist _

/-- A table of scopes lists children, and behind them scopes that members asked for, which have
names of their own. -/
theorem accessorNames_ofModule (single : definition.directives = [c]) :
    ∃ own asked,
      (ofModule policy resolver definition).accessorNames = own ++ asked ∧
      own.Sublist ((c.embedded policy resolver definition.members).map NamedChild.name) ∧
      ∀ name ∈ asked,
        name ∉ (c.embedded policy resolver definition.members).map NamedChild.name := by
  let t := SymbolTable.ofModule policy resolver definition c
  have resolved : t.isResolved = true :=
    SymbolTable.isResolved_ofModule policy resolver definition c
  rw [accessorNames, declarations_ofModule single, SymbolTable.accessorNames_declare _ _ resolved]
  split
  · let own := (c.embedded policy resolver definition.members).filterMap
      (SymbolTable.started policy definition c).scopeOf?
    let asked := ((c.contributions policy resolver definition.members).filterMap
      Contribution.scope?).filterMap (PendingScope.scope? t.actionMembers)
    refine ⟨(own.filterMap t.accessor?).map Accessor.name,
      (asked.filterMap t.accessor?).map Accessor.name, ?_, ?_, ?_⟩
    · rw [SymbolTable.accessors, SymbolTable.scopes_ofModule, List.filterMap_append,
        List.map_append]
    · have accessors : ((own.filterMap t.accessor?).map Accessor.name).Sublist
          (own.map Scope.name) :=
        sublist_labels (fun _ _ => SymbolTable.name_of_accessor?) own
      exact accessors.trans (sublist_labels (fun _ _ => SymbolTable.name_of_scopeOf?) _)
    · intro name member
      obtain ⟨accessor, made, rfl⟩ := List.mem_map.mp member
      obtain ⟨s, found, makes⟩ := List.mem_filterMap.mp made
      obtain ⟨pending, queued, finds⟩ := List.mem_filterMap.mp found
      obtain ⟨m, _, rfl⟩ := PendingScope.eq_of_scope? finds
      rw [SymbolTable.name_of_accessor? makes]
      exact c.not_mem_names_embedded_of_scope policy resolver definition.members queued
  · exact ⟨[], [], rfl, List.nil_sublist _, fun name none => absurd none List.not_mem_nil⟩

/-- Take two children with a state, the first before the second in the composition. Their fields,
their accessors and their cases are written in this order, unless the first is an alert or a
dialog and the second is neither: then all of them are written the other way round. -/
theorem fields_in_order_iff (single : definition.directives = [c])
    {first second : ChildEntry} {a b : String}
    (order : [first, second].Sublist (c.entries policy resolver))
    (asked : first.claim? policy resolver = some a ∧ second.claim? policy resolver = some b)
    (fields : a ∈ (ofModule policy resolver definition).stateNames ∧
      b ∈ (ofModule policy resolver definition).stateNames) :
    let e := ofModule policy resolver definition
    let kept := first.kind.isPlaceholder = true → second.kind.isPlaceholder = true
    ([a, b].Sublist e.stateNames ↔ kept) ∧
      (a ∈ e.accessorNames ∧ b ∈ e.accessorNames → ([a, b].Sublist e.accessorNames ↔ kept)) ∧
      (a ∈ e.switchNames ∧ b ∈ e.switchNames → ([a, b].Sublist e.switchNames ↔ kept)) := by
  intro e kept
  have distinct := c.nodup_names_embedded policy resolver definition.members
  have children : e.stateNames = _ := stateNames_ofModule single
  rw [children] at fields ⊢
  have embedded : _ ↔ kept :=
    Composition.pair_sublist_embedded_iff order asked fields
  refine ⟨embedded, ?_, ?_⟩
  · obtain ⟨own, others, table, part, unknown⟩ := accessorNames_ofModule single
    rintro ⟨first, second⟩
    rw [table] at first second ⊢
    have child {name : String} (field : name ∈ (c.embedded policy resolver
        definition.members).map NamedChild.name) (listed : name ∈ own ++ others) : name ∈ own :=
      (List.mem_append.mp listed).resolve_right fun other => unknown name other field
    have both := pair_sublist_iff distinct part ⟨child fields.1 first, child fields.2 second⟩
    rw [← embedded, ← both]
    refine ⟨List.Sublist.of_sublist_append_left ?_, List.sublist_append_of_sublist_left⟩
    intro name member other
    rcases List.mem_pair.mp member with rfl | rfl
    · exact unknown _ other fields.1
    · exact unknown _ other fields.2
  · intro listed
    rw [pair_sublist_iff distinct (sublist_switchNames single) listed, embedded]

def confirmedForm : Composition where
  children := [
    ⟨.alert, true, some (.string "leave"), some (.named "Leave"), none, {}⟩,
    ⟨.reducer, false, some (.string "draft"), some (.named "Draft"), none, {}⟩]

/-- The alert comes first in the composition and last in the state and among the accessors. -/
theorem fields_in_order_iff_confirmedForm :
    let e := ofModule {} .textual { name := "Form", directives := [confirmedForm] }
    ["leave", "draft"].Sublist
        (confirmedForm.children.filterMap (ChildEntry.claim? {} .textual)) ∧
      ¬["leave", "draft"].Sublist e.stateNames ∧
      ¬["leave", "draft"].Sublist e.accessorNames := by
  intro e
  have single : ({ name := "Form", directives := [confirmedForm] } : ModuleDef).directives =
      [confirmedForm] := rfl
  have fields : "leave" ∈ e.stateNames ∧ "draft" ∈ e.stateNames := by decide
  have accessors : "leave" ∈ e.accessorNames ∧ "draft" ∈ e.accessorNames := by decide
  have order : confirmedForm.children.Sublist (confirmedForm.entries {} .textual) :=
    List.Sublist.refl confirmedForm.children
  obtain ⟨state, table, _⟩ := fields_in_order_iff single order ⟨rfl, rfl⟩ fields
  refine ⟨by decide, fun order => ?_, fun order => ?_⟩
  · exact absurd (state.mp order rfl) Bool.false_ne_true
  · exact absurd ((table accessors).mp order rfl) Bool.false_ne_true

end Expansion

end StateWeave
