import Mathlib.Data.List.Perm.Subperm
import StateWeave.Proofs.ModuleTable

/-!
# The names of a module's children

Entries take distinct names, each for a child or for a placeholder. A child that comes of
a bound placeholder still has the name that its entry took, so that the children of a
module have distinct names too, however late they come.
-/

namespace StateWeave

open Admission

/-- The kinds of children that declare placeholders. -/
theorem PlaceholderKind.isSome_ofChild? (kind : ChildKind) :
    (ofChild? kind).isSome = kind.isPlaceholder := by
  cases kind <;> rfl

namespace ChildEntry

variable (policy : Policy) (resolver : Resolver)

/-- An entry that takes a name takes it for a child or for a placeholder. -/
theorem claim?_eq_or (e : ChildEntry) :
    e.claim? policy resolver =
      ((e.child? policy resolver).map NamedChild.name).or
        ((e.own? policy resolver).map Placeholder.name) := by
  rw [claim?, child?, own?]
  cases e.plan policy resolver <;> rfl

theorem own?_of_child? {policy : Policy} {resolver : Resolver} {e : ChildEntry}
    (h : (e.child? policy resolver).isSome) : e.own? policy resolver = none := by
  rw [child?] at h
  rw [own?]
  cases plan : e.plan policy resolver with
  | placeholder => rw [plan] at h; cases h
  | _ => rfl

/-- An alert or a dialog declares a placeholder as soon as it has a name. -/
theorem plan_of_ofChild? {e : ChildEntry} {kind : PlaceholderKind}
    (declares : PlaceholderKind.ofChild? e.kind = some kind) :
    e.plan policy resolver =
      match e.name? with
      | none => .refused .missingChildName
      | some name => .placeholder kind name := by
  rw [plan]
  cases sort : e.kind with
  | alert =>
      rw [sort] at declares
      cases declares
      rfl
  | confirmationDialog =>
      rw [sort] at declares
      cases declares
      rfl
  | _ =>
      rw [sort] at declares
      cases declares

/-- Nothing but an alert or a dialog declares a placeholder. -/
theorem plan_ne_placeholder {e : ChildEntry} (other : PlaceholderKind.ofChild? e.kind = none)
    (kind : PlaceholderKind) (name : String) :
    e.plan policy resolver ≠ .placeholder kind name := by
  have planned (own : String) (embedding : Embedding) :
      e.planOf own embedding ≠ .placeholder kind name := by
    cases embedding <;> intro same <;> cases same
  intro same
  rw [plan] at same
  repeat' split at same
  · cases same
  · cases same
  · cases same
  · next declares =>
      rw [other] at declares
      cases declares
  · exact planned _ _ same
  · rw [typedPlan] at same
    repeat' split at same
    · cases same
    · exact planned _ _ same
    · cases same

/-- The placeholder of an entry in its own module is the one that the module around a list knows
under the list's name. -/
theorem listed?_eq (list : String) (e : ChildEntry) :
    e.listed? resolver list =
      (e.own? policy resolver).map fun p =>
        { p with name := Naming.nestedKey list p.name } := by
  rw [listed?, own?]
  cases declares : PlaceholderKind.ofChild? e.kind with
  | none =>
      cases planned : e.plan policy resolver with
      | placeholder kind name => exact absurd planned (plan_ne_placeholder _ _ declares kind name)
      | _ => rfl
  | some kind =>
      rw [plan_of_ofChild? policy resolver declares]
      cases e.name? <;> rfl

/-- An entry that asks for a name asks for it for a placeholder if it is an alert or a dialog,
and else for a child. -/
theorem claim?_cases {e : ChildEntry} {name : String}
    (asked : e.claim? policy resolver = some name) :
    (e.kind.isPlaceholder = false ∧
      ∃ child, e.child? policy resolver = some child ∧ child.name = name) ∨
    (e.kind.isPlaceholder = true ∧
      ∃ p, e.own? policy resolver = some p ∧ p.name = name) := by
  rw [← PlaceholderKind.isSome_ofChild?]
  rw [claim?] at asked
  rw [child?, own?]
  cases declares : PlaceholderKind.ofChild? e.kind with
  | none =>
      refine Or.inl ⟨rfl, ?_⟩
      cases planned : e.plan policy resolver with
      | placeholder kind name => exact absurd planned (plan_ne_placeholder _ _ declares kind name)
      | refused =>
          rw [planned] at asked
          cases asked
      | list own embedding children =>
          rw [planned] at asked
          exact ⟨_, rfl, Option.some.inj asked⟩
      | child own embedding initialValue dropped =>
          rw [planned] at asked
          exact ⟨_, rfl, Option.some.inj asked⟩
  | some kind =>
      refine Or.inr ⟨rfl, ?_⟩
      rw [plan_of_ofChild? policy resolver declares] at asked ⊢
      cases given : e.name? with
      | none =>
          rw [given] at asked
          cases asked
      | some own =>
          rw [given] at asked
          exact ⟨_, rfl, Option.some.inj asked⟩

/-- The names that entries take, sorted by what they take them for. -/
theorem perm_claims (es : List ChildEntry) :
    (es.filterMap (claim? policy resolver)).Perm
      ((es.filterMap (child? policy resolver)).map NamedChild.name ++
        (es.filterMap (own? policy resolver)).map Placeholder.name) := by
  have disjoint : ∀ e : ChildEntry, ((e.child? policy resolver).map NamedChild.name).isSome →
      (e.own? policy resolver).map Placeholder.name = none := by
    intro e h
    rw [own?_of_child? (by simpa using h)]
    rfl
  have sorted := perm_filterMap_or disjoint es
  have same : (fun e : ChildEntry => ((e.child? policy resolver).map NamedChild.name).or
      ((e.own? policy resolver).map Placeholder.name)) = claim? policy resolver :=
    funext fun e => (claim?_eq_or policy resolver e).symm
  rwa [same, ← List.map_filterMap, ← List.map_filterMap] at sorted

end ChildEntry

namespace PlaceholderRegistry

/-- The bound placeholders of a module are among those that it declares. -/
theorem sublist_boundNames (r : PlaceholderRegistry) :
    r.boundNames.Sublist (r.locals.map Placeholder.name) :=
  List.filter_sublist.map Placeholder.name

theorem map_name_locals_congr {r s : PlaceholderRegistry} (same : r.outline = s.outline) :
    r.locals.map Placeholder.name = s.locals.map Placeholder.name := by
  have names (r : PlaceholderRegistry) :
      r.locals.map Placeholder.name = (r.locals.map Placeholder.bare).map Placeholder.name := by
    rw [List.map_map]
    rfl
  rw [names, names, map_bare_locals, map_bare_locals, same]

end PlaceholderRegistry

namespace Composition

variable (policy : Policy) (resolver : Resolver) (c : Composition)

/-- Placeholders of different entries have different names. -/
theorem nodup_names_own :
    (((c.entries policy resolver).filterMap (ChildEntry.own? policy resolver)).map
      Placeholder.name).Nodup :=
  (sublist_names (fun _ _ => ChildEntry.claim?_of_own?) _).nodup
    (c.nodup_claims_entries policy resolver)

/-- A module's own placeholders are those of the entries that are let in. -/
theorem locals_declared :
    (c.declared policy resolver).locals =
      ((c.entries policy resolver).filterMap (ChildEntry.own? policy resolver)).filter
        Placeholder.isLocal := by
  have own : (ChildEntry.declarations policy resolver [] c.children).filter Placeholder.isLocal =
      ((c.entries policy resolver).filterMap (ChildEntry.own? policy resolver)).filter
        Placeholder.isLocal :=
    ChildEntry.filter_isLocal_declarations [] c.children
  rw [← own]
  refine PlaceholderRegistry.locals_declareAll (r := PlaceholderRegistry.empty) ?_
  rw [own]
  exact (List.filter_sublist.map Placeholder.name).nodup (c.nodup_names_own policy resolver)

theorem outline_settled (members : List Member) :
    (c.settled policy resolver members).outline = (c.declared policy resolver).outline :=
  PlaceholderRegistry.outline_settle _ _

/-- The names of a module's own placeholders are names that entries took for them. -/
theorem sublist_names_locals (members : List Member) :
    ((c.settled policy resolver members).locals.map Placeholder.name).Sublist
      (((c.entries policy resolver).filterMap (ChildEntry.own? policy resolver)).map
        Placeholder.name) := by
  rw [PlaceholderRegistry.map_name_locals_congr (c.outline_settled policy resolver members),
    locals_declared]
  exact List.filter_sublist.map Placeholder.name

theorem nodup_names_locals (members : List Member) :
    ((c.settled policy resolver members).locals.map Placeholder.name).Nodup :=
  (c.sublist_names_locals policy resolver members).nodup (c.nodup_names_own policy resolver)

/-- All names of children, early and late, are names that entries took. -/
theorem subperm_names_embedded (members : List Member) :
    ((c.embedded policy resolver members).map NamedChild.name).Subperm
      ((c.entries policy resolver).filterMap (ChildEntry.claim? policy resolver)) := by
  rw [embedded, List.map_append, PlaceholderRegistry.map_name_children]
  have bound := (c.settled policy resolver members).sublist_boundNames.trans
    (c.sublist_names_locals policy resolver members)
  have sublist := bound.append_left
    (((c.entries policy resolver).filterMap (ChildEntry.child? policy resolver)).map
      NamedChild.name)
  exact sublist.subperm.trans (ChildEntry.perm_claims policy resolver _).symm.subperm

/-- The children of a module have distinct names. -/
theorem nodup_names_embedded (members : List Member) :
    ((c.embedded policy resolver members).map NamedChild.name).Nodup := by
  obtain ⟨names, same, sublist⟩ := c.subperm_names_embedded policy resolver members
  exact same.nodup_iff.mp (sublist.nodup (c.nodup_claims_entries policy resolver))

end Composition

end StateWeave
