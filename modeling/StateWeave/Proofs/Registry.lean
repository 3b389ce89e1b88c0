import Mathlib.Data.List.Nodup
import StateWeave.Naming
import StateWeave.SymbolTable.Resolution

/-!
# The registry of placeholders

Two things happen to a registry. While entries are read, placeholders are declared: one
of a new name goes behind the others, and one of a known name takes over its position
unless the name is bound. Later, bindings settle action types one by one. Neither ever
moves an entry or lets two entries share a name, and a binding changes nothing but one
action type, so that routes do not depend on when they are looked up.

Names of nested lists have a dot in them and never belong to the module itself, which is
why the module's own entries can be followed without looking at its lists.
-/

namespace StateWeave

namespace Placeholder

theorem isLocal_congr {p q : Placeholder} (same : p.name = q.name) : p.isLocal = q.isLocal := by
  simp [isLocal, same]

theorem isLocal_of_name {p : Placeholder} {list name : String}
    (h : p.name = Naming.nestedKey list name) : p.isLocal = false := by
  simp [isLocal, h, Naming.nestedKey]

end Placeholder

namespace PlaceholderRegistry

/-- The entries that belong to the module itself. -/
def locals (r : PlaceholderRegistry) : List Placeholder := r.entries.filter Placeholder.isLocal

theorem get?_eq_none_iff {r : PlaceholderRegistry} {name : String} :
    r.get? name = none ↔ name ∉ r.names := by
  simp only [get?, names, List.find?_eq_none, decide_eq_true_eq, List.mem_map, not_exists, not_and]

theorem mem_of_get? {r : PlaceholderRegistry} {name : String} {p : Placeholder}
    (h : r.get? name = some p) : p ∈ r.entries ∧ p.name = name := by
  refine ⟨List.mem_of_find?_eq_some h, ?_⟩
  simpa using List.find?_some h

/-- Where names are distinct, an entry is what its name leads to. -/
theorem get?_of_mem {r : PlaceholderRegistry} (distinct : r.names.Nodup) {p : Placeholder}
    (member : p ∈ r.entries) : r.get? p.name = some p := by
  cases h : r.get? p.name with
  | none => exact absurd (List.mem_map_of_mem member) (get?_eq_none_iff.mp h)
  | some q =>
      obtain ⟨found, same⟩ := mem_of_get? h
      rw [List.inj_on_of_nodup_map distinct found member same]

/-- Enter a placeholder unless one of its name is bound already. -/
def declare (r : PlaceholderRegistry) (p : Placeholder) : PlaceholderRegistry :=
  if (r.get? p.name).any Placeholder.isBound then r else r.insert p

def declareAll (r : PlaceholderRegistry) (ps : List Placeholder) : PlaceholderRegistry :=
  ps.foldl declare r

@[simp] theorem declareAll_nil (r : PlaceholderRegistry) : r.declareAll [] = r := rfl

theorem declareAll_append (r : PlaceholderRegistry) (ps qs : List Placeholder) :
    r.declareAll (ps ++ qs) = (r.declareAll ps).declareAll qs := List.foldl_append

/-- An insertion puts a placeholder behind all entries, or into the place of the first entry with
its name. -/
theorem insertIn_cases (p : Placeholder) (entries : List Placeholder) :
    (p.name ∉ entries.map Placeholder.name ∧ insertIn p entries = entries ++ [p]) ∨
      ∃ front old back, entries = front ++ old :: back ∧ (∀ q ∈ front, q.name ≠ p.name) ∧
        old.name = p.name ∧ insertIn p entries = front ++ p :: back := by
  induction entries with
  | nil => exact Or.inl ⟨List.not_mem_nil, rfl⟩
  | cons entry rest ih =>
      by_cases same : entry.name = p.name
      · exact Or.inr ⟨[], entry, rest, rfl, List.forall_mem_nil _, same, if_pos same⟩
      · rw [insertIn, if_neg same]
        rcases ih with ⟨fresh, grown⟩ | ⟨front, old, back, split, others, known, replaced⟩
        · refine Or.inl ⟨?_, by rw [grown, List.cons_append]⟩
          rw [List.map_cons, List.mem_cons, not_or]
          exact ⟨Ne.symm same, fresh⟩
        · refine Or.inr ⟨entry :: front, old, back, ?_, ?_, known, ?_⟩
          · rw [split, List.cons_append]
          · exact List.forall_mem_cons.mpr ⟨same, others⟩
          · rw [replaced, List.cons_append]

theorem insertIn_of_fresh {p : Placeholder} {entries : List Placeholder}
    (fresh : p.name ∉ entries.map Placeholder.name) : insertIn p entries = entries ++ [p] := by
  rcases insertIn_cases p entries with ⟨-, grown⟩ | ⟨front, old, back, split, -, known, -⟩
  · exact grown
  · exact absurd (by simp [split, known]) fresh

theorem names_insertIn_of_known {p : Placeholder} {entries : List Placeholder}
    (known : p.name ∈ entries.map Placeholder.name) :
    (insertIn p entries).map Placeholder.name = entries.map Placeholder.name := by
  rcases insertIn_cases p entries with ⟨fresh, -⟩ | ⟨front, old, back, split, -, same, replaced⟩
  · exact absurd known fresh
  · rw [replaced, split]
    simp [same]

theorem find?_insertIn_of_ne {p : Placeholder} {name : String} (differs : name ≠ p.name)
    (entries : List Placeholder) :
    (insertIn p entries).find? (fun entry => entry.name = name) =
      entries.find? (fun entry => entry.name = name) := by
  rcases insertIn_cases p entries with ⟨-, grown⟩ | ⟨front, old, back, split, -, same, replaced⟩
  · simp [grown, differs.symm]
  · rw [replaced, split]
    simp [same, differs.symm]

theorem find?_insertIn_self (p : Placeholder) (entries : List Placeholder) :
    (insertIn p entries).find? (fun entry => entry.name = p.name) = some p := by
  rcases insertIn_cases p entries with ⟨fresh, grown⟩ | ⟨front, old, back, -, others, -, replaced⟩
  · have missing : entries.find? (fun entry => entry.name = p.name) = none := by
      simpa using fresh
    simp [grown, missing]
  · have missing : front.find? (fun entry => entry.name = p.name) = none := by
      simpa using others
    simp [replaced, missing]

/-- An insertion keeps all names where they are. A name that is new goes behind them. -/
theorem names_insert (r : PlaceholderRegistry) (p : Placeholder) :
    (r.insert p).names = if p.name ∈ r.names then r.names else r.names ++ [p.name] := by
  split
  · next known => exact names_insertIn_of_known known
  · next fresh =>
      simp only [insert, names, insertIn_of_fresh fresh, List.map_append, List.map_cons,
        List.map_nil]

theorem nodup_names_insert {r : PlaceholderRegistry} (distinct : r.names.Nodup)
    (p : Placeholder) : (r.insert p).names.Nodup := by
  rw [names_insert]
  split
  · exact distinct
  · next fresh => simpa using List.Nodup.concat fresh distinct

theorem nodup_names_declare {r : PlaceholderRegistry} (distinct : r.names.Nodup)
    (p : Placeholder) : (r.declare p).names.Nodup := by
  rw [declare]
  split
  · exact distinct
  · exact nodup_names_insert distinct p

theorem nodup_names_declareAll {r : PlaceholderRegistry} (distinct : r.names.Nodup)
    (ps : List Placeholder) : (r.declareAll ps).names.Nodup := by
  induction ps generalizing r with
  | nil => exact distinct
  | cons p ps ih => exact ih (nodup_names_declare distinct p)

theorem get?_declareAll_of_not_mem {ps : List Placeholder} {name : String}
    (other : name ∉ ps.map Placeholder.name) (r : PlaceholderRegistry) :
    (r.declareAll ps).get? name = r.get? name := by
  induction ps generalizing r with
  | nil => rfl
  | cons p ps ih =>
      simp only [List.map_cons, List.mem_cons, not_or] at other
      have step : (r.declare p).get? name = r.get? name := by
        rw [declare]
        split
        · rfl
        · exact find?_insertIn_of_ne other.1 r.entries
      exact (ih other.2 (r.declare p)).trans step

theorem filter_insertIn_of_not_local {p : Placeholder} (nested : p.isLocal = false)
    (entries : List Placeholder) :
    (insertIn p entries).filter Placeholder.isLocal = entries.filter Placeholder.isLocal := by
  rcases insertIn_cases p entries with ⟨-, grown⟩ | ⟨front, old, back, split, -, same, replaced⟩
  · simp [grown, nested]
  · have also : old.isLocal = false := (Placeholder.isLocal_congr same).trans nested
    rw [replaced, split]
    simp [nested, also]

theorem locals_declare_of_not_local {p : Placeholder} (nested : p.isLocal = false)
    (r : PlaceholderRegistry) : (r.declare p).locals = r.locals := by
  rw [declare]
  split
  · rfl
  · exact filter_insertIn_of_not_local nested r.entries

theorem locals_declare_of_fresh {r : PlaceholderRegistry} {p : Placeholder}
    (own : p.isLocal = true) (fresh : p.name ∉ r.locals.map Placeholder.name) :
    (r.declare p).locals = r.locals ++ [p] := by
  have unknown : p.name ∉ r.names := by
    intro known
    obtain ⟨entry, member, same⟩ := List.mem_map.mp known
    have entryOwn : entry.isLocal = true := (Placeholder.isLocal_congr same).trans own
    exact fresh (same ▸ List.mem_map_of_mem (List.mem_filter.mpr ⟨member, entryOwn⟩))
  have unbound : (r.get? p.name).any Placeholder.isBound = false := by
    rw [get?_eq_none_iff.mpr unknown]
    rfl
  rw [declare, unbound]
  simp only [Bool.false_eq_true, if_false, insert, locals, insertIn_of_fresh unknown,
    List.filter_append, List.filter_cons, own, if_true, List.filter_nil]

/-- Placeholders of distinct names become the module's own entries in the order in which
they are declared, whatever is declared for lists in between. -/
theorem locals_declareAll {r : PlaceholderRegistry} {ps : List Placeholder}
    (distinct : ((r.locals ++ ps.filter Placeholder.isLocal).map Placeholder.name).Nodup) :
    (r.declareAll ps).locals = r.locals ++ ps.filter Placeholder.isLocal := by
  induction ps generalizing r with
  | nil => simp [declareAll]
  | cons p ps ih =>
      change ((r.declare p).declareAll ps).locals = _
      cases own : p.isLocal with
      | false =>
          have same := locals_declare_of_not_local own r
          rw [List.filter_cons_of_neg (by simp [own])] at distinct ⊢
          rw [ih (by rwa [same]), same]
      | true =>
          rw [List.filter_cons_of_pos own, List.append_cons] at distinct ⊢
          have fresh : p.name ∉ r.locals.map Placeholder.name := by
            rw [List.map_append, List.map_append] at distinct
            have first := (List.nodup_append.mp distinct).1
            simp only [List.map_cons, List.map_nil] at first
            exact fun old => (List.nodup_append.mp first).2.2 _ old _ List.mem_cons_self rfl
          have grown := locals_declare_of_fresh own fresh
          rw [ih (by rwa [grown]), grown]

end PlaceholderRegistry

end StateWeave
