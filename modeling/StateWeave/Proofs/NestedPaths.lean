import StateWeave.Proofs.NestedNames
import StateWeave.Value.Basic

/-!
# Paths into nested lists

The module of a list is a variant, and the scopes of its children start from the state of the
module around it. On a stack they go to the list, through an element, and on through the case
of the child. Into a destination they go through the optional and then through a field, as if
the list were a record. `nested_scope_extract_iff` says what each of them finds.
-/

namespace StateWeave

namespace SymbolTable

theorem placement_of_mem_lists {t : SymbolTable} {site : ListSite} (h : site ∈ t.lists) :
    site.placement = .stack site.list site.parent.module ∨
      site.placement = .destination site.list site.parent.module := by
  obtain ⟨m, _, found⟩ := List.mem_filterMap.mp h
  rw [ListSite.ofMember?] at found
  split at found
  · cases found
    exact Or.inr rfl
  · cases found
    exact Or.inl rfl
  · cases found

/-- A list is a stack or a destination of the module around it, at any depth. -/
theorem HasList.placement {resolver : Resolver} {t : SymbolTable} {site : ListSite}
    (h : HasList resolver t site) :
    site.placement = .stack site.list site.parent.module ∨
      site.placement = .destination site.list site.parent.module := by
  cases h with
  | own list => exact placement_of_mem_lists list
  | nested _ list => exact placement_of_mem_lists list

end SymbolTable

namespace ListSite

theorem state_of_mem_scopes {resolver : Resolver} {site : ListSite} {s : Scope}
    (h : s ∈ (site.table resolver).scopes) : s.state = site.started.statePath s.name := by
  rw [scopes_table] at h
  obtain ⟨child, _, scope⟩ := List.mem_filterMap.mp h
  obtain ⟨type, _, rfl⟩ := Option.map_eq_some_iff.mp scope
  rfl

/-- A child that the entries of a list enter has its scope in the table of the list. -/
theorem mem_scopes_of_entry {resolver : Resolver} {site : ListSite} {e : ChildEntry}
    {child : NamedChild} {s : Scope} (entry : e ∈ site.entries resolver)
    (entered : e.child? site.parent.policy resolver = some child)
    (scope : site.started.scopeOf? child = some s) : s ∈ (site.table resolver).scopes := by
  have embedded : child ∈ site.embedded resolver :=
    List.mem_append_left _ (List.mem_filterMap.mpr ⟨e, entry, entered⟩)
  rw [scopes_table]
  exact List.mem_filterMap.mpr ⟨child, embedded, scope⟩

end ListSite

namespace Path

variable (root list name : String) (state v : Value)

/-- What the path to a case of a stack's element finds. -/
theorem extract?_stack_iff :
    state.extract? ((((ofRoot root).field list).element).case name) = some v ↔
      ∃ fields id, state = .record fields ∧
        Dict.find? list fields = some (.keyed id (.case name v)) := by
  rw [Value.extract?_case_eq_some_iff, Value.extract?_element_eq_some_iff]
  simp only [Value.extract?_field_eq_some_iff, Value.extract?_ofRoot, Option.some.injEq]
  exact exists_comm

/-- What the path to a field of a destination finds. -/
theorem extract?_destination_iff :
    state.extract? ((((ofRoot root).field list).optional).field name) = some v ↔
      ∃ fields inner, state = .record fields ∧
        Dict.find? list fields = some (.optional (some (.record inner))) ∧
          Dict.find? name inner = some v := by
  simp only [Value.extract?_field_eq_some_iff, Value.extract?_optional_eq_some_iff,
    Value.extract?_ofRoot, Option.some.injEq]
  constructor
  · rintro ⟨inner, ⟨fields, record, field⟩, found⟩
    exact ⟨fields, inner, record, field, found⟩
  · rintro ⟨fields, inner, record, field, found⟩
    exact ⟨inner, ⟨fields, record, field⟩, found⟩

end Path

namespace Expansion

/-- The scope of a stack's child finds what an element of the stack holds while the child's
case is its active one. The scope of a destination's child looks for a field of the child's
name in whatever the optional holds. It finds nothing in a case, not even in its own. -/
theorem nested_scope_extract_iff {policy : Policy} {resolver : Resolver}
    {definition : ModuleDef} {site : ListSite} (list : definition.HasList policy resolver site)
    {s : Scope} (scope : s ∈ (site.table resolver).scopes) :
    (site.placement = .stack site.list site.parent.module ∧
      ∀ parent v : Value, parent.extract? s.state = some v ↔
        ∃ fields id, parent = .record fields ∧
          Dict.find? site.list fields = some (.keyed id (.case s.name v))) ∨
    (site.placement = .destination site.list site.parent.module ∧
      (∀ parent v : Value, parent.extract? s.state = some v ↔
        ∃ fields inner, parent = .record fields ∧
          Dict.find? site.list fields = some (.optional (some (.record inner))) ∧
            Dict.find? s.name inner = some v) ∧
      ∀ fields tag v, Dict.find? site.list fields = some (.optional (some (.case tag v))) →
        (Value.record fields).extract? s.state = none) := by
  obtain ⟨c, _, within⟩ := list
  have state := site.state_of_mem_scopes scope
  rcases within.placement with stack | destination
  · refine Or.inl ⟨stack, fun parent v => ?_⟩
    rw [state, SymbolTable.statePath, ListSite.started, stack]
    exact Path.extract?_stack_iff _ _ _ parent v
  · have finds (parent v : Value) : parent.extract? s.state = some v ↔
        ∃ fields inner, parent = .record fields ∧
          Dict.find? site.list fields = some (.optional (some (.record inner))) ∧
            Dict.find? s.name inner = some v := by
      rw [state, SymbolTable.statePath, ListSite.started, destination]
      exact Path.extract?_destination_iff _ _ _ parent v
    refine Or.inr ⟨destination, finds, fun fields tag v held => ?_⟩
    rw [Option.eq_none_iff_forall_ne_some]
    intro found reached
    obtain ⟨_, inner, record, optional, _⟩ := (finds _ found).mp reached
    cases record
    rw [held] at optional
    cases optional

def moduleEntry (name module : String) : ChildEntry :=
  ⟨.reducer, false, some (.string name), some (.named module), none, {}⟩

def stopsAndCover : Composition where
  children := [
    ⟨.navigationStack (some "Stops") [moduleEntry "sight" "Sight"], false, some (.string "stops"),
      none, none, {}⟩,
    ⟨.destination (some "Cover") [moduleEntry "note" "Note"], false, some (.string "cover"),
      none, none, {}⟩]

def tour : ModuleDef where
  name := "Tour"
  directives := [stopsAndCover]

theorem nested_scope_extract_iff_tour :
    (Value.record [("stops", .keyed "a" (.case "sight" .unit))]).extract?
        ((((Path.ofRoot "Tour.State").field "stops").element).case "sight") = some .unit ∧
      (Value.record [("cover", .optional (some (.case "note" .unit)))]).extract?
        ((((Path.ofRoot "Tour.State").field "cover").optional).field "note") = none := by
  let table := SymbolTable.ofModule {} .textual tour stopsAndCover
  let stops : ListSite :=
    ⟨table, "stops", "Stops", .stack "stops" "Tour", [moduleEntry "sight" "Sight"]⟩
  let cover : ListSite :=
    ⟨table, "cover", "Cover", .destination "cover" "Tour", [moduleEntry "note" "Note"]⟩
  have stack : tour.HasList {} .textual stops := ⟨_, rfl, .own List.mem_cons_self⟩
  have destination : tour.HasList {} .textual cover :=
    ⟨_, rfl, .own (List.mem_cons_of_mem _ List.mem_cons_self)⟩
  constructor
  · have scope : stops.started.scopeFor "sight" (.singletonModule "Sight") "Sight.Action" ∈
        (stops.table .textual).scopes :=
      ListSite.mem_scopes_of_entry (e := moduleEntry "sight" "Sight") List.mem_cons_self rfl rfl
    rcases nested_scope_extract_iff stack scope with ⟨_, finds⟩ | ⟨placed, _⟩
    · exact (finds _ _).mpr ⟨_, "a", rfl, rfl⟩
    · cases placed
  · have scope : cover.started.scopeFor "note" (.singletonModule "Note") "Note.Action" ∈
        (cover.table .textual).scopes :=
      ListSite.mem_scopes_of_entry (e := moduleEntry "note" "Note") List.mem_cons_self rfl rfl
    rcases nested_scope_extract_iff destination scope with ⟨placed, _⟩ | ⟨_, _, nothing⟩
    · cases placed
    · exact nothing _ "note" .unit rfl

end Expansion

end StateWeave
