import StateWeave.Proofs.Levels

/-!
# References to tables of nested modules

A destination is entered as a whole: in the table of scopes around it there is one entry, which
stands for the table of the destination's own module. The entry is made from the scope of the
list, and whether the list's module has a table is decided by the children of the list.
`table_reference_target` says what such an entry leads to. The module is always there, but it has
a table only if one of its children acts.
-/

namespace StateWeave

namespace SymbolTable

theorem nested_of_accessor? {t : SymbolTable} {s : Scope} {name module : String}
    (h : t.accessor? s = some (.nested name module)) :
    s.name = name ∧ ∃ children, s.embedding = .destination module children := by
  rw [accessor?] at h
  split at h
  · next children destination =>
      cases h
      exact ⟨rfl, children, destination⟩
  · obtain ⟨_, _, path⟩ := Option.map_eq_some_iff.mp h
    cases path

theorem embedding_of_scopeOf? {t : SymbolTable} {child : NamedChild} {s : Scope}
    (h : t.scopeOf? child = some s) : s.embedding = child.embedding := by
  obtain ⟨type, _, rfl⟩ := Option.map_eq_some_iff.mp h
  rfl

/-- A destination among a table's members is one of its lists. -/
theorem mem_lists_of_destination {t : SymbolTable} {m : StateMember} {module : String}
    {children : List ChildEntry} (member : m ∈ t.stateMembers)
    (destination : m.embedding = .destination module children) :
    ⟨t, m.name, module, .destination m.name t.module, children⟩ ∈ t.lists := by
  refine List.mem_filterMap.mpr ⟨m, member, ?_⟩
  rw [ListSite.ofMember?, destination]

end SymbolTable

namespace ModuleDef.HasTable

variable {policy : Policy} {resolver : Resolver} {definition : ModuleDef} {t : SymbolTable}

/-- A scope belongs to a child, whose member stands in the same table, or was asked for. -/
theorem scope_cases (h : definition.HasTable policy resolver t) {s : Scope} (scope : s ∈ t.scopes) :
    (∃ m ∈ t.stateMembers, m.name = s.name ∧ m.embedding = s.embedding) ∨
      ∃ type, s.embedding = .userScope type := by
  have of_child {u : SymbolTable} {children : List NamedChild} {child : NamedChild}
      (members : t.stateMembers = children.map NamedChild.member) (embedded : child ∈ children)
      (own : u.scopeOf? child = some s) :
      ∃ m ∈ t.stateMembers, m.name = s.name ∧ m.embedding = s.embedding := by
    refine ⟨child.member, members ▸ List.mem_map_of_mem embedded, ?_, ?_⟩
    · exact (SymbolTable.name_of_scopeOf? own).symm
    · exact (SymbolTable.embedding_of_scopeOf? own).symm
  cases h with
  | @own c _ =>
      rcases (SymbolTable.mem_scopes_ofModule_iff policy resolver definition c s).mp scope with
        ⟨child, embedded, own⟩ | ⟨pending, _, found⟩
      · exact Or.inl (of_child (SymbolTable.stateMembers_ofModule policy resolver definition c)
          embedded own)
      · obtain ⟨_, _, rfl⟩ := PendingScope.eq_of_scope? found
        exact Or.inr ⟨_, rfl⟩
  | @list site _ =>
      rw [site.scopes_table] at scope
      obtain ⟨child, embedded, own⟩ := List.mem_filterMap.mp scope
      exact Or.inl (of_child (site.stateMembers_table resolver) embedded own)

/-- A reference in a table of scopes stands for a destination of the same table. -/
theorem list_of_reference (h : definition.HasTable policy resolver t) {name module : String}
    (reference : .nested name module ∈ t.accessors) :
    ∃ site ∈ t.lists, site.list = name ∧ site.module = module ∧
      site.placement = .destination name t.module := by
  obtain ⟨s, scope, accessor⟩ := List.mem_filterMap.mp reference
  obtain ⟨rfl, children, destination⟩ := SymbolTable.nested_of_accessor? accessor
  rcases h.scope_cases scope with ⟨m, member, named, same⟩ | ⟨type, asked⟩
  · have list := SymbolTable.mem_lists_of_destination member (same.trans destination)
    rw [named] at list
    exact ⟨_, list, rfl, rfl, rfl⟩
  · rw [asked] at destination
    cases destination

end ModuleDef.HasTable

namespace ListSite

variable (resolver : Resolver) (site : ListSite)

/-- The module of a destination has a table if one of the list's children has an action type. -/
theorem exists_scopePaths_made_iff {list parent : String}
    (placed : site.placement = .destination list parent) :
    (∃ table, .scopePaths table ∈ (site.made resolver).declarations) ↔
      ∃ child ∈ site.embedded resolver, child.embedding.actionType?.isSome = true := by
  have leavable : (site.table resolver).placement.isStack = false := by
    rw [site.placement_table, placed]
    rfl
  refine (SymbolTable.exists_scopePaths_iff resolver (site.isResolved_table resolver)).trans ?_
  rw [SymbolTable.needsScopePaths, leavable, Bool.not_false, Bool.and_true, Bool.not_eq_true',
    List.isEmpty_eq_false_iff_exists_mem, site.scopes_table]
  constructor
  · rintro ⟨s, scope⟩
    obtain ⟨child, embedded, own⟩ := List.mem_filterMap.mp scope
    obtain ⟨type, acts, _⟩ := Option.map_eq_some_iff.mp own
    exact ⟨child, embedded, Option.isSome_iff_exists.mpr ⟨type, acts⟩⟩
  · rintro ⟨child, embedded, acts⟩
    obtain ⟨type, acts⟩ := Option.isSome_iff_exists.mp acts
    refine ⟨site.started.scopeFor child.name child.embedding type, ?_⟩
    refine List.mem_filterMap.mpr ⟨child, embedded, ?_⟩
    rw [SymbolTable.scopeOf?, acts]
    rfl

end ListSite

namespace Expansion

/-- An entry of a table of scopes that stands for the table of a nested module leads to a module
on the same level, made for the list of the entry's name and called as the entry says. That
module has a table of scopes exactly if one of the list's children has an action type; otherwise
the entry leads to a table that is not there. -/
theorem table_reference_target {policy : Policy} {resolver : Resolver} {definition : ModuleDef}
    {ds : List Declaration} (level : (ofModule policy resolver definition).HasLevel ds)
    {table : ScopeTable} (declared : .scopePaths table ∈ ds) {name module : String}
    (reference : .nested name module ∈ table.entries) :
    ∃ site, definition.HasList policy resolver site ∧ site.list = name ∧
      .nested (site.made resolver) ∈ ds ∧ (site.made resolver).name = module ∧
      (site.made resolver).placement = .destination name site.parent.module ∧
      ((∃ inner, .scopePaths inner ∈ (site.made resolver).declarations) ↔
        ∃ child ∈ site.embedded resolver, child.embedding.actionType?.isSome = true) := by
  obtain ⟨t, origin, rfl⟩ := exists_table_of_mem level declared
  have complete := origin.isComplete
  rw [SymbolTable.entries_of_scopePaths complete.resolved declared] at reference
  obtain ⟨site, list, named, called, placed⟩ := origin.list_of_reference reference
  rw [← SymbolTable.parent_of_mem_lists list] at placed
  refine ⟨site, origin.hasList list, named, ?_, ?_, ?_, ?_⟩
  · rw [complete.declare_eq]
    exact List.mem_append_right _ (List.mem_map_of_mem (List.mem_map_of_mem list))
  · exact (site.module_table resolver).trans called
  · exact (site.placement_table resolver).trans placed
  · exact site.exists_scopePaths_made_iff resolver placed

/-- A diary whose sheet shows a note, which is plain data and does not act. -/
def diary : ModuleDef where
  name := "Diary"
  directives := [{
    children := [⟨.destination (some "Sheet")
      [⟨.state, false, some (.string "note"), some (.named "Note"), none, {}⟩],
      false, some (.string "sheet"), none, none, {}⟩] }]

/-- The diary's table refers to that of its sheet, and the sheet has none. -/
theorem table_reference_target_diary :
    .scopePaths ⟨.hidden, [.nested "sheet" "Sheet"]⟩ ∈
        (ofModule {} .textual diary).declarations ∧
      ∃ site, diary.HasList {} .textual site ∧ site.list = "sheet" ∧
        .nested (site.made .textual) ∈ (ofModule {} .textual diary).declarations ∧
        (site.made .textual).name = "Sheet" ∧
        (∀ inner, .scopePaths inner ∉ (site.made .textual).declarations) ∧
        ∀ child ∈ site.embedded .textual, child.embedding.actionType? = none := by
  have declared : .scopePaths ⟨.hidden, [.nested "sheet" "Sheet"]⟩ ∈
      (ofModule {} .textual diary).declarations := by decide
  have untabled : ∀ m ∈ (ofModule {} .textual diary).declarations.filterMap Declaration.module?,
      ∀ d ∈ m.declarations, d.scopePaths? = none := by decide
  obtain ⟨site, list, named, member, called, _, tabled⟩ :=
    table_reference_target .outermost declared List.mem_cons_self
  have missing : ∀ inner, .scopePaths inner ∉ (site.made .textual).declarations := by
    intro inner present
    have none := untabled _ (List.mem_filterMap.mpr ⟨_, member, rfl⟩) _ present
    cases none
  refine ⟨declared, site, list, named, member, called, missing, ?_⟩
  intro child embedded
  by_contra acts
  obtain ⟨inner, present⟩ := tabled.mpr ⟨child, embedded, Option.isSome_iff_ne_none.mpr acts⟩
  exact missing inner present

end Expansion

end StateWeave
