import StateWeave.Proofs.ChildNames

/-!
# The tables of nested lists

A list of children gets a table of its own, which starts from the parent's placeholders
of that list and reads the entries again. `HasList` says which lists a table has, at any
depth. Each of them is made into a module, since declarations are followed one level
further than lists are nested.
-/

namespace StateWeave

open Admission

/-- A list of children with the table that it stands in. -/
structure ListSite where
  parent : SymbolTable
  list : String
  module : String
  placement : Placement
  children : List ChildEntry

namespace ListSite

def ofMember? (parent : SymbolTable) (m : StateMember) : Option ListSite :=
  match m.embedding with
  | .destination module children =>
    some ⟨parent, m.name, module, .destination m.name parent.module, children⟩
  | .navigationStack module children =>
    some ⟨parent, m.name, module, .stack m.name parent.module, children⟩
  | _ => none

theorem parent_of_ofMember? {parent : SymbolTable} {m : StateMember} {site : ListSite}
    (h : ofMember? parent m = some site) : site.parent = parent := by
  rw [ofMember?] at h
  split at h <;> cases h <;> rfl

/-- A member that brings a list nests one deeper than the entries of the list. -/
theorem nesting_of_ofMember? {parent : SymbolTable} {m : StateMember} {site : ListSite}
    (h : ofMember? parent m = some site) :
    m.embedding.nesting = ChildKind.nestingOfAll site.children + 1 := by
  rw [ofMember?] at h
  cases e : m.embedding with
  | destination module children =>
      rw [e] at h
      cases h
      rfl
  | navigationStack module children =>
      rw [e] at h
      cases h
      rfl
  | _ =>
      rw [e] at h
      cases h

variable (resolver : Resolver) (site : ListSite)

def table : SymbolTable :=
  SymbolTable.ofList resolver site.parent site.list site.module site.placement site.children

/-- A list is read like the children of a variant. -/
def composition : Composition :=
  { shape := .variant, children := site.children, location := site.parent.location }

def entries : List ChildEntry := site.composition.entries site.parent.policy resolver

/-- What the parent's members have made of the placeholders of a list. -/
def seeds : PlaceholderRegistry := site.parent.placeholders.forList site.list

/-- The placeholders of a list as its own table knows them. -/
def placeholders : PlaceholderRegistry :=
  site.seeds.declareAll
    (ChildEntry.declarations site.parent.policy resolver [] site.children)

/-- The children of a list: those of its entries, and behind them the placeholders that
the parent has bound or that were declared with their action types. -/
def embedded : List NamedChild :=
  (site.entries resolver).filterMap (ChildEntry.child? site.parent.policy resolver) ++
    (site.placeholders resolver).children

def started : SymbolTable where
  module := site.module
  access := site.parent.access
  placement := site.placement
  shape := .variant
  policy := site.parent.policy
  location := site.parent.location
  placeholders := site.seeds

def entered : SymbolTable :=
  (site.started.withEntries resolver (site.entries resolver)).withPlaceholders
    (site.placeholders resolver)

theorem compose_started :
    ∃ initial diagnostics,
      site.started.compose site.composition resolver =
        ((site.entered resolver).withInitialName initial).withDiagnostics diagnostics :=
  SymbolTable.compose_eq site.started site.composition resolver

theorem isResolved_compose :
    (site.started.compose site.composition resolver).isResolved = false := by
  obtain ⟨initial, diagnostics, composed⟩ := site.compose_started resolver
  rw [composed]
  rfl

theorem table_eq :
    ∃ initial diagnostics,
      site.table resolver =
        ((site.entered resolver).resolved.withInitialName initial).withDiagnostics
          diagnostics := by
  obtain ⟨initial, noted, composed⟩ := site.compose_started resolver
  obtain ⟨diagnostics, resolved⟩ := SymbolTable.resolve_eq (site.isResolved_compose resolver)
  refine ⟨initial, diagnostics, ?_⟩
  change (site.started.compose site.composition resolver).resolve = _
  rw [resolved, composed]
  rfl

theorem field_table {α : Type} (field : SymbolTable → α)
    (kept : ∀ (t : SymbolTable) initial diagnostics,
      field ((t.withInitialName initial).withDiagnostics diagnostics) = field t) :
    field (site.table resolver) = field (site.entered resolver).resolved := by
  obtain ⟨initial, diagnostics, table⟩ := site.table_eq resolver
  rw [table]
  exact kept _ initial diagnostics

theorem isResolved_table : (site.table resolver).isResolved = true :=
  site.field_table resolver SymbolTable.isResolved fun _ _ _ => rfl

theorem module_table : (site.table resolver).module = site.module :=
  site.field_table resolver SymbolTable.module fun _ _ _ => rfl

theorem access_table : (site.table resolver).access = site.parent.access :=
  site.field_table resolver SymbolTable.access fun _ _ _ => rfl

theorem placement_table : (site.table resolver).placement = site.placement :=
  site.field_table resolver SymbolTable.placement fun _ _ _ => rfl

theorem shape_table : (site.table resolver).shape = .variant :=
  site.field_table resolver SymbolTable.shape fun _ _ _ => rfl

theorem policy_table : (site.table resolver).policy = site.parent.policy :=
  site.field_table resolver SymbolTable.policy fun _ _ _ => rfl

theorem placeholders_table : (site.table resolver).placeholders = site.placeholders resolver :=
  site.field_table resolver SymbolTable.placeholders fun _ _ _ => rfl

theorem stateMembers_table :
    (site.table resolver).stateMembers = (site.embedded resolver).map NamedChild.member := by
  rw [site.field_table resolver SymbolTable.stateMembers fun _ _ _ => rfl, embedded,
    List.map_append]
  rfl

theorem actionMembers_table :
    (site.table resolver).actionMembers =
      (site.embedded resolver).filterMap NamedChild.action? := by
  have actions : (site.table resolver).actionMembers =
      ((site.entries resolver).filterMap
        (ChildEntry.child? site.parent.policy resolver)).filterMap NamedChild.action? ++ [] ++
        (site.placeholders resolver).children.filterMap NamedChild.action? :=
    site.field_table resolver SymbolTable.actionMembers fun _ _ _ => rfl
  rw [actions, List.append_nil, embedded, List.filterMap_append]

theorem scopeCases_table :
    (site.table resolver).scopeCases = (site.embedded resolver).map NamedChild.scopeCase := by
  rw [site.field_table resolver SymbolTable.scopeCases fun _ _ _ => rfl, embedded,
    List.map_append]
  rfl

theorem scopes_table :
    (site.table resolver).scopes =
      (site.embedded resolver).filterMap (site.started.scopeOf?) := by
  have scopes : (site.table resolver).scopes =
      ((site.entries resolver).filterMap
        (ChildEntry.child? site.parent.policy resolver)).filterMap site.started.scopeOf? ++
        (site.placeholders resolver).children.filterMap site.started.scopeOf? ++ [] :=
    site.field_table resolver SymbolTable.scopes fun _ _ _ => rfl
  rw [scopes, List.append_nil, embedded, List.filterMap_append]

end ListSite

namespace SymbolTable

variable (resolver : Resolver)

theorem ofMember?_eq (t : SymbolTable) (m : StateMember) :
    ofMember? resolver t m = (ListSite.ofMember? t m).map (ListSite.table resolver) := by
  rw [ofMember?, ListSite.ofMember?]
  cases m.embedding <;> rfl

/-- The lists that stand in a table itself. -/
def lists (t : SymbolTable) : List ListSite := t.stateMembers.filterMap (ListSite.ofMember? t)

theorem nestedTables_eq (t : SymbolTable) :
    t.nestedTables resolver = t.lists.map (ListSite.table resolver) := by
  rw [nestedTables, lists, List.map_filterMap]
  congr 1
  funext m
  exact ofMember?_eq resolver t m

/-- Whether two tables agree in all that their lists are made from. -/
structure SameLists (t u : SymbolTable) : Prop where
  module : t.module = u.module
  access : t.access = u.access
  policy : t.policy = u.policy
  location : t.location = u.location
  placeholders : t.placeholders = u.placeholders
  stateMembers : t.stateMembers = u.stateMembers

namespace SameLists

variable {t u : SymbolTable} (same : SameLists t u)

include same

theorem nestedTables : t.nestedTables resolver = u.nestedTables resolver := by
  rw [SymbolTable.nestedTables, SymbolTable.nestedTables, same.stateMembers]
  refine congrArg (u.stateMembers.filterMap ·) (funext fun m => ?_)
  simp only [ofMember?, ofList, same.module, same.access, same.policy, same.location,
    same.placeholders]

/-- Two such tables differ in their own declarations only. -/
theorem declare (resolved : t.isResolved = true) (also : u.isResolved = true)
    (violations : t.violations = u.violations) :
    ∃ below reports,
      t.declare resolver = ⟨t.ownDeclarations ++ below, reports⟩ ∧
      u.declare resolver = ⟨u.ownDeclarations ++ below, reports⟩ := by
  have nesting : t.nesting = u.nesting := by
    rw [SymbolTable.nesting, SymbolTable.nesting, same.stateMembers]
  have contract : t.contractViolation = u.contractViolation := by
    funext reason
    rw [contractViolation, contractViolation, same.location]
  let nested := (u.nestedTables resolver).map fun n => (n, declareWithin resolver u.nesting n)
  refine ⟨nested.map (fun n => nestedDeclaration u.access n.1 n.2) ++ u.violations.map .error,
    nested.flatMap (fun n => n.1.diagnostics ++ n.2.diagnostics) ++
      u.violations.map u.contractViolation, ?_, ?_⟩
  · rw [SymbolTable.declare, declareWithin, resolved, if_pos rfl, nesting,
      same.nestedTables resolver, same.access, violations, contract, ← List.append_assoc]
  · rw [SymbolTable.declare, declareWithin, also, if_pos rfl, ← List.append_assoc]

end SameLists

/-- The lists in a table, at any depth. -/
inductive HasList (t : SymbolTable) : ListSite → Prop
  | own {site : ListSite} : site ∈ t.lists → HasList t site
  | nested {outer site : ListSite} :
      HasList t outer → site ∈ (outer.table resolver).lists → HasList t site

theorem parent_of_mem_lists {t : SymbolTable} {site : ListSite} (h : site ∈ t.lists) :
    site.parent = t := by
  obtain ⟨m, _, found⟩ := List.mem_filterMap.mp h
  exact ListSite.parent_of_ofMember? found

theorem HasList.trans {resolver : Resolver} {t : SymbolTable} {outer site : ListSite}
    (above : HasList resolver t outer) (below : HasList resolver (outer.table resolver) site) :
    HasList resolver t site := by
  induction below with
  | own found => exact .nested above found
  | nested _ found ih => exact .nested ih found

theorem foldl_max_le_iff {α : Type} (f : α → Nat) (xs : List α) (start bound : Nat) :
    xs.foldl (fun deepest x => max deepest (f x)) start ≤ bound ↔
      start ≤ bound ∧ ∀ x ∈ xs, f x ≤ bound := by
  induction xs generalizing start with
  | nil => simp
  | cons x xs ih =>
      rw [List.foldl_cons, ih, Nat.max_le, List.forall_mem_cons, and_assoc]

theorem nesting_le_iff (t : SymbolTable) (bound : Nat) :
    t.nesting ≤ bound ↔ ∀ m ∈ t.stateMembers, m.embedding.nesting ≤ bound := by
  rw [nesting, foldl_max_le_iff]
  simp

end SymbolTable

namespace ChildEntry

theorem nestingOfEntry_le_of_mem {e : ChildEntry} {es : List ChildEntry} (h : e ∈ es) :
    ChildKind.nestingOfEntry e ≤ ChildKind.nestingOfAll es := by
  induction es with
  | nil => cases h
  | cons first rest ih =>
      rw [ChildKind.nestingOfAll]
      rcases List.mem_cons.mp h with rfl | later
      · exact Nat.le_max_left _ _
      · exact Nat.le_trans (ih later) (Nat.le_max_right _ _)

theorem nesting_stateEmbedding (e : ChildEntry) (resolver : Resolver) (type : TypeRef) :
    (e.stateEmbedding resolver type).nesting = 0 := by
  cases type <;> rfl

theorem nesting_moduleEmbedding (e : ChildEntry) (type : TypeRef) (module : String) :
    (e.moduleEmbedding type module).nesting = 0 := by
  rw [moduleEmbedding]
  repeat' split
  all_goals rfl

theorem nestingOfEntry_eq (e : ChildEntry) : ChildKind.nestingOfEntry e = e.kind.nesting := by
  cases e
  rfl

/-- A child's embedding nests no deeper than its entry. -/
theorem nesting_of_child? {policy : Policy} {resolver : Resolver} {e : ChildEntry}
    {c : NamedChild} (h : e.child? policy resolver = some c) :
    c.embedding.nesting ≤ ChildKind.nestingOfEntry e := by
  rw [nestingOfEntry_eq]
  rcases child?_cases h with ⟨_, _, kind, list⟩ | ⟨_, _, kind, stack⟩ | empty |
    ⟨type, value, _⟩ | ⟨type, module, made⟩
  · rw [kind, list]
    exact Nat.le_refl _
  · rw [kind, stack]
    exact Nat.le_refl _
  · rw [empty]
    exact Nat.zero_le _
  · rw [value, nesting_stateEmbedding]
    exact Nat.zero_le _
  · rw [made, nesting_moduleEmbedding]
    exact Nat.zero_le _

end ChildEntry

theorem Placeholder.nesting_of_child? {p : Placeholder} {c : NamedChild}
    (h : p.child? = some c) : c.embedding.nesting = 0 := by
  obtain ⟨e, embedded, rfl⟩ := Option.map_eq_some_iff.mp h
  obtain ⟨action, _, rfl⟩ := Option.map_eq_some_iff.mp embedded
  cases p.kind <;> rfl

namespace SymbolTable

/-- A table whose members are children of entries and placeholders nests no deeper than the
entries. -/
theorem nesting_le_of_stateMembers {policy : Policy} {resolver : Resolver} {t : SymbolTable}
    {entries children : List ChildEntry} {placeholders : PlaceholderRegistry}
    (members : t.stateMembers =
      (entries.filterMap (ChildEntry.child? policy resolver) ++ placeholders.children).map
        NamedChild.member)
    (among : ∀ e ∈ entries, e ∈ children) : t.nesting ≤ ChildKind.nestingOfAll children := by
  rw [nesting_le_iff, members]
  intro m member
  obtain ⟨c, child, rfl⟩ := List.mem_map.mp member
  rcases List.mem_append.mp child with early | late
  · obtain ⟨e, entry, found⟩ := List.mem_filterMap.mp early
    exact Nat.le_trans (ChildEntry.nesting_of_child? found)
      (ChildEntry.nestingOfEntry_le_of_mem (among e entry))
  · obtain ⟨p, _, found⟩ := List.mem_filterMap.mp late
    have flat : c.member.embedding.nesting = 0 := Placeholder.nesting_of_child? found
    rw [flat]
    exact Nat.zero_le _

/-- A module's table nests no deeper than the entries of its composition. -/
theorem nesting_ofModule_le (policy : Policy) (resolver : Resolver) (definition : ModuleDef)
    (c : Composition) :
    (ofModule policy resolver definition c).nesting ≤ ChildKind.nestingOfAll c.children :=
  nesting_le_of_stateMembers (stateMembers_ofModule policy resolver definition c)
    fun _ => mem_of_mem_admitted

end SymbolTable

/-- A list's table nests no deeper than its entries. -/
theorem ListSite.nesting_table_le (resolver : Resolver) (site : ListSite) :
    (site.table resolver).nesting ≤ ChildKind.nestingOfAll site.children :=
  SymbolTable.nesting_le_of_stateMembers (site.stateMembers_table resolver)
    fun _ => mem_of_mem_admitted

/-- The table of a list nests less deep than the member that brings the list. -/
theorem ListSite.nesting_table_lt {parent : SymbolTable} {m : StateMember} {site : ListSite}
    (h : ofMember? parent m = some site) (resolver : Resolver) :
    (site.table resolver).nesting < m.embedding.nesting := by
  have deep := nesting_of_ofMember? h
  have inner := site.nesting_table_le resolver
  omega

/-- The table of a list nests less deep than the table around it. -/
theorem SymbolTable.nesting_lt_of_mem_lists {t : SymbolTable} {site : ListSite}
    (h : site ∈ t.lists) (resolver : Resolver) : (site.table resolver).nesting < t.nesting := by
  obtain ⟨m, member, found⟩ := List.mem_filterMap.mp h
  have reach := (nesting_le_iff t t.nesting).mp (Nat.le_refl _) m member
  have inner := ListSite.nesting_table_lt found resolver
  omega

end StateWeave
