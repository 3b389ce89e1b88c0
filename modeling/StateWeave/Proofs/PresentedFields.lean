import StateWeave.Proofs.Levels

/-!
# The types of presented fields

A presented child comes and goes, so its field has an optional type. Whether a field is marked as
presented and what type it has are read off the embedding of its child separately, and they go
together for every embedding but one: a tuple is marked like any other value, and its type is left
as it is. `presented_field_type` says so of every level of an expansion, with the entry that such a
tuple comes from.
-/

namespace StateWeave

def StateField.IsOptional (f : StateField) : Prop := ∃ base, f.type = some (base ++ "?")

namespace Embedding

/-- A presented embedding makes its state optional, unless it is that of a tuple. -/
theorem presented_cases {e : Embedding} (presented : e.isPresentable = true) :
    (∃ base, e.stateType = base ++ "?") ∨ ∃ type labels, e = .tupleState type labels true := by
  have wrapped (base : String) : wrapState base true = base ++ "?" := rfl
  have module (name : String) : name ++ ".State?" = (name ++ ".State") ++ "?" := by
    rw [String.append_assoc]
    rfl
  cases e with
  | optionalModule name => exact Or.inl ⟨name ++ ".State", module name⟩
  | destination name => exact Or.inl ⟨name ++ ".State", module name⟩
  | stateValue type presentable =>
      obtain rfl : presentable = true := presented
      exact Or.inl ⟨type, wrapped type⟩
  | alert action presentable =>
      obtain rfl : presentable = true := presented
      exact Or.inl ⟨_, wrapped _⟩
  | confirmationDialog action presentable =>
      obtain rfl : presentable = true := presented
      exact Or.inl ⟨_, wrapped _⟩
  | tupleState type labels presentable =>
      obtain rfl : presentable = true := presented
      exact Or.inr ⟨type, labels, rfl⟩
  | _ => cases presented

theorem isStateless_of_presentable {e : Embedding} (presented : e.isPresentable = true) :
    e.isStateless = false := by
  cases e with
  | stateless => cases presented
  | _ => rfl

end Embedding

namespace ChildEntry

/-- Whether an entry presents a tuple under a name. -/
structure PresentsTuple (e : ChildEntry) (name : String) (elements : List TupleElement) :
    Prop where
  kind : e.kind = .state
  name : e.name? = some name
  type : e.type = some (.tuple elements)
  presents : e.presents = true

variable {policy : Policy} {resolver : Resolver} {e : ChildEntry}

/-- A tuple is embedded as a presented one under the type that the resolver gives to it. -/
theorem PresentsTuple.child? {name : String} {elements : List TupleElement}
    (tuple : e.PresentsTuple name elements) (policy : Policy) (resolver : Resolver) :
    e.child? policy resolver =
      some ⟨name, .tupleState (resolver (.tuple elements)).canonical
        (elements.map TupleElement.label) true, none⟩ := by
  have planned : e.plan policy resolver =
      .child name (.tupleState (resolver (.tuple elements)).canonical
        (elements.map TupleElement.label) true) none e.initialValue.isSome := by
    simp only [plan, tuple.kind, tuple.name, PlaceholderKind.ofChild?, typedPlan, tuple.type,
      typedEmbedding, stateEmbedding, tuple.presents, planOf]
  rw [ChildEntry.child?, planned]
  rfl

/-- Only an entry that presents a tuple is embedded as a presented one. -/
theorem presentsTuple_of_child? {c : NamedChild} {type : String} {labels : List (Option String)}
    (child : e.child? policy resolver = some c)
    (embedded : c.embedding = .tupleState type labels true) :
    ∃ elements, e.PresentsTuple c.name elements ∧
      type = (resolver (.tuple elements)).canonical := by
  rcases child?_cases child with ⟨_, _, _, list⟩ | ⟨_, _, _, stack⟩ | empty |
    ⟨given, value, state, named, typed⟩ | ⟨given, module, made⟩
  · rw [list] at embedded
    cases embedded
  · rw [stack] at embedded
    cases embedded
  · rw [empty] at embedded
    cases embedded
  · rw [value] at embedded
    cases given with
    | tuple elements =>
        have same : (resolver (.tuple elements)).canonical = type ∧
            elements.map TupleElement.label = labels ∧ e.presents = true :=
          Embedding.tupleState.inj embedded
        exact ⟨elements, ⟨state, named, typed, same.2.2⟩, same.1.symm⟩
    | named => cases embedded
    | optional => cases embedded
  · rw [made, moduleEmbedding] at embedded
    repeat' split at embedded
    all_goals cases embedded

end ChildEntry

theorem Placeholder.ne_tupleState_of_child? {p : Placeholder} {c : NamedChild}
    (child : p.child? = some c) {type : String} {labels : List (Option String)}
    {presentable : Bool} : c.embedding ≠ .tupleState type labels presentable := by
  obtain ⟨e, embedded, rfl⟩ := Option.map_eq_some_iff.mp child
  obtain ⟨action, _, rfl⟩ := Option.map_eq_some_iff.mp embedded
  cases p.kind <;> intro same <;> cases same

/-- The tables of a module with the entries that each of them lets in: the entries of the
composition, and those of its lists, at any depth. -/
inductive ModuleDef.LetsIn (policy : Policy) (resolver : Resolver) (definition : ModuleDef) :
    SymbolTable → List ChildEntry → Prop
  | own {c : Composition} : definition.directives = [c] →
      LetsIn policy resolver definition (.ofModule policy resolver definition c)
        (c.entries policy resolver)
  | list {site : ListSite} : definition.HasList policy resolver site →
      LetsIn policy resolver definition (site.table resolver) (site.entries resolver)

namespace ModuleDef

variable {policy : Policy} {resolver : Resolver} {definition : ModuleDef} {t : SymbolTable}

theorem HasTable.exists_letsIn (table : definition.HasTable policy resolver t) :
    ∃ entries, definition.LetsIn policy resolver t entries := by
  cases table with
  | own single => exact ⟨_, .own single⟩
  | list list => exact ⟨_, .list list⟩

/-- The members of a table are the children of the entries that it lets in, and behind them
placeholders that have become children. -/
theorem LetsIn.stateMembers {entries : List ChildEntry}
    (letsIn : definition.LetsIn policy resolver t entries) :
    ∃ (asked : Policy) (registry : PlaceholderRegistry),
      t.stateMembers =
        (entries.filterMap (ChildEntry.child? asked resolver) ++ registry.children).map
          NamedChild.member := by
  cases letsIn with
  | own single =>
      exact ⟨policy, _, SymbolTable.stateMembers_ofModule policy resolver definition _⟩
  | @list site list => exact ⟨site.parent.policy, _, site.stateMembers_table resolver⟩

end ModuleDef

namespace SymbolTable

/-- A presented member has a type that the field repeats. -/
theorem stateField_of_presented (t : SymbolTable) {c : NamedChild}
    (presented : c.embedding.isPresentable = true) :
    t.stateField c.member = ⟨c.name, some c.embedding.stateType, c.member.initialValue, true⟩ := by
  have stateful : c.member.isUnit = false := Embedding.isStateless_of_presentable presented
  have marked : c.member.presents = true := presented
  rw [stateField, stateful, marked]
  rfl

end SymbolTable

namespace Expansion

variable {policy : Policy} {resolver : Resolver} {definition : ModuleDef}
  {ds : List Declaration}

/-- A presented field of any level has an optional type, or it is the field of a tuple that an
entry of this level presents, whose type is that of the tuple as it is; and every tuple that is
presented has such a field. -/
theorem presented_field_type (level : (ofModule policy resolver definition).HasLevel ds)
    {decl : StateDecl} (state : .state decl ∈ ds) :
    ∃ t entries, definition.LetsIn policy resolver t entries ∧
      ds = (t.declare resolver).declarations ∧
      (∀ field ∈ decl.fields, field.presents = true → field.IsOptional ∨
        ∃ e ∈ entries, ∃ elements, e.PresentsTuple field.name elements ∧
          field.type = some (resolver (.tuple elements)).canonical) ∧
      ∀ e ∈ entries, ∀ name elements, e.PresentsTuple name elements →
        ⟨name, some (resolver (.tuple elements)).canonical, none, true⟩ ∈ decl.fields := by
  obtain ⟨t, table, rfl⟩ := exists_table_of_mem level state
  obtain ⟨entries, letsIn⟩ := table.exists_letsIn
  obtain ⟨asked, registry, members⟩ := letsIn.stateMembers
  have declared : decl = t.stateDecl := by
    have only := SymbolTable.states_declare resolver table.isComplete.resolved
    have found : decl ∈ (t.declare resolver).declarations.filterMap Declaration.state? :=
      List.mem_filterMap.mpr ⟨_, state, rfl⟩
    rw [only] at found
    exact List.mem_singleton.mp found
  have fields : decl.fields =
      (entries.filterMap (ChildEntry.child? asked resolver) ++ registry.children).map
        fun c => t.stateField c.member := by
    rw [declared]
    show t.stateMembers.map t.stateField = _
    rw [members, List.map_map]
    rfl
  refine ⟨t, entries, letsIn, rfl, ?_, ?_⟩
  · intro field member presents
    rw [fields] at member
    obtain ⟨c, embedded, rfl⟩ := List.mem_map.mp member
    have presented : c.embedding.isPresentable = true := presents
    rw [t.stateField_of_presented presented]
    rcases Embedding.presented_cases presented with ⟨base, optional⟩ | ⟨type, labels, tuple⟩
    · exact Or.inl ⟨base, congrArg some optional⟩
    · right
      rcases List.mem_append.mp embedded with early | late
      · obtain ⟨e, entry, child⟩ := List.mem_filterMap.mp early
        obtain ⟨elements, presentsTuple, canonical⟩ :=
          ChildEntry.presentsTuple_of_child? child tuple
        refine ⟨e, entry, elements, presentsTuple, ?_⟩
        rw [tuple, canonical]
        rfl
      · obtain ⟨p, _, child⟩ := List.mem_filterMap.mp late
        exact absurd tuple (Placeholder.ne_tupleState_of_child? child)
  · intro e entry name elements tuple
    rw [fields]
    have child := tuple.child? asked resolver
    have early := List.mem_filterMap.mpr ⟨e, entry, child⟩
    refine List.mem_map.mpr ⟨_, List.mem_append_left _ early, ?_⟩
    exact t.stateField_of_presented rfl

def pinMap : ModuleDef where
  name := "PinMap"
  directives := [{
    children := [
      ⟨.state, true, some (.string "place"),
        some (.tuple [⟨none, .named "Int"⟩, ⟨none, .named "Int"⟩]), none, {}⟩,
      ⟨.state, true, some (.string "label"), some (.named "String"), none, {}⟩] }]

/-- Both fields are marked as presented, and only that of the label has an optional type. -/
theorem presented_field_type_pinMap :
    ∃ decl, .state decl ∈ (ofModule {} .textual pinMap).declarations ∧
      decl.fields =
        [⟨"place", some "(Int, Int)", none, true⟩, ⟨"label", some "String?", none, true⟩] ∧
      ¬StateField.IsOptional ⟨"place", some "(Int, Int)", none, true⟩ ∧
      ∃ (e : ChildEntry) (elements : List TupleElement), e.PresentsTuple "place" elements ∧
        (Resolver.textual (.tuple elements)).canonical = "(Int, Int)" := by
  let decl : StateDecl :=
    ⟨.hidden, .whole, .record, ["Equatable"],
      [⟨"place", some "(Int, Int)", none, true⟩, ⟨"label", some "String?", none, true⟩], none⟩
  have state : .state decl ∈ (ofModule {} .textual pinMap).declarations := by decide
  have bare : ¬StateField.IsOptional ⟨"place", some "(Int, Int)", none, true⟩ := by
    rintro ⟨base, optional⟩
    have last := congrArg (fun type => (type.getD "").toList.getLast?) optional
    simp at last
  obtain ⟨_, _, _, _, presented, _⟩ := presented_field_type .outermost state
  refine ⟨decl, state, rfl, bare, ?_⟩
  rcases presented _ List.mem_cons_self rfl with optional | ⟨e, _, elements, tuple, type⟩
  · exact absurd optional bare
  · exact ⟨e, elements, tuple, (Option.some.inj type).symm⟩

end Expansion

end StateWeave
