import StateWeave.Proofs.AccessorTypes
import StateWeave.Proofs.Bindings
import StateWeave.Proofs.NestedNames

/-!
# Placeholders that are handed down

A placeholder of a list is bound in the module around the list and shown in the module of the
list, under the part of its name behind the dot. Nothing that the list declares itself takes the
place of one that is bound. `HandsDown` follows a placeholder through lists at any depth, and
`Receives` says what arrives: the same placeholder with the same type.
-/

namespace StateWeave

namespace Placeholder

/-- What a placeholder embeds where its actions have this type. -/
def embedding (p : Placeholder) (type : String) : Embedding :=
  match p.kind with
  | .alert => .alert type p.presentable
  | .confirmationDialog => .confirmationDialog type p.presentable

theorem child?_typed (p : Placeholder) (type : String) :
    (p.typed type).child? = some ⟨p.name, p.embedding type, none⟩ := rfl

theorem isStateless_embedding (p : Placeholder) (type : String) :
    (p.embedding type).isStateless = false := by
  rw [embedding]
  cases p.kind <;> rfl

end Placeholder

namespace PlaceholderRegistry

variable {r : PlaceholderRegistry} {p : Placeholder}

/-- Nothing that is declared later takes the place of a bound placeholder. -/
theorem get?_declareAll_of_bound {name : String} (known : r.get? name = some p)
    (bound : p.isBound = true) (ps : List Placeholder) :
    (r.declareAll ps).get? name = some p := by
  induction ps generalizing r with
  | nil => exact known
  | cons q ps ih =>
      have step : (r.declare q).get? name = some p := by
        rw [declare]
        split
        · exact known
        · next unbound =>
            have differs : name ≠ q.name := by
              rintro rfl
              rw [known] at unbound
              exact unbound bound
            exact (find?_insertIn_of_ne differs r.entries).trans known
      exact ih step

theorem mem_forList {list name : String} (member : p ∈ r.entries)
    (belongs : localName? list p.name = some name) :
    { p with name := name } ∈ (r.forList list).entries := by
  refine List.mem_filterMap.mpr ⟨p, member, ?_⟩
  rw [belongs]
  rfl

/-- A bound placeholder that belongs to the module itself is one of its children. -/
theorem mem_children {type : String} (member : p.typed type ∈ r.entries)
    (own : p.isLocal = true) : ⟨p.name, p.embedding type, none⟩ ∈ r.children :=
  List.mem_filterMap.mpr
    ⟨p.typed type, List.mem_filter.mpr ⟨member, own⟩, p.child?_typed type⟩

end PlaceholderRegistry

namespace ListSite

section

variable (resolver : Resolver) {site : ListSite} {p : Placeholder} {name : String}
  (distinct : site.parent.placeholders.names.Nodup)
  (member : p ∈ site.parent.placeholders.entries)
  (belongs : PlaceholderRegistry.localName? site.list p.name = some name)

include distinct member belongs

/-- A list starts with what the table around it has under the list's name. -/
theorem get?_seeds : site.seeds.get? name = some { p with name := name } :=
  PlaceholderRegistry.get?_of_mem
    (PlaceholderRegistry.nodup_names_forList distinct site.list)
    (PlaceholderRegistry.mem_forList member belongs)

/-- A list's own table has every bound placeholder that is handed down to it. -/
theorem get?_placeholders (bound : p.isBound = true) :
    (site.placeholders resolver).get? name = some { p with name := name } :=
  PlaceholderRegistry.get?_declareAll_of_bound (get?_seeds distinct member belongs) bound _

end

end ListSite

namespace SymbolTable

/-- A placeholder of a table, and what it is in the tables of lists that it is handed down to:
a list gets those under its own name and a dot, without the two. -/
inductive HandsDown (resolver : Resolver) (t : SymbolTable) (p : Placeholder) :
    SymbolTable → Placeholder → Prop
  | own : HandsDown resolver t p t p
  | list {u : SymbolTable} {q : Placeholder} {site : ListSite} {name : String} :
      HandsDown resolver t p u q → site ∈ u.lists →
        PlaceholderRegistry.localName? site.list q.name = some name →
          HandsDown resolver t p (site.table resolver) { q with name := name }

/-- The declarations of a table's state and actions give a child of this name this type. -/
structure Shows (t : SymbolTable) (name : String) (e : Embedding) : Prop where
  state : ∃ field ∈ t.stateDecl.fields, field.name = name ∧ field.type = some e.stateType
  action : ∀ type, e.actionType? = some type →
    ∃ case ∈ t.actionDecl.cases, case.name = name ∧ case.type = type

theorem shows_of_child {t : SymbolTable} {child : NamedChild}
    (state : child.member ∈ t.stateMembers)
    (action : ∀ a, child.action? = some a → a ∈ t.actionMembers)
    (typed : child.embedding.isStateless = false) : t.Shows child.name child.embedding where
  state := by
    refine ⟨t.stateField child.member, List.mem_map_of_mem state, rfl, ?_⟩
    have whole : child.member.isUnit = false := typed
    rw [stateField, whole]
    rfl
  action := by
    intro type acts
    have member : ActionMember.mk child.name type ∈ t.actionMembers := by
      refine action _ ?_
      rw [NamedChild.action?, acts]
      rfl
    exact ⟨_, mem_cases_actionDecl member, rfl, type_actionCaseOf _⟩

/-- A table has all children that its placeholders become. -/
structure EntersPlaceholders (t : SymbolTable) : Prop where
  state : ∀ child ∈ t.placeholders.children, child.member ∈ t.stateMembers
  action : ∀ child ∈ t.placeholders.children, ∀ a, child.action? = some a → a ∈ t.actionMembers

theorem entersPlaceholders_ofModule (policy : Policy) (resolver : Resolver)
    (definition : ModuleDef) (c : Composition) :
    (ofModule policy resolver definition c).EntersPlaceholders where
  state := by
    intro child among
    rw [placeholders_ofModule] at among
    rw [stateMembers_ofModule]
    exact List.mem_map_of_mem (List.mem_append_right _ among)
  action := by
    intro child among a acts
    rw [placeholders_ofModule] at among
    rw [actionMembers_ofModule]
    exact List.mem_append_right _ (List.mem_filterMap.mpr ⟨child, among, acts⟩)

theorem entersPlaceholders_table (resolver : Resolver) (site : ListSite) :
    (site.table resolver).EntersPlaceholders where
  state := by
    intro child among
    rw [site.placeholders_table] at among
    rw [site.stateMembers_table]
    exact List.mem_map_of_mem (List.mem_append_right _ among)
  action := by
    intro child among a acts
    rw [site.placeholders_table] at among
    rw [site.actionMembers_table]
    exact List.mem_filterMap.mpr ⟨child, List.mem_append_right _ among, acts⟩

theorem EntersPlaceholders.shows {t : SymbolTable} (enters : t.EntersPlaceholders)
    {p : Placeholder} {type : String} (member : p.typed type ∈ t.placeholders.entries)
    (own : p.isLocal = true) : t.Shows p.name (p.embedding type) := by
  have child := PlaceholderRegistry.mem_children member own
  exact shows_of_child (enters.state _ child) (enters.action _ child)
    (p.isStateless_embedding type)

/-- What a placeholder with a type is in a table that it is handed down to: the same, but for
its name. -/
structure Receives (u : SymbolTable) (p : Placeholder) (type : String) (q : Placeholder) :
    Prop where
  distinct : u.placeholders.names.Nodup
  enters : u.EntersPlaceholders
  member : q ∈ u.placeholders.entries
  renamed : q = { p with name := q.name }.typed type

theorem HandsDown.receives {resolver : Resolver} {t u : SymbolTable} {p q : Placeholder}
    {type : String} (own : t.Receives p type (p.typed type))
    (h : HandsDown resolver t (p.typed type) u q) : u.Receives p type q := by
  induction h with
  | own => exact own
  | @list u q site name above list belongs ih =>
      have parent := parent_of_mem_lists list
      have bound : q.isBound = true := by
        rw [ih.renamed]
        rfl
      have handed : (site.placeholders resolver).get? name = some { q with name := name } := by
        refine ListSite.get?_placeholders resolver ?_ ?_ belongs bound
        · rw [parent]
          exact ih.distinct
        · rw [parent]
          exact ih.member
      refine ⟨?_, entersPlaceholders_table resolver site, ?_, ?_⟩
      · rw [site.placeholders_table]
        refine PlaceholderRegistry.nodup_names_declareAll ?_ _
        rw [ListSite.seeds, parent]
        exact PlaceholderRegistry.nodup_names_forList ih.distinct _
      · rw [site.placeholders_table]
        exact (PlaceholderRegistry.mem_of_get? handed).1
      · rw [ih.renamed]
        rfl

/-- Wherever a placeholder arrives that was given a type, state and actions show it with this
type. -/
theorem Receives.shows {u : SymbolTable} {p q : Placeholder} {type : String}
    (received : u.Receives p type q) (own : q.isLocal = true) :
    u.Shows q.name (p.embedding type) := by
  have member := received.member
  rw [received.renamed] at member
  exact received.enters.shows member own

end SymbolTable

end StateWeave
