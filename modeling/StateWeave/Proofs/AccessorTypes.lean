import StateWeave.Proofs.ActionNames
import StateWeave.Proofs.ScopeQueue

/-!
# The types of accessors

An entry of a table of scopes pairs a path into the state with a path into the actions, and
names the types that lie at their ends. The types of the state, those of the actions and
those in the table are made by different functions. `accessors_well_typed` says that they
agree, for the scopes of children as well as for those that the author asked for.
-/

namespace StateWeave

def ActionCase.type (c : ActionCase) : String := c.payload.getD "Void"

/-- An action case delivers actions of a type along a path: as they are, or out of their
presentation envelope. -/
def ActionCase.Delivers (c : ActionCase) (path : Path) (type : String) : Prop :=
  path = Path.action.case c.name ∧ c.type = type ∨
    path = (Path.action.case c.name).presented ∧ c.type = Embedding.presentationAction type

/-- The type under which callers reach a part of the state. Of a variant the part may not be
there. -/
def StateShape.reachedType : StateShape → String → String
  | .record, type => type
  | .variant, type => type ++ "?"

theorem SymbolTable.type_actionCaseOf (m : ActionMember) : (actionCaseOf m).type = m.type := by
  rw [actionCaseOf, ActionCase.type]
  by_cases bare : m.type = "Void"
  · rw [if_pos bare, bare]
    rfl
  · rw [if_neg bare]
    rfl

/-- A child that is delivered out of its envelope has an action type with the envelope. -/
theorem Embedding.eq_presentationAction {e : Embedding} {type : String}
    (presented : e.deliversPresented = true) (acts : e.actionType? = some type) :
    type = presentationAction (e.deliveredActionType?.getD type) := by
  cases e with
  | optionalModule module presentable =>
      cases presentable with
      | false => cases presented
      | true =>
          cases acts
          rfl
  | destination module children =>
      cases acts
      rfl
  | stateValue type presentable => cases acts
  | tupleState type labels presentable => cases acts
  | _ => cases presented

namespace SymbolTable

theorem path_of_accessor? {t : SymbolTable} {s : Scope} {name base stateType actionType : String}
    {state action : Path}
    (h : t.accessor? s = some (.path name base state stateType action actionType)) :
    s.name = name ∧ s.stateType = stateType ∧ s.action = action ∧
      s.actionType = some actionType := by
  rw [accessor?] at h
  split at h
  · cases h
  · obtain ⟨type, acts, same⟩ := Option.map_eq_some_iff.mp h
    cases same
    exact ⟨rfl, rfl, rfl, acts⟩

theorem mem_cases_actionDecl {t : SymbolTable} {m : ActionMember} (h : m ∈ t.actionMembers) :
    actionCaseOf m ∈ t.actionDecl.cases :=
  List.mem_map_of_mem (t.perm_orderedActions.mem_iff.mpr h)

/-- The table of scopes that a table declares has its accessors for entries. -/
theorem entries_of_scopePaths {resolver : Resolver} {t : SymbolTable}
    (resolved : t.isResolved = true) {table : ScopeTable}
    (declared : .scopePaths table ∈ (t.declare resolver).declarations) :
    table.entries = t.accessors := by
  rw [((mem_scopePaths_declare_iff resolver resolved table).mp declared).2]

section

variable {t : SymbolTable} {child : NamedChild} {s : Scope} (scope : t.scopeOf? child = some s)

include scope

/-- At the root, a child's scope delivers what the child's action case carries. -/
theorem delivers_of_scopeOf? (root : t.placement = .root) {type : String}
    (acts : s.actionType = some type) :
    ∃ m, child.action? = some m ∧ (actionCaseOf m).Delivers s.action type := by
  obtain ⟨own, typed, rfl⟩ := Option.map_eq_some_iff.mp scope
  obtain rfl : t.deliveredType child.embedding own = type := Option.some.inj acts
  refine ⟨⟨child.name, own⟩, by rw [NamedChild.action?, typed]; rfl, ?_⟩
  rw [ActionCase.Delivers, type_actionCaseOf, scopeFor, actionPath, deliveredType, root]
  cases presented : child.embedding.deliversPresented with
  | false => exact Or.inl ⟨rfl, rfl⟩
  | true => exact Or.inr ⟨rfl, Embedding.eq_presentationAction presented typed⟩

/-- A child's scope reaches the type of the child's field. -/
theorem stateType_of_scopeOf? (u : SymbolTable) :
    ∃ type, (u.stateField child.member).type = some type ∧
      s.stateType = t.shape.reachedType type := by
  obtain ⟨own, typed, rfl⟩ := Option.map_eq_some_iff.mp scope
  have acting : child.member.isUnit = false := by
    rw [StateMember.isUnit, NamedChild.embedding_member]
    cases e : child.embedding with
    | stateless =>
        rw [e] at typed
        cases typed
    | _ => rfl
  refine ⟨child.embedding.stateType, ?_, ?_⟩
  · rw [stateField, acting]
    rfl
  · rw [Scope.stateType, scopeFor, isVariant]
    cases t.shape <;> rfl

end

section

variable (policy : Policy) (resolver : Resolver) (definition : ModuleDef) (c : Composition)

/-- The scopes of a module: those of its children, and behind them those that members have
queued and that were found among its actions. -/
theorem scopes_ofModule :
    (ofModule policy resolver definition c).scopes =
      (c.embedded policy resolver definition.members).filterMap
          (started policy definition c).scopeOf? ++
        ((c.contributions policy resolver definition.members).filterMap
          Contribution.scope?).filterMap
            (PendingScope.scope? (ofModule policy resolver definition c).actionMembers) := by
  rw [field_ofModule policy resolver definition c scopes fun _ _ _ _ _ => rfl,
    field_ofModule policy resolver definition c actionMembers fun _ _ _ _ _ => rfl,
    Composition.embedded, List.filterMap_append]
  rfl

theorem mem_scopes_ofModule_iff (s : Scope) :
    s ∈ (ofModule policy resolver definition c).scopes ↔
      (∃ child ∈ c.embedded policy resolver definition.members,
        (started policy definition c).scopeOf? child = some s) ∨
      ∃ pending ∈ (c.contributions policy resolver definition.members).filterMap
          Contribution.scope?,
        pending.scope? (ofModule policy resolver definition c).actionMembers = some s := by
  rw [scopes_ofModule, List.mem_append, List.mem_filterMap, List.mem_filterMap]

theorem mem_actionMembers_of_child {child : NamedChild} {m : ActionMember}
    (embedded : child ∈ c.embedded policy resolver definition.members)
    (action : child.action? = some m) :
    m ∈ (ofModule policy resolver definition c).actionMembers := by
  rw [(perm_actionMembers_ofModule policy resolver definition c).mem_iff]
  refine List.mem_append_left _ (List.mem_append_left _ ?_)
  exact List.mem_filterMap.mpr ⟨child, embedded, action⟩

theorem names_fields_ofModule :
    (ofModule policy resolver definition c).stateDecl.fields.map StateField.name =
      (c.embedded policy resolver definition.members).map NamedChild.name := by
  rw [stateDecl, stateMembers_ofModule, List.map_map, List.map_map]
  rfl

/-- A child of a module has one field, and no other child has a field of its name. -/
theorem filter_fields_ofModule {child : NamedChild}
    (embedded : child ∈ c.embedded policy resolver definition.members) :
    (ofModule policy resolver definition c).stateDecl.fields.filter
        (fun field => field.name = child.name) =
      [(ofModule policy resolver definition c).stateField child.member] := by
  have member : (ofModule policy resolver definition c).stateField child.member ∈
      (ofModule policy resolver definition c).stateDecl.fields := by
    rw [stateDecl, stateMembers_ofModule]
    exact List.mem_map_of_mem (List.mem_map_of_mem embedded)
  refine Admission.filter_label_of_mem ?_ member
  rw [names_fields_ofModule]
  exact c.nodup_names_embedded policy resolver definition.members

end

end SymbolTable

/-- A scope that a member asks for never has the name of a child. -/
theorem Composition.not_mem_names_embedded_of_scope (policy : Policy) (resolver : Resolver)
    (c : Composition) (members : List Member) {pending : PendingScope}
    (queued : pending ∈
      (c.contributions policy resolver members).filterMap Contribution.scope?) :
    pending.name ∉ (c.embedded policy resolver members).map NamedChild.name := by
  intro embedded
  obtain ⟨contribution, member, asks⟩ := List.mem_filterMap.mp queued
  have named := Contribution.name_of_scope? asks
  have claimed := (c.subperm_names_embedded policy resolver members).subset embedded
  have distinct := List.nodup_append.mp (c.nodup_names_taken policy resolver members)
  exact distinct.2.2 _ claimed _ (List.mem_filterMap.mpr ⟨contribution, member, named⟩) rfl

namespace Expansion

variable {policy : Policy} {resolver : Resolver} {definition : ModuleDef} {c : Composition}

/-- The table of scopes of a root module fits the types of its state and of its actions.
Along the path of each entry some action case delivers the type of the entry. An entry of a
child has the type of the one field of its name; all others are scopes that members asked
for, under names that no field has. -/
theorem accessors_well_typed (single : definition.directives = [c])
    (root : definition.placement = .root) {table : ScopeTable}
    (declared : .scopePaths table ∈
      (Expansion.ofModule policy resolver definition).declarations) :
    ∃ state action,
      (Expansion.ofModule policy resolver definition).declarations.filterMap
          Declaration.state? = [state] ∧
      (Expansion.ofModule policy resolver definition).declarations.filterMap
          Declaration.action? = [action] ∧
      ∀ {name base stateType actionType : String} {statePath actionPath : Path},
        .path name base statePath stateType actionPath actionType ∈ table.entries →
          (∃ case ∈ action.cases, case.Delivers actionPath actionType) ∧
          (name ∈ (c.embedded policy resolver definition.members).map NamedChild.name ∧
              (∃ field type, state.fields.filter (fun f => f.name = name) = [field] ∧
                field.type = some type ∧ stateType = state.shape.reachedType type) ∨
            name ∉ state.fields.map StateField.name ∧
              ∃ pending ∈ (c.contributions policy resolver definition.members).filterMap
                Contribution.scope?, pending.name = name) := by
  let t := SymbolTable.ofModule policy resolver definition c
  have resolved : t.isResolved = true :=
    SymbolTable.isResolved_ofModule policy resolver definition c
  have made : (Expansion.ofModule policy resolver definition).declarations =
      (t.declare resolver).declarations := declarations_ofModule single
  rw [made] at declared
  refine ⟨t.stateDecl, t.actionDecl, ?_, ?_, ?_⟩
  · rw [made, SymbolTable.states_declare resolver resolved]
  · rw [made, SymbolTable.actions_declare resolver resolved]
  · intro name base stateType actionType statePath actionPath entry
    rw [SymbolTable.entries_of_scopePaths resolved declared] at entry
    obtain ⟨s, scope, accessor⟩ := List.mem_filterMap.mp entry
    obtain ⟨rfl, rfl, rfl, acts⟩ := SymbolTable.path_of_accessor? accessor
    rcases (SymbolTable.mem_scopes_ofModule_iff policy resolver definition c s).mp scope with
      ⟨child, embedded, own⟩ | ⟨pending, queued, found⟩
    · obtain ⟨m, action, delivers⟩ := SymbolTable.delivers_of_scopeOf? own root acts
      obtain ⟨type, typed, reached⟩ := SymbolTable.stateType_of_scopeOf? own t
      have brought : m ∈ t.actionMembers :=
        SymbolTable.mem_actionMembers_of_child policy resolver definition c embedded action
      have shape : t.stateDecl.shape = c.shape :=
        SymbolTable.shape_ofModule policy resolver definition c
      refine ⟨⟨_, SymbolTable.mem_cases_actionDecl brought, delivers⟩, Or.inl ?_⟩
      rw [SymbolTable.name_of_scopeOf? own]
      refine ⟨List.mem_map_of_mem embedded, t.stateField child.member, type, ?_, typed, ?_⟩
      · exact SymbolTable.filter_fields_ofModule policy resolver definition c embedded
      · rw [reached, shape]
        rfl
    · obtain ⟨m, brought, rfl⟩ := PendingScope.eq_of_scope? found
      obtain rfl : m.type = actionType := Option.some.inj acts
      refine ⟨⟨_, SymbolTable.mem_cases_actionDecl brought, Or.inl ⟨rfl, ?_⟩⟩,
        Or.inr ⟨?_, pending, queued, rfl⟩⟩
      · exact SymbolTable.type_actionCaseOf m
      · rw [SymbolTable.names_fields_ofModule]
        exact c.not_mem_names_embedded_of_scope policy resolver definition.members queued

def editor : ModuleDef where
  name := "Editor"
  directives := [{
    children := [⟨.reducer, true, some (.string "sheet"), some (.named "Sheet"), none, {}⟩] }]

theorem accessors_well_typed_editor :
    ∃ state action,
      (Expansion.ofModule {} .textual editor).declarations.filterMap
          Declaration.state? = [state] ∧
      (Expansion.ofModule {} .textual editor).declarations.filterMap
          Declaration.action? = [action] ∧
      (∃ case ∈ action.cases, case.Delivers (Path.action.case "sheet").presented "Sheet.Action") ∧
      ∃ field, state.fields.filter (fun f => f.name = "sheet") = [field] ∧
        field.type = some "Sheet.State?" := by
  have single : editor.directives = [_] := rfl
  have declared : .scopePaths ⟨.hidden, [.path "sheet" "Editor" (Path.state.field "sheet")
      "Sheet.State?" (Path.action.case "sheet").presented "Sheet.Action"]⟩ ∈
      (Expansion.ofModule {} .textual editor).declarations := by decide
  obtain ⟨state, action, states, actions, typed⟩ := accessors_well_typed single rfl declared
  obtain ⟨delivered, ⟨_, field, type, only, held, reached⟩ | ⟨_, pending, queued, _⟩⟩ :=
    typed List.mem_cons_self
  · have record : state.shape = .record := by
      have shapes : [state].map StateDecl.shape = [.record] := by
        rw [← states]
        decide
      exact List.singleton_inj.mp shapes
    rw [record] at reached
    obtain rfl : "Sheet.State?" = type := reached
    exact ⟨state, action, states, actions, delivered, field, only, held⟩
  · exact nomatch queued

end Expansion

end StateWeave
