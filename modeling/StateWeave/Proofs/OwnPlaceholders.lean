import StateWeave.Proofs.AccessorTypes
import StateWeave.Proofs.ActionNames
import StateWeave.Proofs.EntryFates
import StateWeave.Proofs.ListPlaceholders

/-!
# The alerts and dialogs of a module itself

An alert or a dialog in a module's own list becomes a child if anything binds it, and is reported
if nothing does. Both are decided for the placeholders that belong to the module itself, and a
placeholder is taken to belong to a list if its name has a dot in it. `own_placeholder_shown_or_reported`
says what this comes to: without a dot in its name an alert or a dialog is shown or reported, and
with one it is neither, whether it is bound or not.
-/

namespace StateWeave

open Admission

theorem Diagnostic.IsOfReading.tellsUnbound_eq_false {d : Diagnostic} (ofReading : d.IsOfReading)
    (name : String) : d.tellsUnbound name = false := by
  rw [Bool.eq_false_iff, Ne, tellsUnbound_eq_true_iff]
  rintro ⟨kind, unbound⟩
  obtain ⟨p, known, _, message⟩ := ofReading
  exact known.message_ne kind name (message.symm.trans unbound)

theorem PlaceholderRegistry.tellsUnbound_failureReport (failure : PendingBinding × BindError)
    (name : String) : (failureReport failure).tellsUnbound name = false := by
  rw [Bool.eq_false_iff, Ne, Diagnostic.tellsUnbound_eq_true_iff]
  rintro ⟨kind, unbound⟩
  exact Problem.message_problem_ne_unbound failure.1 failure.2 kind name unbound

theorem Diagnostics.filter_tellsUnbound_eq_nil {ds : Diagnostics} {name : String}
    (silent : ∀ d ∈ ds, d.tellsUnbound name = false) :
    ds.filter (Diagnostic.tellsUnbound name) = [] := by
  apply List.filter_eq_nil_iff.mpr
  intro d member
  rw [silent d member]
  exact Bool.false_ne_true

namespace PlaceholderRegistry

/-- A name with a dot is never that of a placeholder of the module itself. -/
theorem filter_locals_of_dotted {name : String} (dotted : '.' ∈ name.toList)
    (r : PlaceholderRegistry) : r.locals.filter (fun p => p.name = name) = [] := by
  rw [List.filter_eq_nil_iff]
  intro p member same
  obtain rfl : p.name = name := of_decide_eq_true same
  have nested : p.isLocal = false := by simpa [Placeholder.isLocal] using dotted
  have own := (List.mem_filter.mp member).2
  rw [nested] at own
  cases own

end PlaceholderRegistry

namespace SymbolTable

variable (policy : Policy) (resolver : Resolver) (definition : ModuleDef) (c : Composition)

/-- A module's table tells that a placeholder is not bound if it has one of this name that is its
own and that nobody has bound. -/
theorem filter_tellsUnbound_ofModule (name : String) :
    (ofModule policy resolver definition c).diagnostics.filter (Diagnostic.tellsUnbound name) =
      ((c.settled policy resolver definition.members).locals.filter
        fun p => p.name = name).filterMap (Placeholder.unboundReport? policy) := by
  let t := read policy resolver definition c
  obtain ⟨state, action, initial, noted, entered⟩ := read_eq policy resolver definition c
  have fresh : t.isResolved = false := isResolved_read policy resolver definition c
  have asked : t.policy = policy := by
    show (read policy resolver definition c).policy = policy
    rw [entered]
    rfl
  have registry : t.placeholders.settle t.pendingBindings =
      c.settled policy resolver definition.members := by
    have resolved := placeholders_resolve fresh
    rw [← placeholders_ofModule, ← resolved]
    rfl
  have reading : t.diagnostics.filter (Diagnostic.tellsUnbound name) = [] := by
    apply Diagnostics.filter_tellsUnbound_eq_nil
    intro d member
    exact (isOfReading_read policy resolver definition c member).tellsUnbound_eq_false name
  have failures : ((t.placeholders.failures t.pendingBindings).map
      PlaceholderRegistry.failureReport).filter (Diagnostic.tellsUnbound name) = [] := by
    apply Diagnostics.filter_tellsUnbound_eq_nil
    intro d member
    obtain ⟨failure, _, rfl⟩ := List.mem_map.mp member
    exact PlaceholderRegistry.tellsUnbound_failureReport failure name
  have scopes : (t.pendingScopes.filterMap
      (PendingScope.report? t.resolved.actionMembers)).filter
        (Diagnostic.tellsUnbound name) = [] := by
    apply Diagnostics.filter_tellsUnbound_eq_nil
    intro d member
    obtain ⟨s, _, reported⟩ := List.mem_filterMap.mp member
    exact (PendingScope.isOfItem_of_report? reported).isOfReading.tellsUnbound_eq_false name
  show t.resolve.diagnostics.filter _ = _
  rw [diagnostics_resolve_eq fresh, List.filter_append, List.filter_append, List.filter_append,
    reading, failures, scopes, registry, asked, List.nil_append, List.nil_append, List.append_nil]
  exact filter_filterMap
    (fun _ _ reported => Placeholder.tellsUnbound_of_unboundReport? reported name) _

/-- No list reports on a placeholder whose name has a dot in it. -/
theorem IsComplete.tellsUnbound_declareWithin {resolver : Resolver} {t : SymbolTable}
    (complete : t.IsComplete) {name : String} (dotted : '.' ∈ name.toList) (depth : Nat) :
    ∀ d ∈ (declareWithin resolver depth t).diagnostics, d.tellsUnbound name = false := by
  refine complete.forall_declareWithin (fun site _ d reported => ?_) depth
  have silent := site.filter_tellsUnbound_table resolver name
  rw [PlaceholderRegistry.filter_locals_of_dotted dotted, List.filterMap_nil,
    List.filter_eq_nil_iff] at silent
  exact Bool.eq_false_iff.mpr (silent d reported)

end SymbolTable

namespace Composition

variable {policy : Policy} {resolver : Resolver} {c : Composition} {name : String}
  {e : ChildEntry} {q : Placeholder} (members : List Member)
  (first : c.children.find? (fun e => e.claim? policy resolver = some name) = some e)
  (own : e.own? policy resolver = some q)

include first own

/-- Nothing but the placeholder itself is a child of its name. -/
theorem filter_embedded_of_own :
    (c.embedded policy resolver members).filter (fun child => child.name = name) =
      ((c.settled policy resolver members).locals.filter fun p => p.name = name).filterMap
        Placeholder.child? := by
  have kept : ∀ (p : Placeholder) child, p.child? = some child →
      decide (child.name = name) = decide (p.name = name) := by
    intro p child becomes
    rw [Placeholder.name_of_child? becomes]
  rw [embedded, List.filter_append, filter_children_of_own first own, List.nil_append,
    PlaceholderRegistry.children]
  exact filter_filterMap kept _

/-- The registry holds an alert or a dialog of the module under its name, whatever the name. -/
theorem exists_settled_of_first : ∃ p, (c.settled policy resolver members).get? name = some p := by
  have declares : q ∈ ChildEntry.declarations policy resolver [] c.children :=
    ChildEntry.mem_declarations_of_own own (mem_entries_of_first first)
  have held : ((c.declared policy resolver).get? name).isSome = true := by
    rw [declared, PlaceholderRegistry.get?_declareAll]
    apply PlaceholderRegistry.isSome_standing (p := q)
    apply List.mem_append_right
    exact List.mem_filter.mpr ⟨declares, decide_eq_true (name_of_own first own)⟩
  have bare := PlaceholderRegistry.map_bare_get? (c.settled policy resolver members) name
  rw [c.outline_settled policy resolver members, ← PlaceholderRegistry.map_bare_get?] at bare
  rw [← Option.isSome_map, ← bare, Option.isSome_map] at held
  exact Option.isSome_iff_exists.mp held

/-- Without a dot in its name an alert or a dialog is one of the module's own placeholders, of
which nothing has changed but perhaps the type of its actions. -/
theorem exists_settled_of_own (dotless : '.' ∉ name.toList) :
    ∃ p, (c.settled policy resolver members).get? name = some p ∧ p.bare = q.bare ∧
      (c.settled policy resolver members).locals.filter (fun p => p.name = name) = [p] := by
  have declares : (c.declared policy resolver).get? name = some q := by
    rw [declared, PlaceholderRegistry.get?_declareAll, ChildEntry.filter_name_declarations dotless]
    show PlaceholderRegistry.standing
      (([] : List Placeholder) ++ ((c.entries policy resolver).filterMap
        (ChildEntry.own? policy resolver)).filter fun p => p.name = name) = some q
    rw [filter_own first own]
    exact PlaceholderRegistry.standing_singleton q
  have outline := c.outline_settled policy resolver members
  have bare := PlaceholderRegistry.map_bare_get? (c.settled policy resolver members) name
  rw [outline, ← PlaceholderRegistry.map_bare_get?, declares] at bare
  obtain ⟨p, known, same⟩ := Option.map_eq_some_iff.mp bare
  have distinct : (c.settled policy resolver members).names.Nodup := by
    rw [PlaceholderRegistry.names_congr outline]
    exact c.nodup_names_declared policy resolver
  refine ⟨p, known, same, ?_⟩
  rw [PlaceholderRegistry.filter_locals distinct dotless, known, Option.toList_some]

/-- An alert or a dialog with a dot in its name brings no child, whatever binds it. -/
theorem not_mem_embedded_of_dotted (dotted : '.' ∈ name.toList) {child : NamedChild}
    (embedded : child ∈ c.embedded policy resolver members) : child.name ≠ name := by
  intro same
  have none := filter_embedded_of_own members first own
  rw [PlaceholderRegistry.filter_locals_of_dotted dotted, List.filterMap_nil,
    List.filter_eq_nil_iff] at none
  exact none child embedded (decide_eq_true same)

/-- Nor is there a case of its name. -/
theorem not_mem_actions_of_dotted (dotted : '.' ∈ name.toList) {definition : ModuleDef}
    {a : ActionMember}
    (acts : a ∈ (SymbolTable.ofModule policy resolver definition c).actionMembers) :
    a.name ≠ name := by
  rw [(SymbolTable.perm_actionMembers_ofModule policy resolver definition c).mem_iff] at acts
  intro same
  rcases List.mem_append.mp acts with authored | binding
  · rcases List.mem_append.mp authored with brought | contributed
    · obtain ⟨child, embedded, action⟩ := List.mem_filterMap.mp brought
      have named := (NamedChild.name_of_action? action).symm.trans same
      exact not_mem_embedded_of_dotted definition.members first own dotted embedded named
    · obtain ⟨contribution, let_in, action⟩ := List.mem_filterMap.mp contributed
      have late : a.name ∈ (c.contributions policy resolver definition.members).filterMap
          Contribution.name? :=
        List.mem_filterMap.mpr ⟨contribution, let_in, Contribution.name_of_action? action⟩
      have early : name ∈ (c.entries policy resolver).filterMap
          (ChildEntry.claim? policy resolver) :=
        List.mem_filterMap.mpr ⟨e, mem_entries_of_first first, name_of_find? first⟩
      have distinct := List.nodup_append.mp
        (c.nodup_names_taken policy resolver definition.members)
      exact distinct.2.2 name early a.name late same.symm
  · rw [SymbolTable.bindingActions] at binding
    split at binding
    · rw [List.mem_singleton.mp binding] at same
      rw [← same] at dotted
      exact absurd dotted (by decide)
    · cases binding

end Composition

namespace SymbolTable

variable {policy : Policy} {resolver : Resolver} {definition : ModuleDef} {c : Composition}
  {name : String} {e : ChildEntry} {q : Placeholder}

/-- A name that no child has is not that of a field. -/
theorem name_ne_of_mem_fields
    (childless : ∀ child ∈ c.embedded policy resolver definition.members, child.name ≠ name)
    {f : StateField} (field : f ∈ (ofModule policy resolver definition c).stateDecl.fields) :
    f.name ≠ name := by
  intro same
  have among := List.mem_map_of_mem (f := StateField.name) field
  rw [names_fields_ofModule] at among
  obtain ⟨child, embedded, named⟩ := List.mem_map.mp among
  exact childless child embedded (named.trans same)

section

variable
  (first : c.children.find? (fun e => e.claim? policy resolver = some name) = some e)
  (own : e.own? policy resolver = some q) (dotless : '.' ∉ name.toList)

include first own dotless

/-- What is bound has one field of its name, and a case. Nothing is reported of it. -/
theorem shown_of_bound {p : Placeholder} {type : String}
    (known : (ofModule policy resolver definition c).placeholders.get? name = some p)
    (bound : p.actionType = some type) :
    let t := ofModule policy resolver definition c
    let payload := Embedding.wrapAction type p.presentable
    t.stateDecl.fields.filter (fun f => f.name = name) =
        [⟨name, some (p.stateType type), none, p.presentable⟩] ∧
      ⟨name, if payload = "Void" then none else some payload⟩ ∈ t.actionDecl.cases ∧
      t.diagnostics.filter (Diagnostic.tellsUnbound name) = [] := by
  intro t payload
  rw [placeholders_ofModule] at known
  obtain ⟨other, also, _, only⟩ :=
    Composition.exists_settled_of_own definition.members first own dotless
  obtain rfl := Option.some.inj (known.symm.trans also)
  have named : p.name = name := (PlaceholderRegistry.mem_of_get? known).2
  have becomes : p.child? = some ⟨name, p.embedding type, none⟩ := by
    rw [Placeholder.eq_typed_of_actionType bound, ← named]
    exact p.child?_typed type
  have silent : p.unboundReport? policy = none := by
    rw [Placeholder.unboundReport?, Placeholder.isBound, bound]
    rfl
  have children := Composition.filter_embedded_of_own definition.members first own
  rw [only, List.filterMap_cons, becomes] at children
  have embedded : NamedChild.mk name (p.embedding type) none ∈
      c.embedded policy resolver definition.members := by
    apply List.mem_of_mem_filter (p := fun child => child.name = name)
    rw [children]
    exact List.mem_cons_self
  have field := p.stateField_of_typed type t
  have action := p.action?_of_typed type
  rw [named] at field action
  refine ⟨?_, ?_, ?_⟩
  · rw [← field]
    exact filter_fields_ofModule policy resolver definition c embedded
  · exact mem_cases_actionDecl
      (mem_actionMembers_of_child policy resolver definition c embedded action)
  · rw [filter_tellsUnbound_ofModule, only, List.filterMap_cons, silent]
    rfl

/-- What is not bound has no field, and this is reported if anybody wants to know. -/
theorem shown_of_unbound {p : Placeholder}
    (known : (ofModule policy resolver definition c).placeholders.get? name = some p)
    (unbound : p.actionType = none) :
    let t := ofModule policy resolver definition c
    (∀ f ∈ t.stateDecl.fields, f.name ≠ name) ∧
      t.diagnostics.filter (Diagnostic.tellsUnbound name) = (p.unboundReport? policy).toList := by
  intro t
  rw [placeholders_ofModule] at known
  obtain ⟨other, also, _, only⟩ :=
    Composition.exists_settled_of_own definition.members first own dotless
  obtain rfl := Option.some.inj (known.symm.trans also)
  have childless : p.child? = none := by
    rw [Placeholder.child?, Placeholder.embedding?, unbound]
    rfl
  have children := Composition.filter_embedded_of_own definition.members first own
  rw [only, List.filterMap_cons, childless, List.filterMap_nil, List.filter_eq_nil_iff] at children
  constructor
  · intro f field
    apply name_ne_of_mem_fields _ field
    intro child embedded same
    exact children child embedded (decide_eq_true same)
  · rw [filter_tellsUnbound_ofModule, only]
    cases reported : p.unboundReport? policy with
    | none => rw [List.filterMap_cons_none reported]; rfl
    | some d => rw [List.filterMap_cons_some reported]; rfl

/-- What is bound or not is still the alert or the dialog of the entry. -/
theorem kept_of_own {kind : PlaceholderKind} {p : Placeholder}
    (known : (ofModule policy resolver definition c).placeholders.get? name = some p)
    (declares : PlaceholderKind.ofChild? e.kind = some kind) :
    p.kind = kind ∧ p.presentable = e.presents ∧ p.location = e.location := by
  rw [placeholders_ofModule] at known
  obtain ⟨other, also, bare, _⟩ :=
    Composition.exists_settled_of_own definition.members first own dotless
  obtain rfl := Option.some.inj (known.symm.trans also)
  rw [ChildEntry.eq_of_own? declares own] at bare
  exact ⟨congrArg Placeholder.kind bare, congrArg Placeholder.presentable bare,
    congrArg Placeholder.location bare⟩

end

variable (dotted : '.' ∈ name.toList)

include dotted

theorem tellsUnbound_ofModule_of_dotted :
    ∀ d ∈ (ofModule policy resolver definition c).diagnostics, d.tellsUnbound name = false := by
  have silent := filter_tellsUnbound_ofModule policy resolver definition c name
  rw [PlaceholderRegistry.filter_locals_of_dotted dotted, List.filterMap_nil,
    List.filter_eq_nil_iff] at silent
  exact fun d member => Bool.eq_false_iff.mpr (silent d member)

variable
  (first : c.children.find? (fun e => e.claim? policy resolver = some name) = some e)
  (own : e.own? policy resolver = some q)

include first own

theorem name_ne_of_mem_fields_of_dotted :
    ∀ f ∈ (ofModule policy resolver definition c).stateDecl.fields, f.name ≠ name := by
  intro f field
  apply name_ne_of_mem_fields _ field
  intro child embedded
  exact Composition.not_mem_embedded_of_dotted definition.members first own dotted embedded

theorem name_ne_of_mem_cases_of_dotted :
    ∀ a ∈ (ofModule policy resolver definition c).actionDecl.cases, a.name ≠ name := by
  intro a acts
  obtain ⟨m, ordered, rfl⟩ := List.mem_map.mp acts
  have member := (ofModule policy resolver definition c).perm_orderedActions.mem_iff.mp ordered
  exact Composition.not_mem_actions_of_dotted first own dotted member

end SymbolTable

namespace Expansion

/-- Nothing is reported of a placeholder whose name has a dot in it, in the whole expansion. -/
theorem tellsUnbound_of_dotted {policy : Policy} {resolver : Resolver} {definition : ModuleDef}
    {c : Composition} (single : definition.directives = [c]) {name : String}
    (dotted : '.' ∈ name.toList) :
    ∀ d ∈ (ofModule policy resolver definition).diagnostics, d.tellsUnbound name = false := by
  have complete := SymbolTable.isComplete_ofModule policy resolver definition c
  intro d member
  rw [diagnostics_ofModule single] at member
  rcases List.mem_append.mp member with table | lists
  · exact SymbolTable.tellsUnbound_ofModule_of_dotted dotted d table
  · exact complete.tellsUnbound_declareWithin dotted _ d lists

/-- What becomes of an alert or a dialog in a module's own list that is the first to ask for its
name. Without a dot in its name it is shown or reported: if it is bound in the end, the state has
one field of its name, of the type that goes with its kind and with the type it is bound to, and
the actions have a case with this type as its payload; if it is not bound, the state has no field
of its name, and the module's own table reports so once, at the place of the entry, if anybody
wants to know. With a dot in its name it is taken for a part of a list: whether it is bound or
not, there is neither a field nor a case nor a report of it, in the whole expansion. -/
theorem own_placeholder_shown_or_reported {policy : Policy} {resolver : Resolver}
    {definition : ModuleDef} {c : Composition} (single : definition.directives = [c])
    {name : String} {e : ChildEntry}
    (first : c.children.find? (fun e => e.claim? policy resolver = some name) = some e)
    {kind : PlaceholderKind} (declares : PlaceholderKind.ofChild? e.kind = some kind) :
    let t := SymbolTable.ofModule policy resolver definition c
    let expansion := ofModule policy resolver definition
    ∃ state action p,
      expansion.declarations.filterMap Declaration.state? = [state] ∧
      expansion.declarations.filterMap Declaration.action? = [action] ∧
      expansion.diagnostics = t.diagnostics ++ (t.declare resolver).diagnostics ∧
      t.placeholders.get? name = some p ∧
      ('.' ∉ name.toList →
        p.kind = kind ∧ p.presentable = e.presents ∧ p.location = e.location ∧
        let warnings := t.diagnostics.filter (Diagnostic.tellsUnbound name)
        (∀ type, p.actionType = some type →
          let payload := Embedding.wrapAction type e.presents
          state.fields.filter (fun f => f.name = name) =
              [⟨name, some (p.stateType type), none, e.presents⟩] ∧
            ⟨name, if payload = "Void" then none else some payload⟩ ∈ action.cases ∧
            warnings = []) ∧
        (p.actionType = none →
          (∀ f ∈ state.fields, f.name ≠ name) ∧
            warnings =
              match policy.unboundPlaceholders with
              | .warn => [.ofProblem (.unboundPlaceholder kind.text name) e.location]
              | .omit => [])) ∧
      ('.' ∈ name.toList →
        (∀ f ∈ state.fields, f.name ≠ name) ∧ (∀ a ∈ action.cases, a.name ≠ name) ∧
          ∀ d ∈ expansion.diagnostics, d.tellsUnbound name = false) := by
  intro t expansion
  have resolved := SymbolTable.isResolved_ofModule policy resolver definition c
  obtain ⟨q, own, -⟩ := ChildEntry.exists_own?_of_ofChild? (name_of_find? first) declares
  obtain ⟨p, settled⟩ := Composition.exists_settled_of_first definition.members first own
  have known : t.placeholders.get? name = some p := by
    rw [← settled, ← SymbolTable.placeholders_ofModule]
  refine ⟨t.stateDecl, t.actionDecl, p, ?_, ?_, diagnostics_ofModule single, known, ?_, ?_⟩
  · rw [declarations_ofModule single]
    exact SymbolTable.states_declare resolver resolved
  · rw [declarations_ofModule single]
    exact SymbolTable.actions_declare resolver resolved
  · intro dotless
    obtain ⟨sort, presented, place⟩ :=
      SymbolTable.kept_of_own first own dotless known declares
    refine ⟨sort, presented, place, ?_, ?_⟩
    · intro type bound
      rw [← presented]
      exact SymbolTable.shown_of_bound first own dotless known bound
    · intro unbound
      obtain ⟨fieldless, warned⟩ := SymbolTable.shown_of_unbound first own dotless known unbound
      have report := Placeholder.toList_unboundReport? unbound policy
      rw [sort, place, (PlaceholderRegistry.mem_of_get? known).2] at report
      exact ⟨fieldless, warned.trans report⟩
  · intro dotted
    exact ⟨SymbolTable.name_ne_of_mem_fields_of_dotted dotted first own,
      SymbolTable.name_ne_of_mem_cases_of_dotted dotted first own,
      tellsUnbound_of_dotted single dotted⟩

/-- Two alerts, and nothing that binds them. -/
def farewells : Composition where
  children := [
    ⟨.alert, false, some (.string "leave"), none, none, ⟨2, 5⟩⟩,
    ⟨.alert, false, some (.string "leave.now"), none, none, ⟨3, 5⟩⟩]

def farewell : ModuleDef where
  name := "Farewell"
  directives := [farewells]

/-- The first alert is reported, and the second is neither reported nor shown. -/
theorem own_placeholder_shown_or_reported_farewell :
    let t := SymbolTable.ofModule {} .textual farewell farewells
    t.diagnostics.filter (Diagnostic.tellsUnbound "leave") =
        [.ofProblem (.unboundPlaceholder "alert" "leave") ⟨2, 5⟩] ∧
      t.placeholders.get? "leave.now" = some ⟨"leave.now", .alert, false, none, ⟨3, 5⟩⟩ ∧
      (∃ state action,
        (ofModule {} .textual farewell).declarations.filterMap Declaration.state? = [state] ∧
        (ofModule {} .textual farewell).declarations.filterMap Declaration.action? = [action] ∧
        (∀ f ∈ state.fields, f.name ≠ "leave.now") ∧ ∀ a ∈ action.cases, a.name ≠ "leave.now") ∧
      ∀ d ∈ (ofModule {} .textual farewell).diagnostics, d.tellsUnbound "leave.now" = false := by
  intro t
  have single : farewell.directives = [farewells] := rfl
  have leave : farewells.children.find? (fun e => e.claim? {} .textual = some "leave") =
      some ⟨.alert, false, some (.string "leave"), none, none, ⟨2, 5⟩⟩ := rfl
  have now : farewells.children.find? (fun e => e.claim? {} .textual = some "leave.now") =
      some ⟨.alert, false, some (.string "leave.now"), none, none, ⟨3, 5⟩⟩ := rfl
  obtain ⟨_, _, p, _, _, _, known, dotless, _⟩ := own_placeholder_shown_or_reported single leave rfl
  have held : t.placeholders.get? "leave" = some ⟨"leave", .alert, false, none, ⟨2, 5⟩⟩ := rfl
  obtain rfl := Option.some.inj (known.symm.trans held)
  obtain ⟨_, _, _, _, unbound⟩ := dotless (by decide)
  obtain ⟨state, action, _, states, actions, _, _, _, dotted⟩ :=
    own_placeholder_shown_or_reported single now rfl
  obtain ⟨fields, cases, silent⟩ := dotted (by decide)
  exact ⟨(unbound rfl).2, rfl, ⟨state, action, states, actions, fields, cases⟩, silent⟩

end Expansion

end StateWeave
