import StateWeave.Proofs.Settlement

/-!
# What resolving does to a table

Resolving works off both queues, turns bound placeholders into children and moves
stages to their places. `resolve_eq` gives the whole outcome in terms of the table
before, so that a question about a resolved table becomes one about what was entered.
-/

namespace StateWeave

def Placeholder.child? (p : Placeholder) : Option NamedChild :=
  p.embedding?.map fun e => ⟨p.name, e, none⟩

theorem Placeholder.name_of_child? {p : Placeholder} {c : NamedChild} (h : p.child? = some c) :
    c.name = p.name := by
  obtain ⟨e, _, rfl⟩ := Option.map_eq_some_iff.mp h
  rfl

theorem Placeholder.isSome_child? (p : Placeholder) : p.child?.isSome = p.isBound := by
  simp [child?, embedding?, isBound]

namespace PlaceholderRegistry

/-- The children that bound placeholders of the module itself become. -/
def children (r : PlaceholderRegistry) : List NamedChild :=
  r.locals.filterMap Placeholder.child?

def boundNames (r : PlaceholderRegistry) : List String :=
  (r.locals.filter Placeholder.isBound).map Placeholder.name

/-- Whether a stage is run: it has a module, or is that of a bound placeholder. -/
def isLive (r : PlaceholderRegistry) (stage : ChildStage) : Bool :=
  stage.module.isSome || r.boundNames.contains stage.name

theorem map_name_children (r : PlaceholderRegistry) :
    r.children.map NamedChild.name = r.boundNames := by
  rw [children, boundNames]
  induction r.locals with
  | nil => rfl
  | cons p ps ih =>
      have bound := Placeholder.isSome_child? p
      cases h : p.child? with
      | none =>
          rw [h] at bound
          rw [List.filterMap_cons_none h, List.filter_cons_of_neg (by simp [← bound]), ih]
      | some c =>
          rw [h] at bound
          rw [List.filterMap_cons_some h, List.filter_cons_of_pos bound.symm, List.map_cons,
            List.map_cons, ih, Placeholder.name_of_child? h]

end PlaceholderRegistry

/-- The scope that a queued one turns out to be, if it turns out to be one. -/
def PendingScope.scope? (actions : List ActionMember) (s : PendingScope) : Option Scope :=
  match s.resolve actions with
  | .ok scope => some scope
  | .error _ => none

namespace SymbolTable

/-- The action case that two-way bindings bring. -/
def bindingActions (t : SymbolTable) : List ActionMember :=
  if t.bindable then [⟨"binding", "BindingAction<State>"⟩] else []

theorem pushBindingAction_eq (t : SymbolTable) :
    t.pushBindingAction = { t with actionMembers := t.actionMembers ++ t.bindingActions } := by
  rw [pushBindingAction, bindingActions]
  split
  · rfl
  · rw [List.append_nil]

def settledRoutes (t : SymbolTable) : List (Option Path) :=
  t.placeholders.routes t.pendingBindings

def withBindings (t : SymbolTable) : SymbolTable :=
  { t with
    pendingBindings := []
    placeholders := t.placeholders.settle t.pendingBindings
    core := t.core.filterMap (Fragment.settled? t.settledRoutes)
    beforeCore := t.beforeCore.filterMap (OuterStage.settled? t.settledRoutes)
    afterCore := t.afterCore.filterMap (OuterStage.settled? t.settledRoutes) }

theorem settleBindings_eq (t : SymbolTable) :
    ∃ diagnostics, t.settleBindings = t.withBindings.withDiagnostics diagnostics := by
  have registry := PlaceholderRegistry.fst_bindAll t.placeholders t.pendingBindings
  have routes := PlaceholderRegistry.map_route_bindAll
    (PlaceholderRegistry.outline_settle t.placeholders t.pendingBindings) t.pendingBindings
  rw [← registry] at routes
  refine ⟨t.diagnostics ++ (t.placeholders.bindAll t.pendingBindings).2.2, ?_⟩
  rw [settleBindings, withBindings, settledRoutes, ← routes, ← registry, withDiagnostics]

theorem enterPlaceholder_eq (t : SymbolTable) (p : Placeholder) :
    ∃ diagnostics,
      t.enterPlaceholder p = (t.withChildren p.child?.toList).withDiagnostics diagnostics := by
  rw [enterPlaceholder, Placeholder.child?]
  cases p.embedding? with
  | some e => exact ⟨t.diagnostics, pushChild_eq t ⟨p.name, e, none⟩⟩
  | none =>
      have unchanged : t.withChildren [] = t := withChildren_nil t
      rw [Option.map_none, Option.toList_none, unchanged]
      dsimp only
      split
      · exact ⟨_, rfl⟩
      · exact ⟨t.diagnostics, rfl⟩

theorem withChildren_withDiagnostics (t : SymbolTable) (diagnostics : Diagnostics)
    (cs : List NamedChild) :
    (t.withDiagnostics diagnostics).withChildren cs =
      (t.withChildren cs).withDiagnostics diagnostics := rfl

theorem foldl_enterPlaceholder_eq (t : SymbolTable) (ps : List Placeholder) :
    ∃ diagnostics,
      ps.foldl enterPlaceholder t =
        (t.withChildren (ps.filterMap Placeholder.child?)).withDiagnostics diagnostics := by
  induction ps generalizing t with
  | nil => exact ⟨t.diagnostics, (withChildren_nil t).symm⟩
  | cons p ps ih =>
      obtain ⟨noted, first⟩ := enterPlaceholder_eq t p
      obtain ⟨diagnostics, rest⟩ := ih (t.enterPlaceholder p)
      have split : (p :: ps).filterMap Placeholder.child? =
          p.child?.toList ++ ps.filterMap Placeholder.child? := by
        rw [List.filterMap_cons]
        cases p.child? <;> rfl
      refine ⟨diagnostics, ?_⟩
      rw [List.foldl_cons, rest, first, split, withChildren_append, withChildren_withDiagnostics,
        withDiagnostics_withDiagnostics]

theorem enterPlaceholders_eq (t : SymbolTable) :
    ∃ diagnostics,
      t.enterPlaceholders =
        (t.withChildren t.placeholders.children).withDiagnostics diagnostics :=
  foldl_enterPlaceholder_eq t t.placeholders.locals

def withScopes (t : SymbolTable) : SymbolTable :=
  { t with
    pendingScopes := []
    scopes := t.scopes ++ t.pendingScopes.filterMap (PendingScope.scope? t.actionMembers) }

theorem resolveScopes_eq (t : SymbolTable) :
    ∃ diagnostics, t.resolveScopes = t.withScopes.withDiagnostics diagnostics := ⟨_, rfl⟩

theorem placeStages_withDiagnostics (t : SymbolTable) (diagnostics : Diagnostics) :
    (t.withDiagnostics diagnostics).placeStages = t.placeStages.withDiagnostics diagnostics := rfl

theorem withScopes_withDiagnostics (t : SymbolTable) (diagnostics : Diagnostics) :
    (t.withDiagnostics diagnostics).withScopes = t.withScopes.withDiagnostics diagnostics := rfl

/-- A table that is about to be resolved, with its bindings worked off. -/
def bound (t : SymbolTable) : SymbolTable :=
  { t with
    isResolved := true
    actionMembers := t.actionMembers ++ t.bindingActions }.withBindings

/-- A table as resolving leaves it, but for what is reported. -/
def resolved (t : SymbolTable) : SymbolTable :=
  (t.bound.withChildren t.bound.placeholders.children).placeStages.withScopes

theorem resolve_eq {t : SymbolTable} (fresh : t.isResolved = false) :
    ∃ diagnostics, t.resolve = t.resolved.withDiagnostics diagnostics := by
  have steps : t.resolve =
      ({ t with isResolved := true }.pushBindingAction.settleBindings.enterPlaceholders.placeStages
        ).resolveScopes := by
    rw [resolve, fresh, if_neg Bool.false_ne_true]
  obtain ⟨noted, bindings⟩ := settleBindings_eq { t with isResolved := true }.pushBindingAction
  rw [pushBindingAction_eq] at bindings
  obtain ⟨warned, children⟩ := enterPlaceholders_eq (t.bound.withDiagnostics noted)
  obtain ⟨diagnostics, scopes⟩ := resolveScopes_eq
    (((t.bound.withChildren t.bound.placeholders.children).withDiagnostics warned).placeStages)
  rw [placeholders_withDiagnostics, withChildren_withDiagnostics,
    withDiagnostics_withDiagnostics] at children
  rw [placeStages_withDiagnostics, withScopes_withDiagnostics,
    withDiagnostics_withDiagnostics] at scopes
  refine ⟨diagnostics, ?_⟩
  rw [steps, pushBindingAction_eq, bindings]
  change ((t.bound.withDiagnostics noted).enterPlaceholders.placeStages).resolveScopes = _
  rw [children, placeStages_withDiagnostics, scopes, resolved]

end SymbolTable

end StateWeave
