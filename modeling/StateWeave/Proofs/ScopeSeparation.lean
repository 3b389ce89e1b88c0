import StateWeave.Proofs.FirstRegistration
import StateWeave.Value.Basic

/-!
# What one scope embeds and another extracts

The paths of two children of one table share everything but the step that names the child: a
nested module's paths begin at the list in its parent, and an action path may go on into the
presentation envelope. A value that is embedded along one path is therefore entered by the other
as far as they agree, and no further. `extract?_embed_scopes` puts this together with the names
of a table, which are given out once: each scope extracts what it has embedded, and nothing that
another one has.
-/

namespace StateWeave

namespace Step

/-- The way that a step goes. A case is one way, whichever accessor reads it. -/
def way : Step → Step
  | dynamicCase name => case name
  | step => step

end Step

namespace Value

/-- A step finds its way through a value that was built for a step of the same way, and finds
nothing in any other. -/
theorem get?_wrap_way (id : String) (inner : Value) (step other : Step) :
    get? step (wrap id inner other) = if step.way = other.way then some inner else none := by
  cases step with
  | field name => cases other <;> simp [get?, wrap, Step.way, Dict.find?_cons]
  | case name => cases other <;> simp [get?, wrap, Step.way, eq_comm]
  | dynamicCase name => cases other <;> simp [get?, wrap, Step.way, eq_comm]
  | optional => cases other <;> simp [get?, wrap, Step.way]
  | presented => cases other <;> simp [get?, wrap, Step.way]
  | element => cases other <;> simp [get?, wrap, Step.way]

/-- Along its first steps an embedded value leads to what the other steps embed. -/
theorem follow?_foldr_wrap (id : String) (leaf : Value) (front back : List Step) :
    follow? front ((front ++ back).foldr (fun step inner => wrap id inner step) leaf) =
      some (back.foldr (fun step inner => wrap id inner step) leaf) := by
  induction front with
  | nil => rfl
  | cons step front ih =>
      rw [List.cons_append, List.foldr_cons, follow?_cons, get?_wrap, Option.bind_some]
      exact ih

/-- A path extracts what it has embedded. -/
theorem extract?_embed_self (path : Path) (leaf : Value) (id : String) :
    (embed path leaf id).extract? path = some leaf := by
  have whole := follow?_foldr_wrap id leaf path.steps []
  rw [List.append_nil] at whole
  exact whole

/-- A path finds nothing in what is embedded along another one from which it parts. -/
theorem extract?_embed_of_parting {p q : Path} {front pRest qRest : List Step} {a b : Step}
    (left : p.steps = front ++ a :: pRest) (right : q.steps = front ++ b :: qRest)
    (parting : b.way ≠ a.way) (leaf : Value) (id : String) :
    (embed p leaf id).extract? q = none := by
  have shared := follow?_foldr_wrap id leaf front (a :: pRest)
  rw [extract?, embed, left, right, follow?_append, shared, Option.bind_some, follow?_cons,
    List.foldr_cons, get?_wrap_way, if_neg parting]
  rfl

end Value

/-- In a list with distinct labels a label stands at one index only. -/
theorem index_eq_of_label {α β : Type} {label : α → β} {xs : List α}
    (distinct : (xs.map label).Nodup) {i j : Fin xs.length} (same : label xs[i] = label xs[j]) :
    i = j := by
  have inside : i.val < (xs.map label).length := by
    rw [List.length_map]
    exact i.isLt
  have labels : (xs.map label)[i.val]? = (xs.map label)[j.val]? := by simpa using same
  exact Fin.ext ((List.getElem?_inj inside distinct).mp labels)

namespace SymbolTable

open Admission

/-- The state paths of a table differ in the step that names the child, which is their last. -/
theorem steps_statePath (t : SymbolTable) :
    ∃ (front : List Step) (step : String → Step),
      (∀ name other, (step name).way = (step other).way → name = other) ∧
        ∀ name, (t.statePath name).steps = front ++ [step name] := by
  have cases (name other : String) (same : (Step.case name).way = (Step.case other).way) :
      name = other := Step.case.inj same
  have fields (name other : String) (same : (Step.field name).way = (Step.field other).way) :
      name = other := Step.field.inj same
  cases placement : t.placement with
  | root =>
      cases variant : t.isVariant with
      | true =>
          refine ⟨[], .dynamicCase, cases, ?_⟩
          intro name
          simp only [statePath, placement, variant]
          rfl
      | false =>
          refine ⟨[], .field, fields, ?_⟩
          intro name
          simp only [statePath, placement, variant]
          rfl
  | destination list parent =>
      refine ⟨[.field list, .optional], .field, fields, ?_⟩
      intro name
      simp only [statePath, placement]
      rfl
  | stack list parent =>
      refine ⟨[.field list, .element], .case, cases, ?_⟩
      intro name
      simp only [statePath, placement]
      rfl

/-- The action paths of a table differ in the case that names the child and in what they
take behind it. -/
theorem steps_actionPath (t : SymbolTable) :
    ∃ front : List Step, ∀ name e, ∃ back,
      (t.actionPath name e).steps = front ++ .case name :: back := by
  cases placement : t.placement with
  | root =>
      refine ⟨[], ?_⟩
      intro name e
      cases presented : e.deliversPresented with
      | true =>
          refine ⟨[.presented], ?_⟩
          simp only [actionPath, placement, presented]
          rfl
      | false =>
          refine ⟨[], ?_⟩
          simp only [actionPath, placement, presented]
          rfl
  | destination list parent =>
      refine ⟨[.case list], ?_⟩
      intro name e
      refine ⟨[], ?_⟩
      simp only [actionPath, placement]
      rfl
  | stack list parent =>
      refine ⟨[.case list, .element], ?_⟩
      intro name e
      refine ⟨[], ?_⟩
      simp only [actionPath, placement]
      rfl

/-- The state path of one child finds nothing in what that of another has embedded. -/
theorem extract?_embed_statePath {name other : String} (differs : name ≠ other)
    (t : SymbolTable) (leaf : Value) (id : String) :
    (Value.embed (t.statePath name) leaf id).extract? (t.statePath other) = none := by
  obtain ⟨front, step, injective, steps⟩ := t.steps_statePath
  apply Value.extract?_embed_of_parting (steps name) (steps other)
  intro same
  exact differs (injective other name same).symm

/-- The action path of one child finds nothing in what that of another has embedded. -/
theorem extract?_embed_actionPath {name other : String} (differs : name ≠ other)
    (t : SymbolTable) (e f : Embedding) (leaf : Value) (id : String) :
    (Value.embed (t.actionPath name e) leaf id).extract? (t.actionPath other f) = none := by
  obtain ⟨front, steps⟩ := t.steps_actionPath
  obtain ⟨here, left⟩ := steps name e
  obtain ⟨there, right⟩ := steps other f
  apply Value.extract?_embed_of_parting left right
  intro same
  exact differs (Step.case.inj same).symm

/-- The paths of a scope are those that the table gives to its name. -/
theorem ConsistsOf.paths_of_mem_scopes {t : SymbolTable} {rs : List Request}
    (entries : t.ConsistsOf rs) {s : Scope} (member : s ∈ t.scopes) :
    s.state = t.statePath s.name ∧ s.action = t.actionPath s.name s.embedding := by
  rw [entries.scopes] at member
  obtain ⟨child, _, scope⟩ := List.mem_filterMap.mp member
  obtain ⟨type, _, rfl⟩ := Option.map_eq_some_iff.mp scope
  exact ⟨rfl, rfl⟩

variable (module : String) (access : Access) (placement : Placement) (shape : StateShape)
  (policy : Policy) (location : Location) (placeholders : PlaceholderRegistry)

/-- Whatever the shape of a table and wherever it sits, a scope extracts the leaf that was
embedded along its own path, and nothing from what was embedded along the path of another scope,
in the actions as in the state. -/
theorem extract?_embed_scopes (calls : List Request) :
    let t := (fresh module access placement shape policy location placeholders).afterRequests calls
    ∀ (i j : Fin t.scopes.length) (leaf : Value) (id : String),
      (Value.embed t.scopes[i].action leaf id).extract? t.scopes[j].action =
          (if i = j then some leaf else none) ∧
        (Value.embed t.scopes[i].state leaf id).extract? t.scopes[j].state =
          (if i = j then some leaf else none) := by
  intro t i j leaf id
  have entries : t.ConsistsOf (Request.firsts calls) :=
    consistsOf_afterRequests_fresh module access placement shape policy location placeholders calls
  have distinct : (t.scopes.map Scope.name).Nodup :=
    entries.nodup_scopes (Request.nodup_names_firsts calls)
  by_cases same : i = j
  · subst same
    rw [if_pos rfl]
    exact ⟨Value.extract?_embed_self _ leaf id, Value.extract?_embed_self _ leaf id⟩
  · have differs : t.scopes[i].name ≠ t.scopes[j].name := by
      intro named
      exact same (index_eq_of_label distinct named)
    obtain ⟨stateHere, actionHere⟩ := entries.paths_of_mem_scopes (List.getElem_mem i.isLt)
    obtain ⟨stateThere, actionThere⟩ := entries.paths_of_mem_scopes (List.getElem_mem j.isLt)
    rw [if_neg same]
    constructor
    · show (Value.embed t.scopes[i.val].action leaf id).extract? t.scopes[j.val].action = none
      rw [actionHere, actionThere]
      exact t.extract?_embed_actionPath differs _ _ leaf id
    · show (Value.embed t.scopes[i.val].state leaf id).extract? t.scopes[j.val].state = none
      rw [stateHere, stateThere]
      exact t.extract?_embed_statePath differs leaf id

end SymbolTable

end StateWeave
