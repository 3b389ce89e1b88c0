import StateWeave.Proofs.ChildNames
import StateWeave.Proofs.PipelineLayout
import StateWeave.Run.Interpreter

/-!
# The stages of children

Stages are asked for entry by entry, before it is known which placeholders are bound and
which of them a pipeline will run. State members come of the same entries, but those of
placeholders come last. `perm_children_layout` matches the two: the stages that are run
are those that the embeddings of the state members ask for, each of them once.
-/

namespace StateWeave

open Admission

def Wiring.kind : Wiring → StageKind
  | .unconditional => .scope
  | .guarded _ => .ifLet
  | .iterated => .forEach

namespace ChildStage

def unobserved (stage : ChildStage) : ChildStage := { stage with observers := [] }

/-- A stage as it runs in a module of this shape. In a variant nothing runs unless its
case is active. -/
def placedIn (shape : StateShape) (stage : ChildStage) : ChildStage :=
  if shape = .variant ∧ stage.kind = .scope then { stage with kind := .ifCaseLet } else stage

@[simp] theorem name_unobserved (stage : ChildStage) : stage.unobserved.name = stage.name := rfl

@[simp] theorem name_placedIn (shape : StateShape) (stage : ChildStage) :
    (stage.placedIn shape).name = stage.name := by
  rw [placedIn]
  split <;> rfl

theorem unobserved_of_bare {stage : ChildStage} (bare : stage.observers = []) :
    stage.unobserved = stage := by
  rw [unobserved, ← bare]

@[simp] theorem placedIn_record : placedIn .record = id :=
  funext fun _ => if_neg fun h => nomatch h.1

theorem placedIn_of_not_scope {stage : ChildStage} (other : stage.kind ≠ .scope)
    (shape : StateShape) : stage.placedIn shape = stage := if_neg fun h => other h.2

theorem kind_of_ofEmbedding? {name : String} {e : Embedding} {stage : ChildStage}
    (h : ofEmbedding? name e = some stage) :
    ∃ wiring, e.wiring? = some wiring ∧ stage.kind = wiring.kind := by
  obtain ⟨wiring, asked, rfl⟩ := Option.map_eq_some_iff.mp h
  refine ⟨wiring, asked, ?_⟩
  cases wiring <;> rfl

theorem exists_ofEmbedding? (name : String) {e : Embedding} {wiring : Wiring}
    (asked : e.wiring? = some wiring) :
    ∃ stage, ofEmbedding? name e = some stage ∧ stage.kind = wiring.kind := by
  rw [ofEmbedding?, asked]
  cases wiring <;> exact ⟨_, rfl, rfl⟩

theorem observers_of_ofEmbedding? {name : String} {e : Embedding} {stage : ChildStage}
    (h : ofEmbedding? name e = some stage) : stage.observers = [] := by
  obtain ⟨wiring, _, rfl⟩ := Option.map_eq_some_iff.mp h
  cases wiring <;> rfl

theorem module_of_ofEmbedding? {name : String} {e : Embedding} {stage : ChildStage}
    (h : ofEmbedding? name e = some stage) : stage.module = e.moduleType? := by
  obtain ⟨wiring, _, rfl⟩ := Option.map_eq_some_iff.mp h
  cases wiring <;> rfl

end ChildStage

def NamedChild.stage? (c : NamedChild) : Option ChildStage :=
  ChildStage.ofEmbedding? c.name c.embedding

/-- The stage that a state member has in a module of this shape, if it is run at all. -/
def StateMember.stage? (shape : StateShape) (m : StateMember) : Option ChildStage :=
  (ChildStage.ofEmbedding? m.name m.embedding).map (ChildStage.placedIn shape)

def Stage.children : Stage → List ChildStage
  | .child stage => [stage]
  | .core _ modifiers => Run.childrenOf modifiers
  | _ => []

def Pipeline.children (p : Pipeline) : List ChildStage := p.stages.flatMap Stage.children

namespace Layout

def children (l : Layout) : List ChildStage :=
  (match l.shape with
    | .record => l.unconditional
    | .variant => l.unconditional.map fun stage => { stage with kind := .ifCaseLet }) ++
  l.guarded

theorem childrenOf_append (ms ns : List CoreModifier) :
    Run.childrenOf (ms ++ ns) = Run.childrenOf ms ++ Run.childrenOf ns :=
  List.filterMap_append

theorem childrenOf_map_child (stages : List ChildStage) :
    Run.childrenOf (stages.map .child) = stages := by
  simp [Run.childrenOf, List.filterMap_map]

theorem childrenOf_map_observer (observers : List Observer) :
    Run.childrenOf (observers.map .observer) = [] := by
  simp [Run.childrenOf, List.filterMap_map]

/-- Of the children of a layout the front runs some and the core the others. -/
theorem children_stages (l : Layout) : l.stages.flatMap Stage.children = l.children := by
  have silent (fs : List Fragment) : (fs.flatMap fun f => (Stage.fragment f).children) = [] := by
    simp [Stage.children]
  rw [flatMap_stages l rfl rfl, flatMap_front l fun _ => rfl, silent, silent, List.append_nil,
    List.append_nil, Stage.children, modifiers, childrenOf_append, childrenOf_append,
    childrenOf_map_observer, childrenOf_map_child, List.append_nil, ← List.append_assoc, children]
  congr 1
  cases l.shape with
  | record => simp [Stage.children, Run.childrenOf]
  | variant => simp [Run.childrenOf, List.filterMap_map]

end Layout

/-! ## Which stages are run -/

namespace PlaceholderRegistry

/-- The stages that are run of those that were asked for: the unconditional ones, and behind
them the others as far as they are live. -/
def running (r : PlaceholderRegistry) (stages : List ChildStage) : List ChildStage :=
  (stages.filter fun stage => stage.kind = .scope) ++
    (stages.filter fun stage => stage.kind ≠ .scope).filter r.isLive

theorem mem_of_mem_running {r : PlaceholderRegistry} {stages : List ChildStage}
    {stage : ChildStage} (h : stage ∈ r.running stages) : stage ∈ stages := by
  rcases List.mem_append.mp h with early | late
  · exact (List.mem_filter.mp early).1
  · exact (List.mem_filter.mp (List.mem_filter.mp late).1).1

/-- No stage is run twice. -/
theorem nodup_names_running (r : PlaceholderRegistry) {stages : List ChildStage}
    (distinct : (stages.map ChildStage.name).Nodup) :
    ((r.running stages).map ChildStage.name).Nodup := by
  have sorted : ((stages.filter fun stage => stage.kind = .scope) ++
      stages.filter fun stage => stage.kind ≠ .scope).Perm stages := by
    simpa only [decide_not] using List.filter_append_perm (fun s => decide (s.kind = .scope)) stages
  have fewer : (r.running stages).Sublist
      ((stages.filter fun stage => stage.kind = .scope) ++
        stages.filter fun stage => stage.kind ≠ .scope) :=
    List.filter_sublist.append_left _
  rw [← (sorted.map ChildStage.name).nodup_iff] at distinct
  exact (fewer.map ChildStage.name).nodup distinct

/-- But for their observers, the stages of a layout are those that are run of the stages it
was made from, where its shape puts them. -/
theorem map_unobserved_children {r : PlaceholderRegistry} {stages : List ChildStage} {l : Layout}
    (bare : ∀ stage ∈ stages, stage.observers = [])
    (unconditional : l.unconditional.map ChildStage.unobserved =
      stages.filter fun stage => stage.kind = .scope)
    (guarded : l.guarded = (stages.filter fun stage => stage.kind ≠ .scope).filter r.isLive) :
    l.children.map ChildStage.unobserved =
      (r.running stages).map (ChildStage.placedIn l.shape) := by
  have late : l.guarded.map ChildStage.unobserved =
      l.guarded.map (ChildStage.placedIn l.shape) := by
    refine List.map_congr_left fun stage h => ?_
    rw [guarded] at h
    obtain ⟨member, other⟩ := List.mem_filter.mp (List.mem_filter.mp h).1
    rw [ChildStage.unobserved_of_bare (bare stage member),
      ChildStage.placedIn_of_not_scope (of_decide_eq_true other)]
  rw [running, Layout.children, List.map_append, List.map_append, late, guarded, ← unconditional]
  congr 1
  cases l.shape with
  | record => rw [ChildStage.placedIn_record, List.map_id]
  | variant =>
      have moved : (l.unconditional.map ChildStage.unobserved).map (ChildStage.placedIn .variant) =
          (l.unconditional.map ChildStage.unobserved).map fun stage =>
            { stage with kind := .ifCaseLet } := by
        rw [unconditional]
        refine List.map_congr_left fun stage h => if_pos ⟨rfl, ?_⟩
        exact of_decide_eq_true (List.mem_filter.mp h).2
      rw [moved, List.map_map, List.map_map]
      rfl

/-- The stage of a placeholder, if it is presented and bound. -/
def liveStage? (r : PlaceholderRegistry) (p : Placeholder) : Option ChildStage :=
  if p.presentable && r.boundNames.contains p.name then some ⟨.ifLet, p.name, true, none, []⟩
  else none

theorem liveStage?_of_not_local {r : PlaceholderRegistry} {p : Placeholder}
    (nested : p.isLocal = false) : r.liveStage? p = none := by
  have unknown : p.name ∉ r.boundNames := by
    intro known
    obtain ⟨q, member, same⟩ := List.mem_map.mp known
    have own : q.isLocal = true := (List.mem_filter.mp (List.mem_filter.mp member).1).2
    rw [Placeholder.isLocal_congr same, nested] at own
    cases own
  simp [liveStage?, unknown]

theorem mem_boundNames_iff {r : PlaceholderRegistry}
    (distinct : (r.locals.map Placeholder.name).Nodup) {p : Placeholder} (member : p ∈ r.locals) :
    p.name ∈ r.boundNames ↔ p.isBound = true := by
  rw [boundNames, List.mem_map]
  constructor
  · rintro ⟨q, found, same⟩
    obtain ⟨known, bound⟩ := List.mem_filter.mp found
    rwa [List.inj_on_of_nodup_map distinct known member same] at bound
  · exact fun bound => ⟨p, List.mem_filter.mpr ⟨member, bound⟩, rfl⟩

/-- A placeholder that becomes a child asks for the stage that it is run in. -/
theorem bind_stage?_child? {r : PlaceholderRegistry}
    (distinct : (r.locals.map Placeholder.name).Nodup) {p : Placeholder} (member : p ∈ r.locals) :
    p.child?.bind NamedChild.stage? = r.liveStage? p := by
  have live : r.boundNames.contains p.name = p.isBound := by
    rw [Bool.eq_iff_iff, List.contains_iff_mem]
    exact mem_boundNames_iff distinct member
  rw [liveStage?, live, Placeholder.child?, Placeholder.embedding?, Placeholder.isBound]
  cases p.actionType with
  | none => simp
  | some action => cases p.kind <;> cases p.presentable <;> rfl

end PlaceholderRegistry

namespace ChildEntry

variable (policy : Policy) (resolver : Resolver)

theorem wiring?_stateEmbedding (e : ChildEntry) (type : TypeRef) :
    (e.stateEmbedding resolver type).wiring? = none := by
  cases type <;> rfl

theorem isSome_moduleType?_moduleEmbedding (e : ChildEntry) (type : TypeRef) (module : String) :
    (e.moduleEmbedding type module).moduleType?.isSome = true := by
  rw [moduleEmbedding]
  repeat' split
  all_goals rfl

/-- Only alerts and dialogs are run without a module, and no entry enters those itself. -/
theorem isSome_moduleType?_of_child? {e : ChildEntry} {c : NamedChild}
    (h : e.child? policy resolver = some c) (run : c.embedding.wiring?.isSome = true) :
    c.embedding.moduleType?.isSome = true := by
  rcases child?_cases h with ⟨_, _, _, list⟩ | ⟨_, _, _, stack⟩ | empty |
    ⟨type, value, _⟩ | ⟨type, module, made⟩
  · rw [list]
    rfl
  · rw [stack]
    rfl
  · rw [empty] at run
    cases run
  · rw [value, wiring?_stateEmbedding] at run
    cases run
  · rw [made]
    exact isSome_moduleType?_moduleEmbedding e type module

theorem isSome_module_of_stage? {e : ChildEntry} {c : NamedChild}
    (h : e.child? policy resolver = some c) {stage : ChildStage} (asked : c.stage? = some stage) :
    stage.module.isSome = true := by
  have run : c.embedding.wiring?.isSome = true := by
    have some : (ChildStage.ofEmbedding? c.name c.embedding).isSome = true := by
      rw [← NamedChild.stage?, asked]
      rfl
    rwa [ChildStage.ofEmbedding?, Option.isSome_map] at some
  rw [ChildStage.module_of_ofEmbedding? asked]
  exact isSome_moduleType?_of_child? policy resolver h run

theorem filter_isLive_of_child? {e : ChildEntry} {c : NamedChild} (r : PlaceholderRegistry)
    (h : e.child? policy resolver = some c) : c.stage?.filter r.isLive = c.stage? := by
  cases asked : c.stage? with
  | none => rfl
  | some stage =>
      have live : r.isLive stage = true := by
        rw [PlaceholderRegistry.isLive, isSome_module_of_stage? policy resolver h asked,
          Bool.true_or]
      exact Option.filter_some_pos live

/-- At the root every child is run as its embedding asks. -/
theorem stage?_of_child? {e : ChildEntry} {c : NamedChild}
    (h : e.child? policy resolver = some c) : e.stage? policy resolver true = c.stage? := by
  rw [child?] at h
  rw [stage?]
  cases plan : e.plan policy resolver with
  | list name embedding children =>
      rw [plan] at h
      cases h
      rfl
  | child name embedding initialValue dropped =>
      rw [plan] at h
      cases h
      rfl
  | _ =>
      rw [plan] at h
      cases h

/-- An entry that asks for a stage asks for the same one at the root. -/
theorem stage?_true_of_stage? {e : ChildEntry} {isRoot : Bool} {stage : ChildStage}
    (h : e.stage? policy resolver isRoot = some stage) :
    e.stage? policy resolver true = some stage := by
  rw [stage?] at h ⊢
  cases plan : e.plan policy resolver with
  | list name embedding children =>
      simp only [plan, Option.ite_none_right_eq_some] at h
      exact h.2
  | _ => simpa only [plan] using h

theorem stage?_of_own? {e : ChildEntry} {p : Placeholder} (isRoot : Bool)
    (h : e.own? policy resolver = some p) :
    e.stage? policy resolver isRoot =
      if p.presentable then some ⟨.ifLet, p.name, true, none, []⟩ else none := by
  rw [own?] at h
  rw [stage?]
  cases plan : e.plan policy resolver with
  | placeholder kind name =>
      rw [plan] at h
      cases h
      rfl
  | _ =>
      rw [plan] at h
      cases h

theorem stage?_of_neither {e : ChildEntry} (isRoot : Bool)
    (child : e.child? policy resolver = none) (own : e.own? policy resolver = none) :
    e.stage? policy resolver isRoot = none := by
  rw [child?] at child
  rw [own?] at own
  rw [stage?]
  cases plan : e.plan policy resolver with
  | refused => rfl
  | placeholder =>
      rw [plan] at own
      cases own
  | _ =>
      rw [plan] at child
      cases child

/-- The stage of an entry is that of its child or that of its placeholder. -/
theorem stage?_cases {e : ChildEntry} {isRoot : Bool} {stage : ChildStage}
    (h : e.stage? policy resolver isRoot = some stage) :
    (∃ c, e.child? policy resolver = some c ∧ c.stage? = some stage) ∨
      ∃ p, e.own? policy resolver = some p ∧ stage = ⟨.ifLet, p.name, true, none, []⟩ := by
  have asked := stage?_true_of_stage? policy resolver h
  cases child : e.child? policy resolver with
  | some c =>
      rw [stage?_of_child? policy resolver child] at asked
      exact Or.inl ⟨c, rfl, asked⟩
  | none =>
      cases own : e.own? policy resolver with
      | none =>
          rw [stage?_of_neither policy resolver true child own] at asked
          cases asked
      | some p =>
          rw [stage?_of_own? policy resolver true own] at asked
          obtain ⟨_, same⟩ := Option.ite_none_right_eq_some.mp asked
          exact Or.inr ⟨p, rfl, (Option.some.inj same).symm⟩

/-- The stage of an entry, as far as it is run: that of its child, or that of its
placeholder if it is bound. -/
theorem filter_isLive_stage? (r : PlaceholderRegistry) (e : ChildEntry) :
    (e.stage? policy resolver true).filter r.isLive =
      ((e.child? policy resolver).bind NamedChild.stage?).or
        ((e.own? policy resolver).bind r.liveStage?) := by
  cases child : e.child? policy resolver with
  | some c =>
      have own : e.own? policy resolver = none := own?_of_child? (by rw [child]; rfl)
      rw [stage?_of_child? policy resolver child, filter_isLive_of_child? policy resolver r child,
        own]
      exact (Option.or_none).symm
  | none =>
      cases own : e.own? policy resolver with
      | none =>
          rw [stage?_of_neither policy resolver true child own]
          rfl
      | some p =>
          rw [stage?_of_own? policy resolver true own]
          cases presented : p.presentable with
          | false => simp [PlaceholderRegistry.liveStage?, presented]
          | true =>
              simp [PlaceholderRegistry.liveStage?, presented, PlaceholderRegistry.isLive,
                Option.filter]

end ChildEntry

namespace Composition

variable (policy : Policy) (resolver : Resolver) (c : Composition) (members : List Member)

/-- The stages that bound placeholders ask for as children are those that their entries
asked for, as far as they are run. -/
theorem filterMap_stage?_children :
    (c.settled policy resolver members).children.filterMap NamedChild.stage? =
      ((c.entries policy resolver).filterMap (ChildEntry.own? policy resolver)).filterMap
        (c.settled policy resolver members).liveStage? := by
  have distinct := c.nodup_names_locals policy resolver members
  have outline := c.outline_settled policy resolver members
  have declared := c.locals_declared policy resolver
  generalize c.settled policy resolver members = r at *
  have live : ∀ p ∈ r.locals, p.child?.bind NamedChild.stage? = r.liveStage? p :=
    fun p member => PlaceholderRegistry.bind_stage?_child? distinct member
  have bare (ps : List Placeholder) :
      ps.filterMap r.liveStage? = (ps.map Placeholder.bare).filterMap r.liveStage? := by
    rw [List.filterMap_map]
    rfl
  have locals : ((c.entries policy resolver).filterMap (ChildEntry.own? policy resolver)).filterMap
      r.liveStage? = (c.declared policy resolver).locals.filterMap r.liveStage? := by
    rw [declared, List.filterMap_filter]
    refine List.filterMap_congr fun p _ => ?_
    cases own : p.isLocal with
    | true => rfl
    | false => rw [PlaceholderRegistry.liveStage?_of_not_local own]; rfl
  rw [PlaceholderRegistry.children, List.filterMap_filterMap, List.filterMap_congr live, locals,
    bare, bare (c.declared policy resolver).locals, PlaceholderRegistry.map_bare_locals,
    PlaceholderRegistry.map_bare_locals, outline]

/-- The stages that are run are those that the children of the module ask for. -/
theorem perm_live_stages :
    ((c.stages policy resolver true).filter (c.settled policy resolver members).isLive).Perm
      ((c.embedded policy resolver members).filterMap NamedChild.stage?) := by
  have stages (e : ChildEntry) := ChildEntry.filter_isLive_stage? policy resolver
    (c.settled policy resolver members) e
  have disjoint : ∀ e : ChildEntry,
      ((e.child? policy resolver).bind NamedChild.stage?).isSome →
        (e.own? policy resolver).bind (c.settled policy resolver members).liveStage? = none := by
    intro e h
    have child : (e.child? policy resolver).isSome := Option.isSome_of_isSome_bind h
    rw [ChildEntry.own?_of_child? child]
    rfl
  rw [Composition.stages, List.filter_filterMap, funext stages, embedded, List.filterMap_append,
    filterMap_stage?_children, List.filterMap_filterMap, List.filterMap_filterMap]
  exact perm_filterMap_or disjoint _

/-- A stage that an entry asks for has no observers yet, and one that runs on every action
has a module. -/
theorem stage_of_mem_stages {isRoot : Bool} {stage : ChildStage}
    (h : stage ∈ c.stages policy resolver isRoot) :
    stage.observers = [] ∧ (stage.kind = .scope → stage.module.isSome = true) := by
  obtain ⟨e, _, asked⟩ := List.mem_filterMap.mp h
  rcases ChildEntry.stage?_cases policy resolver asked with ⟨d, child, wanted⟩ | ⟨p, _, rfl⟩
  · exact ⟨ChildStage.observers_of_ofEmbedding? wanted,
      fun _ => ChildEntry.isSome_module_of_stage? policy resolver child wanted⟩
  · exact ⟨rfl, fun kind => nomatch kind⟩

/-- No entry asks to be run while its case is active; that is up to the shape. -/
theorem kind_of_mem_stages {isRoot : Bool} {stage : ChildStage}
    (h : stage ∈ c.stages policy resolver isRoot) : stage.kind ≠ .ifCaseLet := by
  obtain ⟨e, _, asked⟩ := List.mem_filterMap.mp h
  rcases ChildEntry.stage?_cases policy resolver asked with ⟨d, child, wanted⟩ | ⟨p, _, rfl⟩
  · obtain ⟨wiring, _, kind⟩ := ChildStage.kind_of_ofEmbedding? wanted
    rw [kind]
    cases wiring <;> exact nofun
  · exact nofun

/-- The stages of the children that are wired into a module's pipeline. -/
def wired (isRoot : Bool) : List ChildStage :=
  (c.settled policy resolver members).running (c.stages policy resolver isRoot)

theorem nodup_names_wired (isRoot : Bool) :
    ((c.wired policy resolver members isRoot).map ChildStage.name).Nodup :=
  PlaceholderRegistry.nodup_names_running _ (c.nodup_stageNames policy resolver isRoot)

/-- The stages of children in a layout are those that are wired, where the shape of the
module puts them. -/
theorem map_unobserved_children_layout (isRoot : Bool) :
    (c.layout policy resolver isRoot members).children.map ChildStage.unobserved =
      (c.wired policy resolver members isRoot).map (ChildStage.placedIn c.shape) := by
  have bare : ∀ stage ∈ c.stages policy resolver isRoot, stage.observers = [] :=
    fun stage h => (c.stage_of_mem_stages policy resolver h).1
  refine PlaceholderRegistry.map_unobserved_children bare ?_ rfl
  refine List.map_map.trans ((List.map_congr_left fun stage h => ?_).trans (List.map_id _))
  exact ChildStage.unobserved_of_bare (bare stage (List.mem_filter.mp h).1)

/-- The stages of children in a layout are those that the children of the module ask for,
once each. -/
theorem perm_children_layout :
    ((c.layout policy resolver true members).children.map ChildStage.unobserved).Perm
      ((c.embedded policy resolver members).filterMap fun child =>
        child.stage?.map (ChildStage.placedIn c.shape)) := by
  let stages := c.stages policy resolver true
  let isLive := (c.settled policy resolver members).isLive
  have early : (stages.filter fun stage => stage.kind = .scope) =
      (stages.filter isLive).filter fun stage => stage.kind = .scope := by
    rw [List.filter_filter]
    refine List.filter_congr fun stage h => ?_
    have run := (c.stage_of_mem_stages policy resolver h).2
    by_cases kind : stage.kind = .scope
    · simp [kind, isLive, PlaceholderRegistry.isLive, run kind]
    · simp [kind]
  have late : (stages.filter fun stage => stage.kind ≠ .scope).filter isLive =
      (stages.filter isLive).filter fun stage => !decide (stage.kind = .scope) := by
    rw [List.filter_filter, List.filter_filter]
    refine List.filter_congr fun stage _ => ?_
    rw [decide_not, Bool.and_comm]
  have live := c.perm_live_stages policy resolver members
  have all := (List.filter_append_perm (fun stage => decide (stage.kind = .scope))
    (stages.filter isLive)).trans live
  have stagesOf : (c.embedded policy resolver members).filterMap (fun child =>
      child.stage?.map (ChildStage.placedIn c.shape)) =
        ((c.embedded policy resolver members).filterMap NamedChild.stage?).map
          (ChildStage.placedIn c.shape) := List.map_filterMap.symm
  rw [map_unobserved_children_layout, stagesOf]
  change ((stages.filter fun stage => stage.kind = .scope) ++
    (stages.filter fun stage => stage.kind ≠ .scope).filter isLive).map _ |>.Perm _
  rw [early, late]
  exact all.map _

/-- A placeholder that nothing binds leaves its name unused. -/
theorem not_mem_names_embedded {p : Placeholder}
    (own : p ∈ (c.settled policy resolver members).locals) (unbound : p.isBound = false) :
    p.name ∉ (c.embedded policy resolver members).map NamedChild.name := by
  have distinct := c.nodup_claims_entries policy resolver
  rw [(ChildEntry.perm_claims policy resolver _).nodup_iff] at distinct
  have taken : p.name ∈ ((c.entries policy resolver).filterMap
      (ChildEntry.own? policy resolver)).map Placeholder.name :=
    (c.sublist_names_locals policy resolver members).mem (List.mem_map_of_mem own)
  rw [embedded, List.map_append, PlaceholderRegistry.map_name_children, List.mem_append]
  rintro (early | late)
  · exact (List.nodup_append.mp distinct).2.2 _ early _ taken rfl
  · rw [PlaceholderRegistry.mem_boundNames_iff (c.nodup_names_locals policy resolver members) own,
      unbound] at late
    cases late

/-- Stages of children have names of children. -/
theorem name_mem_embedded_of_mem_children {stage : ChildStage}
    (h : stage ∈ (c.layout policy resolver true members).children) :
    stage.name ∈ (c.embedded policy resolver members).map NamedChild.name := by
  have asked := (c.perm_children_layout policy resolver members).mem_iff.mp
    (List.mem_map_of_mem h)
  obtain ⟨child, member, placed⟩ := List.mem_filterMap.mp asked
  obtain ⟨wanted, found, same⟩ := Option.map_eq_some_iff.mp placed
  have name : stage.name = child.name := by
    rw [← ChildStage.name_unobserved, ← same, ChildStage.name_placedIn]
    exact ChildStage.name_of_ofEmbedding? found
  rw [name]
  exact List.mem_map_of_mem member

end Composition

/-! ## The pipeline of a root module -/

namespace Expansion

/-- The pipeline of a root module is laid out as its composition and its members say. Its
stages of children are those that the state members ask for, each of them once, and no
stage is left of a placeholder that nothing binds. -/
theorem pipeline_layout (policy : Policy) (resolver : Resolver) {definition : ModuleDef}
    {c : Composition} (single : definition.directives = [c])
    (root : definition.placement = .root) (generated : definition.hasBody = false) :
    ∃ p, (Expansion.ofModule policy resolver definition).pipeline? = some p ∧
      p.access = definition.access ∧
      p.stages = (c.layout policy resolver true definition.members).stages ∧
      (p.children.map ChildStage.unobserved).Perm
        ((SymbolTable.ofModule policy resolver definition c).stateMembers.filterMap
          (StateMember.stage? c.shape)) ∧
      ((SymbolTable.ofModule policy resolver definition c).stateMembers.map
        StateMember.name).Nodup ∧
      ∀ placeholder ∈ (SymbolTable.ofModule policy resolver definition c).localPlaceholders,
        placeholder.isBound = false →
          placeholder.name ∉ p.children.map ChildStage.name := by
  have made := pipeline?_ofModule policy resolver single generated
  rw [root] at made
  have members := SymbolTable.stateMembers_ofModule policy resolver definition c
  have stages : (SymbolTable.ofModule policy resolver definition c).stateMembers.filterMap
      (StateMember.stage? c.shape) =
        (c.embedded policy resolver definition.members).filterMap fun child =>
          child.stage?.map (ChildStage.placedIn c.shape) := by
    rw [members, List.filterMap_map]
    rfl
  have run := c.perm_children_layout policy resolver definition.members
  have names : (SymbolTable.ofModule policy resolver definition c).stateMembers.map
      StateMember.name =
        (c.embedded policy resolver definition.members).map NamedChild.name := by
    rw [members, List.map_map]
    rfl
  refine ⟨_, made, rfl, rfl, ?_, ?_, ?_⟩
  · rw [stages, Pipeline.children, Layout.children_stages]
    exact run
  · rw [names]
    exact c.nodup_names_embedded policy resolver definition.members
  · intro placeholder own unbound running
    rw [SymbolTable.localPlaceholders, SymbolTable.placeholders_ofModule] at own
    rw [Pipeline.children, Layout.children_stages] at running
    obtain ⟨stage, member, same⟩ := List.mem_map.mp running
    have named := c.name_mem_embedded_of_mem_children policy resolver definition.members member
    rw [same] at named
    exact c.not_mem_names_embedded policy resolver definition.members own unbound named

/-- A screen with a collection before its header, a second header that is turned away, and
two presented placeholders of which one is bound. -/
def screen : ModuleDef where
  name := "Screen"
  directives := [{
    options := [.bindable]
    children := [
      ⟨.identifiedArray, false, some (.string "rows"), some (.named "Row"), none, {}⟩,
      ⟨.reducer, false, some (.string "header"), some (.named "Header"), none, {}⟩,
      ⟨.alert, true, some (.string "warning"), none, none, {}⟩,
      ⟨.confirmationDialog, true, some (.string "question"), none, none, {}⟩,
      ⟨.reducer, true, some (.string "header"), some (.named "Other"), none, {}⟩] }]
  members := [.type {
    name := "Warning"
    form := .enum
    attributes := [{ name := "compose_action_alert_case" }] }]

theorem pipeline_layout_screen :
    ∃ p, (Expansion.ofModule {} .textual screen).pipeline? = some p ∧
      p.stages = [
        .binding [],
        .child ⟨.scope, "header", false, some "Header", []⟩,
        .core [] [
          .child ⟨.forEach, "rows", false, some "Row", []⟩,
          .child ⟨.ifLet, "warning", true, none, []⟩]] := by
  have single : screen.directives = [_] := rfl
  have generated : screen.hasBody = false := by decide
  obtain ⟨p, made, _, stages, _⟩ := pipeline_layout {} .textual single rfl generated
  refine ⟨p, made, ?_⟩
  rw [stages]
  decide

end Expansion

end StateWeave
