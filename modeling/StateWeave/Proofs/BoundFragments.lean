import StateWeave.Proofs.BindingReports
import StateWeave.Proofs.FragmentOrder
import StateWeave.Proofs.NestedPipelines

/-!
# Fragments that bind a placeholder

While members are read, a fragment that binds a placeholder holds a slot in the queue of
bindings. No slot is left in any pipeline. What takes its place is said by `SettlesTo`, which
knows neither slots nor a queue: every binding is made where it stands, its fragment goes to the
placeholder that it finds, and a binding that finds nothing takes its fragment along.
-/

namespace StateWeave

open Admission

/-! ## Contributions one after the other -/

namespace Contribution

/-- What contributions come to where placeholders stand as in a registry: the fragments that
are left of them, each with where it runs, and the bindings that find nothing. -/
inductive SettlesTo : PlaceholderRegistry → List Contribution → List (Position × Fragment) →
    List PendingBinding → Prop
  | done {r : PlaceholderRegistry} : SettlesTo r [] [] []
  | fragment {r : PlaceholderRegistry} {position : Position} {f : Fragment}
      {cs : List Contribution} {fs : List (Position × Fragment)} {lost : List PendingBinding} :
      SettlesTo r cs fs lost → SettlesTo r (.fragment position f :: cs) ((position, f) :: fs) lost
  | actionFragment {r : PlaceholderRegistry} {position : Position} {name type : String}
      {location : Location} {f : Fragment} {cs : List Contribution}
      {fs : List (Position × Fragment)} {lost : List PendingBinding} :
      SettlesTo r cs fs lost →
        SettlesTo r (.actionFragment position name type location f :: cs) ((position, f) :: fs) lost
  /-- A fragment goes to the placeholder that its own binding finds. -/
  | boundFragment {r : PlaceholderRegistry} {position : Position} {b : PendingBinding}
      {f : Fragment} {p : Placeholder} {cs : List Contribution}
      {fs : List (Position × Fragment)} {lost : List PendingBinding} :
      r.Finds b p → SettlesTo (r.assign p.name b.actionType) cs fs lost →
        SettlesTo r (.boundFragment position b f :: cs)
          ((position, { f with routing := .action p.path }) :: fs) lost
  | binding {r : PlaceholderRegistry} {b : PendingBinding} {p : Placeholder}
      {cs : List Contribution} {fs : List (Position × Fragment)} {lost : List PendingBinding} :
      r.Finds b p → SettlesTo (r.assign p.name b.actionType) cs fs lost →
        SettlesTo r (.binding b :: cs) fs lost
  /-- A binding that finds nothing is lost, and so is its fragment if it has one. -/
  | lost {r : PlaceholderRegistry} {c : Contribution} {b : PendingBinding}
      {cs : List Contribution} {fs : List (Position × Fragment)} {lost : List PendingBinding} :
      c.binding? = some b → (∀ p, ¬r.Finds b p) → SettlesTo r cs fs lost →
        SettlesTo r (c :: cs) fs (b :: lost)
  | other {r : PlaceholderRegistry} {c : Contribution} {cs : List Contribution}
      {fs : List (Position × Fragment)} {lost : List PendingBinding} :
      c.written? = none → c.binding? = none → SettlesTo r cs fs lost →
        SettlesTo r (c :: cs) fs lost

end Contribution

namespace PlaceholderRegistry

variable {r : PlaceholderRegistry} {b : PendingBinding} {p : Placeholder}

theorem failures_cons_of_finds (distinct : r.names.Nodup) (found : r.Finds b p)
    (queue : List PendingBinding) :
    r.failures (b :: queue) = (r.assign p.name b.actionType).failures queue := by
  rw [failures, (target_eq_ok_iff distinct).mpr found, settle_of_finds distinct found]

theorem failures_cons_of_missing (distinct : r.names.Nodup) (missing : ∀ p, ¬r.Finds b p)
    (queue : List PendingBinding) :
    ∃ error, r.failures (b :: queue) = (b, error) :: r.failures queue := by
  cases target : r.target b.kind b.name with
  | ok p => exact absurd ((target_eq_ok_iff distinct).mp target) (missing p)
  | error error =>
      refine ⟨error, ?_⟩
      rw [failures, target, settle_of_missing distinct missing]

end PlaceholderRegistry

namespace Contribution

variable {r : PlaceholderRegistry} {c : Contribution} {cs : List Contribution}

/-- The bindings of contributions that find nothing when it is their turn. -/
def lostBindings (r : PlaceholderRegistry) (cs : List Contribution) : List PendingBinding :=
  (r.failures (cs.filterMap binding?)).map Prod.fst

theorem lostBindings_of_silent (silent : c.binding? = none) :
    lostBindings r (c :: cs) = lostBindings r cs := by
  rw [lostBindings, List.filterMap_cons_none silent, lostBindings]

theorem lostBindings_of_finds (distinct : r.names.Nodup) {b : PendingBinding} {p : Placeholder}
    (asked : c.binding? = some b) (found : r.Finds b p) :
    lostBindings r (c :: cs) = lostBindings (r.assign p.name b.actionType) cs := by
  rw [lostBindings, List.filterMap_cons_some asked,
    PlaceholderRegistry.failures_cons_of_finds distinct found, lostBindings]

theorem lostBindings_of_missing (distinct : r.names.Nodup) {b : PendingBinding}
    (asked : c.binding? = some b) (missing : ∀ p, ¬r.Finds b p) :
    lostBindings r (c :: cs) = b :: lostBindings r cs := by
  obtain ⟨error, failed⟩ :=
    PlaceholderRegistry.failures_cons_of_missing distinct missing (cs.filterMap binding?)
  rw [lostBindings, List.filterMap_cons_some asked, failed, List.map_cons, lostBindings]

theorem placed_of_silent (silent : c.binding? = none) :
    placed r (c :: cs) = (c.placed? r).toList ++ placed r cs := by
  rw [placed, silent]
  rfl

theorem placed_of_missing (distinct : r.names.Nodup) {b : PendingBinding}
    (asked : c.binding? = some b) (missing : ∀ p, ¬r.Finds b p) :
    placed r (c :: cs) = placed r cs := by
  have gone : c.placed? r = none := by
    cases c with
    | boundFragment position pending f =>
        cases asked
        rw [placed?, PlaceholderRegistry.routeOf?_of_missing distinct missing, Option.map_none]
    | binding => rfl
    | _ => cases asked
  have unchanged : r.settle c.binding?.toList = r := by
    rw [asked]
    exact PlaceholderRegistry.settle_of_missing distinct missing
  rw [placed, gone, unchanged]
  rfl

theorem placed_append (r : PlaceholderRegistry) (cs ds : List Contribution) :
    placed r (cs ++ ds) = placed r cs ++ placed (r.settle (cs.filterMap binding?)) ds := by
  induction cs generalizing r with
  | nil => rfl
  | cons c cs ih =>
      rw [List.cons_append, placed, placed, ih, filterMap_cons_toList,
        PlaceholderRegistry.settle_append, List.append_assoc]

/-- A fragment goes to the placeholder that its binding finds when it is its turn. -/
theorem mem_placed_of_finds (distinct : r.names.Nodup) {front back : List Contribution}
    {position : Position} {b : PendingBinding} {f : Fragment} {p : Placeholder}
    (found : (r.settle (front.filterMap binding?)).Finds b p) :
    (position, { f with routing := .action p.path }) ∈
      placed r (front ++ .boundFragment position b f :: back) := by
  have route := PlaceholderRegistry.routeOf?_of_finds
    (PlaceholderRegistry.nodup_names_settle distinct _) found
  rw [placed_append, placed, placed?, route]
  exact List.mem_append_right _ List.mem_cons_self

/-- Placing fragments while bindings are made is what `SettlesTo` says. -/
theorem settlesTo_placed (distinct : r.names.Nodup) (cs : List Contribution) :
    SettlesTo r cs (placed r cs) (lostBindings r cs) := by
  induction cs generalizing r with
  | nil => exact .done
  | cons c cs ih =>
      cases asked : c.binding? with
      | none =>
          rw [placed_of_silent asked, lostBindings_of_silent asked]
          cases c with
          | fragment position f => exact .fragment (ih distinct)
          | actionFragment position name type location f => exact .actionFragment (ih distinct)
          | binding | boundFragment => cases asked
          | _ => exact .other rfl asked (ih distinct)
      | some b =>
          by_cases find : ∃ p, r.Finds b p
          · obtain ⟨p, found⟩ := find
            have settled := PlaceholderRegistry.settle_of_finds distinct found
            have still : (r.assign p.name b.actionType).names.Nodup := by
              rwa [PlaceholderRegistry.names_assign]
            rw [lostBindings_of_finds distinct asked found, placed, asked, Option.toList_some,
              settled]
            cases c with
            | binding pending =>
                cases asked
                exact .binding found (ih still)
            | boundFragment position pending f =>
                cases asked
                rw [placed?, PlaceholderRegistry.routeOf?_of_finds distinct found]
                exact .boundFragment found (ih still)
            | _ => cases asked
          · have missing := not_exists.mp find
            rw [lostBindings_of_missing distinct asked missing,
              placed_of_missing distinct asked missing]
            exact .lost asked missing (ih distinct)

/-- A fragment in its place is one that a contribution brings, or the fragment of a binding that
has found its placeholder when it was its turn. -/
theorem mem_placed_cases {position : Position} {f : Fragment} (distinct : r.names.Nodup)
    (member : (position, f) ∈ placed r cs) :
    .fragment position f ∈ cs ∨
      (∃ name type location, .actionFragment position name type location f ∈ cs) ∨
      ∃ front b g back p, cs = front ++ .boundFragment position b g :: back ∧
        (r.settle (front.filterMap binding?)).Finds b p ∧
        f = { g with routing := .action p.path } := by
  induction cs generalizing r with
  | nil => cases member
  | cons c cs ih =>
      rw [placed] at member
      rcases List.mem_append.mp member with here | later
      · have place := Option.mem_toList.mp here
        cases c with
        | fragment _ g =>
            cases place
            exact Or.inl List.mem_cons_self
        | actionFragment _ name type location g =>
            cases place
            exact Or.inr (Or.inl ⟨name, type, location, List.mem_cons_self⟩)
        | boundFragment _ b g =>
            obtain ⟨path, route, same⟩ := Option.map_eq_some_iff.mp place
            cases same
            by_cases find : ∃ p, r.Finds b p
            · obtain ⟨p, found⟩ := find
              rw [PlaceholderRegistry.routeOf?_of_finds distinct found] at route
              cases route
              exact Or.inr (Or.inr ⟨[], b, g, cs, p, rfl, found, rfl⟩)
            · rw [PlaceholderRegistry.routeOf?_of_missing distinct (not_exists.mp find)] at route
              cases route
        | _ => cases place
      · rcases ih (PlaceholderRegistry.nodup_names_settle distinct _) later with
          plain | ⟨name, type, location, acts⟩ | ⟨front, b, g, back, p, rfl, found, routed⟩
        · exact Or.inl (List.mem_cons_of_mem _ plain)
        · exact Or.inr (Or.inl ⟨name, type, location, List.mem_cons_of_mem _ acts⟩)
        · refine Or.inr (Or.inr ⟨c :: front, b, g, back, p, rfl, ?_, routed⟩)
          rwa [filterMap_cons_toList, PlaceholderRegistry.settle_append]

/-- No fragment keeps a slot. -/
theorem slot?_of_mem_placed {position : Position} {f : Fragment} (distinct : r.names.Nodup)
    (unslotted : ∀ c ∈ cs, ∀ f, c.written? = some f → f.routing.slot? = none)
    (member : (position, f) ∈ placed r cs) : f.routing.slot? = none := by
  rcases mem_placed_cases distinct member with
    plain | ⟨_, _, _, acts⟩ | ⟨_, _, _, _, _, _, _, rfl⟩
  · exact unslotted _ plain f rfl
  · exact unslotted _ acts f rfl
  · rfl

/-! ## Observers of members -/

/-- An observer comes from a function with the directive of observers, and calls it. -/
theorem OfFunction.observer_eq {scopes : List String} {decl : FunctionDecl} {a : Attribute}
    {d : Directive} {c : Contribution} (made : OfFunction scopes decl a d c)
    {attachment : Attachment} {o : Observer} (h : c.observer? attachment = some o) :
    d = .onChange ∧ o.fragment = Fragment.call scopes decl := by
  cases made with
  | observer =>
      rw [observer?, Option.ite_none_right_eq_some] at h
      cases h.2
      exact ⟨rfl, rfl⟩
  | _ => cases h

/-- An observer watches the state, and no action is kept from it. -/
theorem routing_of_ofVisit {v : Visit} {attachment : Attachment} {o : Observer}
    (h : (ofVisit v).observer? attachment = some o) : o.fragment.routing = .any := by
  rcases ofVisit_cases v with ⟨decl, d, a, _, _, _, made⟩ | ⟨_, silent⟩
  · rw [(made.observer_eq h).2]
    rfl
  · rw [silent] at h
    cases h

end Contribution

/-! ## All that a pipeline calls -/

def CoreModifier.calls : CoreModifier → List Fragment
  | .child stage => stage.observers.map Observer.fragment
  | .observer o => [o.fragment]

/-- The fragments that a stage can call, those of observers included. -/
def Stage.calls : Stage → List Fragment
  | .empty => []
  | .binding observers => observers.map Observer.fragment
  | .fragment f => [f]
  | .child stage => stage.observers.map Observer.fragment
  | .core fragments modifiers => fragments ++ modifiers.flatMap CoreModifier.calls

def Pipeline.calls (p : Pipeline) : List Fragment := p.stages.flatMap Stage.calls

def CoreModifier.observers : CoreModifier → List Observer
  | .child stage => stage.observers
  | .observer o => [o]

def Stage.observers : Stage → List Observer
  | .binding observers => observers
  | .child stage => stage.observers
  | .core _ modifiers => modifiers.flatMap CoreModifier.observers
  | _ => []

def Pipeline.observers (p : Pipeline) : List Observer := p.stages.flatMap Stage.observers

theorem CoreModifier.calls_eq (modifier : CoreModifier) :
    modifier.calls = modifier.observers.map Observer.fragment := by
  cases modifier <;> rfl

theorem Stage.calls_eq (stage : Stage) :
    stage.calls = stage.fragments ++ stage.observers.map Observer.fragment := by
  cases stage with
  | core fragments modifiers =>
      rw [calls, observers, List.map_flatMap]
      exact congrArg (fragments ++ ·) (List.flatMap_congr fun m _ => m.calls_eq)
  | _ => simp [calls, fragments, observers]

/-- What stages call is a fragment of their own or that of an observer. -/
theorem Stage.mem_calls_cases {stages : List Stage} {f : Fragment}
    (h : f ∈ stages.flatMap Stage.calls) :
    f ∈ stages.flatMap Stage.fragments ∨
      f ∈ (stages.flatMap Stage.observers).map Observer.fragment := by
  obtain ⟨stage, stands, calls⟩ := List.mem_flatMap.mp h
  rw [calls_eq, List.mem_append] at calls
  refine calls.imp (fun own => List.mem_flatMap.mpr ⟨stage, stands, own⟩) fun observer => ?_
  obtain ⟨o, watches, rfl⟩ := List.mem_map.mp observer
  exact List.mem_map_of_mem (List.mem_flatMap.mpr ⟨stage, stands, watches⟩)

namespace Layout

def allObservers (l : Layout) : List Observer :=
  l.binding.getD [] ++ (l.unconditional ++ l.guarded).flatMap ChildStage.observers ++ l.observers

/-- The observers before the core: those of two-way bindings, and in a record those of the
children that run first. -/
theorem observers_front (l : Layout) :
    l.front.flatMap Stage.observers =
      l.binding.getD [] ++
        match l.shape with
        | .record => l.unconditional.flatMap ChildStage.observers
        | .variant => [] := by
  have binding : (l.binding.toList.map Stage.binding).flatMap Stage.observers =
      l.binding.getD [] := by
    cases l.binding with
    | none => rfl
    | some os => exact List.append_nil os
  have before : (l.before.map Stage.fragment).flatMap Stage.observers = [] := by
    simp [List.flatMap_map, Stage.observers]
  rw [front, List.flatMap_append, List.flatMap_append, binding, before, List.append_nil]
  cases l.shape with
  | record => simp [List.flatMap_map, Stage.observers]
  | variant => rfl

/-- The observers around the core: those of children that are guarded, in a variant those of all
children, and those of the core itself. -/
theorem observers_modifiers (l : Layout) :
    l.modifiers.flatMap CoreModifier.observers =
      (match l.shape with
        | .record => []
        | .variant => l.unconditional.flatMap ChildStage.observers) ++
      l.guarded.flatMap ChildStage.observers ++ l.observers := by
  have own : (l.observers.map CoreModifier.observer).flatMap CoreModifier.observers =
      l.observers := by
    simp [List.flatMap_map, CoreModifier.observers]
  rw [modifiers, List.flatMap_append, List.flatMap_append, own]
  cases l.shape with
  | record => simp [List.flatMap_map, CoreModifier.observers]
  | variant => simp [List.flatMap_map, CoreModifier.observers]

/-- The observers in the stages of a layout are all that it has. -/
theorem mem_observers_stages (l : Layout) (o : Observer) :
    o ∈ l.stages.flatMap Stage.observers ↔ o ∈ l.allObservers := by
  have core : (Stage.core l.core l.modifiers).observers =
      l.modifiers.flatMap CoreModifier.observers := rfl
  have after : (l.after.flatMap fun f => (Stage.fragment f).observers) = [] := by
    simp [Stage.observers]
  rw [flatMap_stages l rfl rfl, observers_front, core, observers_modifiers, after, allObservers,
    List.flatMap_append]
  cases l.shape <;> simp only [List.mem_append, List.not_mem_nil, or_false, false_or, or_assoc]

/-- What a layout calls is a fragment of its own or that of an observer. -/
theorem mem_calls_stages {l : Layout} {f : Fragment} (h : f ∈ l.stages.flatMap Stage.calls) :
    f ∈ l.before ++ l.core ++ l.after ∨ f ∈ l.allObservers.map Observer.fragment := by
  rw [← fragments_stages]
  refine (Stage.mem_calls_cases h).imp_right fun observer => ?_
  obtain ⟨o, among, rfl⟩ := List.mem_map.mp observer
  exact List.mem_map_of_mem ((l.mem_observers_stages o).mp among)

end Layout

theorem Position.mem_of_mem_select {position : Position} {f : Fragment}
    {fs : List (Position × Fragment)} (h : f ∈ position.select fs) : (position, f) ∈ fs := by
  obtain ⟨⟨_, _⟩, among, rfl⟩ := List.mem_map.mp h
  obtain ⟨member, here⟩ := List.mem_filter.mp among
  rwa [← of_decide_eq_true here]

namespace Composition

variable (policy : Policy) (resolver : Resolver) (c : Composition) (isRoot : Bool)
  (members : List Member)

theorem nodup_names_declared : (c.declared policy resolver).names.Nodup := by
  have none : PlaceholderRegistry.empty.names.Nodup := List.nodup_nil
  exact PlaceholderRegistry.nodup_names_declareAll none _

/-- Every observer in a module's pipeline is one that a member contributes. -/
theorem mem_allObservers_layout {o : Observer}
    (h : o ∈ (c.layout policy resolver isRoot members).allObservers) :
    ∃ attachment, o ∈ (c.contributions policy resolver members).filterMap
      (Contribution.observer? attachment) := by
  rcases List.mem_append.mp h with outer | core
  · rcases List.mem_append.mp outer with binding | children
    · refine ⟨.binding, ?_⟩
      cases bindable : c.isBindable <;> simp only [layout, bindable] at binding
      · cases binding
      · exact binding
    · obtain ⟨stage, child, watches⟩ := List.mem_flatMap.mp children
      rcases List.mem_append.mp child with unconditional | guarded
      · obtain ⟨asked, found, rfl⟩ := List.mem_map.mp unconditional
        have bare := (c.stage_of_mem_stages policy resolver (List.mem_filter.mp found).1).1
        refine ⟨.scope asked.name, ?_⟩
        rwa [ChildStage.observed, bare] at watches
      · have found := (List.mem_filter.mp (List.mem_filter.mp guarded).1).1
        rw [(c.stage_of_mem_stages policy resolver found).1] at watches
        cases watches
  · exact ⟨.core, core⟩

/-- Observers take every action. -/
theorem routing_of_mem_allObservers {o : Observer}
    (h : o ∈ (c.layout policy resolver isRoot members).allObservers) :
    o.fragment.routing = .any := by
  obtain ⟨attachment, watches⟩ := c.mem_allObservers_layout policy resolver isRoot members h
  obtain ⟨contribution, member, found⟩ := List.mem_filterMap.mp watches
  obtain ⟨v, _, rfl⟩ := exists_visit_of_mem policy resolver member
  exact Contribution.routing_of_ofVisit found

/-- All that a module's pipeline calls is a fragment of the module or takes every action. -/
theorem mem_calls_layout {f : Fragment}
    (h : f ∈ (c.layout policy resolver isRoot members).stages.flatMap Stage.calls) :
    (∃ position, (position, f) ∈ c.fragments policy resolver members) ∨ f.routing = .any := by
  rcases Layout.mem_calls_stages h with own | observer
  · left
    rcases List.mem_append.mp own with inner | after
    · rcases List.mem_append.mp inner with before | core
      · exact ⟨_, Position.mem_of_mem_select before⟩
      · exact ⟨_, Position.mem_of_mem_select core⟩
    · exact ⟨_, Position.mem_of_mem_select after⟩
  · right
    obtain ⟨o, among, rfl⟩ := List.mem_map.mp observer
    exact c.routing_of_mem_allObservers policy resolver isRoot members among

/-- Of all that a module's pipeline calls nothing waits for a binding. -/
theorem slot?_of_mem_calls_layout {f : Fragment}
    (h : f ∈ (c.layout policy resolver isRoot members).stages.flatMap Stage.calls) :
    f.routing.slot? = none := by
  rcases c.mem_calls_layout policy resolver isRoot members h with ⟨position, placed⟩ | every
  · refine Contribution.slot?_of_mem_placed (c.nodup_names_declared policy resolver)
      (fun contribution member g written => ?_) placed
    obtain ⟨v, _, rfl⟩ := exists_visit_of_mem policy resolver member
    exact (Contribution.written_of_ofVisit written).2
  · rw [every]
    rfl

end Composition

/-- The pipeline of a list's module calls nothing at all: its stages have no observers. -/
theorem ListSite.calls_layout (resolver : Resolver) (site : ListSite) :
    (site.layout resolver).stages.flatMap Stage.calls = [] := by
  have none : (site.layout resolver).allObservers = [] := by
    refine List.eq_nil_iff_forall_not_mem.mpr fun o among => ?_
    rcases List.mem_append.mp among with outer | core
    · rcases List.mem_append.mp outer with binding | children
      · cases binding
      · obtain ⟨stage, child, watches⟩ := List.mem_flatMap.mp children
        have asked : stage ∈ site.stages resolver := by
          rcases List.mem_append.mp child with unconditional | guarded
          · exact (List.mem_filter.mp unconditional).1
          · exact (List.mem_filter.mp (List.mem_filter.mp guarded).1).1
        rw [(site.composition.stage_of_mem_stages _ _ asked).1] at watches
        cases watches
    · cases core
  refine List.eq_nil_iff_forall_not_mem.mpr fun f calls => ?_
  rcases Layout.mem_calls_stages calls with own | observer
  · cases own
  · rw [none] at observer
    cases observer

namespace Expansion

variable {policy : Policy} {resolver : Resolver} {definition : ModuleDef} {c : Composition}

/-- The fragments of a module's own pipeline. -/
theorem fragments_of_pipeline? (single : definition.directives = [c]) {p : Pipeline}
    (generated : (Expansion.ofModule policy resolver definition).pipeline? = some p) :
    p.stages.flatMap Stage.fragments =
      [Position.beforeCore, .core, .afterCore].flatMap fun position =>
        position.select (c.fragments policy resolver definition.members) := by
  rw [stages_of_pipeline? single generated, Layout.fragments_stages, List.append_assoc]
  simp only [List.flatMap_cons, List.flatMap_nil, List.append_nil]
  rfl

/-- The observers in a module's own pipeline take every action. -/
theorem routing_of_mem_observers (single : definition.directives = [c]) {p : Pipeline}
    (generated : (Expansion.ofModule policy resolver definition).pipeline? = some p) {o : Observer}
    (hangs : o ∈ p.observers) : o.fragment.routing = .any := by
  rw [Pipeline.observers, stages_of_pipeline? single generated] at hangs
  exact c.routing_of_mem_allObservers policy resolver _ _
    ((Layout.mem_observers_stages _ o).mp hangs)

/-- A module's pipeline has each fragment of the module. -/
theorem mem_fragments_of_placed (single : definition.directives = [c]) {position : Position}
    {f : Fragment} (placed : (position, f) ∈ c.fragments policy resolver definition.members)
    {p : Pipeline}
    (generated : (Expansion.ofModule policy resolver definition).pipeline? = some p) :
    f ∈ p.stages.flatMap Stage.fragments := by
  rw [fragments_of_pipeline? single generated]
  refine List.mem_flatMap.mpr ⟨position, ?_, ?_⟩
  · cases position <;> simp
  · exact List.mem_map.mpr ⟨_, List.mem_filter.mpr ⟨placed, decide_eq_true rfl⟩, rfl⟩

/-- A module's pipeline has each fragment that a binding has sent to a placeholder. -/
theorem mem_fragments_of_finds (single : definition.directives = [c])
    {front back : List Contribution} {position : Position} {b : PendingBinding} {f : Fragment}
    {placeholder : Placeholder}
    (contributions : c.contributions policy resolver definition.members =
      front ++ .boundFragment position b f :: back)
    (found : ((c.declared policy resolver).settle
      (front.filterMap Contribution.binding?)).Finds b placeholder)
    {p : Pipeline}
    (generated : (Expansion.ofModule policy resolver definition).pipeline? = some p) :
    { f with routing := .action placeholder.path } ∈ p.stages.flatMap Stage.fragments := by
  have placed : (position, { f with routing := .action placeholder.path }) ∈
      Contribution.placed (c.declared policy resolver)
        (front ++ .boundFragment position b f :: back) :=
    Contribution.mem_placed_of_finds (c.nodup_names_declared policy resolver) found
  rw [← contributions] at placed
  exact mem_fragments_of_placed single placed generated

/-- The pipelines in an expansion: its own, and those of the modules in it. -/
def pipelines (e : Expansion) : List Pipeline :=
  e.declarations.filterMap Declaration.pipeline? ++
    (Declaration.modulesIn e.declarations).flatMap fun m =>
      m.declarations.filterMap Declaration.pipeline?

/-- No fragment in any pipeline waits for a binding. -/
theorem slot?_of_mem_calls (policy : Policy) (resolver : Resolver) (definition : ModuleDef)
    {p : Pipeline} (h : p ∈ (Expansion.ofModule policy resolver definition).pipelines)
    {f : Fragment} (calls : f ∈ p.calls) : f.routing.slot? = none := by
  rw [pipelines] at h
  cases directives : definition.directives with
  | nil =>
      rw [ofModule, directives] at h
      cases h
  | cons c others =>
      cases others with
      | cons =>
          rw [ofModule, directives] at h
          cases h
      | nil =>
          have resolved := SymbolTable.isResolved_ofModule policy resolver definition c
          rw [declarations_ofModule directives] at h
          rcases List.mem_append.mp h with own | nested
          · rw [SymbolTable.pipelines_declare resolver resolved] at own
            have generated := (pipeline?_eq directives).trans (Option.mem_toList.mp own)
            rw [Pipeline.calls, stages_of_pipeline? directives generated] at calls
            exact c.slot?_of_mem_calls_layout policy resolver _ _ calls
          · obtain ⟨m, module, member⟩ := List.mem_flatMap.mp nested
            obtain ⟨site, _, rfl⟩ :=
              (SymbolTable.mem_modulesIn_declare_iff resolver resolved m).mp module
            obtain ⟨access, made⟩ := site.pipeline?_made resolver
            have table := site.isResolved_table resolver
            have first : (site.made resolver).pipeline? = (site.table resolver).pipeline? :=
              SymbolTable.findSome?_pipeline?_declare resolver table
            have only : (site.made resolver).declarations.filterMap Declaration.pipeline? =
                (site.table resolver).pipeline?.toList :=
              SymbolTable.pipelines_declare resolver table
            rw [only, ← first, made] at member
            cases List.mem_singleton.mp member
            rw [Pipeline.calls, site.calls_layout] at calls
            cases calls

/-- No slot gets into a pipeline, be it that of a module or of one of its lists. The fragments of
a module's pipeline are those that its contributions settle to: a fragment with a binding goes to
the placeholder that this binding finds, and is left out if the binding finds nothing. Each
binding that finds nothing is reported as an error where it stands, and nothing else is reported
about bindings. -/
theorem bound_fragments_settle (policy : Policy) (resolver : Resolver) (definition : ModuleDef) :
    (∀ p ∈ (Expansion.ofModule policy resolver definition).pipelines, ∀ f ∈ p.calls,
      ∀ slot, f.routing ≠ .placeholder slot) ∧
    ∀ c, definition.directives = [c] →
      ∃ fs lost,
        Contribution.SettlesTo (c.declared policy resolver)
          (c.contributions policy resolver definition.members) fs lost ∧
        (∀ p, (Expansion.ofModule policy resolver definition).pipeline? = some p →
          p.stages.flatMap Stage.fragments =
            [Position.beforeCore, .core, .afterCore].flatMap fun position =>
              position.select fs) ∧
        (Expansion.ofModule policy resolver definition).diagnostics.ofBindings.map
            (fun d => (d.severity, d.location)) =
          lost.map fun b => (.error, b.location) := by
  constructor
  · intro p among f calls slot waits
    have settled := slot?_of_mem_calls policy resolver definition among calls
    rw [waits] at settled
    cases settled
  · intro c single
    let queue := (c.contributions policy resolver definition.members).filterMap
      Contribution.binding?
    refine ⟨c.fragments policy resolver definition.members,
      ((c.declared policy resolver).failures queue).map Prod.fst,
      Contribution.settlesTo_placed (c.nodup_names_declared policy resolver) _, ?_, ?_⟩
    · intro p generated
      exact fragments_of_pipeline? single generated
    · rw [ofBindings_ofModule policy resolver single, List.map_map, List.map_map]
      refine List.map_congr_left fun failure _ => Prod.ext ?_ rfl
      exact (PlaceholderRegistry.isOfBinding_failureReport failure).2

/-- A hallway with one door, and two functions that both mean to answer it. -/
def hallway : ModuleDef where
  name := "Hallway"
  directives := [{ children := [⟨.alert, true, some (.string "door"), none, none, {}⟩] }]
  members := [alertFunction "open", alertFunction "ignore"]

theorem bound_fragments_settle_hallway :
    ∃ c, hallway.directives = [c] ∧ ∃ fs lost,
      Contribution.SettlesTo (c.declared {} .textual)
        (c.contributions {} .textual hallway.members) fs lost ∧
      ([Position.beforeCore, .core, .afterCore].flatMap fun position => position.select fs).map
          (fun f => (f.function, f.routing)) =
        [("open", .action (Path.action.case "door").presented)] ∧
      lost.length = 1 := by
  obtain ⟨fs, lost, settles, fragments, reports⟩ :=
    (bound_fragments_settle {} .textual hallway).2 _ rfl
  refine ⟨_, rfl, fs, lost, settles, ?_, ?_⟩
  · rw [← fragments _ rfl]
    rfl
  · have count := congrArg List.length reports
    rw [List.length_map, List.length_map] at count
    exact count.symm

end Expansion

end StateWeave
