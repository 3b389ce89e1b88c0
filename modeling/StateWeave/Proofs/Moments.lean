import StateWeave.Run.Interpreter

/-!
# The moments of a run

Whatever a run does, it does one thing after the other: it notes that two-way bindings or a child
are reached, or it notes a fragment or an observer and calls the host for it. `Stage.Goes` says
which moments a stage has. Fragments react to the action alone and children are only noted, so
what is open is which observers run. They are observers of a core, in their order, and there are
none unless the fragments of the core have changed the state: stages of bindings and of children
compare the state with itself.
-/

namespace StateWeave

/-- One thing that a run does. -/
inductive Moment where
  | binding
  | child (name : String)
  /-- A fragment is called with the action that it sees. -/
  | fragment (f : Fragment) (routed : Value)
  | observer (o : Observer)

namespace Moment

def event : Moment → Event
  | binding => .binding
  | child name => .child name
  | fragment f _ => .fragment f.function
  | observer o => .observer o.fragment.function

/-- What the host is called for and the action that it is given, while `a` is handled. Observers
see the whole of it. -/
def call? (a : Value) : Moment → Option (Fragment × Value)
  | fragment f routed => some (f, routed)
  | observer o => some (o.fragment, a)
  | _ => none

end Moment

/-- The moments in which fragments react to an action. -/
def Fragment.reactions (a : Value) (fs : List Fragment) : List Moment :=
  fs.filterMap fun f => (f.routing.deliver? a).map (Moment.fragment f)

/-- The moments in which children are reached by an action. -/
def ChildStage.arrivals (state a : Value) (stages : List ChildStage) : List Moment :=
  (stages.filter fun stage => Run.reaches stage state a).map fun stage => .child stage.name

theorem Fragment.reactions_append (a : Value) (fs gs : List Fragment) :
    reactions a (fs ++ gs) = reactions a fs ++ reactions a gs := List.filterMap_append

theorem Fragment.mem_reactions_iff {a : Value} {fs : List Fragment} {m : Moment} :
    m ∈ reactions a fs ↔ ∃ f ∈ fs, ∃ x, f.routing.deliver? a = some x ∧ m = .fragment f x := by
  simp only [reactions, List.mem_filterMap, Option.map_eq_some_iff, eq_comm (a := m)]

theorem Fragment.reactions_eq_nil_iff {a : Value} {fs : List Fragment} :
    reactions a fs = [] ↔ ∀ f ∈ fs, f.routing.deliver? a = none := by
  simp only [reactions, List.filterMap_eq_nil_iff, Option.map_eq_none_iff]

theorem ChildStage.arrivals_append (state a : Value) (ss ts : List ChildStage) :
    arrivals state a (ss ++ ts) = arrivals state a ss ++ arrivals state a ts := by
  simp only [arrivals, List.filter_append, List.map_append]

theorem ChildStage.exists_of_mem_arrivals {state a : Value} {stages : List ChildStage}
    {m : Moment} (h : m ∈ arrivals state a stages) : ∃ name, m = .child name := by
  obtain ⟨stage, _, rfl⟩ := List.mem_map.mp h
  exact ⟨stage.name, rfl⟩

namespace Run

variable {σ : Type} (h : Host σ) (a : Value)

def moment (r : Run σ) (m : Moment) : Run σ :=
  match m.call? a with
  | some (f, routed) => (r.note m.event).call h f routed
  | none => r.note m.event

def moments (r : Run σ) (ms : List Moment) : Run σ := ms.foldl (moment h a) r

theorem moments_append (r : Run σ) (ms ns : List Moment) :
    r.moments h a (ms ++ ns) = (r.moments h a ms).moments h a ns := List.foldl_append

theorem moments_cons (r : Run σ) (m : Moment) (ms : List Moment) :
    r.moments h a (m :: ms) = (r.moment h a m).moments h a ms := rfl

theorem events_moment (r : Run σ) (m : Moment) :
    (r.moment h a m).events = r.events ++ [m.event] := by
  rw [moment]
  split <;> rfl

/-- A run notes its moments, each once. -/
theorem events_moments (r : Run σ) (ms : List Moment) :
    (r.moments h a ms).events = r.events ++ ms.map Moment.event := by
  induction ms generalizing r with
  | nil => exact (List.append_nil _).symm
  | cons m ms ih =>
      rw [moments_cons, ih, events_moment, List.append_assoc]
      rfl

/-- Without a call of the host nothing but notes is added to a run. -/
theorem moments_of_silent (r : Run σ) {ms : List Moment} (silent : ∀ m ∈ ms, m.call? a = none) :
    r.moments h a ms = { r with events := r.events ++ ms.map Moment.event } := by
  induction ms generalizing r with
  | nil => rw [List.map_nil, List.append_nil]; rfl
  | cons m ms ih =>
      obtain ⟨first, rest⟩ := List.forall_mem_cons.mp silent
      rw [moments_cons, ih _ rest, moment, first, List.map_cons, List.append_cons]
      rfl

theorem call?_of_mem_arrivals {state : Value} {stages : List ChildStage} {m : Moment}
    (arrives : m ∈ ChildStage.arrivals state a stages) : m.call? a = none := by
  obtain ⟨name, rfl⟩ := ChildStage.exists_of_mem_arrivals arrives
  rfl

theorem fragment_eq (r : Run σ) (f : Fragment) :
    r.fragment h a f = r.moments h a (Fragment.reactions a [f]) := by
  cases routed : f.routing.deliver? a with
  | none => simp [fragment, Fragment.reactions, routed, moments]
  | some x => simp [fragment, Fragment.reactions, routed, moments, moment, Moment.call?,
      Moment.event]

theorem foldl_fragment_eq (r : Run σ) (fs : List Fragment) :
    fs.foldl (fragment h a) r = r.moments h a (Fragment.reactions a fs) := by
  induction fs generalizing r with
  | nil => rfl
  | cons f fs ih =>
      rw [List.foldl_cons, ih, fragment_eq, ← moments_append, ← Fragment.reactions_append]
      rfl

/-- Observers do not run if they find the state that they have seen before. -/
theorem observe_snapshot {r : Run σ} {state : Value} (same : r.state = state)
    (observers : List Observer) : r.observe h a observers (snapshot state observers) = r := by
  rw [observe, snapshot, List.zip_map_right, List.foldl_map]
  induction observers with
  | nil => rfl
  | cons o observers ih =>
      have unchanged : r.observeOne h a o (state.extract? o.watched) = r := by
        rw [observeOne, same, if_pos rfl]
      rw [List.zip_cons_cons, List.foldl_cons]
      dsimp only [Prod.map, id]
      rw [unchanged]
      exact ih

/-- The observers that run are some of those that are asked, in their order. -/
theorem exists_observe (r : Run σ) (observers : List Observer) (before : List (Option Value)) :
    ∃ watched : List Observer, watched.Sublist observers ∧
      r.observe h a observers before = r.moments h a (watched.map .observer) := by
  induction observers generalizing r before with
  | nil => exact ⟨[], .slnil, rfl⟩
  | cons o observers ih =>
      cases before with
      | nil => exact ⟨[], List.nil_sublist _, rfl⟩
      | cons old before =>
          obtain ⟨watched, among, observed⟩ := ih (r.observeOne h a o old) before
          by_cases same : r.state.extract? o.watched = old
          · rw [observeOne, if_pos same] at observed
            refine ⟨watched, among.cons o, ?_⟩
            change (r.observeOne h a o old).observe h a observers before = _
            rw [observeOne, if_pos same, observed]
          · refine ⟨o :: watched, among.cons_cons o, ?_⟩
            change (r.observeOne h a o old).observe h a observers before = _
            rw [observed, observeOne, if_neg same]
            rfl

theorem child_eq (r : Run σ) (stage : ChildStage) :
    r.child h a stage = r.moments h a (ChildStage.arrivals r.state a [stage]) := by
  rw [child, ChildStage.arrivals, List.filter_cons]
  split
  · exact observe_snapshot h a (r := r.note _) rfl stage.observers
  · exact observe_snapshot h a rfl stage.observers

theorem foldl_child_eq (r : Run σ) (stages : List ChildStage) :
    stages.foldl (child h a) r = r.moments h a (ChildStage.arrivals r.state a stages) := by
  induction stages generalizing r with
  | nil => rfl
  | cons stage stages ih =>
      have still : (r.child h a stage).state = r.state := by
        rw [child_eq, moments_of_silent h a r fun _ => call?_of_mem_arrivals a]
      rw [List.foldl_cons, ih, still, child_eq, ← moments_append, ← ChildStage.arrivals_append]
      rfl

theorem binding_eq (r : Run σ) (observers : List Observer) :
    r.binding h a observers =
      r.moments h a
        (if (a.extract? (Path.action.case "binding")).isSome then [.binding] else []) := by
  rw [binding]
  split
  · exact observe_snapshot h a (r := r.note _) rfl observers
  · exact observe_snapshot h a rfl observers

end Run

def Stage.fragments : Stage → List Fragment
  | .fragment f => [f]
  | .core fragments _ => fragments
  | _ => []

/-- The moments that a stage may have while `a` is handled, from a point of a run on. Observers
run only if the fragments of their core have changed the state. -/
inductive Stage.Goes {σ : Type} (h : Host σ) (a : Value) (r : Run σ) :
    Stage → List Moment → Prop
  | empty : Goes h a r .empty []
  | binding {observers : List Observer} :
      Goes h a r (.binding observers)
        (if (a.extract? (Path.action.case "binding")).isSome then [.binding] else [])
  | fragment {f : Fragment} : Goes h a r (.fragment f) (Fragment.reactions a [f])
  | child {stage : ChildStage} : Goes h a r (.child stage) (ChildStage.arrivals r.state a [stage])
  | core {fs : List Fragment} {modifiers : List CoreModifier} {state : Value}
      {watched : List Observer} :
      (r.moments h a (Fragment.reactions a fs)).state = state →
      watched.Sublist (Run.observersOf modifiers) → (state = r.state → watched = []) →
      Goes h a r (.core fs modifiers)
        (Fragment.reactions a fs ++ ChildStage.arrivals state a (Run.childrenOf modifiers) ++
          watched.map .observer)

namespace Run

variable {σ : Type} (h : Host σ) (a : Value)

theorem exists_core (r : Run σ) (fs : List Fragment) (modifiers : List CoreModifier) :
    ∃ ms, (Stage.core fs modifiers).Goes h a r ms ∧
      r.core h a fs modifiers = r.moments h a ms := by
  let acted := r.moments h a (Fragment.reactions a fs)
  let arrivals := ChildStage.arrivals acted.state a (childrenOf modifiers)
  let reached := acted.moments h a arrivals
  have before : (childrenOf modifiers).foldl (child h a) (fs.foldl (fragment h a) r) = reached := by
    rw [foldl_fragment_eq, foldl_child_eq]
  have noted : reached = { acted with events := acted.events ++ arrivals.map Moment.event } :=
    moments_of_silent h a acted fun _ => call?_of_mem_arrivals a
  have state : reached.state = acted.state := by rw [noted]
  obtain ⟨watched, among, observed⟩ :
      ∃ watched : List Observer, watched.Sublist (observersOf modifiers) ∧
      (acted.state = r.state → watched = []) ∧
      reached.observe h a (observersOf modifiers) (snapshot r.state (observersOf modifiers)) =
        reached.moments h a (watched.map .observer) := by
    by_cases kept : acted.state = r.state
    · refine ⟨[], List.nil_sublist _, fun _ => rfl, ?_⟩
      exact observe_snapshot h a (state.trans kept) _
    · obtain ⟨watched, among, observed⟩ := exists_observe h a reached (observersOf modifiers)
        (snapshot r.state (observersOf modifiers))
      exact ⟨watched, among, fun same => absurd same kept, observed⟩
  refine ⟨_, .core rfl among observed.1, ?_⟩
  rw [core, before, observed.2, moments_append, moments_append]

/-- Each stage of a run goes through moments of its own. -/
theorem exists_goes (r : Run σ) (s : Stage) :
    ∃ ms, s.Goes h a r ms ∧ r.stage h a s = r.moments h a ms := by
  cases s with
  | empty => exact ⟨[], .empty, rfl⟩
  | binding observers => exact ⟨_, .binding, binding_eq h a r observers⟩
  | fragment f => exact ⟨_, .fragment, fragment_eq h a r f⟩
  | child stage => exact ⟨_, .child, child_eq h a r stage⟩
  | core fs modifiers => exact exists_core h a r fs modifiers

/-- Stages that go through moments one after the other. -/
inductive GoesThrough : Run σ → List Stage → List (List Moment) → Prop
  | nil {r : Run σ} : GoesThrough r [] []
  | cons {r : Run σ} {s : Stage} {ss : List Stage} {ms : List Moment} {mss : List (List Moment)} :
      s.Goes h a r ms → GoesThrough (r.moments h a ms) ss mss →
        GoesThrough r (s :: ss) (ms :: mss)

theorem exists_goesThrough (r : Run σ) (ss : List Stage) :
    ∃ mss, GoesThrough h a r ss mss ∧ r.stages h a ss = r.moments h a mss.flatten := by
  induction ss generalizing r with
  | nil => exact ⟨[], .nil, rfl⟩
  | cons s ss ih =>
      obtain ⟨ms, first, one⟩ := exists_goes h a r s
      obtain ⟨mss, rest, all⟩ := ih (r.moments h a ms)
      refine ⟨ms :: mss, .cons first rest, ?_⟩
      rw [List.flatten_cons, moments_append, ← all, ← one]
      rfl

end Run

end StateWeave
