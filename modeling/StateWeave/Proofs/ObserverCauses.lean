import StateWeave.Proofs.HostCalls
import StateWeave.Proofs.ReachedChildren

/-!
# What makes observers run

Observers are asked at the end of every stage, but only those of a core can find the state
changed, and only its fragments can have changed it. So an observer that runs has a cause: a
fragment of the same core that has reacted to the action before. Where no fragment reacts, or the
host leaves the state alone, a run does nothing but note what it passes.
-/

namespace StateWeave

/-- An item that is not in the first part of a list has all of this part before it. -/
theorem mem_of_append_eq {α : Type} {x : α} {xs ys early late : List α}
    (split : xs ++ ys = early ++ x :: late) (new : x ∉ xs) : ∀ y ∈ xs, y ∈ early := by
  intro y member
  rcases List.append_eq_append_iff.mp split with ⟨between, rfl, _⟩ | ⟨between, rfl, rest⟩
  · exact List.mem_append_left _ member
  · cases between with
    | nil => rwa [List.append_nil] at member
    | cons next between =>
        obtain ⟨rfl, _⟩ := List.cons.inj rest
        exact absurd (List.mem_append_right _ List.mem_cons_self) new

theorem Moment.eq_observer_of_event {m : Moment} {function : String}
    (noted : m.event = .observer function) :
    ∃ o, m = .observer o ∧ o.fragment.function = function := by
  cases m with
  | observer o => exact ⟨o, rfl, Event.observer.inj noted⟩
  | _ => cases noted

theorem Fragment.observer_not_mem_reactions (a : Value) (fs : List Fragment) (o : Observer) :
    .observer o ∉ reactions a fs := by
  intro member
  obtain ⟨f, _, x, _, same⟩ := mem_reactions_iff.mp member
  cases same

theorem ChildStage.observer_not_mem_arrivals (state a : Value) (stages : List ChildStage)
    (o : Observer) : .observer o ∉ arrivals state a stages := by
  intro member
  obtain ⟨name, same⟩ := exists_of_mem_arrivals member
  cases same

namespace Stage.Goes

variable {σ : Type} {h : Host σ} {a : Value} {r : Run σ} {s : Stage} {ms : List Moment}

/-- Where an observer runs, all fragments of its core that react to the action have run before,
and they have changed the state. -/
theorem cause_of_observer (goes : s.Goes h a r ms) {early late : List Moment} {o : Observer}
    (runs : ms = early ++ .observer o :: late) :
    ∃ fs modifiers, s = .core fs modifiers ∧ o ∈ Run.observersOf modifiers ∧
      (r.moments h a (Fragment.reactions a fs)).state ≠ r.state ∧
      ∀ m ∈ Fragment.reactions a fs, m ∈ early := by
  have member : .observer o ∈ ms := by
    rw [runs]
    exact List.mem_append_right _ List.mem_cons_self
  cases goes with
  | empty => exact absurd member List.not_mem_nil
  | binding =>
      split at member
      · exact absurd (List.mem_singleton.mp member) Moment.noConfusion
      · exact absurd member List.not_mem_nil
  | fragment => exact absurd member (Fragment.observer_not_mem_reactions a _ o)
  | child => exact absurd member (ChildStage.observer_not_mem_arrivals r.state a _ o)
  | @core fs modifiers state watched reached among quiet =>
      subst reached
      let acted := Fragment.reactions a fs ++
        ChildStage.arrivals (r.moments h a (Fragment.reactions a fs)).state a
          (Run.childrenOf modifiers)
      have observed : .observer o ∉ acted := fun member =>
        (List.mem_append.mp member).elim (Fragment.observer_not_mem_reactions a fs o)
          (ChildStage.observer_not_mem_arrivals _ a _ o)
      have watches : o ∈ watched := by
        obtain ⟨o', watches, same⟩ :=
          List.mem_map.mp ((List.mem_append.mp member).resolve_left observed)
        exact Moment.observer.inj same ▸ watches
      refine ⟨fs, modifiers, rfl, among.subset watches, ?_, ?_⟩
      · intro kept
        exact absurd (quiet kept ▸ watches) List.not_mem_nil
      · exact fun m reacts => mem_of_append_eq runs observed m (List.mem_append_left _ reacts)

/-- A stage none of whose fragments reacts to the action calls nobody. -/
theorem silent (goes : s.Goes h a r ms)
    (unmatched : ∀ f ∈ s.fragments, f.routing.deliver? a = none) : ∀ m ∈ ms, m.call? a = none := by
  cases goes with
  | empty => exact fun _ member => absurd member List.not_mem_nil
  | binding =>
      intro m member
      split at member
      · exact List.mem_singleton.mp member ▸ rfl
      · exact absurd member List.not_mem_nil
  | @fragment f =>
      have idle : Fragment.reactions a [f] = [] := Fragment.reactions_eq_nil_iff.mpr unmatched
      exact fun _ member => absurd (idle ▸ member) List.not_mem_nil
  | child => exact fun _ => Run.call?_of_mem_arrivals a
  | @core fs modifiers state watched reached among quiet =>
      have idle : Fragment.reactions a fs = [] := Fragment.reactions_eq_nil_iff.mpr unmatched
      rw [idle] at reached
      rw [idle, quiet reached.symm, List.map_nil, List.append_nil, List.nil_append]
      exact fun _ => Run.call?_of_mem_arrivals a

end Stage.Goes

namespace Run

variable {σ : Type} (h : Host σ) (a : Value)

/-- The events of a run, stage by stage. -/
def eventsByStage (r : Run σ) : List Stage → List (Stage × List Event)
  | [] => []
  | s :: ss =>
      let next := r.stage h a s
      (s, next.events.drop r.events.length) :: next.eventsByStage ss

theorem fst_eventsByStage (r : Run σ) (ss : List Stage) :
    (r.eventsByStage h a ss).map Prod.fst = ss := by
  induction ss generalizing r with
  | nil => rfl
  | cons s ss ih => rw [eventsByStage, List.map_cons, ih]

/-- What a stage adds to the events of a run are the events of moments of its own. -/
theorem exists_goes_events (r : Run σ) (s : Stage) :
    ∃ ms, s.Goes h a r ms ∧ r.stage h a s = r.moments h a ms ∧
      (r.stage h a s).events = r.events ++ ms.map Moment.event ∧
      (r.stage h a s).events.drop r.events.length = ms.map Moment.event := by
  obtain ⟨ms, goes, made⟩ := exists_goes h a r s
  have events := (congrArg Run.events made).trans (events_moments h a r ms)
  exact ⟨ms, goes, made, events, by rw [events, List.drop_left]⟩

theorem events_stages (r : Run σ) (ss : List Stage) :
    (r.stages h a ss).events = r.events ++ (r.eventsByStage h a ss).flatMap Prod.snd := by
  induction ss generalizing r with
  | nil => exact (List.append_nil _).symm
  | cons s ss ih =>
      obtain ⟨ms, _, _, events, noted⟩ := exists_goes_events h a r s
      have rest := ih (r.stage h a s)
      rw [eventsByStage, List.flatMap_cons, noted, ← List.append_assoc, ← events]
      exact rest

theorem exists_goes_of_mem_eventsByStage {r : Run σ} {ss : List Stage} {s : Stage}
    {noted : List Event} (member : (s, noted) ∈ r.eventsByStage h a ss) :
    ∃ (before : Run σ) (ms : List Moment),
      s.Goes h a before ms ∧ noted = ms.map Moment.event := by
  induction ss generalizing r with
  | nil => exact absurd member List.not_mem_nil
  | cons t ss ih =>
      rcases List.mem_cons.mp member with here | later
      · obtain ⟨rfl, rfl⟩ := Prod.mk.inj here
        obtain ⟨ms, goes, _, _, events⟩ := exists_goes_events h a r s
        exact ⟨r, ms, goes, events⟩
      · exact ih later

variable {h a}

/-- Stages that call nobody make a run that calls nobody. -/
theorem GoesThrough.silent {r : Run σ} {ss : List Stage} {mss : List (List Moment)}
    (through : GoesThrough h a r ss mss)
    (unmatched : ∀ f ∈ ss.flatMap Stage.fragments, f.routing.deliver? a = none) :
    ∀ m ∈ mss.flatten, m.call? a = none := by
  induction through with
  | nil => exact fun _ member => absurd member List.not_mem_nil
  | @cons r s ss ms mss goes rest ih =>
      rw [List.flatMap_cons, List.forall_mem_append] at unmatched
      rw [List.flatten_cons, List.forall_mem_append]
      exact ⟨goes.silent unmatched.1, ih unmatched.2⟩

theorem GoesThrough.no_observer {state : Value} (keeps : h.Keeps state) {r : Run σ}
    {ss : List Stage} {mss : List (List Moment)} (through : GoesThrough h a r ss mss)
    (start : r.state = state) (o : Observer) : .observer o ∉ mss.flatten := by
  induction through with
  | nil => exact List.not_mem_nil
  | @cons r s ss ms mss goes rest ih =>
      rw [List.flatten_cons, List.mem_append, not_or]
      refine ⟨?_, ih (state_moments_of_keeps keeps start ms)⟩
      intro member
      obtain ⟨early, late, runs⟩ := List.append_of_mem member
      obtain ⟨fs, _, _, _, changed, _⟩ := goes.cause_of_observer runs
      exact changed ((state_moments_of_keeps keeps start _).trans start.symm)

end Run

namespace Pipeline

variable {σ : Type} (p : Pipeline) (h : Host σ) (host : σ) (state a : Value)

/-- The events of a run, stage by stage. -/
def eventsByStage : List (Stage × List Event) :=
  Run.eventsByStage h a ⟨host, state, [], []⟩ p.stages

theorem exists_cause {s : Stage} {noted : List Event}
    (member : (s, noted) ∈ p.eventsByStage h host state a) {early late : List Event}
    {function : String} (split : noted = early ++ .observer function :: late) :
    ∃ fs modifiers, s = .core fs modifiers ∧
      (∃ o ∈ Run.observersOf modifiers, o.fragment.function = function) ∧
      ∃ f ∈ fs, (f.routing.deliver? a).isSome ∧ .fragment f.function ∈ early := by
  obtain ⟨before, ms, goes, rfl⟩ := Run.exists_goes_of_mem_eventsByStage h a member
  obtain ⟨first, others, rfl, rfl, behind⟩ := List.map_eq_append_iff.mp split
  obtain ⟨m, last, rfl, observes, rfl⟩ := List.map_eq_cons_iff.mp behind
  obtain ⟨o, rfl, named⟩ := Moment.eq_observer_of_event observes
  obtain ⟨fs, modifiers, core, watches, changed, acted⟩ := goes.cause_of_observer rfl
  -- The state has changed, so some fragment has reacted.
  have reacts : Fragment.reactions a fs ≠ [] := fun idle => changed (by rw [idle]; rfl)
  obtain ⟨m, reacts⟩ := List.exists_mem_of_ne_nil _ reacts
  obtain ⟨f, mem, x, routed, rfl⟩ := Fragment.mem_reactions_iff.mp reacts
  refine ⟨fs, modifiers, core, ⟨o, watches, named⟩, f, mem, by rw [routed]; rfl, ?_⟩
  exact List.mem_map_of_mem (acted _ reacts)

theorem inert_of_unmatched
    (unmatched : ∀ f ∈ p.stages.flatMap Stage.fragments, f.routing.deliver? a = none) :
    p.hostCalls h host state a = [] ∧ (p.run h host state a).effects = [] ∧
      (p.run h host state a).state = state ∧ (p.run h host state a).host = host := by
  obtain ⟨mss, through, run, asked⟩ := p.exists_goesThrough h host state a
  have silent := through.silent unmatched
  have uncalled : p.hostCalls h host state a = [] := by
    rw [List.filterMap_eq_nil_iff.mpr silent] at asked
    exact List.map_eq_nil_iff.mp asked
  rw [Run.moments_of_silent _ a _ silent] at run
  refine ⟨uncalled, ?_, ?_, ?_⟩
  · rw [effects_run, uncalled]
    rfl
  · rw [run]
    rfl
  · rw [run]
    rfl

theorem observer_not_mem_of_keeps (keeps : h.Keeps state) (function : String) :
    .observer function ∉ (p.run h host state a).events := by
  obtain ⟨mss, through, run⟩ := Run.exists_goesThrough h a ⟨host, state, [], []⟩ p.stages
  have events : (p.run h host state a).events = mss.flatten.map Moment.event :=
    (congrArg Run.events run).trans (Run.events_moments h a _ _)
  intro member
  rw [events] at member
  obtain ⟨m, member, noted⟩ := List.mem_map.mp member
  obtain ⟨o, rfl, _⟩ := Moment.eq_observer_of_event noted
  exact through.no_observer keeps rfl o member

/-- The events of a run are those of its stages. An observer that runs is an observer of a core,
and a fragment of this core has reacted to the action before, in the same stage. So a run whose
action fits no fragment calls nobody and has no effect, and state and host are what they were; and
observers never run if the host leaves the state alone. -/
theorem observers_have_causes :
    ((p.eventsByStage h host state a).map Prod.fst = p.stages ∧
      (p.eventsByStage h host state a).flatMap Prod.snd = (p.run h host state a).events ∧
      ∀ s noted, (s, noted) ∈ p.eventsByStage h host state a →
        ∀ early function late, noted = early ++ .observer function :: late →
          ∃ fs modifiers, s = .core fs modifiers ∧
            (∃ o ∈ Run.observersOf modifiers, o.fragment.function = function) ∧
            ∃ f ∈ fs, (f.routing.deliver? a).isSome ∧ .fragment f.function ∈ early) ∧
    ((∀ f ∈ p.stages.flatMap Stage.fragments, f.routing.deliver? a = none) →
      p.hostCalls h host state a = [] ∧ (p.run h host state a).effects = [] ∧
        (p.run h host state a).state = state ∧ (p.run h host state a).host = host) ∧
    (h.Keeps state → ∀ function, .observer function ∉ (p.run h host state a).events) := by
  refine ⟨⟨Run.fst_eventsByStage h a _ _, ?_, ?_⟩, p.inert_of_unmatched h host state a,
    p.observer_not_mem_of_keeps h host state a⟩
  · exact (Run.events_stages h a ⟨host, state, [], []⟩ p.stages).symm
  · exact fun s noted member early function late split => p.exists_cause h host state a member split

def increment : Fragment where
  function := "increment"
  args := []
  yieldsEffect := false
  routing := .action (.case .action "increment")
  location := {}

def countChanged : Observer where
  watched := .state
  fragment := { increment with function := "count_changed", routing := .any }

def counter : Pipeline where
  access := .hidden
  stages := [.core [increment] [.observer countChanged]]

/-- A host that leaves the name of the last function as the state. -/
def scribe : Host Unit where
  call memory f _ _ := (some "saved", .text f.function, memory)

theorem observers_have_causes_counter :
    (∃ f ∈ [increment], (f.routing.deliver? (.case "increment" .unit)).isSome ∧
      .fragment f.function ∈ [Event.fragment "increment"]) ∧
    counter.hostCalls scribe () .unit (.case "reset" .unit) = [] ∧
    .observer "count_changed" ∉ (counter.run .idle () .unit (.case "increment" .unit)).events := by
  obtain ⟨⟨_, _, causes⟩, _, _⟩ :=
    observers_have_causes counter scribe () .unit (.case "increment" .unit)
  obtain ⟨_, inert, _⟩ := observers_have_causes counter scribe () .unit (.case "reset" .unit)
  obtain ⟨_, _, kept⟩ := observers_have_causes counter .idle () .unit (.case "increment" .unit)
  have noted : counter.eventsByStage scribe () .unit (.case "increment" .unit) =
      [(.core [increment] [.observer countChanged],
        [.fragment "increment", .observer "count_changed"])] := rfl
  refine ⟨?_, (inert (by decide)).1, kept (Host.keeps_idle _) _⟩
  rw [noted] at causes
  obtain ⟨fs, modifiers, core, _, cause⟩ := causes _ _ List.mem_cons_self [_] _ [] rfl
  obtain ⟨rfl, rfl⟩ := Stage.core.inj core
  exact cause

end Pipeline

end StateWeave
