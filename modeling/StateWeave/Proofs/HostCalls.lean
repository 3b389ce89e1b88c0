import StateWeave.Proofs.Moments

/-!
# The calls of a host

What a run asks of its host cannot be read off the run itself. A host that keeps a log of its
calls tells: it answers as the host that it stands for does, so that a run with it is the run
without the log, and its log holds the calls of that run in their order.
-/

namespace StateWeave

/-- A call that a host has answered, with the action that it was given. -/
structure HostCall where
  fragment : Fragment
  action : Value
  effect : Option String
  deriving DecidableEq

/-- The effect of a call that is passed on to the run. -/
def HostCall.passedOn (c : HostCall) : List String :=
  if c.fragment.yieldsEffect then c.effect.toList else []

def HostCall.asked (c : HostCall) : Fragment × Value := (c.fragment, c.action)

/-- A host that answers as `h` does and remembers all its calls. -/
def Host.logged {σ : Type} (h : Host σ) : Host (σ × List HostCall) where
  call memory f state a :=
    let (effect, state, host) := h.call memory.1 f state a
    (effect, state, host, memory.2 ++ [⟨f, a, effect⟩])

/-- A host that has been asked for one thing after the other, with what it has answered. -/
structure Answers (σ : Type) where
  calls : List HostCall
  state : Value
  host : σ

/-- Ask a host for one thing after the other. Each time it gets the state and remembers the things
that it has left before. -/
def Host.answers {σ : Type} (h : Host σ) (host : σ) (state : Value) :
    List (Fragment × Value) → Answers σ
  | [] => ⟨[], state, host⟩
  | (f, a) :: rest =>
      let (effect, next, left) := h.call host f state a
      let later := h.answers left next rest
      { later with calls := ⟨f, a, effect⟩ :: later.calls }

/-- A host answers what it is asked, in the same order. -/
theorem Host.asked_answers {σ : Type} (h : Host σ) (host : σ) (state : Value)
    (asks : List (Fragment × Value)) :
    (h.answers host state asks).calls.map HostCall.asked = asks := by
  induction asks generalizing host state with
  | nil => rfl
  | cons ask asks ih =>
      obtain ⟨f, a⟩ := ask
      rw [answers, List.map_cons, ih]
      rfl

namespace Run

/-- A map of the runs with one host to those with another that leaves the state alone and goes
along with notes and calls. -/
structure GoesAlong {σ τ : Type} (h : Host σ) (g : Host τ) (map : Run σ → Run τ) : Prop where
  state (r : Run σ) : (map r).state = r.state
  note (r : Run σ) (event : Event) : map (r.note event) = (map r).note event
  call (r : Run σ) (f : Fragment) (a : Value) : map (r.call h f a) = (map r).call g f a

namespace GoesAlong

variable {σ τ : Type} {h : Host σ} {g : Host τ} {map : Run σ → Run τ}
  (along : GoesAlong h g map) (a : Value)

include along

theorem fragment (r : Run σ) (f : Fragment) :
    map (r.fragment h a f) = (map r).fragment g a f := by
  rw [Run.fragment, Run.fragment]
  cases f.routing.deliver? a with
  | none => rfl
  | some routed => exact (along.call _ f routed).trans (by rw [along.note])

theorem observe (r : Run σ) (observers : List Observer) (before : List (Option Value)) :
    map (r.observe h a observers before) = (map r).observe g a observers before := by
  refine (List.foldl_hom map fun r (pair : Observer × Option Value) => ?_).symm
  change (map r).observeOne g a pair.1 pair.2 = map (r.observeOne h a pair.1 pair.2)
  rw [observeOne, observeOne, along.state]
  split
  · rfl
  · rw [along.call, along.note]

theorem child (r : Run σ) (stage : ChildStage) :
    map (r.child h a stage) = (map r).child g a stage := by
  rw [Run.child, Run.child, along.observe, along.state]
  split
  · rw [along.note]
  · rfl

theorem binding (r : Run σ) (observers : List Observer) :
    map (r.binding h a observers) = (map r).binding g a observers := by
  rw [Run.binding, Run.binding, along.observe, along.state]
  split
  · rw [along.note]
  · rfl

theorem core (r : Run σ) (fs : List Fragment) (modifiers : List CoreModifier) :
    map (r.core h a fs modifiers) = (map r).core g a fs modifiers := by
  have acted : map (fs.foldl (Run.fragment h a) r) = fs.foldl (Run.fragment g a) (map r) :=
    (List.foldl_hom map fun r f => (along.fragment a r f).symm).symm
  rw [Run.core, Run.core, along.observe, along.state, ← acted]
  refine congrArg (Run.observe g a · _ _) ?_
  exact (List.foldl_hom map fun r stage => (along.child a r stage).symm).symm

theorem stage (r : Run σ) (s : Stage) : map (r.stage h a s) = (map r).stage g a s := by
  cases s with
  | empty => rfl
  | binding observers => exact along.binding a r observers
  | fragment f => exact along.fragment a r f
  | child stage => exact along.child a r stage
  | core fs modifiers => exact along.core a r fs modifiers

/-- Nothing else happens in a run, so the map goes along with whole runs. -/
theorem stages (r : Run σ) (ss : List Stage) :
    map (r.stages h a ss) = (map r).stages g a ss :=
  (List.foldl_hom map fun r s => (along.stage a r s).symm).symm

end GoesAlong

variable {σ : Type} (h : Host σ) (a : Value)

/-- A run whose host has kept a log, without the log. -/
def unlogged (r : Run (σ × List HostCall)) : Run σ := ⟨r.host.1, r.state, r.events, r.effects⟩

/-- A log changes nothing. -/
theorem goesAlong_unlogged : GoesAlong h.logged h unlogged where
  state _ := rfl
  note _ _ := rfl
  call _ _ _ := rfl

/-- In its moments a run asks its host for one thing after the other. The answers stand in the log,
and those with an effect to pass on have it among the effects of the run. -/
theorem moments_logged (r : Run (σ × List HostCall)) (ms : List Moment) :
    let answers := h.answers r.host.1 r.state (ms.filterMap (Moment.call? a))
    r.moments h.logged a ms =
      ⟨(answers.host, r.host.2 ++ answers.calls), answers.state, r.events ++ ms.map Moment.event,
        r.effects ++ answers.calls.flatMap HostCall.passedOn⟩ := by
  induction ms generalizing r with
  | nil =>
      simp only [List.filterMap_nil, Host.answers, List.map_nil, List.flatMap_nil, List.append_nil]
      rfl
  | cons m ms ih =>
      rw [moments_cons, ih, moment]
      cases call : m.call? a with
      | none =>
          rw [List.filterMap_cons_none call, List.map_cons, List.append_cons]
          rfl
      | some asks =>
          obtain ⟨f, routed⟩ := asks
          rw [List.filterMap_cons_some call, Host.answers, List.map_cons, List.append_cons]
          simp only [List.flatMap_cons, ← List.append_assoc]
          rw [List.append_cons r.host.2]
          rfl

end Run

namespace Pipeline

variable {σ : Type} (p : Pipeline) (h : Host σ) (host : σ) (state a : Value)

def hostCalls : List HostCall := (p.run h.logged (host, []) state a).host.2

/-- A log does not change what a run does. -/
theorem unlogged_run (log : List HostCall) :
    (p.run h.logged (host, log) state a).unlogged = p.run h host state a :=
  (Run.goesAlong_unlogged h).stages a ⟨(host, log), state, [], []⟩ p.stages

/-- A run with a log goes through moments of its stages, and what it asks its host for in these
moments is all that becomes of state, log and host. -/
theorem exists_run_logged :
    ∃ mss, Run.GoesThrough h.logged a ⟨(host, []), state, [], []⟩ p.stages mss ∧
      let answers := h.answers host state (mss.flatten.filterMap (Moment.call? a))
      p.run h.logged (host, []) state a =
        ⟨(answers.host, answers.calls), answers.state, mss.flatten.map Moment.event,
          answers.calls.flatMap HostCall.passedOn⟩ := by
  obtain ⟨mss, through, run⟩ :=
    Run.exists_goesThrough h.logged a ⟨(host, []), state, [], []⟩ p.stages
  rw [Run.moments_logged] at run
  exact ⟨mss, through, run⟩

/-- The effects of a run are those that its calls pass on. -/
theorem effects_run :
    (p.run h host state a).effects = (p.hostCalls h host state a).flatMap HostCall.passedOn := by
  obtain ⟨mss, _, run⟩ := p.exists_run_logged h host state a
  rw [hostCalls, ← p.unlogged_run h host state a [], run]
  rfl

/-- A run goes through moments of its stages, and its calls are made in these moments. -/
theorem exists_goesThrough :
    ∃ mss, Run.GoesThrough h.logged a ⟨(host, []), state, [], []⟩ p.stages mss ∧
      p.run h host state a =
        (Run.moments h.logged a ⟨(host, []), state, [], []⟩ mss.flatten).unlogged ∧
      (p.hostCalls h host state a).map HostCall.asked = mss.flatten.filterMap (Moment.call? a) := by
  obtain ⟨mss, through, run⟩ := p.exists_run_logged h host state a
  refine ⟨mss, through, ?_, ?_⟩
  · rw [← p.unlogged_run h host state a [], run, Run.moments_logged]
    rfl
  · rw [hostCalls, run]
    exact h.asked_answers host state _

/-- The calls of a run are made one after the other, and the last of them leaves the state and the
host as the run does. -/
theorem answers_hostCalls :
    h.answers host state ((p.hostCalls h host state a).map HostCall.asked) =
      ⟨p.hostCalls h host state a, (p.run h host state a).state, (p.run h host state a).host⟩ := by
  obtain ⟨mss, _, run⟩ := p.exists_run_logged h host state a
  rw [hostCalls, ← p.unlogged_run h host state a [], run]
  dsimp only
  rw [h.asked_answers]
  rfl

end Pipeline

end StateWeave
