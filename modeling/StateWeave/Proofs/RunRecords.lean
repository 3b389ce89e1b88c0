import StateWeave.Proofs.HostCalls

/-!
# What a run records

A run notes what it does and keeps the effects that it is given, and what it has recorded so far is
never looked at again: a run that begins with records ends with them in front of its own. So the
records of a pipeline are those of its first stages and those of the rest, one behind the other;
and the events of fragments and observers are the functions that were called, as the effects are
those of the calls that may have one.
-/

namespace StateWeave

def Event.function? : Event → Option String
  | .fragment function => some function
  | .observer function => some function
  | _ => none

/-- Where an event tells of a function, the host is called for this function. -/
theorem Moment.function?_event (a : Value) (m : Moment) :
    m.event.function? = (m.call? a).map fun call => call.1.function := by
  cases m <;> rfl

/-- The effects that calls pass on are those of the calls whose function declares one. -/
theorem HostCall.flatMap_passedOn (calls : List HostCall) :
    calls.flatMap passedOn =
      (calls.filter fun call => call.fragment.yieldsEffect).filterMap effect := by
  induction calls with
  | nil => rfl
  | cons call calls ih =>
      rw [List.flatMap_cons, ih, passedOn, List.filter_cons]
      split
      · cases effect : call.effect with
        | none => rw [List.filterMap_cons_none effect]; rfl
        | some text => rw [List.filterMap_cons_some effect]; rfl
      · rfl

namespace Run

variable {σ : Type}

/-- A run with records in front of its own that were made before. -/
def behind (r : Run σ) (events : List Event) (effects : List String) : Run σ :=
  { r with events := events ++ r.events, effects := effects ++ r.effects }

/-- Earlier records are not looked at. -/
theorem goesAlong_behind (h : Host σ) (events : List Event) (effects : List String) :
    GoesAlong h h fun r => r.behind events effects where
  state _ := rfl
  note r event := by
    simp only [behind, note, List.append_assoc]
  call r f a := by
    simp only [behind, call, List.append_assoc]

theorem stages_append (h : Host σ) (a : Value) (r : Run σ) (xs ys : List Stage) :
    r.stages h a (xs ++ ys) = (r.stages h a xs).stages h a ys := List.foldl_append

/-- What a run does from some point on is recorded behind what it has recorded before. -/
theorem stages_eq_behind (h : Host σ) (a : Value) (r : Run σ) (ss : List Stage) :
    r.stages h a ss = (Run.stages h a ⟨r.host, r.state, [], []⟩ ss).behind r.events r.effects := by
  have fresh : r = Run.behind ⟨r.host, r.state, [], []⟩ r.events r.effects := by
    simp only [behind, List.append_nil]
  exact (congrArg (stages h a · ss) fresh).trans
    ((goesAlong_behind h r.events r.effects).stages a _ ss).symm

end Run

namespace Pipeline

variable {σ : Type} (h : Host σ) (host : σ) (state a : Value)

/-- The functions that a run calls are those that its events tell of. -/
theorem functions_hostCalls (p : Pipeline) :
    (p.hostCalls h host state a).map (fun call => call.fragment.function) =
      (p.run h host state a).events.filterMap Event.function? := by
  obtain ⟨mss, _, run⟩ := p.exists_run_logged h host state a
  have asked := h.asked_answers host state (mss.flatten.filterMap (Moment.call? a))
  have calls : p.hostCalls h host state a =
      (h.answers host state (mss.flatten.filterMap (Moment.call? a))).calls := by
    rw [hostCalls, run]
  have events : (p.run h host state a).events = mss.flatten.map Moment.event := by
    rw [← p.unlogged_run h host state a [], run]
    rfl
  calc (p.hostCalls h host state a).map (fun call => call.fragment.function)
      = ((p.hostCalls h host state a).map HostCall.asked).map fun ask => ask.1.function := by
        rw [List.map_map]
        rfl
    _ = (mss.flatten.filterMap (Moment.call? a)).map fun ask => ask.1.function := by
        rw [calls, asked]
    _ = (mss.flatten.map Moment.event).filterMap Event.function? := by
        rw [List.map_filterMap, List.filterMap_map]
        exact congrArg (mss.flatten.filterMap ·)
          (funext fun m => (Moment.function?_event a m).symm)
    _ = (p.run h host state a).events.filterMap Event.function? := by rw [events]

/-- What a run records is what has happened. A host that keeps a log has the same run as without
it, and its log is the calls of the run: made one after the other, each with the state and the
memory that the one before has left, they end where the run does. The functions called are those
of the events of fragments and observers, in their order. The effects are those that were returned
for functions that declare one, in the order of the calls, and the first of them is passed on. And
a pipeline that is put together runs as its first part does and then as the rest, from the state
and the host that the first part leaves, with the records one behind the other. -/
theorem run_recorded :
    (∀ p : Pipeline,
      let r := p.run h host state a
      let calls := p.hostCalls h host state a
      let effects := (calls.filter fun call => call.fragment.yieldsEffect).filterMap
        HostCall.effect
      p.run h.logged (host, []) state a = ⟨(r.host, calls), r.state, r.events, r.effects⟩ ∧
        h.answers host state (calls.map HostCall.asked) = ⟨calls, r.state, r.host⟩ ∧
        calls.map (fun call => call.fragment.function) = r.events.filterMap Event.function? ∧
        r.effects = effects ∧ r.effect? = effects.head?) ∧
    ∀ access xs ys,
      let first := Pipeline.run ⟨access, xs⟩ h host state a
      let rest := Pipeline.run ⟨access, ys⟩ h first.host first.state a
      Pipeline.run ⟨access, xs ++ ys⟩ h host state a =
        ⟨rest.host, rest.state, first.events ++ rest.events, first.effects ++ rest.effects⟩ := by
  constructor
  · intro p r calls effects
    have passedOn : r.effects = effects :=
      (p.effects_run h host state a).trans (HostCall.flatMap_passedOn calls)
    refine ⟨?_, p.answers_hostCalls h host state a, p.functions_hostCalls h host state a,
      passedOn, congrArg List.head? passedOn⟩
    have same : (p.run h.logged (host, []) state a).unlogged = r :=
      p.unlogged_run h host state a []
    rw [← same]
    rfl
  · intro access xs ys first rest
    have parts : Pipeline.run ⟨access, xs ++ ys⟩ h host state a = first.stages h a ys :=
      Run.stages_append h a _ xs ys
    rw [parts, Run.stages_eq_behind]
    rfl

/-- Each call is answered with the name of the one before. What `log` is answered with is no effect
of the run, as `log` declares none, and `tell` runs because of what `log` has done. -/
example : (Pipeline.run ⟨.hidden, [.fragment ⟨"save", [], true, .any, {}⟩,
    .core [⟨"log", [], false, .any, {}⟩] [.observer ⟨.state, ⟨"tell", [], true, .any, {}⟩⟩]]⟩
      { call := fun (last : String) f _ _ => (some last, .text f.function, f.function) }
      "start" .unit .unit).effects = ["start", "log"] := by
  decide

end Pipeline

end StateWeave
