import StateWeave.Proofs.Moments
import StateWeave.Proofs.Wiring

/-!
# The children that a run reaches

A run notes a child where the action is one of the child's and the state lets the child see
it. With a host that leaves the state alone every moment of the run finds the state that the
run started with, and no observer finds a change. So the children reached can be read off the
pipeline, the state and the action, stage by stage.
-/

namespace StateWeave

/-- A host that leaves a state as it is, whatever it is called for. -/
def Host.Keeps {σ : Type} (h : Host σ) (state : Value) : Prop :=
  ∀ memory f a, (h.call memory f state a).2.1 = state

/-- A host that is called and does nothing. -/
def Host.idle : Host Unit where
  call memory _ state _ := (none, state, memory)

theorem Host.keeps_idle (state : Value) : Host.idle.Keeps state := fun _ _ _ => rfl

def Event.child? : Event → Option String
  | .child name => some name
  | _ => none

/-- What the state of a parent and the payload of an action have to be for a child to be run
by a stage of this kind. A child of a variant has to be the case that is active, while guarded
and iterated children are looked for in a field of a record. -/
def StageKind.Admits (name : String) (state payload : Value) : StageKind → Prop
  | .scope => True
  | .ifCaseLet => ∃ inner, state = .case name inner
  | .ifLet => ∃ fields inner, state = .record fields ∧
      Dict.find? name fields = some (.optional (some inner))
  | .forEach => ∃ fields elements id inner, state = .record fields ∧
      Dict.find? name fields = some (.record elements) ∧ payload = .keyed id inner ∧
        Dict.contains id elements = true

/-- Guarded and iterated children never run in a state that is a case. -/
theorem StageKind.not_admits_case {kind : StageKind} (looked : kind = .ifLet ∨ kind = .forEach)
    (name tag : String) (inner payload : Value) : ¬kind.Admits name (.case tag inner) payload := by
  rcases looked with rfl | rfl
  · rintro ⟨fields, _, state, _⟩
    cases state
  · rintro ⟨fields, _, _, _, state, _⟩
    cases state

namespace Run

theorem admits_iff (stage : ChildStage) (state payload : Value) :
    admits stage state payload = true ↔ stage.kind.Admits stage.name state payload := by
  unfold admits
  cases stage.kind with
  | scope => exact iff_of_true rfl trivial
  | ifCaseLet =>
      simp [Option.isSome_iff_exists, Value.extract?_case_eq_some_iff, StageKind.Admits]
  | ifLet =>
      simp only [Option.isSome_iff_exists, Value.extract?_optional_eq_some_iff,
        Value.extract?_field_eq_some_iff, Value.extract?_state, Option.some.injEq,
        StageKind.Admits]
      exact exists_comm
  | forEach =>
      have held (elements : List (String × Value)) :
          state.extract? (Path.state.field stage.name) = some (.record elements) ↔
            ∃ fields, state = .record fields ∧
              Dict.find? stage.name fields = some (.record elements) := by
        simp [Value.extract?_field_eq_some_iff]
      constructor
      · intro admitted
        dsimp only at admitted
        split at admitted
        · next elements id inner found =>
            obtain ⟨fields, record, field⟩ := (held elements).mp found
            exact ⟨fields, elements, id, inner, record, field, rfl, admitted⟩
        · cases admitted
      · rintro ⟨fields, elements, id, inner, record, field, rfl, known⟩
        rw [(held elements).mpr ⟨fields, record, field⟩]
        exact known

/-- A child is reached by an action of its own, in a state that admits it. -/
theorem reaches_iff (stage : ChildStage) (state a : Value) :
    reaches stage state a = true ↔
      ∃ payload, a = .case stage.name payload ∧ stage.kind.Admits stage.name state payload := by
  simp [reaches, Option.any_eq_true, Value.extract?_case_eq_some_iff, admits_iff]

def reached (state a : Value) (stages : List ChildStage) : List String :=
  (stages.filter fun stage => reaches stage state a).map ChildStage.name

theorem reached_append (state a : Value) (ss ts : List ChildStage) :
    reached state a (ss ++ ts) = reached state a ss ++ reached state a ts := by
  simp only [reached, List.filter_append, List.map_append]

variable {σ : Type} {state : Value}

def children (r : Run σ) : List String := r.events.filterMap Event.child?

theorem mem_children_iff {r : Run σ} {name : String} :
    name ∈ r.children ↔ .child name ∈ r.events := by
  rw [children, List.mem_filterMap]
  constructor
  · rintro ⟨event, member, child⟩
    cases event with
    | child => cases child; exact member
    | _ => cases child
  · exact fun member => ⟨_, member, rfl⟩

theorem children_moments {h : Host σ} {a : Value} (r : Run σ) (ms : List Moment) :
    (r.moments h a ms).children = r.children ++ ms.filterMap fun m => m.event.child? := by
  rw [children, events_moments, List.filterMap_append, List.filterMap_map]
  rfl

theorem filterMap_child?_reactions (a : Value) (fs : List Fragment) :
    ((Fragment.reactions a fs).filterMap fun m => m.event.child?) = [] := by
  refine List.filterMap_eq_nil_iff.mpr fun m member => ?_
  obtain ⟨f, _, x, _, rfl⟩ := Fragment.mem_reactions_iff.mp member
  rfl

theorem filterMap_child?_arrivals (state a : Value) (stages : List ChildStage) :
    ((ChildStage.arrivals state a stages).filterMap fun m => m.event.child?) =
      reached state a stages := by
  rw [ChildStage.arrivals, List.filterMap_map]
  exact congrFun List.filterMap_eq_map _

section

variable {h : Host σ} {a : Value} (keeps : h.Keeps state) {r : Run σ} (start : r.state = state)

include keeps start

/-- With a host that leaves the state alone, nothing that a run does changes it. -/
theorem state_moments_of_keeps (ms : List Moment) : (r.moments h a ms).state = state := by
  induction ms generalizing r with
  | nil => exact start
  | cons m ms ih =>
      refine ih ?_
      rw [moment]
      split
      · next f routed _ =>
          change (h.call r.host f r.state routed).2.1 = state
          rw [start]
          exact keeps r.host f routed
      · exact start

theorem filterMap_child?_of_goes {s : Stage} {ms : List Moment} (goes : s.Goes h a r ms) :
    (ms.filterMap fun m => m.event.child?) = reached state a s.children := by
  cases goes with
  | empty => rfl
  | binding => split <;> rfl
  | fragment => exact filterMap_child?_reactions a _
  | child => exact start ▸ filterMap_child?_arrivals r.state a _
  | @core fs modifiers _ watched found among quiet =>
      -- The fragments leave the state alone, so the children find the one at the start.
      have still := found.symm.trans (state_moments_of_keeps keeps start _)
      rw [quiet (still.trans start.symm), still, List.map_nil, List.append_nil,
        List.filterMap_append, filterMap_child?_reactions, filterMap_child?_arrivals]
      rfl

theorem GoesThrough.filterMap_child? {ss : List Stage} {mss : List (List Moment)}
    (through : GoesThrough h a r ss mss) :
    (mss.flatten.filterMap fun m => m.event.child?) =
      reached state a (ss.flatMap Stage.children) := by
  induction through with
  | nil => rfl
  | @cons r s ss ms mss goes rest ih =>
      rw [List.flatten_cons, List.filterMap_append, filterMap_child?_of_goes keeps start goes,
        ih (state_moments_of_keeps keeps start ms), List.flatMap_cons, reached_append]

end

end Run

/-- With a host that leaves the state alone, the children that a run reaches are those that
the action reaches in the state at the start. -/
theorem Pipeline.children_run {σ : Type} (p : Pipeline) {h : Host σ} {state : Value}
    (keeps : h.Keeps state) (host : σ) (a : Value) :
    (p.run h host state a).children = Run.reached state a p.children := by
  obtain ⟨mss, through, run⟩ := Run.exists_goesThrough h a ⟨host, state, [], []⟩ p.stages
  rw [Pipeline.run, run, Run.children_moments, through.filterMap_child? keeps rfl]
  rfl

end StateWeave
