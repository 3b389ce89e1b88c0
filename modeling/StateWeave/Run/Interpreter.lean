import StateWeave.Declaration.Basic
import StateWeave.Value.Basic

/-!
# Running a pipeline

A pipeline is run for one action at a time. Fragments whose routing fits the action
are called through a host, which may change the state and produce an effect.
Stages of children are only noted: whether a child's own pipeline would be run
depends on the action and on what the state holds.

Observers compare the state before their stage with the state after it. They run
in order, and what an earlier one changes a later one already sees.
-/

namespace StateWeave

/-- The actions that a fragment sees, if the action is one it reacts to. A slot that
was never settled reacts to nothing. -/
def Routing.deliver? (routing : Routing) (a : Value) : Option Value :=
  match routing with
  | .any => some a
  | .action path => a.extract? path
  | .identified outer inner =>
    match a.extract? outer with
    | some (.keyed _ value) => value.extract? inner
    | _ => none
  | .placeholder _ => none

/-- The user's side of a run. A call gets the fragment, the state and the action, and
gives the effect and the new state; the host may remember things in between. -/
structure Host (σ : Type) where
  call : σ → Fragment → Value → Value → Option String × Value × σ

/-- What a run did, in order. -/
inductive Event where
  | fragment (function : String)
  | binding
  | child (name : String)
  | observer (function : String)
  deriving DecidableEq, Inhabited, Repr

/-- A run in progress. -/
structure Run (σ : Type) where
  host : σ
  state : Value
  events : List Event := []
  effects : List String := []

namespace Run

variable {σ : Type}

/-- The effect that a run passes on is the first one produced. -/
def effect? (r : Run σ) : Option String := r.effects.head?

/-- The fragments that were called, observers left out. -/
def fragments (r : Run σ) : List String :=
  r.events.filterMap fun event =>
    match event with
    | .fragment function => some function
    | _ => none

def note (r : Run σ) (event : Event) : Run σ := { r with events := r.events ++ [event] }

/-- Call the host. Only fragments that yield effects can add one. -/
def call (h : Host σ) (r : Run σ) (f : Fragment) (a : Value) : Run σ :=
  let (effect, state, host) := h.call r.host f r.state a
  { r with
    host := host
    state := state
    effects := r.effects ++ (if f.yieldsEffect then effect.toList else []) }

/-- Call a fragment if the action is one it reacts to. -/
def fragment (h : Host σ) (a : Value) (r : Run σ) (f : Fragment) : Run σ :=
  match f.routing.deliver? a with
  | some routed => (r.note (.fragment f.function)).call h f routed
  | none => r

/-- What each observer watches, as it is now. -/
def snapshot (state : Value) (observers : List Observer) : List (Option Value) :=
  observers.map fun o => state.extract? o.watched

/-- Run an observer if what it watches is not what it was before. -/
def observeOne (h : Host σ) (a : Value) (r : Run σ) (o : Observer) (before : Option Value) :
    Run σ :=
  if r.state.extract? o.watched = before then r
  else (r.note (.observer o.fragment.function)).call h o.fragment a

/-- Run each observer whose part of the state is not what it was. Observers see the
whole action. -/
def observe (h : Host σ) (a : Value) (r : Run σ) (observers : List Observer)
    (before : List (Option Value)) : Run σ :=
  (observers.zip before).foldl (fun r (o, old) => r.observeOne h a o old) r

/-- Whether the state lets a child see an action of its own: a guarded child has to
be there, a child of a variant has to be the active case, and an element has to be
in its collection. -/
def admits (stage : ChildStage) (state routed : Value) : Bool :=
  match stage.kind with
  | .scope => true
  | .ifCaseLet => (state.extract? (Path.state.case stage.name)).isSome
  | .ifLet => (state.extract? (Path.state.field stage.name).optional).isSome
  | .forEach =>
    match state.extract? (Path.state.field stage.name), routed with
    | some (.record elements), .keyed id _ => Dict.contains id elements
    | _, _ => false

/-- Whether a child's own pipeline would see the action. -/
def reaches (stage : ChildStage) (state a : Value) : Bool :=
  (a.extract? (Path.action.case stage.name)).any (admits stage state)

/-- Note a child that would see the action. The observers of its stage run either way. -/
def child (h : Host σ) (a : Value) (r : Run σ) (stage : ChildStage) : Run σ :=
  (if reaches stage r.state a then r.note (.child stage.name) else r).observe h a
    stage.observers (snapshot r.state stage.observers)

/-- Note an action of the binding stage. The observers of the stage run either way. -/
def binding (h : Host σ) (a : Value) (r : Run σ) (observers : List Observer) : Run σ :=
  (if (a.extract? (Path.action.case "binding")).isSome then r.note .binding else r).observe h a
    observers (snapshot r.state observers)

def childrenOf (modifiers : List CoreModifier) : List ChildStage :=
  modifiers.filterMap fun modifier =>
    match modifier with
    | .child stage => some stage
    | .observer _ => none

def observersOf (modifiers : List CoreModifier) : List Observer :=
  modifiers.filterMap fun modifier =>
    match modifier with
    | .child _ => none
    | .observer o => some o

/-- The core runs its fragments first, then the children around it, and its
observers last, in whatever order they are listed. -/
def core (h : Host σ) (a : Value) (r : Run σ) (fragments : List Fragment)
    (modifiers : List CoreModifier) : Run σ :=
  let before := snapshot r.state (observersOf modifiers)
  ((childrenOf modifiers).foldl (child h a) (fragments.foldl (fragment h a) r)).observe h a
    (observersOf modifiers) before

def stage (h : Host σ) (a : Value) (r : Run σ) : Stage → Run σ
  | .empty => r
  | .binding observers => r.binding h a observers
  | .fragment f => r.fragment h a f
  | .child stage => r.child h a stage
  | .core fragments modifiers => r.core h a fragments modifiers

def stages (h : Host σ) (a : Value) (r : Run σ) (stages : List Stage) : Run σ :=
  stages.foldl (stage h a) r

end Run

/-- Run a pipeline for one action. -/
def Pipeline.run {σ : Type} (p : Pipeline) (h : Host σ) (host : σ) (state a : Value) : Run σ :=
  Run.stages h a ⟨host, state, [], []⟩ p.stages

end StateWeave
