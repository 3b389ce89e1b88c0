import StateWeave.Proofs.Moments
import StateWeave.Proofs.PipelineLayout

/-!
# The order in which fragments run

Which fragments a run notes, and in which order, follows from the pipeline and the action
alone: observers and children leave notes of their own, and no fragment is asked for more
than whether its routing fits the action. With the layout of a module's pipeline this
becomes a statement about the module: the fragments before the core, those of the core
and those after it, each group in the order in which its functions are written.
-/

namespace StateWeave

open Admission

/-- The functions of the fragments that react to an action. -/
def Fragment.reacting (a : Value) (fs : List Fragment) : List String :=
  (fs.filter fun f => (f.routing.deliver? a).isSome).map Fragment.function

theorem Fragment.reacting_append (a : Value) (fs gs : List Fragment) :
    reacting a (fs ++ gs) = reacting a fs ++ reacting a gs := by
  simp only [reacting, List.filter_append, List.map_append]

def Moment.fragment? : Moment → Option String
  | .fragment f _ => some f.function
  | _ => none

theorem Fragment.filterMap_fragment?_reactions (a : Value) (fs : List Fragment) :
    (reactions a fs).filterMap Moment.fragment? = reacting a fs := by
  induction fs with
  | nil => rfl
  | cons f fs ih =>
      rw [← List.singleton_append, reactions_append, reacting_append, List.filterMap_append, ih]
      refine congrArg (· ++ _) ?_
      cases routed : f.routing.deliver? a <;> simp [reactions, reacting, routed, Moment.fragment?]

theorem ChildStage.filterMap_fragment?_arrivals (state a : Value) (stages : List ChildStage) :
    (arrivals state a stages).filterMap Moment.fragment? = [] := by
  refine List.filterMap_eq_nil_iff.mpr fun m member => ?_
  obtain ⟨name, rfl⟩ := exists_of_mem_arrivals member
  rfl

namespace Run

variable {σ : Type} {h : Host σ} {a : Value}

theorem fragments_moments (r : Run σ) (ms : List Moment) :
    (r.moments h a ms).fragments = r.fragments ++ ms.filterMap Moment.fragment? := by
  rw [fragments, events_moments, List.filterMap_append, List.filterMap_map]
  refine congrArg (_ ++ List.filterMap · ms) (funext fun m => ?_)
  cases m <;> rfl

/-- Which fragments run in a stage depends on the stage and the action only. -/
theorem filterMap_fragment?_of_goes {r : Run σ} {s : Stage} {ms : List Moment}
    (goes : s.Goes h a r ms) :
    ms.filterMap Moment.fragment? = Fragment.reacting a s.fragments := by
  cases goes with
  | empty => rfl
  | binding => split <;> rfl
  | fragment => exact Fragment.filterMap_fragment?_reactions a _
  | child => exact ChildStage.filterMap_fragment?_arrivals _ a _
  | @core fs modifiers state watched =>
      have observed : (watched.map Moment.observer).filterMap Moment.fragment? = [] := by
        rw [List.filterMap_map]
        exact List.filterMap_eq_nil_iff.mpr fun _ _ => rfl
      rw [List.filterMap_append, List.filterMap_append, observed,
        ChildStage.filterMap_fragment?_arrivals, Fragment.filterMap_fragment?_reactions,
        List.append_nil, List.append_nil]
      rfl

theorem GoesThrough.filterMap_fragment? {r : Run σ} {ss : List Stage} {mss : List (List Moment)}
    (through : GoesThrough h a r ss mss) :
    mss.flatten.filterMap Moment.fragment? =
      Fragment.reacting a (ss.flatMap Stage.fragments) := by
  induction through with
  | nil => rfl
  | cons goes _ ih =>
      rw [List.flatten_cons, List.filterMap_append, filterMap_fragment?_of_goes goes, ih,
        ← Fragment.reacting_append, List.flatMap_cons]

end Run

/-- What a run notes of fragments depends on the pipeline and the action only. -/
theorem Pipeline.fragments_run {σ : Type} (p : Pipeline) (h : Host σ) (host : σ)
    (state a : Value) :
    (p.run h host state a).fragments =
      Fragment.reacting a (p.stages.flatMap Stage.fragments) := by
  obtain ⟨mss, through, run⟩ := Run.exists_goesThrough h a ⟨host, state, [], []⟩ p.stages
  rw [Pipeline.run, run, Run.fragments_moments, through.filterMap_fragment?]
  rfl

theorem Layout.fragments_stages (l : Layout) :
    l.stages.flatMap Stage.fragments = l.before ++ l.core ++ l.after := by
  have one (fs : List Fragment) : (fs.flatMap fun f => (Stage.fragment f).fragments) = fs := by
    simp [Stage.fragments]
  have front : l.front.flatMap Stage.fragments = l.before := by
    rw [flatMap_front l fun _ => rfl, one]
    cases l.shape with
    | record => simp [Stage.fragments]
    | variant => rfl
  rw [flatMap_stages l rfl rfl, front, one]
  rfl

namespace Composition

variable (policy : Policy) (resolver : Resolver) (c : Composition) (members : List Member)

/-- A module's fragments come in the order in which its functions are written. -/
theorem sublist_functions_fragments :
    ((c.fragments policy resolver members).map fun f => f.2.function).Sublist
      ((Visit.ofMembers [] members).map Visit.path) := by
  have placed := Contribution.sublist_functions_placed (c.declared policy resolver)
    (c.contributions policy resolver members)
  have letIn : (c.contributions policy resolver members).Sublist
      (Contribution.ofMembers members) := sublist_admitted _ _
  exact placed.trans (((letIn.filterMap Contribution.written?).map Fragment.function).trans
    (Contribution.sublist_functions_ofMembers members))

theorem sublist_functions_select (position : Position) :
    ((position.select (c.fragments policy resolver members)).map Fragment.function).Sublist
      ((Visit.ofMembers [] members).map Visit.path) := by
  rw [Position.select, List.map_map]
  exact (List.filter_sublist.map _).trans
    (c.sublist_functions_fragments policy resolver members)

end Composition

namespace Expansion

/-- A module whose pipeline is generated runs its fragments group by group: those before
the core, those of the core, those after it. Each group keeps the order of the members,
and which of its fragments run depends on the action alone. -/
theorem fragments_run_in_order (policy : Policy) (resolver : Resolver) {definition : ModuleDef}
    {c : Composition} (single : definition.directives = [c])
    (generated : definition.hasBody = false) :
    ∃ p, (Expansion.ofModule policy resolver definition).pipeline? = some p ∧
      (∀ {σ : Type} (h : Host σ) (host : σ) (state a : Value),
        (p.run h host state a).fragments =
          [Position.beforeCore, .core, .afterCore].flatMap fun position =>
            Fragment.reacting a
              (position.select (c.fragments policy resolver definition.members))) ∧
      ∀ position : Position,
        ((position.select (c.fragments policy resolver definition.members)).map
          Fragment.function).Sublist ((Visit.ofMembers [] definition.members).map Visit.path) := by
  refine ⟨_, pipeline?_ofModule policy resolver single generated, ?_, ?_⟩
  · intro σ h host state a
    rw [Pipeline.fragments_run, Layout.fragments_stages, Fragment.reacting_append,
      Fragment.reacting_append, List.append_assoc]
    simp only [List.flatMap_cons, List.flatMap_nil, List.append_nil]
    rfl
  · exact c.sublist_functions_select policy resolver definition.members

def placedFunction (name position : String) : Member :=
  .function {
    name := name
    attributes := [{ name := "compose_body", args := [⟨some "position", .member position, {}⟩] }]
    returnType := none }

def alertFunction (name : String) : Member :=
  .function {
    name := name
    attributes := [{ name := "compose_body_action_alert_case" }]
    params := [⟨"action", "Alert", false, {}⟩]
    returnType := none }

/-- A module that names its last fragment first, and handles an alert that it does not have. -/
def worker : ModuleDef where
  name := "Worker"
  directives := [{}]
  members := [placedFunction "clean" "after_core", alertFunction "dismiss",
    placedFunction "work" "core", placedFunction "rest" "core",
    placedFunction "log" "before_core"]

theorem fragments_run_in_order_worker :
    ∃ p, (Expansion.ofModule {} .textual worker).pipeline? = some p ∧
      ∀ {σ : Type} (h : Host σ) (host : σ) (state a : Value),
        (p.run h host state a).fragments = ["log", "work", "rest", "clean"] := by
  have single : worker.directives = [{}] := rfl
  have generated : worker.hasBody = false := by decide
  obtain ⟨p, made, runs, _⟩ := fragments_run_in_order {} .textual single generated
  refine ⟨p, made, ?_⟩
  intro σ h host state a
  rw [runs]
  rfl

end Expansion

end StateWeave
