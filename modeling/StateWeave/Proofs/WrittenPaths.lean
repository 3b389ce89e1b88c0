import StateWeave.Proofs.FragmentRoutes
import StateWeave.Proofs.HostCalls
import StateWeave.Proofs.ReachedChildren

/-!
# Paths that directives write down

A function with a `compose_body` directive may name the action that it is for, as a path of one
segment. It is then called for the actions of this case and no others, and given their payload,
whatever the state and the host. One segment is not the name of a case: `presented` stands for the
envelope around presented actions, also in a module that has an action of that name. Such an action
is not reached in this way.
-/

namespace StateWeave

/-- What the host is called for on behalf of the fragments that react to an action. -/
def Fragment.asked (a : Value) (fs : List Fragment) : List (Fragment × Value) :=
  fs.filterMap fun f => (f.routing.deliver? a).map (f, ·)

namespace Fragment

variable {a : Value} {fs : List Fragment}

theorem mem_asked_iff {f : Fragment} {x : Value} :
    (f, x) ∈ asked a fs ↔ f ∈ fs ∧ f.routing.deliver? a = some x := by
  rw [asked, List.mem_filterMap]
  constructor
  · rintro ⟨g, member, delivered⟩
    obtain ⟨y, routed, same⟩ := Option.map_eq_some_iff.mp delivered
    obtain ⟨rfl, rfl⟩ := Prod.mk.inj same
    exact ⟨member, routed⟩
  · rintro ⟨member, routed⟩
    exact ⟨f, member, by rw [routed]; rfl⟩

theorem filterMap_call?_reactions : (reactions a fs).filterMap (Moment.call? a) = asked a fs := by
  rw [reactions, List.filterMap_filterMap, asked]
  refine List.filterMap_congr fun f _ => ?_
  cases f.routing.deliver? a <;> rfl

end Fragment

theorem CoreModifier.mem_observers {modifiers : List CoreModifier} {o : Observer}
    (member : o ∈ Run.observersOf modifiers) : o ∈ modifiers.flatMap observers := by
  obtain ⟨modifier, wrapped, found⟩ := List.mem_filterMap.mp member
  cases modifier with
  | child => cases found
  | observer =>
      cases found
      exact List.mem_flatMap.mpr ⟨_, wrapped, List.mem_cons_self⟩

section

variable {σ : Type} {h : Host σ} {a : Value}

/-- A stage asks for its fragments that react to the action, and then perhaps for observers that
hang on it. -/
theorem Stage.Goes.exists_asked {r : Run σ} {s : Stage} {ms : List Moment}
    (goes : s.Goes h a r ms) :
    ∃ watched : List Observer, watched ⊆ s.observers ∧
      ms.filterMap (Moment.call? a) =
        Fragment.asked a s.fragments ++ watched.map fun o => (o.fragment, a) := by
  cases goes with
  | empty => exact ⟨[], List.nil_subset _, rfl⟩
  | binding => exact ⟨[], List.nil_subset _, by split <;> rfl⟩
  | fragment =>
      refine ⟨[], List.nil_subset _, ?_⟩
      rw [Fragment.filterMap_call?_reactions]
      exact (List.append_nil _).symm
  | child =>
      refine ⟨[], List.nil_subset _, ?_⟩
      exact List.filterMap_eq_nil_iff.mpr fun _ => Run.call?_of_mem_arrivals a
  | @core fs modifiers state watched reached among quiet =>
      refine ⟨watched, fun o member => CoreModifier.mem_observers (among.subset member), ?_⟩
      have noted : (ChildStage.arrivals state a (Run.childrenOf modifiers)).filterMap
          (Moment.call? a) = [] :=
        List.filterMap_eq_nil_iff.mpr fun _ => Run.call?_of_mem_arrivals a
      have observed : (watched.map Moment.observer).filterMap (Moment.call? a) =
          watched.map fun o => (o.fragment, a) := by
        rw [List.filterMap_map]
        exact congrFun List.filterMap_eq_map _
      rw [List.filterMap_append, List.filterMap_append, noted, List.append_nil, observed,
        Fragment.filterMap_call?_reactions]
      rfl

/-- For a fragment that no observer has, stages ask if it reacts to the action. -/
theorem Run.GoesThrough.mem_asked_iff {r : Run σ} {ss : List Stage} {mss : List (List Moment)}
    (through : GoesThrough h a r ss mss) {f : Fragment}
    (unobserved : ∀ o ∈ ss.flatMap Stage.observers, o.fragment ≠ f) {x : Value} :
    (f, x) ∈ mss.flatten.filterMap (Moment.call? a) ↔
      f ∈ ss.flatMap Stage.fragments ∧ f.routing.deliver? a = some x := by
  induction through with
  | nil => exact iff_of_false List.not_mem_nil fun h => List.not_mem_nil h.1
  | @cons r s ss ms mss goes rest ih =>
      rw [List.flatMap_cons, List.forall_mem_append] at unobserved
      obtain ⟨watched, hang, asked⟩ := goes.exists_asked
      have missed : (f, x) ∉ watched.map fun o => (o.fragment, a) := by
        intro member
        obtain ⟨o, watches, same⟩ := List.mem_map.mp member
        exact unobserved.1 o (hang watches) (congrArg Prod.fst same)
      rw [List.flatten_cons, List.filterMap_append, List.mem_append, asked, List.mem_append,
        or_iff_left missed, Fragment.mem_asked_iff, ih unobserved.2, List.flatMap_cons,
        List.mem_append, or_and_right]

/-- A fragment that no observer has is called in a run if it reacts to the action, and it is given
what its routing delivers. -/
theorem Pipeline.exists_call_iff {p : Pipeline} {f : Fragment}
    (stands : f ∈ p.stages.flatMap Stage.fragments)
    (unobserved : ∀ o ∈ p.observers, o.fragment ≠ f) (host : σ) (state x : Value) :
    (∃ call ∈ p.hostCalls h host state a, call.fragment = f ∧ call.action = x) ↔
      f.routing.deliver? a = some x := by
  obtain ⟨mss, through, _, asked⟩ := p.exists_goesThrough h host state a
  have calls : (∃ call ∈ p.hostCalls h host state a, call.fragment = f ∧ call.action = x) ↔
      (f, x) ∈ (p.hostCalls h host state a).map HostCall.asked := by
    simp only [List.mem_map, HostCall.asked, Prod.mk.injEq]
  rw [calls, asked, through.mem_asked_iff unobserved, and_iff_right stands]

end

/-- The actions that a path of one segment leads to, with their payload. -/
def Value.ofSegment (segment : String) (payload : Value) : Value :=
  if segment = "presented" then .presented payload else .case segment payload

/-- A path of one segment delivers the payload of the actions that it leads to. -/
theorem Routing.deliver?_ofSegment {segment : String} {a x : Value} :
    (Routing.action ⟨"Action", [Expr.actionStep segment]⟩).deliver? a = some x ↔
      a = Value.ofSegment segment x := by
  by_cases envelope : segment = "presented"
  · rw [Expr.actionStep, Value.ofSegment, if_pos envelope, if_pos envelope]
    cases a <;> simp [deliver?, Value.extract?, Value.follow?, Value.get?]
  · rw [Expr.actionStep, Value.ofSegment, if_neg envelope, if_neg envelope]
    change a.extract? (Path.action.case segment) = some x ↔ _
    rw [Value.extract?_case_eq_some_iff, Value.extract?_action, Option.some_inj]

theorem Contribution.bodyRouting_of_segment {a : Attribute} {arg : Argument} {segment : String}
    (plain : a.labeled? "identified_action" = none) (labeled : a.labeled? "action" = some arg)
    (written : arg.value = .keyPath "Action" [segment]) :
    bodyRouting a = .ok (.action ⟨"Action", [Expr.actionStep segment]⟩) := by
  simp [bodyRouting, plain, labeled, written, Expr.actionPath?]

namespace Expansion

variable {policy : Policy} {resolver : Resolver} {definition : ModuleDef}

/-- A function whose directive names its action by a path of one segment, and that is not refused,
is called just for the actions that this segment leads to, whatever the state and the host, and it
is given their payload. These are the actions of the case of this name; but for `presented` they are
the presented actions. -/
theorem written_path_reached {p : Pipeline}
    (generated : (Expansion.ofModule policy resolver definition).pipeline? = some p) {v : Visit}
    (visited : v ∈ Visit.ofMembers [] definition.members) {decl : FunctionDecl} {a : Attribute}
    (function : v.member = .function decl)
    (directive : Directive.find? decl.attributes = some (.body, a))
    (plain : a.labeled? "identified_action" = none) {arg : Argument}
    (labeled : a.labeled? "action" = some arg) {segment : String}
    (written : arg.value = .keyPath "Action" [segment])
    (accepted : ∀ reports, Contribution.ofVisit v ≠ .refused reports) :
    ∃ position f, Contribution.ofVisit v = .fragment position f ∧
      ∀ {σ : Type} (h : Host σ) (host : σ) (state action payload : Value),
        (∃ call ∈ p.hostCalls h host state action, call.fragment = f ∧ call.action = payload) ↔
          action = Value.ofSegment segment payload := by
  obtain ⟨c, single⟩ := exists_single_of_pipeline? generated
  rcases Contribution.ofVisit_of_body function directive with
    ⟨reports, refused, _⟩ | ⟨position, f, made, routed⟩
  · exact absurd refused (accepted reports)
  · have route : f.routing = .action ⟨"Action", [Expr.actionStep segment]⟩ := by
      rw [Contribution.bodyRouting_of_segment plain labeled written] at routed
      exact (Except.ok.inj routed).symm
    have contributed : .fragment position f ∈
        c.contributions policy resolver definition.members :=
      Admission.mem_admitted_of_none rfl (made ▸ List.mem_map_of_mem visited)
    have stands := mem_fragments_of_placed single
      (Contribution.mem_placed_of_fragment contributed (c.declared policy resolver)) generated
    have unobserved : ∀ o ∈ p.observers, o.fragment ≠ f := by
      rintro o hangs rfl
      rw [routing_of_mem_observers single generated hangs] at route
      cases route
    refine ⟨position, f, made, fun h host state action payload => ?_⟩
    rw [Pipeline.exists_call_iff stands unobserved, route, Routing.deliver?_ofSegment]

def gallery : ModuleDef where
  name := "Gallery"
  directives := [{ children := [
    ⟨.reducer, false, some (.string "presented"), some (.named "Slide"), none, {}⟩,
    ⟨.reducer, false, some (.string "caption"), some (.named "Caption"), none, {}⟩] }]
  members := [reacting "turn" ["presented"], reacting "edit" ["caption"]]

theorem written_path_reached_gallery :
    ∃ p, (Expansion.ofModule {} .textual gallery).pipeline? = some p ∧
      (∃ call ∈ p.hostCalls .idle () .unit (.case "caption" (.text "Dusk")),
        call.fragment.function = "edit" ∧ call.action = .text "Dusk") ∧
      ∃ call ∈ p.hostCalls .idle () .unit (.presented (.text "Dawn")),
        call.fragment.function = "turn" ∧ call.action = .text "Dawn" := by
  obtain ⟨p, generated⟩ : ∃ p, (Expansion.ofModule {} .textual gallery).pipeline? = some p :=
    ⟨_, rfl⟩
  have turn : ⟨[], reacting "turn" ["presented"]⟩ ∈ Visit.ofMembers [] gallery.members :=
    List.mem_cons_self
  have edit : ⟨[], reacting "edit" ["caption"]⟩ ∈ Visit.ofMembers [] gallery.members :=
    List.mem_cons_of_mem _ List.mem_cons_self
  obtain ⟨_, _, edits, reached⟩ :=
    written_path_reached generated edit rfl rfl rfl rfl rfl fun _ => Contribution.noConfusion
  obtain ⟨_, _, turns, presents⟩ :=
    written_path_reached generated turn rfl rfl rfl rfl rfl fun _ => Contribution.noConfusion
  obtain ⟨_, rfl⟩ := Contribution.fragment.inj edits
  obtain ⟨_, rfl⟩ := Contribution.fragment.inj turns
  obtain ⟨call, made, same, given⟩ := (reached Host.idle () .unit _ (.text "Dusk")).mpr rfl
  obtain ⟨other, also, alike, handed⟩ := (presents Host.idle () .unit _ (.text "Dawn")).mpr rfl
  exact ⟨p, generated, ⟨call, made, same ▸ rfl, given⟩, other, also, alike ▸ rfl, handed⟩

/-- The actions of the child that is called as the envelope is are not reached by its name. -/
theorem presented_child_not_reached :
    let e := Expansion.ofModule {} .textual gallery
    gallery.placement = .root ∧ e.diagnostics = [] ∧ "presented" ∈ e.actionNames ∧
      ∃ p f, e.pipeline? = some p ∧
        Contribution.ofVisit ⟨[], reacting "turn" ["presented"]⟩ = .fragment .core f ∧
        ∀ call ∈ p.hostCalls .idle () .unit (.case "presented" .unit), call.fragment ≠ f := by
  intro e
  have names : e.actionNames.Perm ["presented", "caption"] :=
    perm_actionNames_ofModule {} .textual gallery rfl
  refine ⟨rfl, rfl, names.mem_iff.mpr List.mem_cons_self, _, _, rfl, rfl, ?_⟩
  exact fun _ member => absurd member List.not_mem_nil

end Expansion

end StateWeave
