import StateWeave.Proofs.BoundFragments

/-!
# The arguments of calls

A pipeline gives their arguments to functions by the names of their parameters. Which names a
function may use is looked up for its directive, before anything is known of where it will run: a
stage has the state and the action to give, a stage for the actions of elements also an id, and an
observer has the values before and after. `calls_keep_signatures` says that each function that got
into a pipeline is called as it is declared and gets all that it asks for where it stands.
-/

namespace StateWeave

/-- The arguments of a fragment have these names, and only the state is changed in place. -/
def Fragment.Takes (f : Fragment) (names : List String) : Prop :=
  ∀ arg ∈ f.args, arg.name ∈ names ∧ (arg.isMutable = true → arg.name = "state")

theorem Fragment.Takes.mono {f : Fragment} {names more : List String} (takes : f.Takes names)
    (among : ∀ name ∈ names, name ∈ more) : f.Takes more :=
  fun arg given => ⟨among _ (takes arg given).1, (takes arg given).2⟩

/-- What a stage has to give to a fragment. Only an action of an element comes with an id. -/
def Routing.argNames : Routing → List String
  | .identified _ _ => ["state", "action", "id"]
  | _ => ["state", "action"]

def Observer.argNames : List String := ["state", "action", "old_value", "new_value"]

theorem Routing.mem_argNames_of_plain (routing : Routing) :
    ∀ name ∈ ["state", "action"], name ∈ routing.argNames := by
  intro name plain
  cases routing with
  | identified => exact List.mem_append_left ["id"] plain
  | _ => exact plain

namespace Signature

theorem violation?_eq_none_iff (d : Directive) (identified : Bool) (p : Param) :
    violation? d identified p = none ↔
      p.name ∈ d.allowedParams identified ∧ (p.isMutable = true → p.name = "state") := by
  rw [violation?]
  by_cases allowed : p.name ∈ d.allowedParams identified
  · rw [if_pos (List.contains_iff_mem.mpr allowed), ite_eq_right_iff]
    simp [allowed]
  · rw [if_neg (mt List.contains_iff_mem.mp allowed)]
    constructor
    · intro silent
      split at silent <;> cases silent
    · exact fun known => absurd known.1 allowed

/-- A function whose signature is in order is called with what its directive allows. -/
theorem takes_call {d : Directive} {identified : Bool} {decl : FunctionDecl}
    (sound : violations d identified decl = []) (scopes : List String) :
    (Fragment.call scopes decl).Takes (d.allowedParams identified) := by
  intro arg given
  obtain ⟨p, param, rfl⟩ := List.mem_map.mp given
  exact (violation?_eq_none_iff d identified p).mp (List.filterMap_eq_nil_iff.mp sound p param)

end Signature

namespace Contribution

/-- A directive that names a collection of elements routes to their actions or is refused. -/
theorem identified_of_bodyRouting {a : Attribute} {routing : Routing}
    (routed : bodyRouting a = .ok routing)
    (asked : (a.labeled? "identified_action").isSome = true) :
    ∃ action element, routing = .identified action element := by
  obtain ⟨arg, found⟩ := Option.isSome_iff_exists.mp asked
  have first : (some arg <|> a.labeled? "action") = some arg := rfl
  rw [bodyRouting, found, first] at routed
  simp only [Option.isNone_some, Bool.false_eq_true, if_false] at routed
  repeat' split at routed
  all_goals cases routed
  · exact ⟨_, _, rfl⟩
  · exact ⟨_, _, rfl⟩

section

variable {scopes : List String} {decl : FunctionDecl} {a : Attribute} {d : Directive}
  {c : Contribution} (made : OfFunction scopes decl a d c)
  (sound : Signature.violations d (a.labeled? "identified_action").isSome decl = [])

include made sound

/-- The fragment of a function takes what stages have to give to it, whatever it is routed to. -/
theorem OfFunction.placed {r : PlaceholderRegistry} {position : Position} {f : Fragment}
    (h : c.placed? r = some (position, f)) :
    f = { Fragment.call scopes decl with routing := f.routing } ∧
      f.Takes f.routing.argNames := by
  have takes := Signature.takes_call sound scopes
  cases made with
  | fragment routed =>
      cases h
      refine ⟨rfl, ?_⟩
      cases asked : (a.labeled? "identified_action").isSome with
      | false =>
          rw [asked] at takes
          exact takes.mono (Routing.mem_argNames_of_plain _)
      | true =>
          rw [asked] at takes
          obtain ⟨action, element, rfl⟩ := identified_of_bodyRouting routed asked
          exact takes
  | actionFragment =>
      cases h
      exact ⟨rfl, takes⟩
  | boundFragment bound _ =>
      obtain ⟨path, _, same⟩ := Option.map_eq_some_iff.mp h
      cases same
      refine ⟨rfl, ?_⟩
      cases d with
      | bodyAlert | bodyDialog => exact takes
      | _ => cases bound
  | _ => cases h

theorem OfFunction.observer_takes {attachment : Attachment} {o : Observer}
    (h : c.observer? attachment = some o) :
    o.fragment = Fragment.call scopes decl ∧ o.fragment.Takes Observer.argNames := by
  obtain ⟨rfl, call⟩ := made.observer_eq h
  exact ⟨call, call ▸ Signature.takes_call sound scopes⟩

end

theorem exists_placed? {r : PlaceholderRegistry} {cs : List Contribution} {position : Position}
    {f : Fragment} (member : (position, f) ∈ placed r cs) :
    ∃ c ∈ cs, ∃ s, c.placed? s = some (position, f) := by
  induction cs generalizing r with
  | nil => cases member
  | cons c cs ih =>
      rcases List.mem_append.mp member with here | later
      · exact ⟨c, List.mem_cons_self, r, Option.mem_toList.mp here⟩
      · obtain ⟨c, known, place⟩ := ih later
        exact ⟨c, List.mem_cons_of_mem _ known, place⟩

theorem placed?_of_written?_none {c : Contribution} (silent : c.written? = none)
    (r : PlaceholderRegistry) : c.placed? r = none := by
  cases c with
  | fragment | actionFragment | boundFragment => cases silent
  | _ => rfl

end Contribution

namespace Composition

variable (policy : Policy) (resolver : Resolver) (c : Composition) (members : List Member)

theorem fragment_call {position : Position} {f : Fragment}
    (placed : (position, f) ∈ c.fragments policy resolver members) :
    (∃ v ∈ Visit.ofMembers [] members, ∃ decl, v.member = .function decl ∧
      f = { Fragment.call v.scopes decl with routing := f.routing }) ∧
      f.Takes f.routing.argNames := by
  obtain ⟨contribution, letIn, r, place⟩ := Contribution.exists_placed? placed
  obtain ⟨v, visited, rfl⟩ := exists_visit_of_mem policy resolver letIn
  rcases Contribution.ofVisit_cases v with ⟨decl, d, a, function, _, sound, made⟩ | ⟨silent, _⟩
  · obtain ⟨call, takes⟩ := made.placed sound place
    exact ⟨⟨v, visited, decl, function, call⟩, takes⟩
  · rw [Contribution.placed?_of_written?_none silent] at place
    cases place

theorem observer_call {isRoot : Bool} {o : Observer}
    (hangs : o ∈ (c.layout policy resolver isRoot members).allObservers) :
    (∃ v ∈ Visit.ofMembers [] members, ∃ decl, v.member = .function decl ∧
      o.fragment = Fragment.call v.scopes decl) ∧ o.fragment.Takes Observer.argNames := by
  obtain ⟨attachment, watches⟩ := c.mem_allObservers_layout policy resolver isRoot members hangs
  obtain ⟨contribution, letIn, found⟩ := List.mem_filterMap.mp watches
  obtain ⟨v, visited, rfl⟩ := exists_visit_of_mem policy resolver letIn
  rcases Contribution.ofVisit_cases v with ⟨decl, d, a, function, _, sound, made⟩ | ⟨_, silent⟩
  · obtain ⟨call, takes⟩ := made.observer_takes sound found
    exact ⟨⟨v, visited, decl, function, call⟩, takes⟩
  · rw [silent] at found
    cases found

end Composition

namespace Expansion

variable {policy : Policy} {resolver : Resolver} {definition : ModuleDef}

/-- Each fragment that a module's pipeline calls is a call of a function of the module as it is
declared, up to the actions that it reacts to. A stage gives state and action to its fragments,
and an id to those that react to actions of elements; an observer gives the values before and
after to its fragment, which reacts to every action. Nothing but the state is changed in place. -/
theorem calls_keep_signatures {p : Pipeline}
    (generated : (Expansion.ofModule policy resolver definition).pipeline? = some p) :
    (∀ f ∈ p.calls, ∃ v ∈ Visit.ofMembers [] definition.members, ∃ decl,
      v.member = .function decl ∧
      f = { Fragment.call v.scopes decl with routing := f.routing }) ∧
    (∀ f ∈ p.stages.flatMap Stage.fragments, f.Takes f.routing.argNames) ∧
    ∀ o ∈ p.observers, o.fragment.routing = .any ∧ o.fragment.Takes Observer.argNames := by
  obtain ⟨c, single⟩ : ∃ c, definition.directives = [c] := by
    by_contra several
    rw [pipeline?, declarations_of_not_single several] at generated
    cases generated
  let isRoot := definition.placement.isRoot
  let layout := c.layout policy resolver isRoot definition.members
  have stages : p.stages = layout.stages := stages_of_pipeline? single generated
  have fragments : ∀ f ∈ p.stages.flatMap Stage.fragments,
      ∃ position, (position, f) ∈ c.fragments policy resolver definition.members := by
    intro f member
    rw [fragments_of_pipeline? single generated] at member
    obtain ⟨position, _, among⟩ := List.mem_flatMap.mp member
    exact ⟨position, Position.mem_of_mem_select among⟩
  have observers : ∀ o ∈ p.observers, o ∈ layout.allObservers := by
    intro o hangs
    rw [Pipeline.observers, stages] at hangs
    exact (layout.mem_observers_stages o).mp hangs
  refine ⟨fun f calls => ?_, fun f member => ?_, fun o hangs => ?_⟩
  · rcases Stage.mem_calls_cases calls with own | observer
    · obtain ⟨position, placed⟩ := fragments f own
      exact (c.fragment_call policy resolver definition.members placed).1
    · obtain ⟨o, hangs, rfl⟩ := List.mem_map.mp observer
      obtain ⟨v, visited, decl, function, call⟩ :=
        (c.observer_call policy resolver definition.members (observers o hangs)).1
      exact ⟨v, visited, decl, function, call ▸ rfl⟩
  · obtain ⟨position, placed⟩ := fragments f member
    exact (c.fragment_call policy resolver definition.members placed).2
  · obtain ⟨⟨_, _, _, _, call⟩, takes⟩ :=
      c.observer_call policy resolver definition.members (observers o hangs)
    exact ⟨call ▸ rfl, takes⟩

def inbox : ModuleDef where
  name := "Inbox"
  directives := [{
    children := [⟨.identifiedArray, false, some (.string "mails"), some (.named "Mail"), none, {}⟩] }]
  members := [
    .function {
      name := "mark"
      attributes := [{
        name := "compose_body"
        args := [⟨some "identified_action", .keyPath "Action" ["mails"], {}⟩] }]
      params := [⟨"state", "State", true, {}⟩, ⟨"id", "MailID", false, {}⟩]
      returnType := none },
    .function {
      name := "count"
      attributes := [{
        name := "compose_body_on_change"
        args := [⟨some "of", .keyPath "State" ["mails"], {}⟩] }]
      params := [⟨"new_value", "[Mail]", false, {}⟩]
      returnType := some "Effect" }]

/-- Marking takes the id of a mail, and counting takes the mails as they are now. -/
theorem calls_keep_signatures_inbox :
    ∃ p, (Expansion.ofModule {} .textual inbox).pipeline? = some p ∧
      (∃ f ∈ p.stages.flatMap Stage.fragments,
        f.args = [⟨"state", true⟩, ⟨"id", false⟩] ∧ f.Takes ["state", "action", "id"]) ∧
      ∃ o ∈ p.observers, o.fragment.routing = .any ∧
        o.fragment.args = [⟨"new_value", false⟩] ∧ o.fragment.Takes Observer.argNames := by
  obtain ⟨p, generated⟩ : ∃ p, (Expansion.ofModule {} .textual inbox).pipeline? = some p :=
    ⟨_, rfl⟩
  obtain ⟨_, fragments, observers⟩ := calls_keep_signatures generated
  obtain rfl := Option.some.inj generated
  refine ⟨_, generated, ⟨_, List.mem_cons_self, rfl, fragments _ List.mem_cons_self⟩,
    _, List.mem_cons_self, ?_⟩
  obtain ⟨every, takes⟩ := observers _ List.mem_cons_self
  exact ⟨every, rfl, takes⟩

end Expansion

end StateWeave
