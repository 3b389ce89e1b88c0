import StateWeave.Proofs.ActionNames
import StateWeave.Proofs.ListPlaceholders

/-!
# Where routes begin

A fragment that does not react to every action has a path to those that it reacts to. The path is
the case that the fragment brings itself, the way to the placeholder that it binds, or what its
directive says. The first two begin with a case of the module's actions, unless somebody has put a
dot into the name of a child. What a directive says is taken as it is: `fragment_route_cases` says
that nobody compares it with the actions of the module.
-/

namespace StateWeave

open Admission

/-- The path to the actions that a fragment reacts to, if these are not all actions. -/
def Routing.path? : Routing → Option Path
  | .action path => some path
  | .identified path _ => some path
  | _ => none

/-- Whether a path begins with a case that has one of these names. -/
def Path.BeginsWith (path : Path) (names : List String) : Prop :=
  ∃ name rest, path.steps = .case name :: rest ∧ name ∈ names

/-- A path along the parts of a name begins with the case of that name if it has one part only. -/
theorem Path.beginsWith_or_dotted {path : Path} {name : String} {rest : List Step}
    (steps : path.steps = (Naming.components name).map Step.case ++ rest) {names : List String}
    (known : '.' ∉ name.toList → name ∈ names) :
    path.BeginsWith names ∨
      '.' ∈ name.toList ∧ (Naming.components name).map Step.case <+: path.steps := by
  by_cases dotted : '.' ∈ name.toList
  · exact Or.inr ⟨dotted, steps ▸ List.prefix_append _ _⟩
  · rw [Naming.components_of_dotless dotted] at steps
    exact Or.inl ⟨name, rest, steps, known dotted⟩

/-- A pipeline calls the fragments that it has outside of observers. -/
theorem Pipeline.mem_calls_of_mem_fragments {p : Pipeline} {f : Fragment}
    (member : f ∈ p.stages.flatMap Stage.fragments) : f ∈ p.calls := by
  obtain ⟨stage, stands, among⟩ := List.mem_flatMap.mp member
  refine List.mem_flatMap.mpr ⟨stage, stands, ?_⟩
  rw [stage.calls_eq]
  exact List.mem_append_left _ among

namespace Contribution

variable {v : Visit} {position : Position} {f : Fragment}

/-- A fragment that brings an action reacts to this action. -/
theorem routing_of_actionFragment {name type : String} {location : Location}
    (h : ofVisit v = .actionFragment position name type location f) :
    f.routing = .action (Path.action.case name) := by
  have written : (ofVisit v).written? = some f := by rw [h]; rfl
  obtain ⟨decl, d, a, _, _, _, made⟩ := exists_ofFunction written
  rw [h] at made
  cases made
  rfl

/-- A fragment without an action or a binding of its own reacts to what its directive says. -/
theorem routing_of_fragment (h : ofVisit v = .fragment position f) :
    ∃ decl a, v.member = .function decl ∧ Directive.find? decl.attributes = some (.body, a) ∧
      bodyRouting a = .ok f.routing := by
  have written : (ofVisit v).written? = some f := by rw [h]; rfl
  obtain ⟨decl, d, a, function, directive, _, made⟩ := exists_ofFunction written
  rw [h] at made
  cases made with
  | fragment routed => exact ⟨decl, a, function, directive, routed⟩

theorem isError_of_bodyRouting {a : Attribute} {reports : Diagnostics}
    (failed : bodyRouting a = .error reports) : ∃ d ∈ reports, d.isError = true := by
  rw [bodyRouting] at failed
  repeat' split at failed
  all_goals
    cases failed
    try exact ⟨_, List.mem_cons_self, rfl⟩

/-- A function with a `compose_body` directive is refused for an error, or it is a fragment that
reacts to what the directive says. -/
theorem ofVisit_of_body {decl : FunctionDecl} {a : Attribute} (function : v.member = .function decl)
    (directive : Directive.find? decl.attributes = some (.body, a)) :
    (∃ reports, ofVisit v = .refused reports ∧ ∃ d ∈ reports, d.isError = true) ∨
      ∃ position f, ofVisit v = .fragment position f ∧ bodyRouting a = .ok f.routing := by
  have attributes : v.member.attributes = decl.attributes := by rw [function]; rfl
  have plays : ofVisit v = ofFunction v.scopes .body decl a := by
    rw [ofVisit, Role.ofMember, attributes, directive, function]
    rfl
  rw [plays, ofFunction, Signature.check]
  cases found : Signature.violations .body (a.labeled? "identified_action").isSome decl with
  | cons first rest =>
      refine Or.inl ⟨_, rfl, _, List.mem_cons_self, ?_⟩
      obtain ⟨p, _, violated⟩ := List.mem_filterMap.mp (found ▸ List.mem_cons_self)
      rw [Signature.violation?] at violated
      repeat' split at violated
      all_goals
        cases violated
        try rfl
  | nil =>
      cases routed : bodyRouting a with
      | ok routing => exact Or.inr ⟨_, _, by simp only [ofSignature, routed]; rfl, rfl⟩
      | error reports =>
          exact Or.inl ⟨reports, by simp only [ofSignature, routed], isError_of_bodyRouting routed⟩

/-- A fragment that waits for nothing is in its place, however the placeholders stand. -/
theorem mem_placed_of_fragment {cs : List Contribution} (member : .fragment position f ∈ cs)
    (r : PlaceholderRegistry) : (position, f) ∈ placed r cs := by
  induction cs generalizing r with
  | nil => cases member
  | cons c cs ih =>
      rw [placed, List.mem_append]
      rcases List.mem_cons.mp member with rfl | later
      · exact Or.inl List.mem_cons_self
      · exact Or.inr (ih later _)

end Contribution

namespace ChildEntry

variable {policy : Policy} {resolver : Resolver}

theorem name_of_listed? {list : String} {e : ChildEntry} {p : Placeholder}
    (listed : e.listed? resolver list = some p) : ∃ name, p.name = Naming.nestedKey list name := by
  rw [listed?] at listed
  split at listed
  · cases listed
    exact ⟨_, rfl⟩
  · cases listed

/-- Each placeholder is declared by an alert or a dialog, or by a list that has one. -/
theorem mem_declarations_cases {p : Placeholder} {taken : List String} {es : List ChildEntry}
    (member : p ∈ declarations policy resolver taken es) :
    (∃ e ∈ es, e.own? policy resolver = some p) ∨
      ∃ e ∈ es, ∃ list embedding children,
        e.plan policy resolver = .list list embedding children ∧
        ∃ name, p.name = Naming.nestedKey list name := by
  induction es generalizing taken with
  | nil => cases member
  | cons e es ih =>
      rw [declarations, List.mem_append] at member
      rcases member with here | later
      · rw [declared] at here
        cases plan : e.plan policy resolver with
        | placeholder kind name =>
            simp only [plan] at here
            split at here
            · refine Or.inl ⟨e, List.mem_cons_self, ?_⟩
              rw [own?, plan, List.mem_singleton.mp here]
            · cases here
        | list name embedding children =>
            simp only [plan] at here
            obtain ⟨child, _, listed⟩ := List.mem_filterMap.mp here
            exact Or.inr ⟨e, List.mem_cons_self, name, embedding, children, plan,
              name_of_listed? listed⟩
        | _ => simp [plan] at here
      · rcases ih later with ⟨e, among, own⟩ | ⟨e, among, list⟩
        · exact Or.inl ⟨e, List.mem_cons_of_mem _ among, own⟩
        · exact Or.inr ⟨e, List.mem_cons_of_mem _ among, list⟩

theorem planOf_ne_list (e : ChildEntry) (name : String) (embedding : Embedding) (list : String)
    (other : Embedding) (children : List ChildEntry) :
    e.planOf name embedding ≠ .list list other children := by
  cases embedding <;> exact ChildPlan.noConfusion

/-- The actions of a list have a type. -/
theorem exists_actionType_of_list {e : ChildEntry} {list : String} {embedding : Embedding}
    {children : List ChildEntry} (asks : e.plan policy resolver = .list list embedding children) :
    ∃ type, embedding.actionType? = some type := by
  rw [plan] at asks
  repeat' split at asks
  · cases asks
    exact ⟨_, rfl⟩
  · cases asks
    exact ⟨_, rfl⟩
  · cases asks
  · cases asks
  · exact absurd asks (planOf_ne_list _ _ _ _ _ _)
  · rw [typedPlan] at asks
    repeat' split at asks
    · cases asks
    · exact absurd asks (planOf_ne_list _ _ _ _ _ _)
    · cases asks

end ChildEntry

namespace PlaceholderRegistry

/-- A registry has a name because something of this name was declared. -/
theorem exists_declared {ps : List Placeholder} {name : String}
    (known : name ∈ (empty.declareAll ps).names) : ∃ p ∈ ps, p.name = name := by
  by_contra other
  have undeclared : name ∉ ps.map Placeholder.name := by
    rw [List.mem_map]
    exact fun ⟨p, member, same⟩ => other ⟨p, member, same⟩
  have missing := get?_declareAll_of_not_mem undeclared empty
  exact get?_eq_none_iff.mp missing known

end PlaceholderRegistry

namespace Expansion

section

variable {policy : Policy} {resolver : Resolver} {definition : ModuleDef} {c : Composition}
  (single : definition.directives = [c])

include single

theorem mem_actionNames_of_authored {a : ActionMember}
    (authored : a ∈ c.authoredActions policy resolver definition.members) :
    a.name ∈ (Expansion.ofModule policy resolver definition).actionNames := by
  rw [(perm_actionNames_ofModule policy resolver definition single).mem_iff]
  exact List.mem_append_left _ (List.mem_map_of_mem authored)

theorem mem_actionNames_of_embedded {child : NamedChild}
    (embedded : child ∈ c.embedded policy resolver definition.members) {type : String}
    (acts : child.embedding.actionType? = some type) :
    child.name ∈ (Expansion.ofModule policy resolver definition).actionNames := by
  have action : child.action? = some ⟨child.name, type⟩ := by rw [NamedChild.action?, acts]; rfl
  exact mem_actionNames_of_authored single
    (List.mem_append_left _ (List.mem_filterMap.mpr ⟨child, embedded, action⟩))

/-- A list that is among the children of a module without errors has a case for its actions. -/
theorem mem_actionNames_of_list
    (fine : (Expansion.ofModule policy resolver definition).hasErrors = false) {e : ChildEntry}
    (child : e ∈ c.children) {list : String} {embedding : Embedding} {children : List ChildEntry}
    (plan : e.plan policy resolver = .list list embedding children) :
    list ∈ (Expansion.ofModule policy resolver definition).actionNames := by
  have asks : e.child? policy resolver = some ⟨list, embedding, none⟩ := by
    rw [ChildEntry.child?, plan]
    rfl
  have entered : e ∈ c.entries policy resolver := entries_of_fine single fine ▸ child
  have embedded : ⟨list, embedding, none⟩ ∈ c.embedded policy resolver definition.members :=
    List.mem_append_left _ (List.mem_filterMap.mpr ⟨e, entered, asks⟩)
  obtain ⟨type, acts⟩ := ChildEntry.exists_actionType_of_list plan
  exact mem_actionNames_of_embedded single embedded acts

section

variable {front back : List Contribution} {position : Position} {b : PendingBinding}
  {f : Fragment} {p : Placeholder}
  (contributions : c.contributions policy resolver definition.members =
    front ++ .boundFragment position b f :: back)
  (found : ((c.declared policy resolver).settle
    (front.filterMap Contribution.binding?)).Finds b p)

include contributions found

/-- A placeholder that a fragment is bound to has a case, if it is the module's own. -/
theorem mem_actionNames_of_finds (dotless : '.' ∉ p.name.toList) :
    p.name ∈ (Expansion.ofModule policy resolver definition).actionNames := by
  let type := p.typeAfter b.actionType (back.filterMap Contribution.binding?)
  have settled := (PlaceholderRegistry.mem_of_get?
    (Composition.get?_settled_of_finds contributions found)).1
  have own := Placeholder.isLocal_of_dotless dotless
  have embedded : ⟨p.name, p.embedding type, none⟩ ∈
      c.embedded policy resolver definition.members :=
    List.mem_append_right _ (PlaceholderRegistry.mem_children settled own)
  obtain ⟨action, acts, _⟩ := Option.map_eq_some_iff.mp (p.action?_of_typed type)
  exact mem_actionNames_of_embedded single embedded acts

/-- The path to a placeholder begins with the case of its child or of its list, unless this case
has a dot in its name: then the path has a case for each part of the name. -/
theorem path_of_finds
    (fine : (Expansion.ofModule policy resolver definition).hasErrors = false) :
    p.path.BeginsWith (Expansion.ofModule policy resolver definition).actionNames ∨
      ∃ e ∈ c.children, ∃ name, e.claim? policy resolver = some name ∧ '.' ∈ name.toList ∧
        (Naming.components name).map Step.case <+: p.path.steps := by
  have known : p.name ∈ (c.declared policy resolver).names := by
    rw [← PlaceholderRegistry.names_settle _ (front.filterMap Contribution.binding?)]
    exact List.mem_map_of_mem (PlaceholderRegistry.mem_entries_of_finds found)
  obtain ⟨q, declared, same⟩ := PlaceholderRegistry.exists_declared known
  rcases ChildEntry.mem_declarations_cases declared with
    ⟨e, child, own⟩ | ⟨e, child, list, embedding, children, plan, name, nested⟩
  · have asked : e.claim? policy resolver = some p.name := same ▸ ChildEntry.claim?_of_own? own
    exact (Path.beginsWith_or_dotted p.steps_path
      (mem_actionNames_of_finds single contributions found)).imp_right
        fun parts => ⟨e, child, p.name, asked, parts⟩
  · have asked : e.claim? policy resolver = some list := by
      rw [ChildEntry.claim?, plan]
      rfl
    have steps : p.path.steps = (Naming.components list).map Step.case ++
        ((Naming.components name).map Step.case ++
          if p.presentable then [.presented] else []) := by
      rw [p.steps_path, ← same, nested, Naming.components_nestedKey, List.map_append,
        List.append_assoc]
    exact (Path.beginsWith_or_dotted steps fun _ =>
      mem_actionNames_of_list single fine child plan).imp_right
        fun parts => ⟨e, child, list, asked, parts⟩

end

/-- A module without errors calls each function with a `compose_body` directive, and the path that
the directive gives is taken as it is. -/
theorem mem_calls_of_body (fine : (Expansion.ofModule policy resolver definition).hasErrors = false)
    {p : Pipeline}
    (generated : (Expansion.ofModule policy resolver definition).pipeline? = some p) {v : Visit}
    (visited : v ∈ Visit.ofMembers [] definition.members) {decl : FunctionDecl} {a : Attribute}
    (function : v.member = .function decl)
    (directive : Directive.find? decl.attributes = some (.body, a)) :
    ∃ f ∈ p.calls, f.function = v.path ∧ Contribution.bodyRouting a = .ok f.routing := by
  rcases Contribution.ofVisit_of_body function directive with
    ⟨reports, refused, error⟩ | ⟨position, f, made, routed⟩
  · exact absurd refused (ofVisit_ne_refused_of_fine single fine visited error)
  · have written : (Contribution.ofVisit v).written? = some f := by rw [made]; rfl
    have contributed : .fragment position f ∈
        c.contributions policy resolver definition.members :=
      mem_admitted_of_none rfl (made ▸ List.mem_map_of_mem visited)
    have placed := Contribution.mem_placed_of_fragment contributed (c.declared policy resolver)
    have fragment := mem_fragments_of_placed single placed generated
    exact ⟨f, Pipeline.mem_calls_of_mem_fragments fragment,
      (Contribution.written_of_ofVisit written).1, routed⟩

/-- In a module without errors the path of a fragment begins with a case of the module's actions,
except for two sorts of paths. A `compose_body` directive may give a path, and each that it gives
is taken, whether or not it leads to an action. And the path to an alert or a dialog goes by the
parts of a name where this name, or that of the list around, has a dot in it. -/
theorem fragment_route_cases
    (fine : (Expansion.ofModule policy resolver definition).hasErrors = false) {p : Pipeline}
    (generated : (Expansion.ofModule policy resolver definition).pipeline? = some p) :
    (∀ f ∈ p.calls, ∀ path, f.routing.path? = some path →
      path.BeginsWith (Expansion.ofModule policy resolver definition).actionNames ∨
      (∃ v ∈ Visit.ofMembers [] definition.members, ∃ decl a, v.member = .function decl ∧
        Directive.find? decl.attributes = some (.body, a) ∧ f.function = v.path ∧
        Contribution.bodyRouting a = .ok f.routing) ∨
      ∃ e ∈ c.children, ∃ name, e.claim? policy resolver = some name ∧ '.' ∈ name.toList ∧
        (Naming.components name).map Step.case <+: path.steps) ∧
    ∀ v ∈ Visit.ofMembers [] definition.members, ∀ decl a, v.member = .function decl →
      Directive.find? decl.attributes = some (.body, a) →
      ∃ f ∈ p.calls, f.function = v.path ∧ Contribution.bodyRouting a = .ok f.routing := by
  refine ⟨fun f calls path routed => ?_, fun v visited decl a function directive =>
    mem_calls_of_body single fine generated visited function directive⟩
  rw [Pipeline.calls, stages_of_pipeline? single generated] at calls
  rcases c.mem_calls_layout policy resolver _ _ calls with ⟨position, placed⟩ | every
  · rcases Contribution.mem_placed_cases (c.nodup_names_declared policy resolver) placed with
      plain | ⟨name, type, location, acts⟩ | ⟨front, b, g, back, q, contributions, found, rfl⟩
    · obtain ⟨v, visited, made⟩ := List.mem_map.mp (mem_of_mem_admitted plain)
      obtain ⟨decl, a, function, directive, given⟩ := Contribution.routing_of_fragment made
      have written : (Contribution.ofVisit v).written? = some f := by rw [made]; rfl
      exact Or.inr (Or.inl ⟨v, visited, decl, a, function, directive,
        (Contribution.written_of_ofVisit written).1, given⟩)
    · obtain ⟨v, _, made⟩ := List.mem_map.mp (mem_of_mem_admitted acts)
      rw [Contribution.routing_of_actionFragment made] at routed
      cases routed
      have authored : ⟨name, type⟩ ∈ c.authoredActions policy resolver definition.members :=
        List.mem_append_right _ (List.mem_filterMap.mpr ⟨_, acts, rfl⟩)
      exact Or.inl ⟨name, [], rfl, mem_actionNames_of_authored single authored⟩
    · cases routed
      exact (path_of_finds single contributions found fine).imp_right Or.inr
  · rw [every] at routed
    cases routed

end

def reacting (function : String) (segments : List String) : Member :=
  .function {
    name := function
    attributes := [{
      name := "compose_body", args := [⟨some "action", .keyPath "Action" segments, {}⟩] }]
    returnType := none }

/-- A porch with a bell, which one function answers; another waits for what nobody sends. -/
def porch : ModuleDef where
  name := "Porch"
  directives := [{ children := [presentedAlert "bell"] }]
  members := [answering "open" "bell" "Ring", reacting "sweep" ["dust"]]

theorem fragment_route_cases_porch :
    let e := Expansion.ofModule {} .textual porch
    e.diagnostics = [] ∧ e.actionNames = ["bell"] ∧ ∃ p, e.pipeline? = some p ∧
      ∃ f ∈ p.calls, f.function = "sweep" ∧ f.routing = .action (Path.action.case "dust") := by
  intro e
  have fine : e.hasErrors = false := by decide
  obtain ⟨p, generated⟩ : ∃ p, e.pipeline? = some p := ⟨_, rfl⟩
  obtain ⟨_, called⟩ := fragment_route_cases rfl fine generated
  have visited : ⟨[], reacting "sweep" ["dust"]⟩ ∈ Visit.ofMembers [] porch.members :=
    List.mem_cons_of_mem _ List.mem_cons_self
  obtain ⟨f, calls, function, routed⟩ := called _ visited _ _ rfl rfl
  have names : e.actionNames.Perm ["bell"] := perm_actionNames_ofModule {} .textual porch rfl
  exact ⟨rfl, List.perm_singleton.mp names, p, generated, f, calls, function,
    (Except.ok.inj routed).symm⟩

end Expansion

end StateWeave
