import StateWeave.Proofs.ModuleTable
import StateWeave.Proofs.OwnDeclarations

/-!
# The layout of a pipeline

A pipeline is put together in two passes: stages of children wait until all bindings are
known and are then moved to the front or around the core, while fragments and observers
keep the places where they were entered. `Layout` names the parts of the outcome and
`Layout.stages` says in which order they stand. `pipelineStages_ofModule` is the proof
that the two passes come to just this.
-/

namespace StateWeave

open Admission

/-- The parts of a module's pipeline. -/
structure Layout where
  shape : StateShape
  /-- The observers of two-way bindings, if there is a stage for these. -/
  binding : Option (List Observer)
  /-- Children that run on every action of theirs. -/
  unconditional : List ChildStage
  /-- Children that run while they are there, or for one element at a time. -/
  guarded : List ChildStage
  before : List Fragment
  core : List Fragment
  after : List Fragment
  /-- The observers of the core. -/
  observers : List Observer

namespace Layout

/-- What is wrapped around the core: in a variant also the unconditional children, each
for as long as its case is the active one. -/
def modifiers (l : Layout) : List CoreModifier :=
  (match l.shape with
    | .record => []
    | .variant => l.unconditional.map fun stage => .child { stage with kind := .ifCaseLet }) ++
  l.guarded.map .child ++ l.observers.map .observer

def front (l : Layout) : List Stage :=
  l.binding.toList.map .binding ++
  (match l.shape with
    | .record => l.unconditional.map .child
    | .variant => []) ++
  l.before.map .fragment

/-- The core, unless it would be bare. -/
def center (l : Layout) : List Stage :=
  if l.core = [] ∧ l.modifiers = [] then [] else [.core l.core l.modifiers]

/-- All stages in order; the empty stage stands for none at all. -/
def stages (l : Layout) : List Stage :=
  if l.front = [] ∧ l.center = [] ∧ l.after = [] then [.empty]
  else l.front ++ l.center ++ l.after.map .fragment

/-- Whatever is read off single stages, and nothing off empty ones, is read off a layout
part by part. -/
theorem flatMap_stages {α : Type} (l : Layout) {f : Stage → List α} (empty : f .empty = [])
    (bare : f (.core [] []) = []) :
    l.stages.flatMap f =
      l.front.flatMap f ++ f (.core l.core l.modifiers) ++
        l.after.flatMap fun fragment => f (.fragment fragment) := by
  have center : l.center.flatMap f = f (.core l.core l.modifiers) := by
    rw [center]
    split
    · next none => rw [none.1, none.2, bare]; rfl
    · exact List.append_nil _
  rw [← center, stages]
  split
  · next none =>
      rw [none.1, none.2.1, none.2.2, List.flatMap_singleton, empty]
      rfl
  · rw [List.flatMap_append, List.flatMap_append, List.flatMap_map]

/-- Of the front only children and fragments are left where observers do not count. -/
theorem flatMap_front {α : Type} (l : Layout) {f : Stage → List α}
    (observers : ∀ os, f (.binding os) = []) :
    l.front.flatMap f =
      (match l.shape with
        | .record => l.unconditional.flatMap fun stage => f (.child stage)
        | .variant => []) ++
      l.before.flatMap fun fragment => f (.fragment fragment) := by
  have binding : (l.binding.toList.map .binding).flatMap f = [] := by
    rw [List.flatMap_eq_nil_iff]
    intro stage member
    obtain ⟨os, _, rfl⟩ := List.mem_map.mp member
    exact observers os
  rw [front, List.flatMap_append, List.flatMap_append, binding, List.nil_append,
    List.flatMap_map]
  cases l.shape with
  | record => rw [List.flatMap_map]
  | variant => rfl

end Layout

/-- The stages of a table whose parts are those of a layout. -/
theorem SymbolTable.pipelineStages_eq {t : SymbolTable} {l : Layout}
    (front : t.beforeCore.map outerStage = l.front) (core : t.core = l.core)
    (modifiers : t.coreModifiers = l.modifiers)
    (after : t.afterCore.map outerStage = l.after.map .fragment) :
    t.pipelineStages = l.stages := by
  have center : t.coreStages = l.center := by
    rw [coreStages, Layout.center, core, modifiers]
    simp only [Bool.and_eq_true, List.isEmpty_iff]
  have live : t.liveStages = l.front ++ l.center ++ l.after.map .fragment := by
    rw [liveStages, front, center, after]
  rw [pipelineStages, live, Layout.stages]
  by_cases bare : l.front = [] ∧ l.center = [] ∧ l.after = []
  · rw [if_pos bare, bare.1, bare.2.1, bare.2.2]
    rfl
  · rw [if_neg bare]
    split
    · next nothing =>
        simp only [List.append_eq_nil_iff, List.map_eq_nil_iff, and_assoc] at nothing
        exact absurd nothing bare
    · rfl

namespace Composition

variable (policy : Policy) (resolver : Resolver)

/-- The layout of a module's pipeline, read off its composition and its members. -/
def layout (c : Composition) (isRoot : Bool) (members : List Member) : Layout :=
  let contributions := c.contributions policy resolver members
  let fragments := c.fragments policy resolver members
  { shape := c.shape
    binding :=
      if c.isBindable then some (contributions.filterMap (Contribution.observer? .binding))
      else none
    unconditional :=
      ((c.stages policy resolver isRoot).filter fun stage => stage.kind = .scope).map
        (ChildStage.observed contributions)
    guarded :=
      ((c.stages policy resolver isRoot).filter fun stage => stage.kind ≠ .scope).filter
        (c.settled policy resolver members).isLive
    before := Position.beforeCore.select fragments
    core := Position.core.select fragments
    after := Position.afterCore.select fragments
    observers := contributions.filterMap (Contribution.observer? .core) }

def routes (c : Composition) (members : List Member) : List (Option Path) :=
  (c.declared policy resolver).routes
    ((c.contributions policy resolver members).filterMap Contribution.binding?)

/-- The fragments that run at one position are those entered there, with their slots
settled. -/
theorem select_fragments (c : Composition) (members : List Member) (position : Position) :
    position.select (c.fragments policy resolver members) =
      (position.select
        (Contribution.fragments 0 (c.contributions policy resolver members))).filterMap
        (Fragment.settled? (c.routes policy resolver members)) := by
  have unslotted : ∀ contribution ∈ c.contributions policy resolver members,
      ∀ f, contribution.written? = some f → f.routing.slot? = none := by
    intro contribution member f written
    obtain ⟨v, _, rfl⟩ := exists_visit_of_mem policy resolver member
    exact (Contribution.written_of_ofVisit written).2
  have settled := Contribution.filterMap_settledAt_fragments unslotted
    (c.declared policy resolver) []
  rw [Position.filterMap_settled_select]
  exact congrArg position.select settled.symm

end Composition

namespace SymbolTable

variable (policy : Policy) (resolver : Resolver) (definition : ModuleDef) (c : Composition)

theorem core_ofModule :
    (ofModule policy resolver definition c).core =
      (c.layout policy resolver definition.placement.isRoot definition.members).core := by
  rw [field_ofModule policy resolver definition c core fun _ _ _ _ _ => rfl]
  exact (c.select_fragments policy resolver definition.members .core).symm

theorem afterCore_ofModule :
    (ofModule policy resolver definition c).afterCore =
      (c.layout policy resolver definition.placement.isRoot definition.members).after.map
        OuterStage.fragment := by
  rw [field_ofModule policy resolver definition c afterCore fun _ _ _ _ _ => rfl,
    Composition.layout, c.select_fragments policy resolver definition.members .afterCore,
    ← OuterStage.filterMap_settled_fragments]
  rfl

theorem coreModifiers_ofModule :
    (ofModule policy resolver definition c).coreModifiers =
      (c.layout policy resolver definition.placement.isRoot definition.members).modifiers := by
  let layout := c.layout policy resolver definition.placement.isRoot definition.members
  have placed : (ofModule policy resolver definition c).coreModifiers =
      (if (started policy definition c).isVariant then
          layout.unconditional.map fun stage => .child { stage with kind := .ifCaseLet }
        else []) ++ layout.guarded.map .child ++ layout.observers.map .observer :=
    field_ofModule policy resolver definition c coreModifiers fun _ _ _ _ _ => rfl
  have shape : layout.shape = c.shape := rfl
  change _ = layout.modifiers
  rw [placed, Layout.modifiers, shape, isVariant, started]
  cases c.shape <;> rfl

theorem beforeCore_ofModule :
    (ofModule policy resolver definition c).beforeCore.map outerStage =
      (c.layout policy resolver definition.placement.isRoot definition.members).front := by
  let layout := c.layout policy resolver definition.placement.isRoot definition.members
  have placed : (ofModule policy resolver definition c).beforeCore =
      (if (started policy definition c).bindable then
          [OuterStage.binding ([] ++ (started policy definition c).bindingObserversOf
            (c.contributions policy resolver definition.members))]
        else []) ++
      (if (started policy definition c).isVariant then []
        else layout.unconditional.map OuterStage.child) ++
      layout.before.map OuterStage.fragment := by
    have fragments : layout.before = _ :=
      c.select_fragments policy resolver definition.members .beforeCore
    rw [field_ofModule policy resolver definition c beforeCore fun _ _ _ _ _ => rfl, fragments,
      ← OuterStage.filterMap_settled_fragments]
    rfl
  have binding : (if (started policy definition c).bindable then
      [OuterStage.binding ([] ++ (started policy definition c).bindingObserversOf
        (c.contributions policy resolver definition.members))]
      else []).map outerStage = layout.binding.toList.map .binding := by
    cases bindable : c.isBindable <;>
      simp [layout, Composition.layout, started, bindingObserversOf, bindable, outerStage]
  have shape : layout.shape = c.shape := rfl
  have unconditional : (if (started policy definition c).isVariant then []
      else layout.unconditional.map OuterStage.child).map outerStage =
        match layout.shape with
        | .record => layout.unconditional.map .child
        | .variant => [] := by
    rw [shape, isVariant, started]
    cases c.shape with
    | record => exact List.map_map
    | variant => rfl
  rw [placed, List.map_append, List.map_append, binding, unconditional, List.map_map]
  rfl

theorem pipelineStages_ofModule :
    (ofModule policy resolver definition c).pipelineStages =
      (c.layout policy resolver definition.placement.isRoot definition.members).stages := by
  refine pipelineStages_eq ?_ ?_ ?_ ?_
  · exact beforeCore_ofModule policy resolver definition c
  · exact core_ofModule policy resolver definition c
  · exact coreModifiers_ofModule policy resolver definition c
  · rw [afterCore_ofModule, List.map_map]
    rfl

end SymbolTable

/-- Whether a member at the top level is a pipeline written by hand: a variable named
`body` that no directive says something else about. -/
def Member.isBody : Member → Bool
  | .variable decl => decl.name = "body" && (Directive.find? decl.attributes).isNone
  | _ => false

namespace Visit

mutual

/-- A visit is that of a member at hand, or lies deeper. -/
theorem scopes_of_mem_ofMembers {scopes : List String} {v : Visit} :
    ∀ members : List Member, v ∈ ofMembers scopes members →
      v.scopes = scopes ∧ v.member ∈ members ∨ scopes.length < v.scopes.length
  | [], h => by
      rw [ofMembers] at h
      cases h
  | member :: rest, h => by
      rw [ofMembers] at h
      rcases List.mem_append.mp h with now | later
      · rcases scopes_of_mem_ofMember member now with ⟨same, rfl⟩ | deeper
        · exact Or.inl ⟨same, List.mem_cons_self⟩
        · exact Or.inr deeper
      · rcases scopes_of_mem_ofMembers rest later with ⟨same, found⟩ | deeper
        · exact Or.inl ⟨same, List.mem_cons_of_mem _ found⟩
        · exact Or.inr deeper

theorem scopes_of_mem_ofMember {scopes : List String} {v : Visit} :
    ∀ member : Member, v ∈ ofMember scopes member →
      v.scopes = scopes ∧ v.member = member ∨ scopes.length < v.scopes.length
  | .type decl, h => by
      rw [ofMember] at h
      rcases List.mem_cons.mp h with rfl | inside
      · exact Or.inl ⟨rfl, rfl⟩
      · exact Or.inr (scopes_of_mem_ofType decl inside)
  | .function decl, h => by
      rw [ofMember] at h
      cases List.mem_singleton.mp h
      exact Or.inl ⟨rfl, rfl⟩
  | .variable decl, h => by
      rw [ofMember] at h
      cases List.mem_singleton.mp h
      exact Or.inl ⟨rfl, rfl⟩

theorem scopes_of_mem_ofType {scopes : List String} {v : Visit} :
    ∀ decl : TypeDecl, v ∈ ofType scopes decl → scopes.length < v.scopes.length
  | ⟨name, _, _, members, _⟩, h => by
      rw [ofType] at h
      have longer : (scopes ++ [name]).length = scopes.length + 1 := by simp
      rcases scopes_of_mem_ofMembers members h with ⟨same, _⟩ | deeper
      · rw [same]
        omega
      · omega

end

end Visit

theorem Role.isBody_of_ofMember {m : Member} {topLevel : Bool}
    (h : Role.ofMember m topLevel = .ok .pipeline) : topLevel = true ∧ m.isBody = true := by
  rw [ofMember] at h
  cases found : Directive.find? m.attributes with
  | some directive =>
      obtain ⟨d, a⟩ := directive
      simp only [found] at h
      split at h
      · cases d <;> cases h
      · cases h
  | none =>
      simp only [found] at h
      cases topLevel with
      | false => cases h
      | true =>
          refine ⟨rfl, ?_⟩
          cases m with
          | type decl =>
              simp only [if_true, ofName] at h
              repeat' split at h
              all_goals cases h
          | function => cases h
          | «variable» decl =>
              simp only [if_true, ofName] at h
              split at h
              · next named =>
                  have bare : Directive.find? decl.attributes = none := found
                  simp [Member.isBody, named, bare]
              · cases h

namespace Contribution

theorem role_of_ofRole {scopes : List String} {m : Member} {role : Role} {location : Location}
    (h : ofRole scopes m role = .pipeline location) : role = .pipeline := by
  cases role with
  | pipeline => rfl
  | fragment d a =>
      cases m with
      | function decl =>
          simp only [ofRole, ofFunction, ofSignature, ofObserver, refusal] at h
          repeat' split at h
          all_goals cases h
      | _ => cases h
  | actionCase a =>
      cases m with
      | type decl =>
          simp only [ofRole, ofActionCase, refusal] at h
          split at h <;> cases h
      | _ => cases h
  | scopePath a =>
      cases m with
      | «variable» decl =>
          simp only [ofRole, ofScopePath] at h
          split at h <;> cases h
      | _ => cases h
  | placeholder kind a => cases m <;> cases h
  | _ => cases m <;> cases h

/-- Only a pipeline written by hand contributes one. -/
theorem isBody_of_ofVisit {v : Visit} {location : Location} (h : ofVisit v = .pipeline location) :
    v.isTopLevel = true ∧ v.member.isBody = true := by
  rw [ofVisit] at h
  split at h
  · next role found =>
      rw [role_of_ofRole h] at found
      exact Role.isBody_of_ofMember found
  · cases h

/-- A pipeline written by hand at the top level contributes itself. -/
theorem ofVisit_of_isBody {m : Member} (body : m.isBody = true) :
    ofVisit ⟨[], m⟩ = .pipeline m.location := by
  cases m with
  | «variable» decl =>
      rw [Member.isBody, Bool.and_eq_true, decide_eq_true_eq, Option.isNone_iff_eq_none] at body
      have plain : Directive.find? (Member.variable decl).attributes = none := body.2
      have role : Role.ofMember (.variable decl) true = .ok .pipeline := by
        rw [Role.ofMember, plain]
        simp [Role.ofName, body.1]
      rw [ofVisit, Visit.isTopLevel, List.isEmpty_nil, role]
      rfl
  | _ => cases body

/-- Where nobody wrote a pipeline by hand, nothing contributes one. -/
theorem ne_pipeline_of_mem_ofMembers {members : List Member}
    (generated : members.any Member.isBody = false) {c : Contribution}
    (member : c ∈ ofMembers members) (location : Location) : c ≠ .pipeline location := by
  rintro rfl
  obtain ⟨v, visited, written⟩ := List.mem_map.mp member
  obtain ⟨topLevel, body⟩ := isBody_of_ofVisit written
  rcases Visit.scopes_of_mem_ofMembers members visited with ⟨_, found⟩ | deeper
  · rw [List.any_eq_false] at generated
    exact generated _ found body
  · rw [Visit.isTopLevel, List.isEmpty_iff] at topLevel
    rw [topLevel] at deeper
    exact Nat.lt_irrefl _ deeper

theorem pipeline_foldl_mark {cs : List Contribution} {written : HandAuthored}
    (absent : ∀ location, .pipeline location ∉ cs) :
    (cs.foldl mark written).pipeline = written.pipeline := by
  induction cs generalizing written with
  | nil => rfl
  | cons c cs ih =>
      have rest : ∀ location, .pipeline location ∉ cs := fun location later =>
        absent location (List.mem_cons_of_mem _ later)
      rw [List.foldl_cons, ih rest]
      cases c with
      | pipeline location => exact absurd List.mem_cons_self (absent location)
      | _ => rfl

end Contribution

def ModuleDef.hasBody (definition : ModuleDef) : Bool := definition.members.any Member.isBody

namespace SymbolTable

variable {policy : Policy} {resolver : Resolver} {definition : ModuleDef} {c : Composition}

theorem pipeline_handAuthored_ofModule (generated : definition.hasBody = false) :
    (ofModule policy resolver definition c).handAuthored.pipeline = none := by
  have absent : ∀ location,
      .pipeline location ∉ c.contributions policy resolver definition.members := by
    intro location admits
    exact Contribution.ne_pipeline_of_mem_ofMembers generated (mem_of_mem_admitted admits) location
      rfl
  rw [handAuthored_ofModule, Contribution.pipeline_foldl_mark absent]

theorem pipeline?_ofModule (generated : definition.hasBody = false) :
    (ofModule policy resolver definition c).pipeline? =
      some ⟨definition.access,
        (c.layout policy resolver definition.placement.isRoot definition.members).stages⟩ := by
  rw [pipeline?, pipeline_handAuthored_ofModule generated, access_ofModule,
    pipelineStages_ofModule]
  rfl

end SymbolTable

namespace Expansion

variable {policy : Policy} {resolver : Resolver} {definition : ModuleDef} {c : Composition}

/-- The pipeline of an expansion is that of the module's own table. -/
theorem pipeline?_eq (single : definition.directives = [c]) :
    (Expansion.ofModule policy resolver definition).pipeline? =
      (SymbolTable.ofModule policy resolver definition c).pipeline? := by
  rw [pipeline?, declarations_ofModule single]
  exact SymbolTable.findSome?_pipeline?_declare resolver
    (SymbolTable.isResolved_ofModule policy resolver definition c)

/-- A pipeline that is generated is laid out as the composition and the members say. -/
theorem stages_of_pipeline? (single : definition.directives = [c]) {p : Pipeline}
    (generated : (Expansion.ofModule policy resolver definition).pipeline? = some p) :
    p.stages =
      (c.layout policy resolver definition.placement.isRoot definition.members).stages := by
  rw [pipeline?_eq single, SymbolTable.pipeline?] at generated
  split at generated
  · cases generated
  · cases generated
    exact SymbolTable.pipelineStages_ofModule policy resolver definition c

end Expansion

/-- A pipeline is generated unless the author wrote one. -/
theorem Expansion.pipeline?_ofModule (policy : Policy) (resolver : Resolver)
    {definition : ModuleDef} {c : Composition} (single : definition.directives = [c])
    (generated : definition.hasBody = false) :
    (Expansion.ofModule policy resolver definition).pipeline? =
      some ⟨definition.access,
        (c.layout policy resolver definition.placement.isRoot definition.members).stages⟩ := by
  rw [pipeline?_eq single, SymbolTable.pipeline?_ofModule generated]

end StateWeave
