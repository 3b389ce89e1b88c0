import StateWeave.Proofs.NestedNames
import StateWeave.Proofs.NestedPipelines
import StateWeave.Proofs.ReachedChildren

/-!
# Dispatch to children

An action reaches one child at most: stages of children have distinct names, and each of
them looks for a case of its own name. Whether the state lets the child see the action is up
to the kind of its stage. Children of a record are looked for in the fields of that record.
In a variant the unconditional children run while their case is the active one; the others
keep the kind that they have in a record and look for a field, and a case has no fields.
`record_dispatch` and `variant_dispatch` say what this comes to.
-/

namespace StateWeave

/-- In a variant, a case that is active admits its own child if that child is unconditional,
and no other children. -/
theorem ChildStage.admits_placedIn_variant_iff {stage : ChildStage}
    (unplaced : stage.kind ≠ .ifCaseLet) {name tag : String} {inner payload : Value} :
    (stage.placedIn .variant).kind.Admits name (.case tag inner) payload ↔
      stage.kind = .scope ∧ tag = name := by
  by_cases scope : stage.kind = .scope
  · rw [placedIn, if_pos ⟨rfl, scope⟩]
    constructor
    · rintro ⟨_, state⟩
      exact ⟨scope, (Value.case.inj state).1⟩
    · rintro ⟨_, rfl⟩
      exact ⟨inner, rfl⟩
  · have looked : stage.kind = .ifLet ∨ stage.kind = .forEach := by
      cases kind : stage.kind with
      | scope => exact absurd kind scope
      | ifCaseLet => exact absurd kind unplaced
      | ifLet => exact Or.inl rfl
      | forEach => exact Or.inr rfl
    rw [placedIn_of_not_scope scope]
    constructor
    · intro admits
      exact absurd admits (StageKind.not_admits_case looked name tag inner payload)
    · intro own
      exact absurd own.1 scope

namespace Run

theorem reached_map_unobserved (state a : Value) (stages : List ChildStage) :
    reached state a (stages.map ChildStage.unobserved) = reached state a stages := by
  simp only [reached, List.filter_map, List.map_map]
  rfl

theorem reached_perm (state a : Value) {ss ts : List ChildStage} (same : ss.Perm ts) :
    (reached state a ss).Perm (reached state a ts) :=
  (same.filter _).map _

theorem mem_reached_iff {state a : Value} {stages : List ChildStage} {name : String} :
    name ∈ reached state a stages ↔
      ∃ stage ∈ stages, stage.name = name ∧
        ∃ payload, a = .case name payload ∧ stage.kind.Admits name state payload := by
  rw [reached, List.mem_map]
  constructor
  · rintro ⟨stage, member, rfl⟩
    obtain ⟨asked, reached⟩ := List.mem_filter.mp member
    exact ⟨stage, asked, rfl, (reaches_iff stage state a).mp reached⟩
  · rintro ⟨stage, asked, rfl, reached⟩
    exact ⟨stage, List.mem_filter.mpr ⟨asked, (reaches_iff stage state a).mpr reached⟩, rfl⟩

/-- An action is a case of one name, and no other child is reached by it. -/
theorem reached_eq_singleton {state a : Value} {stages : List ChildStage}
    (distinct : (stages.map ChildStage.name).Nodup) {name : String}
    (h : name ∈ reached state a stages) : reached state a stages = [name] := by
  have once : (reached state a stages).Nodup :=
    (List.filter_sublist.map ChildStage.name).nodup distinct
  -- Whatever is reached has the name of the case that the action is.
  have only : ∀ other ∈ reached state a stages, other = name := by
    intro other also
    obtain ⟨_, _, _, payload, here, _⟩ := mem_reached_iff.mp h
    obtain ⟨_, _, _, _, there, _⟩ := mem_reached_iff.mp also
    rw [here] at there
    exact (Value.case.inj there).1.symm
  generalize reached state a stages = names at *
  cases names with
  | nil => cases h
  | cons first rest =>
      obtain rfl := only first List.mem_cons_self
      have none : rest = [] := List.eq_nil_iff_forall_not_mem.mpr fun other later => by
        obtain rfl := only other (List.mem_cons_of_mem _ later)
        exact (List.nodup_cons.mp once).1 later
      rw [none]

end Run

/-- A pipeline dispatches actions to these children: an action reaches the child that it is
a case of if the state admits that child, and then reaches this child only. -/
structure Pipeline.Dispatches (p : Pipeline) (stages : List ChildStage) : Prop where
  distinct : (stages.map ChildStage.name).Nodup
  reaches : ∀ {σ : Type} {h : Host σ} {state : Value}, h.Keeps state →
    ∀ (host : σ) (a : Value) (name : String),
      .child name ∈ (p.run h host state a).events ↔
        ∃ stage ∈ stages, stage.name = name ∧
          ∃ payload, a = .case name payload ∧ stage.kind.Admits name state payload
  alone : ∀ {σ : Type} {h : Host σ} {state : Value}, h.Keeps state →
    ∀ (host : σ) (a : Value) (name : String),
      .child name ∈ (p.run h host state a).events → (p.run h host state a).children = [name]

/-- A pipeline of a variant dispatches actions to these children. While a case is active,
those of them are reached that run on every action of theirs, and no others. -/
structure Pipeline.DispatchesVariant (p : Pipeline) (stages : List ChildStage) : Prop
    extends p.Dispatches (stages.map (ChildStage.placedIn .variant)) where
  active : ∀ {σ : Type} {h : Host σ} {tag : String} {inner : Value},
    h.Keeps (.case tag inner) → ∀ (host : σ) (a : Value) (name : String),
      .child name ∈ (p.run h host (.case tag inner) a).events ↔
        tag = name ∧ (∃ payload, a = .case name payload) ∧
          ∃ stage ∈ stages, stage.name = name ∧ stage.kind = .scope

namespace Pipeline

/-- Observers and the order of stages do not count. -/
theorem dispatches_of_perm {p : Pipeline} {stages : List ChildStage}
    (same : (p.children.map ChildStage.unobserved).Perm stages)
    (distinct : (stages.map ChildStage.name).Nodup) : p.Dispatches stages := by
  have run {σ : Type} {h : Host σ} {state : Value} (keeps : h.Keeps state) (host : σ)
      (a : Value) : (p.run h host state a).children.Perm (Run.reached state a stages) := by
    rw [p.children_run keeps, ← Run.reached_map_unobserved]
    exact Run.reached_perm state a same
  refine ⟨distinct, fun keeps host a name => ?_, fun keeps host a name reached => ?_⟩
  · rw [← Run.mem_children_iff, (run keeps host a).mem_iff, Run.mem_reached_iff]
  · have found := (run keeps host a).mem_iff.mp (Run.mem_children_iff.mpr reached)
    have all := run keeps host a
    rw [Run.reached_eq_singleton distinct found] at all
    exact List.perm_singleton.mp all

/-- In a variant, what is placed around the core decides which children are reached. -/
theorem dispatchesVariant_of_placed {p : Pipeline} {stages : List ChildStage}
    (placed : p.children.map ChildStage.unobserved =
      stages.map (ChildStage.placedIn .variant))
    (distinct : (stages.map ChildStage.name).Nodup)
    (unplaced : ∀ stage ∈ stages, stage.kind ≠ .ifCaseLet) : p.DispatchesVariant stages := by
  have names : (stages.map (ChildStage.placedIn .variant)).map ChildStage.name =
      stages.map ChildStage.name := by
    rw [List.map_map]
    exact List.map_congr_left fun stage _ => ChildStage.name_placedIn .variant stage
  have dispatches : p.Dispatches (stages.map (ChildStage.placedIn .variant)) := by
    refine dispatches_of_perm (.of_eq placed) ?_
    rwa [names]
  refine { dispatches with active := fun {σ h tag inner} keeps host a name => ?_ }
  rw [dispatches.reaches keeps]
  constructor
  · rintro ⟨_, placed, named, payload, action, admits⟩
    obtain ⟨stage, asked, rfl⟩ := List.mem_map.mp placed
    rw [ChildStage.admits_placedIn_variant_iff (unplaced stage asked)] at admits
    rw [ChildStage.name_placedIn] at named
    exact ⟨admits.2, ⟨payload, action⟩, stage, asked, named, admits.1⟩
  · rintro ⟨active, ⟨payload, action⟩, stage, asked, named, kind⟩
    refine ⟨_, List.mem_map_of_mem asked, ?_, payload, action, ?_⟩
    · rw [ChildStage.name_placedIn, named]
    · rw [ChildStage.admits_placedIn_variant_iff (unplaced stage asked)]
      exact ⟨kind, active⟩

end Pipeline

namespace Composition

variable (policy : Policy) (resolver : Resolver) (c : Composition) (members : List Member)

/-- The stages of the children of a root module, one for each that is run. -/
def embeddedStages : List ChildStage :=
  (c.embedded policy resolver members).filterMap fun child =>
    child.stage?.map (ChildStage.placedIn c.shape)

theorem nodup_names_embeddedStages :
    ((c.embeddedStages policy resolver members).map ChildStage.name).Nodup := by
  have named : ∀ (child : NamedChild) (stage : ChildStage),
      child.stage?.map (ChildStage.placedIn c.shape) = some stage → stage.name = child.name := by
    intro child stage placed
    obtain ⟨wanted, asked, rfl⟩ := Option.map_eq_some_iff.mp placed
    rw [ChildStage.name_placedIn]
    exact ChildStage.name_of_ofEmbedding? asked
  exact (Admission.sublist_labels named _).nodup
    (c.nodup_names_embedded policy resolver members)

theorem dispatches_embeddedStages {p : Pipeline}
    (laid : p.stages = (c.layout policy resolver true members).stages) :
    p.Dispatches (c.embeddedStages policy resolver members) := by
  have children : p.children = (c.layout policy resolver true members).children := by
    rw [Pipeline.children, laid, Layout.children_stages]
  refine Pipeline.dispatches_of_perm ?_ (c.nodup_names_embeddedStages policy resolver members)
  rw [children]
  exact c.perm_children_layout policy resolver members

theorem dispatchesVariant_wired {p : Pipeline} {isRoot : Bool} (variant : c.shape = .variant)
    (laid : p.stages = (c.layout policy resolver isRoot members).stages) :
    p.DispatchesVariant (c.wired policy resolver members isRoot) := by
  refine Pipeline.dispatchesVariant_of_placed ?_ ?_ ?_
  · rw [Pipeline.children, laid, Layout.children_stages, map_unobserved_children_layout, variant]
  · exact c.nodup_names_wired policy resolver members isRoot
  · intro stage wired
    exact c.kind_of_mem_stages policy resolver (PlaceholderRegistry.mem_of_mem_running wired)

end Composition

theorem ListSite.dispatchesVariant_wired (resolver : Resolver) (site : ListSite) {p : Pipeline}
    (laid : p.stages = (site.layout resolver).stages) :
    p.DispatchesVariant (site.wired resolver) := by
  refine Pipeline.dispatchesVariant_of_placed ?_ ?_ ?_
  · rw [Pipeline.children, laid, Layout.children_stages, map_unobserved_children_layout]
  · exact site.nodup_names_wired resolver
  · intro stage wired
    exact site.composition.kind_of_mem_stages _ _ (PlaceholderRegistry.mem_of_mem_running wired)

namespace Expansion

variable {policy : Policy} {resolver : Resolver} {definition : ModuleDef} {c : Composition}

/-- In a root record, an action reaches the child that it is a case of if that child is a
member of the state that is run: always, while its field holds something, or while its field
holds the element that the action is for. It reaches this child once and no other. -/
theorem record_dispatch (single : definition.directives = [c])
    (root : definition.placement = .root) (record : c.shape = .record) {p : Pipeline}
    (generated : (Expansion.ofModule policy resolver definition).pipeline? = some p)
    {σ : Type} {h : Host σ} {state : Value} (keeps : h.Keeps state) (host : σ) (a : Value)
    (name : String) :
    (.child name ∈ (p.run h host state a).events ↔
      ∃ m ∈ (SymbolTable.ofModule policy resolver definition c).stateMembers, m.name = name ∧
        ∃ wiring payload, m.embedding.wiring? = some wiring ∧ a = .case name payload ∧
          wiring.kind.Admits name state payload) ∧
      (.child name ∈ (p.run h host state a).events →
        (p.run h host state a).children = [name]) := by
  have laid := stages_of_pipeline? single generated
  rw [root] at laid
  have dispatches := c.dispatches_embeddedStages policy resolver definition.members laid
  refine ⟨?_, dispatches.alone keeps host a name⟩
  rw [dispatches.reaches keeps, SymbolTable.stateMembers_ofModule, Composition.embeddedStages,
    record, ChildStage.placedIn_record]
  constructor
  · rintro ⟨stage, member, named, payload, action, admits⟩
    obtain ⟨child, embedded, asked⟩ := List.mem_filterMap.mp member
    rw [Option.map_id] at asked
    obtain ⟨wiring, wired, kind⟩ := ChildStage.kind_of_ofEmbedding? asked
    have same : child.name = name := (ChildStage.name_of_ofEmbedding? asked).symm.trans named
    rw [kind] at admits
    exact ⟨child.member, List.mem_map_of_mem embedded, same, wiring, payload, wired, action, admits⟩
  · rintro ⟨_, member, rfl, wiring, payload, wired, action, admits⟩
    obtain ⟨child, embedded, rfl⟩ := List.mem_map.mp member
    obtain ⟨stage, asked, kind⟩ := ChildStage.exists_ofEmbedding? child.name wired
    refine ⟨stage, ?_, ChildStage.name_of_ofEmbedding? asked, payload, action, ?_⟩
    · refine List.mem_filterMap.mpr ⟨child, embedded, ?_⟩
      rw [Option.map_id]
      exact asked
    · rwa [kind]

def board : ModuleDef where
  name := "Board"
  directives := [{
    children := [
      ⟨.identifiedArray, false, some (.string "rows"), some (.named "Row"), none, {}⟩,
      ⟨.reducer, false, some (.string "detail"), some (.optional (.named "Detail")), none, {}⟩] }]

theorem record_dispatch_board :
    ∃ p, (Expansion.ofModule {} .textual board).pipeline? = some p ∧
      .child "rows" ∈ (p.run Host.idle ()
        (.record [("detail", .optional none), ("rows", .record [("a", .unit)])])
        (.case "rows" (.keyed "a" .unit))).events := by
  have single : board.directives = [_] := rfl
  have generated := pipeline?_ofModule {} .textual single (by decide)
  refine ⟨_, generated, ?_⟩
  have dispatch := record_dispatch single rfl rfl generated
    (Host.keeps_idle (.record [("detail", .optional none), ("rows", .record [("a", .unit)])])) ()
    (.case "rows" (.keyed "a" .unit)) "rows"
  refine dispatch.1.mpr ⟨⟨"rows", _, _, _, .keyedCollection "Row"⟩, List.mem_cons_self, rfl,
    .iterated, .keyed "a" .unit, rfl, rfl, ?_⟩
  exact ⟨_, [("a", .unit)], "a", .unit, rfl, rfl, rfl, rfl⟩

/-- A variant, at the root or made for a list, dispatches actions to the children that are
wired into its pipeline. While a case is active, an action reaches its child if it is the
child of that case and runs on every action of its own. A guarded or iterated child is not
reached by any action then, even if its own case is the active one. -/
theorem variant_dispatch (policy : Policy) (resolver : Resolver) (definition : ModuleDef) :
    (∀ c p, definition.directives = [c] → c.shape = .variant →
      (Expansion.ofModule policy resolver definition).pipeline? = some p →
        p.DispatchesVariant
          (c.wired policy resolver definition.members definition.placement.isRoot)) ∧
      ∀ m ∈ Declaration.modulesIn (Expansion.ofModule policy resolver definition).declarations,
        ∃ site p, definition.HasList policy resolver site ∧ m = site.made resolver ∧
          m.pipeline? = some p ∧ p.DispatchesVariant (site.wired resolver) := by
  constructor
  · intro c p single variant generated
    have laid := stages_of_pipeline? single generated
    exact c.dispatchesVariant_wired policy resolver definition.members variant laid
  · intro m nested
    obtain ⟨site, list, rfl⟩ :=
      (mem_modulesIn_ofModule_iff policy resolver definition m).mp nested
    obtain ⟨access, generated⟩ := site.pipeline?_made resolver
    exact ⟨site, _, list, rfl, generated, site.dispatchesVariant_wired resolver rfl⟩

def panel : ModuleDef where
  name := "Panel"
  directives := [{
    shape := .variant
    children := [
      ⟨.reducer, false, some (.string "overview"), some (.named "Overview"), none, {}⟩,
      ⟨.reducer, false, some (.string "detail"), some (.optional (.named "Detail")), none, {}⟩] }]

theorem variant_dispatch_panel :
    ∃ p, (Expansion.ofModule {} .textual panel).pipeline? = some p ∧
      .child "overview" ∈
        (p.run Host.idle () (.case "overview" .unit) (.case "overview" .unit)).events ∧
      .child "detail" ∉
        (p.run Host.idle () (.case "detail" (.optional (some .unit)))
          (.case "detail" .unit)).events := by
  have single : panel.directives = [_] := rfl
  have generated := pipeline?_ofModule {} .textual single (by decide)
  have dispatches := (variant_dispatch {} .textual panel).1 _ _ single rfl generated
  refine ⟨_, generated, ?_, ?_⟩
  · refine (dispatches.active (Host.keeps_idle _) () _ _).mpr ⟨rfl, ⟨_, rfl⟩, ?_⟩
    exact ⟨_, List.mem_cons_self, rfl, rfl⟩
  · intro reached
    obtain ⟨_, _, stage, wired, named, kind⟩ :=
      (dispatches.active (Host.keeps_idle _) () _ _).mp reached
    have wired : stage ∈
        [⟨.scope, "overview", false, some "Overview", []⟩,
          ⟨.ifLet, "detail", false, some "Detail", []⟩] := wired
    rcases List.mem_cons.mp wired with rfl | guarded
    · exact absurd named (by decide)
    · cases List.mem_singleton.mp guarded
      cases kind

end Expansion

end StateWeave
