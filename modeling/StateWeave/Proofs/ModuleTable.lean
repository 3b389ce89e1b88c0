import StateWeave.Expansion
import StateWeave.Proofs.Resolved

/-!
# The table of a module

The resolved table of a module, read off its composition and its members. The entries
that are let in bring children, stages and placeholders; the contributions that are let
in behind them bring actions, fragments, observers and bindings. Each field of the table
is an equation in these, and no field depends on what is reported on the way.
-/

namespace StateWeave

open Admission

namespace Composition

variable (policy : Policy) (resolver : Resolver)

/-- The entries that are let in. -/
def entries (c : Composition) : List ChildEntry :=
  admitted (ChildEntry.claim? policy resolver) [] c.children

def claims (c : Composition) : List String :=
  c.children.filterMap (ChildEntry.claim? policy resolver)

/-- The contributions of members that are let in behind the entries. -/
def contributions (c : Composition) (members : List Member) : List Contribution :=
  admitted Contribution.name? (c.claims policy resolver) (Contribution.ofMembers members)

/-- A contribution that is let in is that of some member. -/
theorem exists_visit_of_mem {c : Composition} {members : List Member}
    {contribution : Contribution}
    (letIn : contribution ∈ c.contributions policy resolver members) :
    ∃ v ∈ Visit.ofMembers [] members, Contribution.ofVisit v = contribution :=
  List.mem_map.mp (mem_of_mem_admitted letIn)

/-- The placeholders as the entries declare them. -/
def declared (c : Composition) : PlaceholderRegistry :=
  PlaceholderRegistry.empty.declareAll (ChildEntry.declarations policy resolver [] c.children)

/-- The placeholders after all members have bound what they bind. -/
def settled (c : Composition) (members : List Member) : PlaceholderRegistry :=
  (c.declared policy resolver).settle
    ((c.contributions policy resolver members).filterMap Contribution.binding?)

/-- The fragments that the members bring, each with where it runs. -/
def fragments (c : Composition) (members : List Member) : List (Position × Fragment) :=
  Contribution.placed (c.declared policy resolver) (c.contributions policy resolver members)

def stages (c : Composition) (isRoot : Bool) : List ChildStage :=
  (c.entries policy resolver).filterMap (ChildEntry.stage? policy resolver isRoot)

/-- The children of a module: those of its entries, and behind them the placeholders that
are bound. -/
def embedded (c : Composition) (members : List Member) : List NamedChild :=
  (c.entries policy resolver).filterMap (ChildEntry.child? policy resolver) ++
    (c.settled policy resolver members).children

theorem nodup_claims_entries (c : Composition) :
    ((c.entries policy resolver).filterMap (ChildEntry.claim? policy resolver)).Nodup :=
  nodup_names_admitted List.nodup_nil c.children

theorem mem_claims_entries_iff (c : Composition) (name : String) :
    name ∈ (c.entries policy resolver).filterMap (ChildEntry.claim? policy resolver) ↔
      name ∈ c.claims policy resolver := by
  have asked : name ∈ [] ++ (c.entries policy resolver).filterMap
      (ChildEntry.claim? policy resolver) ↔ name ∈ [] ∨ name ∈ c.claims policy resolver :=
    mem_names_admitted_iff
  simpa only [List.nil_append, List.not_mem_nil, false_or] using asked

end Composition

theorem ChildStage.name_of_ofEmbedding? {name : String} {e : Embedding} {stage : ChildStage}
    (h : ofEmbedding? name e = some stage) : stage.name = name := by
  obtain ⟨wiring, _, rfl⟩ := Option.map_eq_some_iff.mp h
  cases wiring <;> rfl

namespace ChildEntry

theorem claim?_of_stage? {policy : Policy} {resolver : Resolver} {isRoot : Bool}
    {e : ChildEntry} {stage : ChildStage} (h : e.stage? policy resolver isRoot = some stage) :
    e.claim? policy resolver = some stage.name := by
  rw [stage?] at h
  rw [claim?]
  cases plan : e.plan policy resolver with
  | refused => simp [plan] at h
  | placeholder kind name =>
      simp only [plan, Option.ite_none_right_eq_some, Option.some.injEq] at h
      rw [← h.2]
      rfl
  | list name embedding children =>
      simp only [plan, Option.ite_none_right_eq_some] at h
      rw [ChildStage.name_of_ofEmbedding? h.2]
      rfl
  | child name embedding initialValue dropped =>
      simp only [plan] at h
      rw [ChildStage.name_of_ofEmbedding? h]
      rfl

end ChildEntry

namespace Composition

variable (policy : Policy) (resolver : Resolver)

theorem nodup_stageNames (c : Composition) (isRoot : Bool) :
    ((c.stages policy resolver isRoot).map ChildStage.name).Nodup :=
  (sublist_names (fun _ _ => ChildEntry.claim?_of_stage?) _).nodup
    (c.nodup_claims_entries policy resolver)

end Composition

namespace SymbolTable

variable (policy : Policy) (resolver : Resolver) (definition : ModuleDef) (c : Composition)

/-- The table that a module starts with, but for options that no stage depends on. -/
def started : SymbolTable where
  module := definition.name
  access := definition.access
  placement := definition.placement
  shape := c.shape
  policy := policy
  location := c.location
  bindable := c.isBindable

/-- A table after all entries of a composition have been entered. -/
def composed : SymbolTable :=
  ((started policy definition c).withEntries resolver (c.entries policy resolver)
    ).withPlaceholders (c.declared policy resolver)

/-- A table after all that a module says has been entered, before it is resolved. -/
def entered : SymbolTable :=
  (composed policy resolver definition c).withContributions
    (c.contributions policy resolver definition.members)

/-- What is chosen for a table apart from its entries: conformances and the initial
case. Nothing else depends on them. -/
def withChoices (t : SymbolTable) (state action : List Conformance) (initial : Option String) :
    SymbolTable :=
  { t with stateOptions := state, actionOptions := action, initialName := initial }

theorem resolved_withChoices (t : SymbolTable) (state action : List Conformance)
    (initial : Option String) :
    (t.withChoices state action initial).resolved =
      t.resolved.withChoices state action initial := rfl

theorem resolved_withDiagnostics (t : SymbolTable) (diagnostics : Diagnostics) :
    (t.withDiagnostics diagnostics).resolved = t.resolved.withDiagnostics diagnostics := rfl

theorem names_composed :
    (composed policy resolver definition c).names =
      (c.entries policy resolver).filterMap (ChildEntry.claim? policy resolver) :=
  names_withEntries (started policy definition c) resolver (c.entries policy resolver)

theorem nodup_stageNames_composed :
    ((composed policy resolver definition c).childStages.map ChildStage.name).Nodup :=
  ((List.filter_sublist.map ChildStage.name).nodup
    (c.nodup_stageNames policy resolver definition.placement.isRoot))

def blank : SymbolTable where
  module := definition.name
  access := definition.access
  placement := definition.placement
  shape := c.shape
  policy := policy
  location := c.location

/-- A module's table once all of the module has been read. -/
def read : SymbolTable :=
  ((blank policy definition c).compose c resolver).collect definition.members

/-- The options and the initial case are chosen before a member is looked at. -/
theorem exists_choices :
    ∃ state action, ∀ members, ∃ diagnostics,
      read policy resolver { definition with members := members } c =
        ((entered policy resolver { definition with members := members } c).withChoices state action
          ((blank policy definition c).compose c resolver).initialName).withDiagnostics
            diagnostics := by
  let blank := blank policy definition c
  obtain ⟨state, action, options⟩ := withOptions_eq blank c.options
  have chosen : blank.withOptions c.options =
      (started policy definition c).withChoices state action none := options
  obtain ⟨initial, noted, entries⟩ := compose_eq blank c resolver
  let t := ((composed policy resolver definition c).withChoices state action
    initial).withDiagnostics noted
  have entries : blank.compose c resolver = t := by
    rw [entries, chosen]
    rfl
  have selected : (blank.compose c resolver).initialName = initial := by
    rw [entries]
    rfl
  have distinct : (t.childStages.map ChildStage.name).Nodup :=
    nodup_stageNames_composed policy resolver definition c
  have names (name : String) : name ∈ t.names ↔ name ∈ c.claims policy resolver := by
    have same : t.names = (composed policy resolver definition c).names := rfl
    rw [same, names_composed, Composition.mem_claims_entries_iff]
  refine ⟨state, action, fun members => ?_⟩
  obtain ⟨reported, collected⟩ := collect_eq distinct members
  rw [admitted_congr names] at collected
  refine ⟨reported, ?_⟩
  change (blank.compose c resolver).collect members = _
  rw [selected, entries, collected]
  rfl

/-- What is read is what is entered, with the options, the initial case and what is reported. -/
theorem read_eq :
    ∃ state action initial diagnostics,
      read policy resolver definition c =
        ((entered policy resolver definition c).withChoices state action
          initial).withDiagnostics diagnostics := by
  obtain ⟨state, action, read⟩ := exists_choices policy resolver definition c
  exact ⟨state, action, _, read definition.members⟩

theorem isResolved_read : (read policy resolver definition c).isResolved = false := by
  obtain ⟨state, action, initial, diagnostics, entered⟩ := read_eq policy resolver definition c
  rw [entered]
  rfl

theorem module_read : (read policy resolver definition c).module = definition.name := by
  obtain ⟨state, action, initial, diagnostics, entered⟩ := read_eq policy resolver definition c
  rw [entered]
  rfl

theorem read_append (front back : List Member) :
    read policy resolver { definition with members := front ++ back } c =
      (Contribution.ofMembers back).foldl contribute
        (read policy resolver { definition with members := front } c) := by
  rw [read, read, collect_eq_foldl, collect_eq_foldl, Contribution.ofMembers_append,
    List.foldl_append]
  rfl

/-- The resolved tables of modules that differ in their members only. -/
theorem exists_ofModule_choices :
    ∃ state action initial, ∀ members, ∃ diagnostics,
      ofModule policy resolver { definition with members := members } c =
        ((entered policy resolver { definition with members := members } c).resolved.withChoices
          state action initial).withDiagnostics diagnostics := by
  obtain ⟨state, action, read⟩ := exists_choices policy resolver definition c
  refine ⟨state, action, ((blank policy definition c).compose c resolver).initialName,
    fun members => ?_⟩
  obtain ⟨reported, read⟩ := read members
  obtain ⟨diagnostics, resolved⟩ :=
    resolve_eq (isResolved_read policy resolver { definition with members := members } c)
  refine ⟨diagnostics, resolved.trans ?_⟩
  rw [read, resolved_withDiagnostics, resolved_withChoices, withDiagnostics_withDiagnostics]

/-- The options, the initial case and what is reported are all that the resolved table
of a module has beyond what is entered. -/
theorem ofModule_eq :
    ∃ state action initial diagnostics,
      ofModule policy resolver definition c =
        ((entered policy resolver definition c).resolved.withChoices state action
          initial).withDiagnostics diagnostics := by
  obtain ⟨state, action, initial, made⟩ := exists_ofModule_choices policy resolver definition c
  exact ⟨state, action, initial, made definition.members⟩

/-- The initial case is the one that the composition has selected. -/
theorem initialName_ofModule :
    (ofModule policy resolver definition c).initialName =
      ((blank policy definition c).compose c resolver).initialName := by
  obtain ⟨state, action, read⟩ := exists_choices policy resolver definition c
  obtain ⟨reported, read⟩ := read definition.members
  obtain ⟨diagnostics, resolved⟩ := resolve_eq (isResolved_read policy resolver definition c)
  have table : ofModule policy resolver definition c =
      (SymbolTable.read policy resolver definition c).resolve := rfl
  rw [table, resolved, read]
  rfl

theorem field_ofModule {α : Type} (field : SymbolTable → α)
    (kept : ∀ t state action initial diagnostics,
      field ((withChoices t state action initial).withDiagnostics diagnostics) = field t) :
    field (ofModule policy resolver definition c) =
      field (entered policy resolver definition c).resolved := by
  obtain ⟨state, action, initial, diagnostics, table⟩ := ofModule_eq policy resolver definition c
  rw [table]
  exact kept _ state action initial diagnostics

theorem access_ofModule :
    (ofModule policy resolver definition c).access = definition.access :=
  field_ofModule policy resolver definition c access fun _ _ _ _ _ => rfl

/-- The names that are taken: those of the entries and those of the contributions. -/
theorem names_ofModule :
    (ofModule policy resolver definition c).names =
      (c.entries policy resolver).filterMap (ChildEntry.claim? policy resolver) ++
        (c.contributions policy resolver definition.members).filterMap Contribution.name? := by
  have kept := field_ofModule policy resolver definition c names fun _ _ _ _ _ => rfl
  refine kept.trans (Eq.trans ?_ (congrArg (· ++ _)
    (names_composed policy resolver definition c)))
  exact names_withContributions (composed policy resolver definition c) _

/-- A name is taken if an entry or a member asks for it. -/
theorem mem_names_ofModule_iff (name : String) :
    name ∈ (ofModule policy resolver definition c).names ↔
      name ∈ c.claims policy resolver ++
        (Contribution.ofMembers definition.members).filterMap Contribution.name? := by
  rw [names_ofModule, List.mem_append, Composition.mem_claims_entries_iff, ← List.mem_append,
    Composition.contributions, mem_names_admitted_iff, List.mem_append]

theorem placement_ofModule :
    (ofModule policy resolver definition c).placement = definition.placement :=
  field_ofModule policy resolver definition c placement fun _ _ _ _ _ => rfl

theorem policy_ofModule : (ofModule policy resolver definition c).policy = policy :=
  field_ofModule policy resolver definition c SymbolTable.policy fun _ _ _ _ _ => rfl

theorem shape_ofModule : (ofModule policy resolver definition c).shape = c.shape :=
  field_ofModule policy resolver definition c shape fun _ _ _ _ _ => rfl

theorem isResolved_ofModule : (ofModule policy resolver definition c).isResolved = true :=
  field_ofModule policy resolver definition c isResolved fun _ _ _ _ _ => rfl

theorem stateMembers_ofModule :
    (ofModule policy resolver definition c).stateMembers =
      (c.embedded policy resolver definition.members).map NamedChild.member := by
  have members := field_ofModule policy resolver definition c stateMembers fun _ _ _ _ _ => rfl
  rw [members, Composition.embedded, List.map_append]
  rfl

theorem actionMembers_ofModule :
    (ofModule policy resolver definition c).actionMembers =
      ((c.entries policy resolver).filterMap (ChildEntry.child? policy resolver)).filterMap
          NamedChild.action? ++
        (c.contributions policy resolver definition.members).filterMap Contribution.action? ++
        (started policy definition c).bindingActions ++
        (c.settled policy resolver definition.members).children.filterMap
          NamedChild.action? :=
  field_ofModule policy resolver definition c actionMembers fun _ _ _ _ _ => rfl

theorem scopeCases_ofModule :
    (ofModule policy resolver definition c).scopeCases =
      (started policy definition c).casesOf (c.embedded policy resolver definition.members) := by
  rw [field_ofModule policy resolver definition c scopeCases fun _ _ _ _ _ => rfl,
    Composition.embedded, casesOf_append]
  rfl

theorem placeholders_ofModule :
    (ofModule policy resolver definition c).placeholders =
      c.settled policy resolver definition.members :=
  field_ofModule policy resolver definition c placeholders fun _ _ _ _ _ => rfl

theorem handAuthored_ofModule :
    (ofModule policy resolver definition c).handAuthored =
      (c.contributions policy resolver definition.members).foldl Contribution.mark {} :=
  field_ofModule policy resolver definition c handAuthored fun _ _ _ _ _ => rfl

end SymbolTable

end StateWeave
