import StateWeave.Proofs.NestedModules
import StateWeave.Proofs.Wiring

/-!
# The pipelines of nested modules

A list's module has no members. Its pipeline runs the children of the list and nothing else,
all of them around an empty core, since a list is always a variant.
-/

namespace StateWeave.ListSite

variable (resolver : Resolver) (site : ListSite)

def stages : List ChildStage :=
  site.composition.stages site.parent.policy resolver site.placement.isRoot

/-- The stages of the children that are wired into the pipeline of a list's module. -/
def wired : List ChildStage := (site.placeholders resolver).running (site.stages resolver)

def layout : Layout where
  shape := .variant
  binding := none
  unconditional := (site.stages resolver).filter fun stage => stage.kind = .scope
  guarded :=
    ((site.stages resolver).filter fun stage => stage.kind ≠ .scope).filter
      (site.placeholders resolver).isLive
  before := []
  core := []
  after := []
  observers := []

theorem pipelineStages_table :
    (site.table resolver).pipelineStages = (site.layout resolver).stages := by
  refine SymbolTable.pipelineStages_eq ?_ ?_ ?_ ?_
  · rw [site.field_table resolver SymbolTable.beforeCore fun _ _ _ => rfl]
    rfl
  · rw [site.field_table resolver SymbolTable.core fun _ _ _ => rfl]
    rfl
  · rw [site.field_table resolver SymbolTable.coreModifiers fun _ _ _ => rfl]
    rfl
  · rw [site.field_table resolver SymbolTable.afterCore fun _ _ _ => rfl]
    rfl

/-- Nobody writes the pipeline of a list's module by hand. -/
theorem pipeline?_made :
    ∃ access, (site.made resolver).pipeline? = some ⟨access, (site.layout resolver).stages⟩ := by
  have generated : (site.table resolver).handAuthored = {} :=
    site.field_table resolver SymbolTable.handAuthored fun _ _ _ => rfl
  have declared : (site.made resolver).pipeline? = (site.table resolver).pipeline? :=
    SymbolTable.findSome?_pipeline?_declare resolver (site.isResolved_table resolver)
  refine ⟨(site.table resolver).access, ?_⟩
  rw [declared, SymbolTable.pipeline?, generated, pipelineStages_table]
  rfl

theorem nodup_names_wired : ((site.wired resolver).map ChildStage.name).Nodup :=
  PlaceholderRegistry.nodup_names_running _
    (site.composition.nodup_stageNames site.parent.policy resolver _)

theorem map_unobserved_children_layout :
    (site.layout resolver).children.map ChildStage.unobserved =
      (site.wired resolver).map (ChildStage.placedIn .variant) := by
  have bare : ∀ stage ∈ site.stages resolver, stage.observers = [] :=
    fun stage h => (site.composition.stage_of_mem_stages _ _ h).1
  refine PlaceholderRegistry.map_unobserved_children bare ?_ rfl
  refine (List.map_congr_left fun stage h => ?_).trans (List.map_id _)
  exact ChildStage.unobserved_of_bare (bare stage (List.mem_filter.mp h).1)

end StateWeave.ListSite
