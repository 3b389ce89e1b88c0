import StateWeave.Proofs.Levels

/-!
# The markers of scope tables

A state type says which tables of scopes go with it: `ScopePathable` stands for the table of
accessors and `ScopeSwitchable` for the table that switches over cases. The tables and the markers
are decided upon apart from one another. The marker of accessors is given to records only, that of
switches to variants in nested modules only, and a table is declared without regard to its marker.
`scope_markers_iff` says so of every level of an expansion.
-/

namespace StateWeave

namespace SymbolTable

/-- A marker that no option asks for comes of the structure of a table, if at all. -/
theorem mem_stateConformances_iff (t : SymbolTable) {marker : String}
    (structural : marker ∉ ["Codable", "Equatable", "Hashable", "Sendable"]) :
    marker ∈ t.stateConformances ↔ marker ∈ t.structuralConformances := by
  have unasked : marker ∉ t.stateOptions.filterMap Conformance.marker? := by
    intro asked
    obtain ⟨option, _, same⟩ := List.mem_filterMap.mp asked
    cases option <;> cases same <;> exact structural (by decide)
  have incomparable : marker ∉ (if t.stateOptions.contains .notEquatable then []
      else ["Equatable"]) := by
    intro equatable
    split at equatable
    · cases equatable
    · rw [List.mem_singleton.mp equatable] at structural
      exact structural (by decide)
  rw [stateConformances, SortedSet.mem_ofList, List.mem_append, List.mem_append]
  constructor
  · rintro ((asked | equatable) | ofStructure)
    · exact absurd asked unasked
    · exact absurd equatable incomparable
    · exact ofStructure
  · exact Or.inr

theorem mem_scopePathable_iff (t : SymbolTable) :
    "ScopePathable" ∈ t.stateConformances ↔ t.needsScopePaths = true ∧ t.shape = .record := by
  rw [t.mem_stateConformances_iff (by decide), structuralConformances, isVariant]
  cases t.shape <;> cases t.placement.isNested <;> cases t.needsScopePaths <;>
    cases t.needsScopeCases <;> decide

theorem mem_scopeSwitchable_iff (t : SymbolTable) :
    "ScopeSwitchable" ∈ t.stateConformances ↔
      t.needsScopeCases = true ∧ t.shape = .variant ∧ t.placement.isNested = true := by
  rw [t.mem_stateConformances_iff (by decide), structuralConformances, isVariant]
  cases t.shape <;> cases t.placement.isNested <;> cases t.needsScopePaths <;>
    cases t.needsScopeCases <;> decide

/-- A state that is generated as a whole conforms to all that its table asks for. -/
theorem conformances_stateDecl (t : SymbolTable) (whole : t.stateDecl.emission = .whole) :
    t.stateDecl.conformances = t.stateConformances := by
  have emission : emissionOf t.handAuthored.state = .whole := whole
  rw [stateDecl, emission]
  rfl

end SymbolTable

namespace Expansion

variable {policy : Policy} {resolver : Resolver} {definition : ModuleDef}
  {placement : Placement} {ds : List Declaration}

/-- A state that is generated as a whole is marked for accessors if its level has a table of them
and it is a record, and for switches if its level has a table of them, it is a variant, and its
module is nested. No marker stands without its table, then, but a table may stand without its
marker. -/
theorem scope_markers_iff
    (level : (ofModule policy resolver definition).HasLevelAt definition.placement placement ds)
    {decl : StateDecl} (state : .state decl ∈ ds) (whole : decl.emission = .whole) :
    ("ScopePathable" ∈ decl.conformances ↔
        (∃ table, .scopePaths table ∈ ds) ∧ decl.shape = .record) ∧
      ("ScopeSwitchable" ∈ decl.conformances ↔
        (∃ table, .scopeCases table ∈ ds) ∧ decl.shape = .variant ∧
          placement.isNested = true) := by
  obtain ⟨t, table, rfl, rfl⟩ := level.exists_table state
  have resolved := table.isComplete.resolved
  obtain rfl : decl = t.stateDecl :=
    (SymbolTable.mem_state_declare_iff resolver resolved decl).mp state
  have shape : t.stateDecl.shape = t.shape := rfl
  rw [t.conformances_stateDecl whole, shape]
  constructor
  · rw [t.mem_scopePathable_iff, SymbolTable.exists_scopePaths_iff resolver resolved]
  · rw [t.mem_scopeSwitchable_iff, SymbolTable.exists_scopeCases_iff resolver resolved]

def player : ModuleDef where
  name := "Player"
  directives := [{
    shape := .variant
    children := [
      ⟨.reducer, false, some (.string "song"), some (.named "Song"), none, {}⟩,
      ⟨.stateless, false, some (.string "silence"), none, none, {}⟩] }]

/-- The player has both tables, and its state has the marker of neither. -/
theorem scope_markers_iff_player :
    ∃ decl, .state decl ∈ (ofModule {} .textual player).declarations ∧ decl.emission = .whole ∧
      (∃ table, .scopePaths table ∈ (ofModule {} .textual player).declarations) ∧
      (∃ table, .scopeCases table ∈ (ofModule {} .textual player).declarations) ∧
      "ScopePathable" ∉ decl.conformances ∧ "ScopeSwitchable" ∉ decl.conformances := by
  let decl : StateDecl :=
    ⟨.hidden, .whole, .variant, ["Equatable"],
      [⟨"song", some "Song.State", none, false⟩, ⟨"silence", none, none, false⟩], none⟩
  have state : .state decl ∈ (ofModule {} .textual player).declarations := by decide
  have paths : .scopePaths ⟨.hidden, [.path "song" "Player" (Path.state.dynamicCase "song")
      "Song.State?" (Path.action.case "song") "Song.Action"]⟩ ∈
      (ofModule {} .textual player).declarations := by decide
  have cases : .scopeCases ⟨.hidden, [.module "song" "Song.State" "Song.Action",
      .bare "silence"]⟩ ∈ (ofModule {} .textual player).declarations := by decide
  have level : (ofModule {} .textual player).HasLevelAt player.placement .root
      (ofModule {} .textual player).declarations := .outermost
  obtain ⟨pathable, switchable⟩ := scope_markers_iff level state rfl
  refine ⟨decl, state, rfl, ⟨_, paths⟩, ⟨_, cases⟩, ?_, ?_⟩
  · intro marked
    cases (pathable.mp marked).2
  · intro marked
    cases (switchable.mp marked).2.2

end Expansion

end StateWeave
