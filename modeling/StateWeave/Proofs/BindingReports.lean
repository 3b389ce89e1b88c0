import StateWeave.Proofs.Reports

/-!
# What is reported about bindings

Problems with bindings are a category of their own. Everything that is done to a table leaves
the reports of this category as they are, but for one step: working off the queue of bindings,
which reports its failures. `ofBindings_ofModule` says what this comes to in the diagnostics
of an expansion, those of nested modules included.
-/

namespace StateWeave

def Diagnostic.isOfBinding (d : Diagnostic) : Bool := d.kind = .ambiguousPlaceholder

theorem Diagnostic.IsOrdinary.isOfBinding {d : Diagnostic} (ordinary : d.IsOrdinary) :
    d.isOfBinding = false := by
  obtain ⟨p, plain, kind, _⟩ := ordinary
  rw [Diagnostic.isOfBinding, kind]
  exact decide_eq_false plain.kind_ne

def Diagnostics.ofBindings (ds : Diagnostics) : Diagnostics := ds.filter Diagnostic.isOfBinding

theorem Diagnostics.ofBindings_append (ds es : Diagnostics) :
    ofBindings (ds ++ es) = ofBindings ds ++ ofBindings es := List.filter_append ..

theorem Diagnostics.ofBindings_eq_nil_iff {ds : Diagnostics} :
    ofBindings ds = [] ↔ ∀ d ∈ ds, d.isOfBinding = false := by
  simp only [ofBindings, List.filter_eq_nil_iff, Bool.not_eq_true]

theorem Diagnostics.ofBindings_of_ordinary {ds : Diagnostics}
    (ordinary : ∀ d ∈ ds, d.IsOrdinary) : ofBindings ds = [] :=
  ofBindings_eq_nil_iff.mpr fun d member => (ordinary d member).isOfBinding

/-- Every failure of a queue is reported as an error, under the category of bindings. -/
theorem PlaceholderRegistry.isOfBinding_failureReport (failure : PendingBinding × BindError) :
    (failureReport failure).isOfBinding = true ∧ (failureReport failure).severity = .error := by
  obtain ⟨b, error⟩ := failure
  cases error <;> exact ⟨rfl, rfl⟩

namespace SymbolTable

def bindingReports (t : SymbolTable) : Diagnostics := t.diagnostics.ofBindings

theorem KeepsReports.bindingReports {t u : SymbolTable} (kept : KeepsReports t u) :
    u.bindingReports = t.bindingReports := by
  obtain ⟨added, result, ordinary⟩ := kept
  rw [SymbolTable.bindingReports, result, Diagnostics.ofBindings_append,
    Diagnostics.ofBindings_of_ordinary ordinary, List.append_nil]
  rfl

theorem pendingBindings_compose (t : SymbolTable) (c : Composition) (resolve : Resolver) :
    (t.compose c resolve).pendingBindings = t.pendingBindings := by
  obtain ⟨initial, diagnostics, composed⟩ := compose_eq t c resolve
  obtain ⟨state, action, chosen⟩ := withOptions_eq t c.options
  rw [composed, chosen]
  simp only [withDiagnostics, withInitialName, withPlaceholders, withEntries, withStages,
    withChildren, withPlaces]

/-- Resolving a table reports the failures of its queue, and nothing else about bindings. -/
theorem bindingReports_resolve {t : SymbolTable} (fresh : t.isResolved = false) :
    t.resolve.bindingReports =
      t.bindingReports ++
        (t.placeholders.failures t.pendingBindings).map PlaceholderRegistry.failureReport := by
  let reports :=
    (t.placeholders.failures t.pendingBindings).map PlaceholderRegistry.failureReport
  have kept : Diagnostics.ofBindings reports = reports := by
    refine List.filter_eq_self.mpr fun report member => ?_
    obtain ⟨failure, _, rfl⟩ := List.mem_map.mp member
    exact (PlaceholderRegistry.isOfBinding_failureReport failure).1
  obtain ⟨added, result, ordinary⟩ := diagnostics_resolve fresh
  rw [bindingReports, result, Diagnostics.ofBindings_append, Diagnostics.ofBindings_append, kept,
    Diagnostics.ofBindings_of_ordinary ordinary, List.append_nil]
  rfl

end SymbolTable

theorem ListSite.bindingReports_table (resolver : Resolver) (site : ListSite) :
    (site.table resolver).bindingReports = [] := by
  obtain ⟨initial, diagnostics, composed⟩ :=
    SymbolTable.compose_eq site.started site.composition resolver
  have fresh : (site.started.compose site.composition resolver).isResolved = false := by
    rw [composed]
    rfl
  have quiet := (SymbolTable.keepsReports_compose site.started site.composition
    resolver).bindingReports
  refine (SymbolTable.bindingReports_resolve fresh).trans ?_
  rw [quiet, SymbolTable.pendingBindings_compose]
  rfl

theorem SymbolTable.ofBindings_declareWithin (resolver : Resolver) (depth : Nat)
    (t : SymbolTable) : Diagnostics.ofBindings (declareWithin resolver depth t).diagnostics = [] := by
  have violation (u : SymbolTable) (reason : String) :
      (u.contractViolation reason).isOfBinding = false := rfl
  induction depth generalizing t with
  | zero => rfl
  | succ depth ih =>
      rw [declareWithin]
      split
      · rw [Diagnostics.ofBindings_eq_nil_iff]
        intro report member
        rcases List.mem_append.mp member with nested | violated
        · obtain ⟨⟨n, o⟩, made, reported⟩ := List.mem_flatMap.mp nested
          obtain ⟨u, table, same⟩ := List.mem_map.mp made
          rw [nestedTables_eq] at table
          obtain ⟨site, _, rfl⟩ := List.mem_map.mp table
          cases same
          rcases List.mem_append.mp reported with own | deeper
          · exact Diagnostics.ofBindings_eq_nil_iff.mp (site.bindingReports_table resolver) _ own
          · exact Diagnostics.ofBindings_eq_nil_iff.mp (ih _) _ deeper
        · obtain ⟨reason, _, rfl⟩ := List.mem_map.mp violated
          exact violation t reason
      · rfl

/-- The reports about bindings in a module's expansion are those of the failures of its own
queue. Nested modules have no members that could bind anything. -/
theorem Expansion.ofBindings_ofModule (policy : Policy) (resolver : Resolver)
    {definition : ModuleDef} {c : Composition} (single : definition.directives = [c]) :
    (Expansion.ofModule policy resolver definition).diagnostics.ofBindings =
      ((c.declared policy resolver).failures
        ((c.contributions policy resolver definition.members).filterMap
          Contribution.binding?)).map PlaceholderRegistry.failureReport := by
  let t := SymbolTable.read policy resolver definition c
  obtain ⟨state, action, initial, diagnostics, entered⟩ :=
    SymbolTable.read_eq policy resolver definition c
  have fresh : t.isResolved = false :=
    SymbolTable.isResolved_read policy resolver definition c
  have quiet : t.bindingReports = [] :=
    ((SymbolTable.keepsReports_compose _ _ _).trans
      (SymbolTable.keepsReports_collect _ _)).bindingReports
  have nested := SymbolTable.ofBindings_declareWithin resolver (t.resolve.nesting + 1) t.resolve
  have made : (Expansion.ofModule policy resolver definition).diagnostics =
      t.resolve.diagnostics ++
        (SymbolTable.declareWithin resolver (t.resolve.nesting + 1) t.resolve).diagnostics := by
    rw [Expansion.ofModule, single]
    rfl
  rw [made, Diagnostics.ofBindings_append, nested, List.append_nil]
  refine (SymbolTable.bindingReports_resolve fresh).trans ?_
  rw [quiet, List.nil_append]
  change (PlaceholderRegistry.failures (SymbolTable.read policy resolver definition c).placeholders
    (SymbolTable.read policy resolver definition c).pendingBindings).map _ = _
  rw [entered]
  rfl

end StateWeave
