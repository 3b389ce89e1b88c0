import StateWeave.Proofs.Levels
import StateWeave.Proofs.ListPlaceholders

/-!
# The names of nested modules

The names of lists are registered, so that no two lists of one level have the same. The names of
their modules are not: a module is called as its list says, or as the policy says for lists of its
kind, and nobody compares it with the modules beside it. Two lists that leave their modules to the
policy get modules of one name. In an expansion without errors the declarations have distinct
qualified names just where the lists of each level ask for distinct modules.
-/

namespace StateWeave

/-! ## Qualified names -/

/-- What a declaration is that stands under a name of its own in its module. -/
inductive DeclarationKind where
  | state
  | action
  | pipeline
  | scopePaths
  | scopeCases
  deriving DecidableEq

namespace Declaration

def kind? : Declaration → Option DeclarationKind
  | .state _ => some .state
  | .action _ => some .action
  | .pipeline _ => some .pipeline
  | .scopePaths _ => some .scopePaths
  | .scopeCases _ => some .scopeCases
  | .nested _ => none
  | .error _ => none

mutual

/-- The qualified names in a declaration: the modules around each, outermost first, and what it
is. -/
def titles (path : List String) : Declaration → List (List String × DeclarationKind)
  | .state _ => [(path, .state)]
  | .action _ => [(path, .action)]
  | .pipeline _ => [(path, .pipeline)]
  | .scopePaths _ => [(path, .scopePaths)]
  | .scopeCases _ => [(path, .scopeCases)]
  | .nested ⟨_, name, _, declarations⟩ => titlesIn (path ++ [name]) declarations
  | .error _ => []

def titlesIn (path : List String) : List Declaration → List (List String × DeclarationKind)
  | [] => []
  | d :: rest => titles path d ++ titlesIn path rest

end

theorem titlesIn_append (path : List String) (ds es : List Declaration) :
    titlesIn path (ds ++ es) = titlesIn path ds ++ titlesIn path es := by
  induction ds with
  | nil => rfl
  | cons d ds ih => rw [List.cons_append, titlesIn, titlesIn, ih, List.append_assoc]

theorem titlesIn_map_nested (path : List String) (modules : List NestedModule) :
    titlesIn path (modules.map .nested) =
      modules.flatMap fun m => titlesIn (path ++ [m.name]) m.declarations := by
  induction modules with
  | nil => rfl
  | cons m modules ih =>
      rw [List.map_cons, titlesIn, ih, List.flatMap_cons]
      cases m
      rfl

mutual

/-- What is declared in a module is named after the module. -/
theorem prefix_of_mem_titles {path : List String} {title : List String × DeclarationKind} :
    ∀ d : Declaration, title ∈ titles path d → path <+: title.1
  | .nested ⟨_, name, _, declarations⟩, member => by
      rw [titles] at member
      exact (List.prefix_append path [name]).trans (prefix_of_mem_titlesIn declarations member)
  | .state _, member => List.mem_singleton.mp member ▸ List.prefix_rfl
  | .action _, member => List.mem_singleton.mp member ▸ List.prefix_rfl
  | .pipeline _, member => List.mem_singleton.mp member ▸ List.prefix_rfl
  | .scopePaths _, member => List.mem_singleton.mp member ▸ List.prefix_rfl
  | .scopeCases _, member => List.mem_singleton.mp member ▸ List.prefix_rfl
  | .error _, member => absurd member List.not_mem_nil

theorem prefix_of_mem_titlesIn {path : List String} {title : List String × DeclarationKind} :
    ∀ ds : List Declaration, title ∈ titlesIn path ds → path <+: title.1
  | [], member => absurd member List.not_mem_nil
  | d :: rest, member => by
      rw [titlesIn, List.mem_append] at member
      exact member.elim (prefix_of_mem_titles d) (prefix_of_mem_titlesIn rest)

end

end Declaration

namespace SymbolTable

open Declaration

def kinds (t : SymbolTable) : List DeclarationKind := t.ownDeclarations.filterMap kind?

theorem nodup_kinds (t : SymbolTable) : t.kinds.Nodup := by
  rw [kinds, ownDeclarations, scopeTables]
  cases t.pipeline? <;> cases t.needsScopePaths <;> cases t.needsScopeCases <;> simp [kind?]

theorem titlesIn_ownDeclarations (t : SymbolTable) (path : List String) :
    titlesIn path t.ownDeclarations = t.kinds.map (path, ·) := by
  rw [kinds, ownDeclarations, scopeTables]
  cases t.pipeline? <;> cases t.needsScopePaths <;> cases t.needsScopeCases <;> rfl

/-- The titles in a complete table's declarations: its own, and those in its lists' modules. -/
theorem IsComplete.titlesIn_eq {t : SymbolTable} (complete : t.IsComplete) (resolver : Resolver)
    (path : List String) :
    titlesIn path (t.declare resolver).declarations =
      t.kinds.map (path, ·) ++ t.lists.flatMap fun site =>
        titlesIn (path ++ [site.module]) (site.made resolver).declarations := by
  rw [complete.declare_eq, titlesIn_append, titlesIn_ownDeclarations, titlesIn_map_nested,
    List.flatMap_map]
  refine congrArg (_ ++ ·) (List.flatMap_congr fun site _ => ?_)
  rw [ListSite.made, ListSite.module_table]

/-- Every module declares its state. -/
theorem IsComplete.state_mem_titlesIn {t : SymbolTable} (complete : t.IsComplete)
    (resolver : Resolver) (path : List String) :
    (path, .state) ∈ titlesIn path (t.declare resolver).declarations := by
  rw [complete.titlesIn_eq]
  exact List.mem_append_left _ List.mem_cons_self

end SymbolTable

namespace ListSite

open Declaration

variable {resolver : Resolver} {path : List String}

/-- Modules beside each other share no title if they have different names. -/
theorem disjoint_titles_iff {site other : ListSite} :
    List.Disjoint (titlesIn (path ++ [site.module]) (site.made resolver).declarations)
        (titlesIn (path ++ [other.module]) (other.made resolver).declarations) ↔
      site.module ≠ other.module := by
  constructor
  · intro apart same
    have here := (SymbolTable.isComplete_table resolver site).state_mem_titlesIn resolver
      (path ++ [site.module])
    have there := (SymbolTable.isComplete_table resolver other).state_mem_titlesIn resolver
      (path ++ [other.module])
    rw [← same] at there
    rw [← same] at apart
    exact apart here there
  · intro differ title here there
    have first := prefix_of_mem_titlesIn _ here
    have second := prefix_of_mem_titlesIn _ there
    have one := List.prefix_of_prefix_length_le first second (by simp)
    have same := (List.prefix_append_right_inj path).mp one
    exact differ (by simpa using same)

end ListSite

namespace SymbolTable

open Declaration

variable {resolver : Resolver} {t : SymbolTable}

/-- The titles of a level are distinct if its modules are and if the titles in each of them are. -/
theorem IsComplete.nodup_titlesIn_iff (complete : t.IsComplete) (path : List String) :
    (titlesIn path (t.declare resolver).declarations).Nodup ↔
      (t.lists.map ListSite.module).Nodup ∧ ∀ site ∈ t.lists,
        (titlesIn (path ++ [site.module]) (site.made resolver).declarations).Nodup := by
  have own : (t.kinds.map (path, ·)).Nodup :=
    t.nodup_kinds.map fun _ _ same => congrArg Prod.snd same
  have deeper : List.Disjoint (t.kinds.map (path, ·)) (t.lists.flatMap fun site =>
      titlesIn (path ++ [site.module]) (site.made resolver).declarations) := by
    intro title here there
    obtain ⟨kind, _, rfl⟩ := List.mem_map.mp here
    obtain ⟨site, _, member⟩ := List.mem_flatMap.mp there
    exact absurd (prefix_of_mem_titlesIn _ member).length_le (by simp)
  have apart : t.lists.Pairwise (Function.onFun List.Disjoint fun site =>
      titlesIn (path ++ [site.module]) (site.made resolver).declarations) ↔
        (t.lists.map ListSite.module).Nodup := by
    rw [List.Nodup, List.pairwise_map]
    exact List.Pairwise.iff fun _ _ => ListSite.disjoint_titles_iff
  rw [complete.titlesIn_eq, List.nodup_append', and_iff_right own, and_iff_left deeper,
    List.nodup_flatMap, apart, and_comm]

/-- A list in a table is one of its own or one in the table of one of its own. -/
theorem hasList_iff (site : ListSite) :
    HasList resolver t site ↔
      site ∈ t.lists ∨ ∃ outer ∈ t.lists, HasList resolver (outer.table resolver) site := by
  constructor
  · intro list
    induction list with
    | own list => exact Or.inl list
    | nested _ list ih =>
        rcases ih with first | ⟨outer, first, below⟩
        · exact Or.inr ⟨_, first, .own list⟩
        · exact Or.inr ⟨outer, first, .nested below list⟩
  · rintro (list | ⟨outer, list, below⟩)
    · exact .own list
    · exact .trans (.own list) below

/-- All titles below a table are distinct if at each level the modules are. -/
theorem IsComplete.nodup_titlesIn_iff_all (complete : t.IsComplete) (path : List String) :
    (titlesIn path (t.declare resolver).declarations).Nodup ↔
      (t.lists.map ListSite.module).Nodup ∧ ∀ site, HasList resolver t site →
        ((site.table resolver).lists.map ListSite.module).Nodup := by
  induction bound : t.nesting using Nat.strongRecOn generalizing t path with
  | ind nesting ih =>
      rw [complete.nodup_titlesIn_iff, and_congr_right_iff]
      intro _
      have below (site : ListSite) (list : site ∈ t.lists) :=
        ih (site.table resolver).nesting (bound ▸ nesting_lt_of_mem_lists list resolver)
          (isComplete_table resolver site) (path ++ [site.module]) rfl
      constructor
      · intro inner site list
        rcases (hasList_iff site).mp list with own | ⟨outer, own, deeper⟩
        · exact ((below site own).mp (inner site own)).1
        · exact ((below outer own).mp (inner outer own)).2 site deeper
      · intro all site list
        refine (below site list).mpr ⟨all site (.own list), fun deeper within => ?_⟩
        exact all deeper (.trans (.own list) within)

end SymbolTable

/-! ## The modules that entries ask for -/

/-- The name of the module that an entry for a list asks for: the one that it gives, or else the
one that the policy has for lists of its kind. -/
def ChildEntry.moduleName? (policy : Policy) (e : ChildEntry) : Option String :=
  match e.kind with
  | .destination module _ => some (module.getD policy.destinationModule)
  | .navigationStack module _ => some (module.getD policy.stackModule)
  | _ => none

namespace ListSite

theorem map_module_ofChild? (t : SymbolTable) (e : ChildEntry) :
    (ofChild? t e).map ListSite.module = e.moduleName? t.policy := by
  rw [ofChild?, ChildEntry.moduleName?]
  cases e.kind <;> rfl

theorem list?_of_ofChild? {t : SymbolTable} {e : ChildEntry} {site : ListSite}
    (asks : ofChild? t e = some site) : site.placement.list? = some site.list := by
  rw [ofChild?] at asks
  split at asks <;> cases asks <;> rfl

theorem claim?_of_ofChild? {t : SymbolTable} {e : ChildEntry} {site : ListSite}
    (asks : ofChild? t e = some site) (resolver : Resolver) :
    e.claim? t.policy resolver = some site.list := by
  obtain ⟨embedding, plan, _⟩ := plan_of_ofChild? asks resolver
  rw [ChildEntry.claim?, plan]
  rfl

end ListSite

/-- What is known of the modules of a level if the lists of its table are those that some entries
with distinct names ask for. -/
theorem SymbolTable.modules_of_lists {t : SymbolTable} {es : List ChildEntry}
    (lists : t.lists = es.filterMap (ListSite.ofChild? t)) (resolver : Resolver)
    (distinct : (es.filterMap (ChildEntry.claim? t.policy resolver)).Nodup) :
    t.lists.map ListSite.module = es.filterMap (ChildEntry.moduleName? t.policy) ∧
      (t.lists.map fun site => site.placement.list?).Nodup := by
  constructor
  · rw [lists, List.map_filterMap]
    exact congrArg (es.filterMap ·) (funext fun e => ListSite.map_module_ofChild? t e)
  · have names : (t.lists.map ListSite.list).Nodup := by
      rw [lists]
      exact (Admission.sublist_names
        (fun _ _ asks => ListSite.claim?_of_ofChild? asks resolver) es).nodup distinct
    have placed : (t.lists.map fun site => site.placement.list?) =
        (t.lists.map ListSite.list).map some := by
      rw [List.map_map]
      refine List.map_congr_left fun site list => ?_
      rw [lists] at list
      obtain ⟨e, _, asks⟩ := List.mem_filterMap.mp list
      exact ListSite.list?_of_ofChild? asks
    rw [placed]
    exact names.map fun _ _ => Option.some.inj

/-- The entries of a module's composition, or of a list in it at any depth, and the declarations
that are made for them. -/
inductive ModuleDef.EntriesAt (policy : Policy) (resolver : Resolver) (definition : ModuleDef) :
    List ChildEntry → List Declaration → Prop
  | outermost {c : Composition} : definition.directives = [c] →
      EntriesAt policy resolver definition c.children
        (Expansion.ofModule policy resolver definition).declarations
  | list {site : ListSite} : definition.HasList policy resolver site →
      EntriesAt policy resolver definition site.children (site.made resolver).declarations

/-! ## Modules without errors -/

/-- What is reported of a list is reported of every table around it. -/
theorem SymbolTable.HasList.mem_diagnostics {resolver : Resolver} {t : SymbolTable}
    (complete : t.IsComplete) {site : ListSite} (list : HasList resolver t site) {d : Diagnostic}
    (reported : d ∈ (site.table resolver).diagnostics ++
      ((site.table resolver).declare resolver).diagnostics) :
    d ∈ (t.declare resolver).diagnostics := by
  induction list with
  | own list =>
      rw [complete.declare_eq]
      exact List.mem_flatMap.mpr ⟨_, list, reported⟩
  | @nested outer site _ list ih =>
      refine ih (List.mem_append_right _ ?_)
      rw [(isComplete_table resolver outer).declare_eq]
      exact List.mem_flatMap.mpr ⟨_, list, reported⟩

/-- A list of which no error is reported has all its entries. -/
theorem ListSite.entries_of_fine {resolver : Resolver} {site : ListSite}
    (fine : ∀ d ∈ (site.table resolver).diagnostics, ¬d.isError = true) :
    site.entries resolver = site.children := by
  by_contra rejected
  obtain ⟨d, reported, fatal⟩ :=
    SymbolTable.exists_error_of_rejected (t := site.started) rejected
  refine fine d ?_ fatal
  rw [site.diagnostics_table]
  exact List.mem_append_left _ reported

namespace Expansion

variable {policy : Policy} {resolver : Resolver} {definition : ModuleDef}

/-- The modules that a table declares have the names and the places of its lists. -/
theorem modules_of_hasTable {t : SymbolTable} (table : definition.HasTable policy resolver t) :
    let modules := (t.declare resolver).declarations.filterMap Declaration.module?
    modules.map NestedModule.name = t.lists.map ListSite.module ∧
      (modules.map fun m => m.placement.list?) = t.lists.map fun site => site.placement.list? := by
  intro modules
  have made : modules = t.lists.map (ListSite.made resolver) :=
    table.isComplete.modules_eq resolver
  rw [made, List.map_map, List.map_map]
  constructor
  · exact List.map_congr_left fun site _ => site.module_table resolver
  · exact List.map_congr_left fun site _ =>
      congrArg Placement.list? (site.placement_table resolver)

/-- A level with anything on it is made for the entries of the module or of a list in it. -/
theorem exists_entriesAt {ds : List Declaration}
    (level : (ofModule policy resolver definition).HasLevel ds) {d : Declaration}
    (member : d ∈ ds) : ∃ es, definition.EntriesAt policy resolver es ds := by
  obtain ⟨t, table, rfl⟩ := exists_table_of_mem level member
  cases table with
  | @own c single =>
      refine ⟨c.children, ?_⟩
      rw [← declarations_ofModule single]
      exact .outermost single
  | list list => exact ⟨_, .list list⟩

theorem exists_single_of_entriesAt {es : List ChildEntry} {ds : List Declaration}
    (level : definition.EntriesAt policy resolver es ds) : ∃ c, definition.directives = [c] := by
  cases level with
  | outermost single => exact ⟨_, single⟩
  | list list =>
      obtain ⟨c, single, _⟩ := list
      exact ⟨c, single⟩

section

variable (fine : (ofModule policy resolver definition).hasErrors = false)

include fine

/-- In a module without errors the lists of the module are those that its entries ask for. -/
theorem modules_ofModule_of_fine {c : Composition} (single : definition.directives = [c]) :
    let t := SymbolTable.ofModule policy resolver definition c
    t.lists.map ListSite.module = c.children.filterMap (ChildEntry.moduleName? policy) ∧
      (t.lists.map fun site => site.placement.list?).Nodup := by
  intro t
  have same : t.policy = policy := SymbolTable.policy_ofModule policy resolver definition c
  have entered := entries_of_fine single fine
  have distinct := c.nodup_claims_entries policy resolver
  have lists := SymbolTable.lists_ofModule policy resolver definition c
  rw [entered] at distinct lists
  have modules := SymbolTable.modules_of_lists lists resolver (same.symm ▸ distinct)
  rwa [same] at modules

/-- In a module without errors the lists in a list are those that its entries ask for. -/
theorem modules_table_of_fine {site : ListSite} (list : definition.HasList policy resolver site) :
    (site.table resolver).lists.map ListSite.module =
        site.children.filterMap (ChildEntry.moduleName? policy) ∧
      ((site.table resolver).lists.map fun site => site.placement.list?).Nodup := by
  have same : (site.table resolver).policy = policy := (ModuleDef.HasTable.list list).policy_eq
  have entered : site.entries resolver = site.children := by
    refine ListSite.entries_of_fine fun d reported => ?_
    obtain ⟨c, single, within⟩ := list
    have complete := SymbolTable.isComplete_ofModule policy resolver definition c
    rw [hasErrors, Diagnostics.hasErrors, List.any_eq_false, diagnostics_ofModule single] at fine
    exact fine d (List.mem_append_right _
      (within.mem_diagnostics complete (List.mem_append_left _ reported)))
  have distinct := site.nodup_claims_entries resolver
  have lists := site.lists_table resolver
  rw [entered] at distinct lists
  rw [← site.policy_table resolver] at distinct
  have modules := SymbolTable.modules_of_lists lists resolver distinct
  rwa [same] at modules

/-- In a module without errors the modules of each level are those that its entries ask for. -/
theorem modules_of_entriesAt {es : List ChildEntry} {ds : List Declaration}
    (level : definition.EntriesAt policy resolver es ds) :
    let modules := ds.filterMap Declaration.module?
    modules.map NestedModule.name = es.filterMap (ChildEntry.moduleName? policy) ∧
      (modules.map fun m => m.placement.list?).Nodup := by
  cases level with
  | outermost single =>
      rw [declarations_ofModule single]
      obtain ⟨names, places⟩ := modules_of_hasTable (.own single)
      obtain ⟨asked, distinct⟩ := modules_ofModule_of_fine fine single
      exact ⟨names.trans asked, places ▸ distinct⟩
  | list list =>
      obtain ⟨names, places⟩ := modules_of_hasTable (.list list)
      obtain ⟨asked, distinct⟩ := modules_table_of_fine fine list
      exact ⟨names.trans asked, places ▸ distinct⟩

theorem nodup_titlesIn_iff (path : List String) :
    (Declaration.titlesIn path (ofModule policy resolver definition).declarations).Nodup ↔
      ∀ es ds, definition.EntriesAt policy resolver es ds →
        (es.filterMap (ChildEntry.moduleName? policy)).Nodup := by
  by_cases single : ∃ c, definition.directives = [c]
  · obtain ⟨c, single⟩ := single
    have complete := SymbolTable.isComplete_ofModule policy resolver definition c
    rw [declarations_ofModule single, complete.nodup_titlesIn_iff_all path,
      (modules_ofModule_of_fine fine single).1]
    constructor
    · rintro ⟨outermost, below⟩ es ds level
      cases level with
      | outermost known =>
          rw [single] at known
          exact (List.cons.inj known).1 ▸ outermost
      | list list =>
          rw [← (modules_table_of_fine fine list).1]
          obtain ⟨d, known, within⟩ := list
          rw [single] at known
          exact below _ ((List.cons.inj known).1 ▸ within)
    · intro all
      refine ⟨all _ _ (.outermost single), fun site within => ?_⟩
      have list : definition.HasList policy resolver site := ⟨c, single, within⟩
      rw [(modules_table_of_fine fine list).1]
      exact all _ _ (.list list)
  · rw [declarations_of_not_single single]
    exact iff_of_true List.nodup_nil fun es ds level =>
      absurd (exists_single_of_entriesAt level) single

end

/-- In an expansion without errors the modules of a level are called as its entries for lists ask
for them, one after the other. Lists of one level have different names. So the qualified names of
all declarations are distinct just where at every level the entries ask for distinct modules. -/
theorem module_names_asked (fine : (ofModule policy resolver definition).hasErrors = false) :
    let e := ofModule policy resolver definition
    (∀ ds, e.HasLevel ds → ds ≠ [] → ∃ es, definition.EntriesAt policy resolver es ds) ∧
      (∀ es ds, definition.EntriesAt policy resolver es ds →
        let modules := ds.filterMap Declaration.module?
        modules.map NestedModule.name = es.filterMap (ChildEntry.moduleName? policy) ∧
          (modules.map fun m => m.placement.list?).Nodup) ∧
      ((Declaration.titlesIn [e.module] e.declarations).Nodup ↔
        ∀ es ds, definition.EntriesAt policy resolver es ds →
          (es.filterMap (ChildEntry.moduleName? policy)).Nodup) := by
  intro e
  refine ⟨fun ds level nonempty => ?_, fun es ds => modules_of_entriesAt fine,
    nodup_titlesIn_iff fine [e.module]⟩
  obtain ⟨d, member⟩ := List.exists_mem_of_ne_nil ds nonempty
  exact exists_entriesAt level member

/-- A box office with two lists. The sheet leaves its module to the policy. -/
def boxOffice (module : Option String) : ModuleDef where
  name := "BoxOffice"
  directives := [{ children := [
    ⟨.destination none [], false, some (.string "sheet"), none, none, {}⟩,
    ⟨.destination module [], false, some (.string "cover"), none, none, {}⟩] }]

/-- If both lists leave their modules to the policy, both get the same name and nobody says so. -/
theorem same_module_names_accepted :
    let e := ofModule {} .textual (boxOffice none)
    e.diagnostics = [] ∧
      (e.declarations.filterMap Declaration.module?).map NestedModule.name =
        ["Destination", "Destination"] ∧
      ¬(Declaration.titlesIn [e.module] e.declarations).Nodup := by
  refine ⟨by decide, by decide, by decide⟩

/-- With a module of its own for the cover the modules differ, and so do all titles. -/
theorem module_names_asked_boxOffice :
    let e := ofModule {} .textual (boxOffice (some "Cover"))
    (e.declarations.filterMap Declaration.module?).map NestedModule.name =
        ["Destination", "Cover"] ∧
      (Declaration.titlesIn [e.module] e.declarations).Nodup ∧
      ∀ es ds, (boxOffice (some "Cover")).EntriesAt {} .textual es ds →
        (es.filterMap (ChildEntry.moduleName? {})).Nodup := by
  intro e
  have fine : e.hasErrors = false := by decide
  obtain ⟨_, modules, distinct⟩ := module_names_asked fine
  have titles : (Declaration.titlesIn [e.module] e.declarations).Nodup := by decide
  exact ⟨(modules _ _ (.outermost rfl)).1, titles, distinct.mp titles⟩

end Expansion

end StateWeave
