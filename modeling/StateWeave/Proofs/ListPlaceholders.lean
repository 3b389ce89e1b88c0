import StateWeave.Proofs.ListsInLists
import StateWeave.Proofs.PlaceholderPaths
import StateWeave.Proofs.TableReports

/-!
# The alerts and dialogs of a list

An alert or a dialog of a list is declared twice: in the module around the list, which knows it
under the name of the list and its own, and in the module of the list. Members bind it in the
module around. `list_placeholder_shown` follows it from the one to the other: what is bound there
in the end is shown in the list's module with its type, and what is not bound there is not bound in
the list's module either, which leaves it out and reports it once.
-/

namespace StateWeave

open Admission

/-! ## How a placeholder is shown -/

namespace Placeholder

/-- The type of the state of an alert or a dialog whose actions have this type. -/
def stateType (p : Placeholder) (type : String) : String :=
  match p.kind with
  | .alert => Embedding.wrapState ("AlertState<" ++ type ++ ">") p.presentable
  | .confirmationDialog =>
    Embedding.wrapState ("ConfirmationDialogState<" ++ type ++ ">") p.presentable

theorem stateField_of_typed (p : Placeholder) (type : String) (t : SymbolTable) :
    t.stateField (NamedChild.mk p.name (p.embedding type) none).member =
      ⟨p.name, some (p.stateType type), none, p.presentable⟩ := by
  rw [embedding, stateType]
  cases p.kind <;> rfl

theorem action?_of_typed (p : Placeholder) (type : String) :
    (NamedChild.mk p.name (p.embedding type) none).action? =
      some ⟨p.name, Embedding.wrapAction type p.presentable⟩ := by
  rw [embedding]
  cases p.kind <;> rfl

theorem isLocal_of_dotless {p : Placeholder} (dotless : '.' ∉ p.name.toList) :
    p.isLocal = true := by
  simpa [isLocal] using dotless

theorem eq_typed_of_actionType {p : Placeholder} {type : String}
    (known : p.actionType = some type) : p = p.typed type := by
  rw [typed, ← known]

end Placeholder

/-! ## Registries -/

namespace PlaceholderRegistry

variable {r : PlaceholderRegistry} {name : String}

/-- Under a name without a dot a registry has at most one placeholder of the module itself. -/
theorem filter_locals (distinct : r.names.Nodup) (dotless : '.' ∉ name.toList) :
    r.locals.filter (fun p => p.name = name) = (r.get? name).toList := by
  have named : ∀ p ∈ r.entries,
      (decide (p.name = name) && p.isLocal) = decide (p.name = name) := by
    intro p _
    by_cases same : p.name = name
    · subst same
      rw [Placeholder.isLocal_of_dotless dotless, Bool.and_true]
    · simp [same]
  rw [locals, List.filter_filter, List.filter_congr named]
  cases known : r.get? name with
  | none =>
      rw [Option.toList_none, List.filter_eq_nil_iff]
      intro p member same
      exact get?_eq_none_iff.mp known (of_decide_eq_true same ▸ List.mem_map_of_mem member)
  | some p =>
      obtain ⟨member, rfl⟩ := mem_of_get? known
      exact filter_label_of_mem distinct member

theorem filter_children (distinct : r.names.Nodup) (dotless : '.' ∉ name.toList) :
    r.children.filter (fun c => c.name = name) =
      ((r.get? name).bind Placeholder.child?).toList := by
  have kept : ∀ (p : Placeholder) c, p.child? = some c →
      decide (c.name = name) = decide (p.name = name) := by
    intro p c child
    rw [Placeholder.name_of_child? child]
  rw [children, filter_filterMap kept, filter_locals distinct dotless, filterMap_toList]

theorem standing_of_bound {p : Placeholder} {ps : List Placeholder} (member : p ∈ ps)
    (bound : p.isBound = true) : ∃ q, standing ps = some q ∧ q.isBound = true := by
  cases found : ps.find? Placeholder.isBound with
  | none => exact absurd bound (List.find?_eq_none.mp found p member)
  | some q => exact ⟨q, by rw [standing, found, Option.some_or], List.find?_some found⟩

/-- A name that is declared with a type once is bound from then on. -/
theorem isBound_of_declared {p : Placeholder} {ps : List Placeholder} (member : p ∈ ps)
    (bound : p.isBound = true) (r : PlaceholderRegistry) :
    ∃ q, (r.declareAll ps).get? p.name = some q ∧ q.isBound = true := by
  rw [get?_declareAll]
  refine standing_of_bound (List.mem_append_right _ ?_) bound
  exact List.mem_filter.mpr ⟨member, by simp⟩

/-- No binding takes the type of a placeholder away. -/
theorem isBound_get?_settle {q : Placeholder} (distinct : r.names.Nodup)
    (known : r.get? name = some q) (bound : q.isBound = true) (queue : List PendingBinding) :
    ∃ p, (r.settle queue).get? name = some p ∧ p.isBound = true := by
  obtain ⟨type, typed⟩ := Option.isSome_iff_exists.mp bound
  obtain rfl := (mem_of_get? known).2
  rw [Placeholder.eq_typed_of_actionType typed] at known
  exact ⟨_, get?_settle_of_bound distinct known queue, rfl⟩

end PlaceholderRegistry

/-! ## Declarations -/

namespace ChildEntry

variable {policy : Policy} {resolver : Resolver}

/-- The placeholders of a list are declared around it, even if the list is turned away. -/
theorem mem_declarations_of_list {e : ChildEntry} {es : List ChildEntry} {list : String}
    {embedding : Embedding} {children : List ChildEntry} {p : Placeholder} (member : e ∈ es)
    (plan : e.plan policy resolver = .list list embedding children)
    (listed : p ∈ children.filterMap (listed? resolver list)) (taken : List String) :
    p ∈ declarations policy resolver taken es := by
  induction es generalizing taken with
  | nil => cases member
  | cons first rest ih =>
      rw [declarations, List.mem_append]
      rcases List.mem_cons.mp member with rfl | later
      · refine Or.inl ?_
        rw [declared, plan]
        exact listed
      · exact Or.inr (ih later _)

/-- Under a name without a dot only the entry itself declares a placeholder. -/
theorem filter_name_declarations {name : String} (dotless : '.' ∉ name.toList)
    (taken : List String) (es : List ChildEntry) :
    (declarations policy resolver taken es).filter (fun p => p.name = name) =
      ((admitted (claim? policy resolver) taken es).filterMap (own? policy resolver)).filter
        fun p => p.name = name := by
  have through (ps : List Placeholder) : ps.filter (fun p => p.name = name) =
      (ps.filter Placeholder.isLocal).filter fun p => p.name = name := by
    rw [List.filter_filter]
    refine List.filter_congr fun p _ => ?_
    by_cases same : p.name = name
    · subst same
      rw [Placeholder.isLocal_of_dotless dotless, Bool.and_true]
    · simp [same]
  rw [through, filter_isLocal_declarations, ← through]

end ChildEntry

namespace SymbolTable

variable (policy : Policy) (resolver : Resolver) (definition : ModuleDef) (c : Composition)

/-- The lists of a module are those that its entries ask for, as far as they are let in. -/
theorem lists_ofModule :
    (ofModule policy resolver definition c).lists =
      (c.entries policy resolver).filterMap
        (ListSite.ofChild? (ofModule policy resolver definition c)) :=
  ListSite.lists_of_stateMembers (policy_ofModule policy resolver definition c)
    (stateMembers_ofModule policy resolver definition c)

/-- What an entry of a list declares with a type is bound in the module around the list. -/
theorem isBound_of_listed {site : ListSite}
    (list : site ∈ (ofModule policy resolver definition c).lists) {e : ChildEntry}
    (member : e ∈ site.children) {q : Placeholder} (own : e.own? policy resolver = some q)
    (bound : q.isBound = true) :
    ∃ p, (ofModule policy resolver definition c).placeholders.get?
      (Naming.nestedKey site.list q.name) = some p ∧ p.isBound = true := by
  rw [lists_ofModule] at list
  obtain ⟨entry, entered, asks⟩ := List.mem_filterMap.mp list
  obtain ⟨embedding, plan, _⟩ := ListSite.plan_of_ofChild? asks resolver
  rw [policy_ofModule] at plan
  let listed : Placeholder := { q with name := Naming.nestedKey site.list q.name }
  have declares : listed ∈ site.children.filterMap (ChildEntry.listed? resolver site.list) := by
    refine List.mem_filterMap.mpr ⟨e, member, ?_⟩
    rw [e.listed?_eq policy resolver site.list, own]
    rfl
  have declared :=
    ChildEntry.mem_declarations_of_list (mem_of_mem_admitted entered) plan declares []
  obtain ⟨first, known, typed⟩ :=
    PlaceholderRegistry.isBound_of_declared declared bound .empty
  rw [placeholders_ofModule, Composition.settled]
  exact PlaceholderRegistry.isBound_get?_settle (c.nodup_names_declared policy resolver) known
    typed _

variable {policy resolver definition c}

theorem filter_orderedActions {t : SymbolTable} {name : String} {a : Option ActionMember}
    (actions : t.actionMembers.filter (fun m => m.name = name) = a.toList) :
    t.orderedActions.filter (fun m => m.name = name) = a.toList := by
  have same := t.perm_orderedActions.filter fun m => m.name = name
  rw [actions] at same
  cases a with
  | none => exact same.eq_nil
  | some m => exact List.perm_singleton.mp same

end SymbolTable

/-! ## An alert or a dialog under its own name -/

namespace Composition

variable {policy : Policy} {resolver : Resolver} {c : Composition} {name : String}
  {e : ChildEntry} {q : Placeholder}
  (first : c.children.find? (fun e => e.claim? policy resolver = some name) = some e)
  (own : e.own? policy resolver = some q)

include first

theorem mem_entries_of_first : e ∈ c.entries policy resolver :=
  (mem_admitted_iff_find? (name_of_find? first) List.not_mem_nil).mpr first

include own

theorem name_of_own : q.name = name :=
  Option.some.inj ((ChildEntry.claim?_of_own? own).symm.trans (name_of_find? first))

theorem filter_own :
    ((c.entries policy resolver).filterMap (ChildEntry.own? policy resolver)).filter
      (fun p => p.name = name) = [q] := by
  have member : q ∈ (c.entries policy resolver).filterMap (ChildEntry.own? policy resolver) :=
    List.mem_filterMap.mpr ⟨e, mem_entries_of_first first, own⟩
  rw [← name_of_own first own]
  exact filter_label_of_mem (c.nodup_names_own policy resolver) member

/-- No child of an entry has the name of an alert or a dialog that was there first. -/
theorem filter_children_of_own :
    ((c.entries policy resolver).filterMap (ChildEntry.child? policy resolver)).filter
      (fun c => c.name = name) = [] := by
  rw [List.filter_eq_nil_iff]
  intro child member same
  obtain ⟨other, entry, found⟩ := List.mem_filterMap.mp member
  have asked : other.claim? policy resolver = some name :=
    (ChildEntry.claim?_of_child? found).trans (congrArg some (of_decide_eq_true same))
  have also := (mem_admitted_iff_find? asked List.not_mem_nil).mp entry
  rw [first] at also
  obtain rfl := Option.some.inj also
  rw [ChildEntry.own?_of_child? (by rw [found]; rfl)] at own
  cases own

end Composition

/-! ## A list's alert or dialog in the list's module -/

namespace ListSite

variable {resolver : Resolver} {site : ListSite} {name : String} {e : ChildEntry} {q : Placeholder}
  (first : site.children.find? (fun e => e.claim? site.parent.policy resolver = some name) = some e)
  (own : e.own? site.parent.policy resolver = some q) (dotless : '.' ∉ name.toList)

include first own dotless

/-- What is handed down unbound gives way to what the list declares itself. -/
theorem get?_placeholders_of_unbound {p : Placeholder} (seeded : site.seeds.get? name = some p)
    (unbound : p.isBound = false) : (site.placeholders resolver).get? name = some q := by
  have only : (ChildEntry.declarations site.parent.policy resolver [] site.children).filter
      (fun p => p.name = name) = [q] := by
    rw [ChildEntry.filter_name_declarations dotless]
    exact Composition.filter_own (c := site.composition) first own
  rw [placeholders, PlaceholderRegistry.get?_declareAll, seeded, only, Option.toList_some,
    List.singleton_append, PlaceholderRegistry.standing_cons_cons_of_unbound unbound,
    PlaceholderRegistry.standing_singleton]

/-- The only child of the name is what the placeholder becomes. -/
theorem filter_embedded (distinct : site.seeds.names.Nodup) :
    (site.embedded resolver).filter (fun c => c.name = name) =
      (((site.placeholders resolver).get? name).bind Placeholder.child?).toList := by
  have early : ((site.entries resolver).filterMap
      (ChildEntry.child? site.parent.policy resolver)).filter (fun c => c.name = name) = [] :=
    Composition.filter_children_of_own (c := site.composition) first own
  rw [embedded, List.filter_append, early, List.nil_append]
  exact PlaceholderRegistry.filter_children
    (PlaceholderRegistry.nodup_names_declareAll distinct _) dotless

/-- What the list's module shows under the name, and what it reports. -/
theorem shown_of_get? (distinct : site.seeds.names.Nodup) {p : Placeholder}
    (known : (site.placeholders resolver).get? name = some p) :
    let t := site.table resolver
    let child := p.actionType.map fun type => NamedChild.mk p.name (p.embedding type) none
    t.stateDecl.fields.filter (fun f => f.name = name) =
        (child.map fun c => t.stateField c.member).toList ∧
      t.actionDecl.cases.filter (fun a => a.name = name) =
        ((child.bind NamedChild.action?).map SymbolTable.actionCaseOf).toList ∧
      t.diagnostics.filter (Diagnostic.tellsUnbound name) =
        (p.unboundReport? site.parent.policy).toList := by
  intro t child
  have becomes : p.child? = child := by
    rw [Placeholder.child?, Placeholder.embedding?, Option.map_map]
    rfl
  have children : (site.embedded resolver).filter (fun c => c.name = name) = child.toList := by
    rw [filter_embedded first own dotless distinct, known, Option.bind_some, becomes]
  have actions : t.actionMembers.filter (fun m => m.name = name) =
      (child.bind NamedChild.action?).toList := by
    have kept : ∀ (c : NamedChild) a, c.action? = some a →
        decide (a.name = name) = decide (c.name = name) := by
      intro c a acts
      rw [NamedChild.name_of_action? acts]
    rw [site.actionMembers_table, filter_filterMap kept, children, filterMap_toList]
  refine ⟨?_, ?_, ?_⟩
  · rw [SymbolTable.stateDecl, site.stateMembers_table, List.map_map, List.filter_map]
    have fields : (site.embedded resolver).filter
        ((fun f : StateField => decide (f.name = name)) ∘ t.stateField ∘ NamedChild.member) =
          child.toList := children
    rw [fields]
    cases child <;> rfl
  · rw [SymbolTable.actionDecl, List.filter_map]
    have shown : t.orderedActions.filter
        ((fun a : ActionCase => decide (a.name = name)) ∘ SymbolTable.actionCaseOf) =
          (child.bind NamedChild.action?).toList := SymbolTable.filter_orderedActions actions
    rw [shown]
    cases child.bind NamedChild.action? <;> rfl
  · have locals := PlaceholderRegistry.filter_locals
      (PlaceholderRegistry.nodup_names_declareAll distinct
        (ChildEntry.declarations site.parent.policy resolver [] site.children)) dotless
    rw [site.filter_tellsUnbound_table]
    change ((site.placeholders resolver).locals.filter _).filterMap _ = _
    rw [placeholders, locals]
    change ((site.placeholders resolver).get? name).toList.filterMap _ = _
    rw [known, filterMap_toList, Option.bind_some]

theorem shown_of_bound (distinct : site.seeds.names.Nodup) {p : Placeholder} {type : String}
    (known : (site.placeholders resolver).get? name = some p) (bound : p.actionType = some type) :
    let t := site.table resolver
    let payload := Embedding.wrapAction type p.presentable
    t.stateDecl.fields.filter (fun f => f.name = name) =
        [⟨p.name, some (p.stateType type), none, p.presentable⟩] ∧
      t.actionDecl.cases.filter (fun a => a.name = name) =
        [⟨p.name, if payload = "Void" then none else some payload⟩] ∧
      t.diagnostics.filter (Diagnostic.tellsUnbound name) = [] := by
  have shown := shown_of_get? first own dotless distinct known
  have silent : p.unboundReport? site.parent.policy = none := by
    rw [Placeholder.unboundReport?, Placeholder.isBound, bound]
    rfl
  dsimp only at shown
  rw [bound, Option.map_some, Option.map_some, Option.bind_some, p.stateField_of_typed,
    p.action?_of_typed, silent] at shown
  exact shown

theorem shown_of_unbound (distinct : site.seeds.names.Nodup) {p : Placeholder}
    (known : (site.placeholders resolver).get? name = some p) (unbound : p.actionType = none) :
    let t := site.table resolver
    t.stateDecl.fields.filter (fun f => f.name = name) = [] ∧
      t.actionDecl.cases.filter (fun a => a.name = name) = [] ∧
      t.diagnostics.filter (Diagnostic.tellsUnbound name) =
        (p.unboundReport? site.parent.policy).toList := by
  have shown := shown_of_get? first own dotless distinct known
  dsimp only at shown
  rw [unbound] at shown
  exact shown

end ListSite

/-- An alert or a dialog that asks for a name brings the placeholder of this name. -/
theorem ChildEntry.exists_own?_of_ofChild? {policy : Policy} {resolver : Resolver}
    {e : ChildEntry} {name : String} {kind : PlaceholderKind}
    (asked : e.claim? policy resolver = some name)
    (declares : PlaceholderKind.ofChild? e.kind = some kind) :
    ∃ q, e.own? policy resolver = some q ∧ q.name = name := by
  rcases claim?_cases policy resolver asked with ⟨other, _⟩ | ⟨_, own⟩
  · rw [← PlaceholderKind.isSome_ofChild?, declares] at other
    cases other
  · exact own

theorem ChildEntry.eq_of_own? {policy : Policy} {resolver : Resolver} {e : ChildEntry}
    {kind : PlaceholderKind} (declares : PlaceholderKind.ofChild? e.kind = some kind)
    {q : Placeholder} (own : e.own? policy resolver = some q) :
    q = SymbolTable.placeholderOf q.name kind e resolver := by
  rw [own?, plan_of_ofChild? policy resolver declares] at own
  cases named : e.name? with
  | none =>
      rw [named] at own
      cases own
  | some name =>
      rw [named] at own
      cases own
      rfl

theorem ChildEntry.kind_of_own? {policy : Policy} {resolver : Resolver} {e : ChildEntry}
    {kind : PlaceholderKind} (declares : PlaceholderKind.ofChild? e.kind = some kind)
    {q : Placeholder} (own : e.own? policy resolver = some q) : q.kind = kind :=
  congrArg Placeholder.kind (eq_of_own? declares own)

theorem ChildEntry.location_of_own? {policy : Policy} {resolver : Resolver} {e : ChildEntry}
    {kind : PlaceholderKind} (declares : PlaceholderKind.ofChild? e.kind = some kind)
    {q : Placeholder} (own : e.own? policy resolver = some q) : q.location = e.location :=
  congrArg Placeholder.location (eq_of_own? declares own)

/-- What is reported of an alert or a dialog that nobody has bound. -/
theorem Placeholder.toList_unboundReport? {p : Placeholder} (unbound : p.actionType = none)
    (policy : Policy) :
    (p.unboundReport? policy).toList =
      match policy.unboundPlaceholders with
      | .warn => [.ofProblem (.unboundPlaceholder p.kind.text p.name) p.location]
      | .omit => [] := by
  have free : p.isBound = false := by rw [isBound, unbound]; rfl
  rw [unboundReport?, free]
  cases policy.unboundPlaceholders <;> rfl

/-- What is known around a list under the list's name and another one is handed down to the list
under the other one. -/
theorem SymbolTable.handed_of_mem_lists {t : SymbolTable} {site : ListSite} (list : site ∈ t.lists)
    {name : String} {p : Placeholder}
    (known : t.placeholders.get? (Naming.nestedKey site.list name) = some p) :
    p ∈ site.parent.placeholders.entries ∧
      PlaceholderRegistry.localName? site.list p.name = some name := by
  obtain ⟨member, key⟩ := PlaceholderRegistry.mem_of_get? known
  rw [parent_of_mem_lists list, key]
  exact ⟨member, PlaceholderRegistry.localName?_nestedKey site.list name⟩

/-- What is not bound around a list is not declared with a type in the list either. -/
theorem SymbolTable.actionType_of_unbound {policy : Policy} {resolver : Resolver}
    {definition : ModuleDef} {c : Composition} {site : ListSite}
    (list : site ∈ (ofModule policy resolver definition c).lists) {e : ChildEntry}
    (member : e ∈ site.children) {q : Placeholder} (own : e.own? policy resolver = some q)
    {p : Placeholder} (known : (ofModule policy resolver definition c).placeholders.get?
      (Naming.nestedKey site.list q.name) = some p) (unbound : p.actionType = none) :
    q.actionType = none := by
  have free : ¬q.isBound = true := by
    intro bound
    obtain ⟨other, settled, typed⟩ :=
      isBound_of_listed policy resolver definition c list member own bound
    rw [known] at settled
    rw [← Option.some.inj settled, Placeholder.isBound, unbound] at typed
    cases typed
  simpa [Placeholder.isBound] using free

namespace Expansion

/-- Each list of a module has its own module among the declarations, and what the list's table
reports is among the reports, in one piece. -/
theorem nested_of_mem_lists {policy : Policy} {resolver : Resolver} {definition : ModuleDef}
    {c : Composition} (single : definition.directives = [c]) {site : ListSite}
    (list : site ∈ (SymbolTable.ofModule policy resolver definition c).lists) :
    .nested (site.made resolver) ∈ (ofModule policy resolver definition).declarations ∧
      (site.table resolver).diagnostics <:+: (ofModule policy resolver definition).diagnostics := by
  have complete := SymbolTable.isComplete_ofModule policy resolver definition c
  rw [declarations_ofModule single, diagnostics_ofModule single, complete.declare_eq]
  constructor
  · exact List.mem_append_right _ (List.mem_map_of_mem (List.mem_map_of_mem list))
  · obtain ⟨before, behind, lists⟩ := List.append_of_mem list
    rw [lists, List.flatMap_append, List.flatMap_cons]
    simp only [List.append_assoc]
    rw [← List.append_assoc]
    exact List.infix_append' _ _ _

/-- What is bound in a module reaches the modules of its lists. An alert or a dialog that is the
first to ask for its name in a list is known around the list under the list's name and its own. If
it is bound there in the end, the list's module has one field of its name, of the type that goes
with its kind and with the type it is bound to, and one case with this type as its payload, in the
envelope if it is presented; a payload of the unit type is left out, as in any action. If it is not
bound there, the list's module has neither, and reports once that it is not bound if anybody wants
to know. -/
theorem list_placeholder_shown {policy : Policy} {resolver : Resolver} {definition : ModuleDef}
    {c : Composition} (single : definition.directives = [c]) {site : ListSite}
    (list : site ∈ (SymbolTable.ofModule policy resolver definition c).lists) {name : String}
    {e : ChildEntry}
    (first : site.children.find? (fun e => e.claim? policy resolver = some name) = some e)
    {kind : PlaceholderKind} (declares : PlaceholderKind.ofChild? e.kind = some kind)
    (dotless : '.' ∉ name.toList) {p : Placeholder}
    (known : (SymbolTable.ofModule policy resolver definition c).placeholders.get?
      (Naming.nestedKey site.list name) = some p) :
    let nested := site.made resolver
    let reports := (site.table resolver).diagnostics
    .nested nested ∈ (Expansion.ofModule policy resolver definition).declarations ∧
      reports <:+: (Expansion.ofModule policy resolver definition).diagnostics ∧
      ∃ state action,
        nested.declarations.filterMap Declaration.state? = [state] ∧
        nested.declarations.filterMap Declaration.action? = [action] ∧
        let fields := state.fields.filter fun f => f.name = name
        let cases := action.cases.filter fun a => a.name = name
        let warnings := reports.filter (Diagnostic.tellsUnbound name)
        (∀ type, p.actionType = some type →
          let payload := Embedding.wrapAction type p.presentable
          fields = [⟨name, some (p.stateType type), none, p.presentable⟩] ∧
            cases = [⟨name, if payload = "Void" then none else some payload⟩] ∧ warnings = []) ∧
        (p.actionType = none →
          fields = [] ∧ cases = [] ∧
            warnings =
              match policy.unboundPlaceholders with
              | .warn => [.ofProblem (.unboundPlaceholder kind.text name) e.location]
              | .omit => []) := by
  intro nested reports
  have parent := SymbolTable.parent_of_mem_lists list
  have same : site.parent.policy = policy := by
    rw [parent]
    exact SymbolTable.policy_ofModule policy resolver definition c
  have ofParent : site.parent.placeholders.names.Nodup := by
    rw [parent]
    exact SymbolTable.nodup_names_placeholders_ofModule policy resolver definition c
  have distinct : site.seeds.names.Nodup := PlaceholderRegistry.nodup_names_forList ofParent _
  obtain ⟨handed, belongs⟩ := SymbolTable.handed_of_mem_lists list known
  obtain ⟨q, own, named⟩ := ChildEntry.exists_own?_of_ofChild? (name_of_find? first) declares
  have found := first
  have declared := own
  rw [← same] at found declared
  obtain ⟨made, told⟩ := nested_of_mem_lists single list
  have resolved := site.isResolved_table resolver
  refine ⟨made, told, (site.table resolver).stateDecl, (site.table resolver).actionDecl,
    SymbolTable.states_declare resolver resolved, SymbolTable.actions_declare resolver resolved,
    ?_, ?_⟩
  · intro type bound
    have arrives : (site.placeholders resolver).get? name = some { p with name := name } :=
      ListSite.get?_placeholders resolver ofParent handed belongs
        (Option.isSome_iff_exists.mpr ⟨type, bound⟩)
    exact ListSite.shown_of_bound found declared dotless distinct arrives bound
  · intro unbound
    have seeded := ListSite.get?_seeds ofParent handed belongs
    have unanswered : p.isBound = false := by rw [Placeholder.isBound, unbound]; rfl
    have stands := ListSite.get?_placeholders_of_unbound found declared dotless seeded unanswered
    have untyped : q.actionType = none := by
      rw [← named] at known
      exact SymbolTable.actionType_of_unbound list (List.mem_of_find?_eq_some first) own known
        unbound
    have report := Placeholder.toList_unboundReport? untyped policy
    rw [ChildEntry.kind_of_own? declares own, ChildEntry.location_of_own? declares own,
      named] at report
    rw [← report, ← same]
    exact ListSite.shown_of_unbound found declared dotless distinct stands untyped

def noteQuestions : List ChildEntry := [
  ⟨.alert, false, some (.string "leave"), none, none, {}⟩,
  ⟨.confirmationDialog, true, some (.string "discard"), none, none, ⟨4, 5⟩⟩]

def askingSheet : Composition where
  children := [
    ⟨.destination (some "Sheet") noteQuestions, false, some (.string "sheet"), none, none, {}⟩]

/-- A note with such a sheet, which answers one of the questions only. -/
def note : ModuleDef where
  name := "Note"
  directives := [askingSheet]
  members := [answering "close" "sheet.leave" "Void"]

def noteSheet : ListSite :=
  ⟨SymbolTable.ofModule {} .textual note askingSheet, "sheet", "Sheet",
    .destination "sheet" "Note", noteQuestions⟩

theorem mem_lists_noteSheet :
    noteSheet ∈ (SymbolTable.ofModule {} .textual note askingSheet).lists :=
  List.mem_cons_self

theorem list_placeholder_shown_note :
    (∃ state action,
      (noteSheet.made .textual).declarations.filterMap Declaration.state? = [state] ∧
      (noteSheet.made .textual).declarations.filterMap Declaration.action? = [action] ∧
      state.fields.filter (fun f => f.name = "leave") =
        [⟨"leave", some "AlertState<Void>", none, false⟩] ∧
      action.cases.filter (fun a => a.name = "leave") = [⟨"leave", none⟩]) ∧
    (noteSheet.table .textual).diagnostics.filter (Diagnostic.tellsUnbound "discard") =
      [.ofProblem (.unboundPlaceholder "confirmation dialog" "discard") ⟨4, 5⟩] := by
  have leave : '.' ∉ "leave".toList := by decide
  have discard : '.' ∉ "discard".toList := by decide
  let left : Placeholder := ⟨"sheet.leave", .alert, false, some "Void", {}⟩
  let discarded : Placeholder := ⟨"sheet.discard", .confirmationDialog, true, none, ⟨4, 5⟩⟩
  constructor
  · obtain ⟨_, _, state, action, states, actions, bound, _⟩ :=
      list_placeholder_shown (p := left) rfl mem_lists_noteSheet rfl rfl leave rfl
    obtain ⟨fields, shown, _⟩ := bound "Void" rfl
    exact ⟨state, action, states, actions, fields, shown⟩
  · obtain ⟨_, _, _, _, _, _, _, unbound⟩ :=
      list_placeholder_shown (p := discarded) rfl mem_lists_noteSheet rfl rfl discard rfl
    exact (unbound rfl).2.2

/-- A case for actions of the unit type is bare, whatever the alert is bound to. -/
theorem list_placeholder_case_may_be_bare :
    ¬∀ (policy : Policy) (resolver : Resolver) (definition : ModuleDef) (c : Composition)
      (site : ListSite) (name : String) (e : ChildEntry) (kind : PlaceholderKind)
      (p : Placeholder) (type : String), definition.directives = [c] →
        site ∈ (SymbolTable.ofModule policy resolver definition c).lists →
        site.children.find? (fun e => e.claim? policy resolver = some name) = some e →
        PlaceholderKind.ofChild? e.kind = some kind → '.' ∉ name.toList →
        (SymbolTable.ofModule policy resolver definition c).placeholders.get?
          (Naming.nestedKey site.list name) = some p →
        p.actionType = some type →
        ∃ action, (site.made resolver).declarations.filterMap Declaration.action? = [action] ∧
          ⟨name, some (Embedding.wrapAction type p.presentable)⟩ ∈ action.cases := by
  intro payload
  obtain ⟨action, actions, member⟩ :=
    payload {} .textual note askingSheet noteSheet "leave" _ .alert
      ⟨"sheet.leave", .alert, false, some "Void", {}⟩ "Void" rfl mem_lists_noteSheet rfl rfl
      (by decide) rfl rfl
  have declared := SymbolTable.actions_declare .textual (noteSheet.isResolved_table .textual)
  have same : [(noteSheet.table .textual).actionDecl] = [action] := declared.symm.trans actions
  rw [← (List.cons.inj same).1, SymbolTable.actionDecl, List.mem_map] at member
  obtain ⟨m, among, written⟩ := member
  have only : (noteSheet.table .textual).actionMembers = [⟨"leave", "Void"⟩] := rfl
  rw [(SymbolTable.perm_orderedActions _).mem_iff, only, List.mem_singleton] at among
  subst among
  exact absurd written (by decide)

end Expansion

end StateWeave
