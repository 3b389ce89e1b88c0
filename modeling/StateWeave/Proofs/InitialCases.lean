import StateWeave.Proofs.ChildNames
import StateWeave.Proofs.InitialReports
import StateWeave.Proofs.ModuleTable

/-!
# The initial case of a module

The option that selects an initial case is read before the children are entered, checked once they
are, and looked up by name when the state is declared, after bound placeholders have become members
too. `Expansion.initial_case_selected_or_reported` says what comes of it: the initial case is that
of an entry that was let in under the selected name and has something to start with, and where
nothing is selected, the reason is reported where the selecting option stands.
-/

namespace StateWeave

open Admission

namespace ChildEntry

/-- What the child of an entry starts with as the initial case, if it can be one: nothing without
any state, and else its initial value. A stack has one of its own, and a destination and a tuple
are never given one. -/
def start? (e : ChildEntry) : Option (Option String) :=
  match e.kind, e.type with
  | .stateless, _ => some none
  | .navigationStack _ _, _ => some (some Embedding.emptyStack)
  | .destination _ _, _ => none
  | .state, some (.tuple _) => none
  | _, _ => e.initialValue.map some

/-- Only a child without any state starts with nothing. -/
theorem start?_eq_some_none_iff {e : ChildEntry} : e.start? = some none ↔ e.kind = .stateless := by
  have given (value : Option String) : value.map some ≠ some none := by
    cases value <;> simp
  constructor
  · intro starts
    rw [start?.eq_def] at starts
    split at starts
    · next kind => exact kind
    · cases Option.some.inj starts
    · cases starts
    · cases starts
    · exact absurd starts (given _)
  · intro stateless
    rw [start?, stateless]

end ChildEntry

/-- What a child of an embedding that is planned with an initial value starts with. -/
def Embedding.start? (initialValue : Option String) : Embedding → Option (Option String)
  | stateless => some none
  | tupleState _ _ _ => none
  | navigationStack _ _ => some (some (initialValue.getD emptyStack))
  | _ => initialValue.map some

/-- What a member starts with as the initial case, if it can be one. -/
def StateMember.start? (m : StateMember) : Option (Option String) :=
  if m.isUnit then some none else m.initialValue.map some

theorem StateMember.isSome_start? (m : StateMember) :
    m.start?.isSome = !(m.initialValue.isNone && !m.isUnit) := by
  rw [start?]
  cases m.isUnit <;> cases m.initialValue <;> rfl

/-- A member that can be the initial case is declared with what it starts with. -/
theorem StateMember.start?_of_isSome {m : StateMember} (startable : m.start?.isSome) :
    m.start? = some (SymbolTable.initialCaseOf m).value := by
  rw [isSome_start?] at startable
  rw [start?, SymbolTable.initialCaseOf]
  cases unit : m.isUnit with
  | true => rfl
  | false =>
      cases given : m.initialValue with
      | none => simp [unit, given] at startable
      | some value => rfl

namespace ChildEntry

variable {policy : Policy} {resolver : Resolver}

theorem start?_of_planOf {e : ChildEntry} {name : String} {embedding : Embedding}
    {child : NamedChild} (planned : (e.planOf name embedding).child? = some child) :
    child.member.start? = embedding.start? e.initialValue := by
  cases embedding <;> cases planned <;> cases e.initialValue <;> rfl

theorem moduleEmbedding_cases (e : ChildEntry) (type : TypeRef) (module : String) :
    e.moduleEmbedding type module = .keyedCollection module ∨
      e.moduleEmbedding type module = .optionalModule module e.presents ∨
      e.moduleEmbedding type module = .singletonModule module := by
  rw [moduleEmbedding.eq_def]
  split
  · exact Or.inl rfl
  · split
    · exact Or.inr (Or.inl rfl)
    · exact Or.inr (Or.inr rfl)

/-- Tuples aside, a child that has to have a type starts with what its entry gives it. -/
theorem start?_of_typedPlan {e : ChildEntry} {name : String} {child : NamedChild}
    (typed : e.kind = .reducer ∨ e.kind = .identifiedArray ∨ e.kind = .state)
    (brings : (e.typedPlan resolver name).child? = some child) :
    child.member.start? = e.start? := by
  rw [typedPlan] at brings
  repeat' split at brings
  · cases brings
  · next type given _ embedding fits =>
      rw [start?_of_planOf brings, start?, given]
      by_cases state : e.kind = .state
      · rw [typedEmbedding, state] at fits
        cases fits
        rw [state]
        cases type <;> rfl
      · obtain ⟨module, rfl⟩ := (typedEmbedding_cases fits).resolve_left fun plain => state plain.1
        have ofModule : e.kind = .reducer ∨ e.kind = .identifiedArray := by
          rcases typed with kind | kind | kind
          · exact Or.inl kind
          · exact Or.inr kind
          · exact absurd kind state
        rcases e.moduleEmbedding_cases type module with made | made | made <;> rw [made] <;>
          rcases ofModule with kind | kind <;> rw [kind] <;> rfl
  · cases brings

/-- A child starts with what its entry says. -/
theorem start?_of_child? {e : ChildEntry} {child : NamedChild}
    (brings : e.child? policy resolver = some child) : child.member.start? = e.start? := by
  rw [child?, plan] at brings
  repeat' split at brings
  · next kind =>
      cases brings
      rw [start?, kind]
      rfl
  · next kind =>
      cases brings
      rw [start?, kind]
      rfl
  · cases brings
  · cases brings
  · next kind =>
      rw [start?_of_planOf brings, start?, kind]
      rfl
  · apply start?_of_typedPlan _ brings
    -- a placeholder would have been refused, and all other kinds have had their turn
    cases kind : e.kind <;> simp_all [PlaceholderKind.ofChild?]

/-- An entry brings a child under the name that it asks for, unless it is an alert or a dialog. -/
theorem exists_child?_iff {e : ChildEntry} {name : String} :
    (∃ child, e.child? policy resolver = some child ∧ child.name = name) ↔
      e.kind.isPlaceholder = false ∧ e.claim? policy resolver = some name := by
  constructor
  · rintro ⟨child, brings, rfl⟩
    have asked := claim?_of_child? brings
    rcases claim?_cases policy resolver asked with ⟨plain, _⟩ | ⟨_, _, own, _⟩
    · exact ⟨plain, asked⟩
    · rw [own?_of_child? (by rw [brings]; rfl)] at own
      cases own
  · rintro ⟨plain, asked⟩
    rcases claim?_cases policy resolver asked with ⟨_, brings⟩ | ⟨placeholder, _⟩
    · exact brings
    · rw [plain] at placeholder
      cases placeholder

end ChildEntry

namespace SymbolTable

/-- Under the name of a child that has been entered its member is found. -/
theorem find?_member {children : List NamedChild} (distinct : (children.map NamedChild.name).Nodup)
    {child : NamedChild} (member : child ∈ children) :
    (children.map NamedChild.member).find? (fun m => m.name = child.name) = some child.member := by
  have names : ((children.map NamedChild.member).map StateMember.name).Nodup := by
    rwa [List.map_map]
  have only := filter_label_of_mem names (List.mem_map_of_mem member)
  rw [← List.head?_filter]
  exact congrArg List.head? only

/-- What it takes for the initial case to be selected under a name. -/
theorem checkInitialCase_eq_ok_iff {t : SymbolTable} {e : Expr} {name : String} :
    t.checkInitialCase e = .ok name ↔
      e = .string name ∧ t.shape = .variant ∧
        ∃ m, t.stateMembers.find? (fun m => m.name = name) = some m ∧ m.start?.isSome := by
  constructor
  · intro selected
    rw [checkInitialCase] at selected
    repeat' split at selected
    · cases selected
    · cases selected
    · cases selected
    · next literal variant _ m found startable =>
        cases selected
        refine ⟨?_, of_decide_eq_true variant, m, found, ?_⟩
        · cases e <;> cases literal
          rfl
        · rw [StateMember.isSome_start?, Bool.eq_false_iff.mpr startable]
          rfl
    · cases selected
  · rintro ⟨rfl, variant, m, found, startable⟩
    have shaped : t.isVariant = true := decide_eq_true variant
    have begins : (m.initialValue.isNone && !m.isUnit) = false := by
      rwa [StateMember.isSome_start?, Bool.not_eq_true'] at startable
    rw [checkInitialCase]
    simp only [Expr.literal?, shaped, if_true, found, begins, Bool.false_eq_true, if_false]

theorem initialName?_eq_some_iff {t : SymbolTable} {c : Composition} {name : String} :
    t.initialName? c = some name ↔
      (∃ location, c.initialCases.getLast? = some (.string name, location)) ∧
        t.shape = .variant ∧
        ∃ m, t.stateMembers.find? (fun m => m.name = name) = some m ∧ m.start?.isSome := by
  rw [initialName?, Option.bind_eq_some_iff]
  constructor
  · rintro ⟨⟨e, location⟩, last, selected⟩
    cases check : t.checkInitialCase e with
    | error problem =>
        rw [check] at selected
        cases selected
    | ok other =>
        rw [check] at selected
        obtain rfl : other = name := Option.some.inj selected
        obtain ⟨rfl, startable⟩ := checkInitialCase_eq_ok_iff.mp check
        exact ⟨⟨location, last⟩, startable⟩
  · rintro ⟨⟨location, last⟩, startable⟩
    refine ⟨_, last, ?_⟩
    rw [checkInitialCase_eq_ok_iff.mpr ⟨rfl, startable⟩]
    rfl

/-- What is asked for last is selected or reported. -/
theorem initialReport?_cases (t : SymbolTable) (c : Composition) :
    (c.initialCases = [] ∧ t.initialName? c = none ∧ t.initialReport? c = none) ∨
      ((t.initialName? c).isSome ∧ t.initialReport? c = none) ∨
      ∃ name location problem, c.initialCases.getLast? = some (name, location) ∧
        problem.IsOfInitialCase ∧ t.initialName? c = none ∧
        t.initialReport? c = some (.ofProblem problem location) := by
  rw [initialName?, initialReport?]
  cases last : c.initialCases.getLast? with
  | none => exact Or.inl ⟨List.getLast?_eq_none_iff.mp last, rfl, rfl⟩
  | some asked =>
      rw [Option.bind_some, Option.bind_some]
      cases check : t.checkInitialCase asked.1 with
      | ok name => exact Or.inr (Or.inl ⟨rfl, rfl⟩)
      | error problem =>
          exact Or.inr (Or.inr ⟨asked.1, asked.2, problem, rfl,
            isOfInitialCase_of_checkInitialCase check, rfl, rfl⟩)

variable (policy : Policy) (resolver : Resolver) (definition : ModuleDef) (c : Composition)

/-- The entries of a module are entered into a table that knows its options already. -/
theorem addEntries_blank :
    ∃ state action diagnostics,
      addEntries resolver ((blank policy definition c).withOptions c.options) c.children =
        ((composed policy resolver definition c).withChoices state action none).withDiagnostics
          diagnostics := by
  obtain ⟨state, action, options⟩ := withOptions_eq (blank policy definition c) c.options
  obtain ⟨diagnostics, entries⟩ := addEntries_eq ((blank policy definition c).withOptions c.options)
    resolver c.children
  refine ⟨state, action, diagnostics, entries.trans ?_⟩
  rw [options]
  rfl

/-- The name that a composition selects. -/
theorem initialName_compose :
    ((blank policy definition c).compose c resolver).initialName =
      (composed policy resolver definition c).initialName? c := by
  obtain ⟨state, action, diagnostics, entered⟩ := addEntries_blank policy resolver definition c
  rw [compose_eq_selected, entered]
  exact Option.or_none

theorem stateMembers_composed :
    (composed policy resolver definition c).stateMembers =
      ((c.entries policy resolver).filterMap (ChildEntry.child? policy resolver)).map
        NamedChild.member := rfl

/-- What is found among the members of the entries is still found when bound placeholders have
become members, too. -/
theorem find?_stateMembers_ofModule {name : String} {m : StateMember}
    (found : (composed policy resolver definition c).stateMembers.find? (fun m => m.name = name) =
      some m) :
    (ofModule policy resolver definition c).stateMembers.find? (fun m => m.name = name) =
      some m := by
  rw [stateMembers_composed] at found
  rw [stateMembers_ofModule, Composition.embedded, List.map_append, List.find?_append, found]
  rfl

/-- What is selected is found again when the state is declared. -/
theorem isSome_initialCase_ofModule :
    (ofModule policy resolver definition c).stateDecl.initialCase.isSome =
      ((composed policy resolver definition c).initialName? c).isSome := by
  have selected := (initialName_ofModule policy resolver definition c).trans
    (initialName_compose policy resolver definition c)
  rw [stateDecl, Option.isSome_map, initialCase?, selected]
  cases chosen : (composed policy resolver definition c).initialName? c with
  | none => rfl
  | some name =>
      obtain ⟨_, _, m, found, _⟩ := initialName?_eq_some_iff.mp chosen
      rw [Option.bind_some, find?_stateMembers_ofModule policy resolver definition c found]
      rfl

/-- The initial case of a module is that of an entry which was let in under the selected name, and
it has what the entry starts with. -/
theorem initialCase_ofModule_iff (initial : InitialCase) :
    (ofModule policy resolver definition c).stateDecl.initialCase = some initial ↔
      c.shape = .variant ∧
        (∃ location, c.initialCases.getLast? = some (.string initial.name, location)) ∧
        ∃ entry ∈ c.entries policy resolver, entry.kind.isPlaceholder = false ∧
          entry.claim? policy resolver = some initial.name ∧
          entry.start? = some initial.value := by
  let t := ofModule policy resolver definition c
  let u := composed policy resolver definition c
  have selected : t.initialName = u.initialName? c :=
    (initialName_ofModule policy resolver definition c).trans
      (initialName_compose policy resolver definition c)
  have distinct : (((c.entries policy resolver).filterMap
      (ChildEntry.child? policy resolver)).map NamedChild.name).Nodup :=
    (sublist_names (fun _ _ => ChildEntry.claim?_of_child?) _).nodup
      (c.nodup_claims_entries policy resolver)
  constructor
  · intro declared
    obtain ⟨m, found, rfl⟩ := Option.map_eq_some_iff.mp declared
    obtain ⟨name, chosen, found⟩ := Option.bind_eq_some_iff.mp found
    obtain ⟨last, variant, first, early, startable⟩ :=
      initialName?_eq_some_iff.mp (selected.symm.trans chosen)
    obtain rfl : first = m := Option.some.inj
      ((find?_stateMembers_ofModule policy resolver definition c early).symm.trans found)
    have named := List.find?_some early
    obtain rfl : first.name = name := of_decide_eq_true named
    obtain ⟨child, among, rfl⟩ := List.mem_map.mp (List.mem_of_find?_eq_some early)
    obtain ⟨entry, letIn, brings⟩ := List.mem_filterMap.mp among
    obtain ⟨plain, asked⟩ := ChildEntry.exists_child?_iff.mp ⟨child, brings, rfl⟩
    refine ⟨variant, last, entry, letIn, plain, asked, ?_⟩
    rw [← ChildEntry.start?_of_child? brings]
    exact StateMember.start?_of_isSome startable
  · rintro ⟨variant, last, entry, letIn, plain, asked, starts⟩
    obtain ⟨child, brings, named⟩ := ChildEntry.exists_child?_iff.mpr ⟨plain, asked⟩
    have begins : child.member.start? = some initial.value :=
      (ChildEntry.start?_of_child? brings).trans starts
    have startable : child.member.start?.isSome := by
      rw [begins]
      rfl
    have early : u.stateMembers.find? (fun m => m.name = initial.name) = some child.member := by
      rw [← named]
      exact find?_member distinct (List.mem_filterMap.mpr ⟨entry, letIn, brings⟩)
    have chosen : t.initialName = some initial.name :=
      selected.trans (initialName?_eq_some_iff.mpr ⟨last, variant, child.member, early, startable⟩)
    have found : t.initialCase? = some child.member := by
      rw [initialCase?, chosen]
      exact find?_stateMembers_ofModule policy resolver definition c early
    have value : (initialCaseOf child.member).value = initial.value :=
      Option.some.inj ((StateMember.start?_of_isSome startable).symm.trans begins)
    refine Option.map_eq_some_iff.mpr ⟨child.member, found, ?_⟩
    calc initialCaseOf child.member
        = ⟨child.name, (initialCaseOf child.member).value⟩ := rfl
      _ = initial := by rw [named, value]

/-- The initial case of a module has no value just if it is that of an entry without any state. -/
theorem initialCase_bare_iff {initial : InitialCase}
    (chosen : (ofModule policy resolver definition c).stateDecl.initialCase = some initial) :
    initial.value = none ↔
      ∃ entry ∈ c.entries policy resolver, entry.kind = .stateless ∧
        entry.claim? policy resolver = some initial.name := by
  have selects := initialCase_ofModule_iff policy resolver definition c
  obtain ⟨variant, last, entry, letIn, _, asked, starts⟩ := (selects initial).mp chosen
  constructor
  · intro nothing
    rw [nothing] at starts
    exact ⟨entry, letIn, ChildEntry.start?_eq_some_none_iff.mp starts, asked⟩
  · rintro ⟨other, also, stateless, same⟩
    have plain : other.kind.isPlaceholder = false := by
      rw [stateless]
      rfl
    have bare := (selects ⟨initial.name, none⟩).mpr
      ⟨variant, last, other, also, plain, same, ChildEntry.start?_eq_some_none_iff.mpr stateless⟩
    exact congrArg InitialCase.value (Option.some.inj (chosen.symm.trans bare))

/-- What a table reports on its initial case, among everything that is reported of it. -/
theorem exists_reports :
    ∃ before behind : Diagnostics,
      (ofModule policy resolver definition c).diagnostics =
        before ++ ((composed policy resolver definition c).initialReport? c).toList ++ behind ∧
      ∀ d ∈ before ++ behind, ¬d.IsOfInitialCase := by
  let opened := (blank policy definition c).withOptions c.options
  let selected := (blank policy definition c).compose c resolver
  have items (d : Diagnostic) (ofMember : d.IsOfMember) : ¬d.IsOfInitialCase :=
    ofMember.isOfItem.not_isOfInitialCase
  obtain ⟨state, action, options⟩ := withOptions_eq (blank policy definition c) c.options
  have unreported : opened.diagnostics = [] := by
    rw [show opened = _ from options]
    rfl
  obtain ⟨before, early, silent⟩ := reportsOnly_addEntries resolver opened c.children
  obtain ⟨behind, late, quiet⟩ := (reportsOnly_collect items selected definition.members).trans
    (reportsOnly_resolve (isResolved_read policy resolver definition c))
  obtain ⟨_, _, _, entered⟩ := addEntries_blank policy resolver definition c
  have report : (addEntries resolver opened c.children).initialReport? c =
      (composed policy resolver definition c).initialReport? c := by
    rw [show addEntries resolver opened c.children = _ from entered]
    rfl
  have composed : selected.diagnostics = (addEntries resolver opened c.children).diagnostics ++
      ((addEntries resolver opened c.children).initialReport? c).toList :=
    congrArg diagnostics (compose_eq_selected (blank policy definition c) c resolver)
  refine ⟨before, behind, ?_, ?_⟩
  · rw [← report]
    refine late.trans ?_
    rw [composed, early, unreported, List.nil_append]
  · intro d member
    exact (List.mem_append.mp member).elim (silent d) (quiet d)

end SymbolTable

namespace Expansion

/-- The lists of a module add nothing to what its table reports on the initial case. -/
theorem exists_initialReport? (policy : Policy) (resolver : Resolver) {definition : ModuleDef}
    {c : Composition} (single : definition.directives = [c]) :
    ∃ before behind : Diagnostics,
      (ofModule policy resolver definition).diagnostics =
        before ++ ((SymbolTable.composed policy resolver definition c).initialReport? c).toList ++
          behind ∧
      ∀ d ∈ before ++ behind, ¬d.IsOfInitialCase := by
  let t := SymbolTable.ofModule policy resolver definition c
  have complete : t.IsComplete := SymbolTable.isComplete_ofModule policy resolver definition c
  have lists : ∀ d ∈ (t.declare resolver).diagnostics, ¬d.IsOfInitialCase :=
    complete.not_isOfInitialCase_declareWithin (t.nesting + 1)
  obtain ⟨before, behind, table, others⟩ :=
    SymbolTable.exists_reports policy resolver definition c
  refine ⟨before, behind ++ (t.declare resolver).diagnostics, ?_, ?_⟩
  · rw [diagnostics_ofModule single, table, List.append_assoc]
  · intro d member
    rw [← List.append_assoc] at member
    exact (List.mem_append.mp member).elim (others d) (lists d)

section

variable {policy : Policy} {resolver : Resolver} {definition : ModuleDef} {c : Composition}
  (single : definition.directives = [c])

include single

/-- An initial case that is asked for and not there has one report, at the place of the option that
counts. -/
theorem exists_report_of_absent {name : Expr} {location : Location}
    (last : c.initialCases.getLast? = some (name, location))
    (absent :
      (SymbolTable.ofModule policy resolver definition c).stateDecl.initialCase = none) :
    ∃ problem before behind, problem.IsOfInitialCase ∧
      (ofModule policy resolver definition).diagnostics =
        before ++ .ofProblem problem location :: behind ∧
      ∀ d ∈ before ++ behind, ¬d.IsOfInitialCase := by
  let u := SymbolTable.composed policy resolver definition c
  have selected := SymbolTable.isSome_initialCase_ofModule policy resolver definition c
  obtain ⟨before, behind, whole, others⟩ := exists_initialReport? policy resolver single
  rcases u.initialReport?_cases c with ⟨unasked, _⟩ | ⟨chosen, _⟩ |
    ⟨_, place, problem, asked, ofInitial, _, report⟩
  · rw [unasked] at last
    cases last
  · rw [absent, chosen] at selected
    cases selected
  · obtain ⟨_, rfl⟩ := Prod.mk.inj (Option.some.inj (asked.symm.trans last))
    refine ⟨problem, before, behind, ofInitial, ?_, others⟩
    rw [whole, report, Option.toList_some, List.append_assoc, List.singleton_append]

/-- With no option, or with an initial case, there is nothing to report. -/
theorem not_isOfInitialCase_of_settled
    (settled : c.initialCases = [] ∨
      (SymbolTable.ofModule policy resolver definition c).stateDecl.initialCase.isSome) :
    ∀ d ∈ (ofModule policy resolver definition).diagnostics, ¬d.IsOfInitialCase := by
  let u := SymbolTable.composed policy resolver definition c
  have selected := SymbolTable.isSome_initialCase_ofModule policy resolver definition c
  obtain ⟨before, behind, whole, others⟩ := exists_initialReport? policy resolver single
  have silent : u.initialReport? c = none := by
    rcases u.initialReport?_cases c with ⟨_, _, silent⟩ | ⟨_, silent⟩ |
      ⟨_, _, _, asked, _, unchosen, _⟩
    · exact silent
    · exact silent
    · rcases settled with unasked | present
      · rw [unasked] at asked
        cases asked
      · rw [selected, unchosen] at present
        cases present
  rwa [whole, silent, Option.toList_none, List.append_nil]

end

/-- What comes of the initial case of a module with one composition. The state has an initial case
just if it is a variant, and the last option that asks for one names, by a literal, an entry that
was let in, is no alert or dialog, and has something to start with; the initial case has its name
and what it starts with, which is nothing just if the entry is one without any state. Where an
initial case is asked for and there is none, one report says what is wrong, at the place of the
last option, and no other report is about the initial case; where none is asked for, or there is
one, no report is. -/
theorem initial_case_selected_or_reported {policy : Policy} {resolver : Resolver}
    {definition : ModuleDef} {c : Composition} (single : definition.directives = [c]) :
    let e := ofModule policy resolver definition
    ∃ state, e.declarations.filterMap Declaration.state? = [state] ∧
      (∀ initial, state.initialCase = some initial ↔
        c.shape = .variant ∧
          (∃ location, c.initialCases.getLast? = some (.string initial.name, location)) ∧
          ∃ entry ∈ c.entries policy resolver, entry.kind.isPlaceholder = false ∧
            entry.claim? policy resolver = some initial.name ∧
            entry.start? = some initial.value) ∧
      (∀ initial, state.initialCase = some initial →
        (initial.value = none ↔
          ∃ entry ∈ c.entries policy resolver, entry.kind = .stateless ∧
            entry.claim? policy resolver = some initial.name)) ∧
      (∀ name location, c.initialCases.getLast? = some (name, location) →
        state.initialCase = none →
        ∃ problem before behind, problem.IsOfInitialCase ∧
          e.diagnostics = before ++ .ofProblem problem location :: behind ∧
          ∀ d ∈ before ++ behind, ¬d.IsOfInitialCase) ∧
      (c.initialCases = [] ∨ state.initialCase.isSome →
        ∀ d ∈ e.diagnostics, ¬d.IsOfInitialCase) := by
  intro e
  let t := SymbolTable.ofModule policy resolver definition c
  have resolved : t.isResolved = true :=
    SymbolTable.isResolved_ofModule policy resolver definition c
  refine ⟨t.stateDecl, ?_, SymbolTable.initialCase_ofModule_iff policy resolver definition c,
    fun initial => SymbolTable.initialCase_bare_iff policy resolver definition c,
    fun name location => exists_report_of_absent single, not_isOfInitialCase_of_settled single⟩
  rw [show e.declarations = _ from declarations_ofModule single]
  exact SymbolTable.states_declare resolver resolved

/-- A child without a state, and a number that is given nothing to start with. -/
def picks (options : List CompositionOption) : Composition where
  shape := .variant
  options := options
  children := [
    ⟨.stateless, false, some (.string "idle"), none, none, ⟨4, 5⟩⟩,
    ⟨.state, false, some (.string "count"), some (.named "Int"), none, ⟨5, 5⟩⟩]

def picker (options : List CompositionOption) : ModuleDef where
  name := "Picker"
  directives := [picks options]

/-- The last option counts: `idle` is the initial case, and `count` is reported where the option
stands. -/
theorem initial_case_selected_or_reported_picker :
    let idle := CompositionOption.initialCase (.string "idle") ⟨2, 5⟩
    let count := CompositionOption.initialCase (.string "count") ⟨3, 5⟩
    (∃ state,
      (ofModule {} .textual (picker [count, idle])).declarations.filterMap Declaration.state? =
          [state] ∧
        state.initialCase = some ⟨"idle", none⟩) ∧
      ∃ problem before behind, problem.IsOfInitialCase ∧
        (ofModule {} .textual (picker [idle, count])).diagnostics =
          before ++ .ofProblem problem ⟨3, 5⟩ :: behind := by
  intro idle count
  have single (options : List CompositionOption) :
      (picker options).directives = [picks options] := rfl
  constructor
  · obtain ⟨state, declared, selects, _⟩ :=
      @initial_case_selected_or_reported {} .textual _ _ (single [count, idle])
    refine ⟨state, declared, (selects ⟨"idle", none⟩).mpr ⟨rfl, ⟨⟨2, 5⟩, rfl⟩, ?_⟩⟩
    exact ⟨⟨.stateless, false, some (.string "idle"), none, none, ⟨4, 5⟩⟩, List.mem_cons_self,
      rfl, rfl, rfl⟩
  · obtain ⟨state, declared, _, _, reports, _⟩ :=
      @initial_case_selected_or_reported {} .textual _ _ (single [idle, count])
    have absent : state.initialCase = none := by
      have states : ((ofModule {} .textual (picker [idle, count])).declarations.filterMap
          Declaration.state?).map StateDecl.initialCase = [none] := by
        decide +kernel
      rw [declared] at states
      exact (List.cons.inj states).1
    obtain ⟨problem, before, behind, ofInitial, reported, _⟩ := reports _ _ rfl absent
    exact ⟨problem, before, behind, ofInitial, reported⟩

end Expansion

end StateWeave
