import StateWeave.Proofs.DeclarationLayout

/-!
# Where scopes are asked for

A scope of the author's own waits in a queue until all actions of a module are known. Whatever it
refers to may therefore stand before or behind the variable that asks for it. A variable under
a name that nobody else asks for can be put anywhere among the members: it takes the name, it adds
itself to the queue, and all that comes of it is one entry in the table of scopes, or none.
-/

namespace StateWeave

open Admission

theorem Directive.exists_find?_of_mem {attributes : List Attribute} {a : Attribute}
    {d : Directive} (member : a ∈ attributes) (named : ofName? a.name = some d) :
    ∃ found, find? attributes = some found := by
  induction attributes with
  | nil => cases member
  | cons b attributes ih =>
      rw [find?]
      cases first : ofName? b.name with
      | some e => exact ⟨(e, b), rfl⟩
      | none =>
          rcases List.mem_cons.mp member with rfl | later
          · rw [named] at first
            cases first
          · exact ih later

namespace Contribution

/-- Contributions that ask for a scope under a name, or for nothing. -/
inductive OfScope (name : String) : Contribution → Prop
  | refused (reports : Diagnostics) : OfScope name (.refused reports)
  | scope (type : String) (action : Path) (location : Location) :
      OfScope name (.scope ⟨name, type, action, location⟩)

/-- A variable that is marked as a scope asks for one under its own name, or is refused. -/
theorem ofScope_ofVisit {decl : VariableDecl}
    (marked : ∃ a ∈ decl.attributes, a.name = Directive.scopePath.name) :
    (ofVisit ⟨[], .variable decl⟩).OfScope decl.name := by
  obtain ⟨a, member, named⟩ := marked
  have known : Directive.ofName? a.name = some .scopePath := by
    rw [named]
    decide
  obtain ⟨⟨d, b⟩, found⟩ := Directive.exists_find?_of_mem member known
  have directive : Directive.find? (Member.variable decl).attributes = some (d, b) := found
  simp only [ofVisit, Role.ofMember, directive]
  cases d with
  | scopePath =>
      change (ofScopePath decl b).OfScope decl.name
      rw [ofScopePath]
      split
      · exact .scope _ _ _
      · exact .refused _
  | _ => exact .refused _

variable {name : String} {x : Contribution}

theorem OfScope.eq_of_name? (asks : x.OfScope name) {other : String}
    (asked : x.name? = some other) : other = name := by
  cases asks with
  | refused => cases asked
  | scope => exact (Option.some.inj asked).symm

theorem OfScope.name_of_scope? (asks : x.OfScope name) {pending : PendingScope}
    (queued : x.scope? = some pending) : pending.name = name := by
  cases asks with
  | refused => cases queued
  | scope => exact congrArg PendingScope.name (Option.some.inj queued).symm

end Contribution

namespace SymbolTable

/-- A table with other scopes in its queue, and the names that are taken for them. -/
def withQueue (t : SymbolTable) (places : List (String × Location)) (queue : List PendingScope) :
    SymbolTable :=
  { t with places := places, pendingScopes := queue }

/-- A table with other scopes, and whatever was reported of them. -/
def rescoped (t : SymbolTable) (places : List (String × Location)) (scopes : List Scope)
    (diagnostics : Diagnostics) : SymbolTable :=
  { t with places := places, scopes := scopes, diagnostics := diagnostics }

theorem withContributions_ofScope {name : String} {x : Contribution} (asks : x.OfScope name)
    (t : SymbolTable) :
    t.withContributions [x] =
      t.withQueue (t.places ++ x.place?.toList) (t.pendingScopes ++ x.scope?.toList) := by
  cases asks with
  | refused =>
      rw [withContributions_of_silent t fun _ => rfl]
      simp [withQueue]
  | scope =>
      rw [withContributions_of_silent t fun _ => rfl]
      simp [withQueue]

/-- Among contributions that are let in, one that asks for a scope stands in the queue of scopes
and nowhere else. -/
theorem withContributions_insert {name : String} {x : Contribution} (asks : x.OfScope name)
    (t : SymbolTable) (cs ds : List Contribution) :
    ∃ places,
      t.withContributions (cs ++ x :: ds) =
        (t.withContributions (cs ++ ds)).withQueue places
          (t.pendingScopes ++ (cs.filterMap Contribution.scope? ++ x.scope?.toList ++
            ds.filterMap Contribution.scope?)) := by
  let u := t.withContributions cs
  have steps : t.withContributions (cs ++ x :: ds) =
      (u.withQueue (u.places ++ x.place?.toList) (u.pendingScopes ++ x.scope?.toList)
        ).withContributions ds := by
    rw [← withContributions_ofScope asks, ← withContributions_append, ← withContributions_append,
      List.singleton_append]
  refine ⟨(t.withContributions (cs ++ x :: ds)).places, ?_⟩
  have queue : (t.withContributions (cs ++ x :: ds)).pendingScopes =
      t.pendingScopes ++ (cs.filterMap Contribution.scope? ++ x.scope?.toList ++
        ds.filterMap Contribution.scope?) := by
    rw [steps]
    simp only [u, withContributions, withQueue, List.append_assoc]
  rw [← queue, steps, withContributions_append]
  rfl

theorem bound_withQueue (t : SymbolTable) (places : List (String × Location))
    (queue : List PendingScope) :
    (t.withQueue places queue).bound = t.bound.withQueue places queue := rfl

/-- Resolving looks at the queue of scopes last: it looks them up among the actions and puts those
that it finds behind the scopes of the children. -/
theorem resolved_withQueue (t : SymbolTable) (places : List (String × Location))
    (queue : List PendingScope) :
    ∃ children,
      t.resolved.scopes =
        children ++ t.pendingScopes.filterMap (PendingScope.scope? t.resolved.actionMembers) ∧
      (t.withQueue places queue).resolved =
        t.resolved.rescoped places
          (children ++ queue.filterMap (PendingScope.scope? t.resolved.actionMembers))
          t.diagnostics := by
  refine ⟨(t.bound.withChildren t.bound.placeholders.children).scopes, rfl, ?_⟩
  rw [resolved, bound_withQueue, resolved]
  rfl

/-- A scope that is asked for among contributions that are let in is looked up with the others, at
its place in the queue. -/
theorem resolved_insert {name : String} {x : Contribution} (asks : x.OfScope name)
    (t : SymbolTable) (cs ds : List Contribution) :
    let u := (t.withContributions (cs ++ ds)).resolved
    ∃ before behind places diagnostics,
      u.scopes = before ++ behind ∧
      (t.withContributions (cs ++ x :: ds)).resolved =
        u.rescoped places
          (before ++ (x.scope?.bind (PendingScope.scope? u.actionMembers)).toList ++ behind)
          diagnostics := by
  intro u
  let look := PendingScope.scope? u.actionMembers
  obtain ⟨places, inserted⟩ := withContributions_insert asks t cs ds
  obtain ⟨children, scopes, resolved⟩ := resolved_withQueue (t.withContributions (cs ++ ds)) places
    (t.pendingScopes ++ (cs.filterMap Contribution.scope? ++ x.scope?.toList ++
      ds.filterMap Contribution.scope?))
  refine ⟨children ++ (t.pendingScopes ++ cs.filterMap Contribution.scope?).filterMap look,
    (ds.filterMap Contribution.scope?).filterMap look, places, t.diagnostics, ?_, ?_⟩
  · have queue : (t.withContributions (cs ++ ds)).pendingScopes =
        t.pendingScopes ++ cs.filterMap Contribution.scope? ++
          ds.filterMap Contribution.scope? := by
      simp only [withContributions, List.filterMap_append, List.append_assoc]
    rw [scopes, queue, List.filterMap_append, List.append_assoc]
  · rw [inserted, resolved, ← filterMap_toList look]
    simp only [List.filterMap_append, List.append_assoc]
    rfl

section

variable (policy : Policy) (resolver : Resolver) (definition : ModuleDef) (c : Composition)

/-- The name of a scope is taken for it. -/
theorem name_mem_names_of_mem_scopes {s : Scope}
    (member : s ∈ (ofModule policy resolver definition c).scopes) :
    s.name ∈ (ofModule policy resolver definition c).names := by
  rw [names_ofModule, List.mem_append]
  rcases (mem_scopes_ofModule_iff policy resolver definition c s).mp member with
    ⟨child, embedded, own⟩ | ⟨pending, queued, found⟩
  · left
    rw [name_of_scopeOf? own]
    exact (c.subperm_names_embedded policy resolver definition.members).subset
      (List.mem_map_of_mem embedded)
  · right
    obtain ⟨contribution, letIn, asks⟩ := List.mem_filterMap.mp queued
    obtain ⟨m, _, rfl⟩ := PendingScope.eq_of_scope? found
    exact List.mem_filterMap.mpr ⟨contribution, letIn, Contribution.name_of_scope? asks⟩

variable {decl : VariableDecl} (marked : ∃ a ∈ decl.attributes, a.name = Directive.scopePath.name)

/-- The scope that a variable asks for, looked up among the actions of the other members. -/
def ownScope? (members : List Member) (decl : VariableDecl) : Option Scope :=
  (Contribution.ofVisit ⟨[], .variable decl⟩).scope?.bind
    (PendingScope.scope?
      (ofModule policy resolver { definition with members := members } c).actionMembers)

variable {policy resolver definition c}

include marked

theorem name_of_ownScope? {members : List Member} {s : Scope}
    (found : ownScope? policy resolver definition c members decl = some s) :
    s.name = decl.name := by
  obtain ⟨pending, queued, found⟩ := Option.bind_eq_some_iff.mp found
  obtain ⟨m, _, rfl⟩ := PendingScope.eq_of_scope? found
  exact (Contribution.ofScope_ofVisit marked).name_of_scope? queued

/-- A variable for a scope whose name is free is let in where it stands, and all others are let in
as without it. -/
theorem contributions_insert (front back : List Member)
    (alone : decl.name ∉
      (ofModule policy resolver { definition with members := front ++ back } c).names) :
    ∃ cs ds,
      c.contributions policy resolver (front ++ .variable decl :: back) =
        cs ++ Contribution.ofVisit ⟨[], .variable decl⟩ :: ds ∧
      c.contributions policy resolver (front ++ back) = cs ++ ds := by
  rw [Composition.contributions, Composition.contributions, Contribution.ofMembers_insert,
    Contribution.ofMembers_append]
  refine admitted_insert fun name asked => ?_
  rw [(Contribution.ofScope_ofVisit marked).eq_of_name? asked, ← Contribution.ofMembers_append]
  exact fun taken => alone ((mem_names_ofModule_iff policy resolver _ c decl.name).mpr taken)

/-- A variable for a scope whose name is free adds its scope to those of the module without it,
if it finds one. Only where among them depends on where it stands. -/
theorem ofModule_insert (front back : List Member)
    (alone : decl.name ∉
      (ofModule policy resolver { definition with members := front ++ back } c).names) :
    ∃ before behind places diagnostics,
      (ofModule policy resolver { definition with members := front ++ back } c).scopes =
        before ++ behind ∧
      ofModule policy resolver { definition with members := front ++ .variable decl :: back } c =
        (ofModule policy resolver { definition with members := front ++ back } c).rescoped places
          (before ++ (ownScope? policy resolver definition c (front ++ back) decl).toList ++ behind)
          diagnostics := by
  -- Both tables are made under the same choices, since these do not look at members.
  obtain ⟨state, action, initial, made⟩ := exists_ofModule_choices policy resolver definition c
  obtain ⟨noted, bare⟩ := made (front ++ back)
  obtain ⟨diagnostics, extended⟩ := made (front ++ .variable decl :: back)
  obtain ⟨cs, ds, whole, part⟩ := contributions_insert marked front back alone
  let t := composed policy resolver definition c
  have others : entered policy resolver { definition with members := front ++ back } c =
      t.withContributions (cs ++ ds) := congrArg t.withContributions part
  have all : entered policy resolver { definition with members := front ++ .variable decl :: back }
      c = t.withContributions (cs ++ Contribution.ofVisit ⟨[], .variable decl⟩ :: ds) :=
    congrArg t.withContributions whole
  obtain ⟨before, behind, places, _, scopes, resolved⟩ :=
    resolved_insert (Contribution.ofScope_ofVisit marked) t cs ds
  rw [others] at bare
  rw [all, resolved] at extended
  refine ⟨before, behind, places, diagnostics, ?_, ?_⟩
  · rw [bare]
    exact scopes
  · rw [extended, ownScope?, bare]
    rfl

end

end SymbolTable

/-- Two declarations that are the same but for where, in a table of scopes, the entry under one
name stands. If there is such an entry, it is the same in both tables, and so are the others, in
their order. -/
inductive Declaration.SameButPlace (name : String) : Declaration → Declaration → Prop
  | refl (d : Declaration) : SameButPlace name d d
  | scopePaths (access : Access) {own : Option Accessor}
      {before behind before' behind' : List Accessor} :
      (∀ a ∈ own, a.name = name) → (∀ a ∈ before ++ behind, a.name ≠ name) →
      before' ++ behind' = before ++ behind →
        SameButPlace name (.scopePaths ⟨access, before ++ own.toList ++ behind⟩)
          (.scopePaths ⟨access, before' ++ own.toList ++ behind'⟩)

namespace SymbolTable

section

variable {t : SymbolTable} {name : String} {own : Option Scope}
  {before behind before' behind' : List Scope} (named : ∀ s ∈ own, s.name = name)
  (foreign : ∀ s ∈ before ++ behind, s.name ≠ name) (same : before' ++ behind' = before ++ behind)
  (places places' : List (String × Location)) (diagnostics diagnostics' : Diagnostics)

include same in
theorem needsScopePaths_rescoped :
    (t.rescoped places (before ++ own.toList ++ behind) diagnostics).needsScopePaths =
      (t.rescoped places' (before' ++ own.toList ++ behind') diagnostics').needsScopePaths := by
  have front (xs ys : List Scope) : (xs ++ own.toList ++ ys).Perm (own.toList ++ (xs ++ ys)) := by
    rw [List.append_assoc]
    exact List.perm_append_comm_assoc xs own.toList ys
  have reordered := (front before behind).trans (same ▸ (front before' behind').symm)
  simp only [needsScopePaths, rescoped, reordered.isEmpty_eq]

theorem accessors_rescoped :
    (t.rescoped places (before ++ own.toList ++ behind) diagnostics).accessors =
      before.filterMap t.accessor? ++ (own.bind t.accessor?).toList ++
        behind.filterMap t.accessor? := by
  rw [← filterMap_toList, ← List.filterMap_append, ← List.filterMap_append]
  rfl

include named foreign same

/-- The table of scopes has an entry for each scope, where the scope is. -/
theorem sameButPlace_scopePaths (access : Access) :
    Declaration.SameButPlace name
      (.scopePaths ⟨access,
        (t.rescoped places (before ++ own.toList ++ behind) diagnostics).accessors⟩)
      (.scopePaths ⟨access,
        (t.rescoped places' (before' ++ own.toList ++ behind') diagnostics').accessors⟩) := by
  rw [accessors_rescoped, accessors_rescoped]
  refine .scopePaths access ?_ ?_ ?_
  · intro a member
    obtain ⟨s, asked, entered⟩ := Option.bind_eq_some_iff.mp member
    rw [name_of_accessor? entered, named s asked]
  · intro a member
    rw [← List.filterMap_append] at member
    obtain ⟨s, asked, entered⟩ := List.mem_filterMap.mp member
    rw [name_of_accessor? entered]
    exact foreign s asked
  · rw [← List.filterMap_append, ← List.filterMap_append, same]

/-- All that a table's own declarations but the table of scopes show of its scopes is whether there
are any. -/
theorem forall₂_ownDeclarations_rescoped :
    List.Forall₂ (Declaration.SameButPlace name)
      (t.rescoped places (before ++ own.toList ++ behind) diagnostics).ownDeclarations
      (t.rescoped places' (before' ++ own.toList ++ behind') diagnostics').ownDeclarations := by
  let u := t.rescoped places (before ++ own.toList ++ behind) diagnostics
  let v := t.rescoped places' (before' ++ own.toList ++ behind') diagnostics'
  have needs : u.needsScopePaths = v.needsScopePaths :=
    needsScopePaths_rescoped same places places' diagnostics diagnostics'
  have state : u.stateDecl = v.stateDecl := by
    rw [stateDecl, stateConformances, structuralConformances, needs]
    rfl
  have unchanged (ds : List Declaration) :
      List.Forall₂ (Declaration.SameButPlace name) ds ds :=
    List.forall₂_same.mpr fun d _ => .refl d
  have entries : List.Forall₂ (Declaration.SameButPlace name)
      (if u.needsScopePaths then [.scopePaths ⟨u.access, u.accessors⟩] else [])
      (if v.needsScopePaths then [.scopePaths ⟨v.access, v.accessors⟩] else []) := by
    rw [needs]
    split
    · exact .cons (sameButPlace_scopePaths named foreign same places places' diagnostics
        diagnostics' t.access) .nil
    · exact .nil
  change List.Forall₂ _ u.ownDeclarations v.ownDeclarations
  rw [ownDeclarations, state]
  exact List.rel_append (unchanged _) (List.rel_append entries (unchanged _))

variable {places places' diagnostics diagnostics'}

theorem forall₂_declare_rescoped (resolver : Resolver)
    (complete : (t.rescoped places (before ++ own.toList ++ behind) diagnostics).IsComplete)
    (also : (t.rescoped places' (before' ++ own.toList ++ behind') diagnostics').IsComplete) :
    List.Forall₂ (Declaration.SameButPlace name)
      ((t.rescoped places (before ++ own.toList ++ behind) diagnostics).declare
        resolver).declarations
      ((t.rescoped places' (before' ++ own.toList ++ behind') diagnostics').declare
        resolver).declarations := by
  have lists : SameLists (t.rescoped places (before ++ own.toList ++ behind) diagnostics)
      (t.rescoped places' (before' ++ own.toList ++ behind') diagnostics') :=
    ⟨rfl, rfl, rfl, rfl, rfl, rfl⟩
  obtain ⟨below, reports, here, there⟩ := lists.declare resolver complete.resolved also.resolved
    (complete.violations_eq_nil.trans also.violations_eq_nil.symm)
  rw [here, there]
  exact List.rel_append
    (forall₂_ownDeclarations_rescoped named foreign same places places' diagnostics diagnostics')
    (List.forall₂_same.mpr fun d _ => .refl d)

end

end SymbolTable

/-- Whether the entries and members of a module take a name. -/
def ModuleDef.Registers (policy : Policy) (resolver : Resolver) (definition : ModuleDef)
    (name : String) : Prop :=
  ∃ c, definition.directives = [c] ∧
    name ∈ (SymbolTable.ofModule policy resolver definition c).names

namespace Expansion

open SymbolTable

/-- A variable for a scope may refer forwards as well as backwards. If nothing else in a module
registers its name, then wherever the variable is moved among the members at the top level, the
module has the same declarations, but for where the entry of this scope stands in the table of
scopes. The entry is the same, or there is none in either table. -/
theorem scope_moved (policy : Policy) (resolver : Resolver) {definition : ModuleDef}
    {decl : VariableDecl} (marked : ∃ a ∈ decl.attributes, a.name = Directive.scopePath.name)
    {front back front' back' : List Member}
    (place : definition.members = front ++ .variable decl :: back)
    (others : front' ++ back' = front ++ back)
    (alone : ¬{ definition with members := front ++ back }.Registers policy resolver decl.name) :
    let e := ofModule policy resolver definition
    let moved :=
      ofModule policy resolver { definition with members := front' ++ .variable decl :: back' }
    List.Forall₂ (Declaration.SameButPlace decl.name) e.declarations moved.declarations := by
  intro e moved
  let present : ModuleDef := { definition with members := front' ++ .variable decl :: back' }
  by_cases one : ∃ c, definition.directives = [c]
  · obtain ⟨c, single⟩ := one
    have also : present.directives = [c] := single
    have free : decl.name ∉ (SymbolTable.ofModule policy resolver
        { definition with members := front ++ back } c).names :=
      fun taken => alone ⟨c, single, taken⟩
    obtain ⟨before, behind, places, diagnostics, scopes, here⟩ :=
      ofModule_insert marked front back free
    obtain ⟨before', behind', places', diagnostics', scopes', there⟩ :=
      ofModule_insert marked front' back' (by rwa [others])
    rw [others] at scopes' there
    rw [← place] at here
    have same : before' ++ behind' = before ++ behind := scopes'.symm.trans scopes
    have foreign : ∀ s ∈ before ++ behind, s.name ≠ decl.name := by
      intro s member own
      rw [← scopes] at member
      exact free (own ▸ name_mem_names_of_mem_scopes policy resolver _ c member)
    have complete := isComplete_ofModule policy resolver definition c
    have remains := isComplete_ofModule policy resolver present c
    rw [here] at complete
    rw [there] at remains
    rw [declarations_ofModule single, declarations_ofModule also, here, there]
    exact forall₂_declare_rescoped (fun s => name_of_ownScope? marked) foreign same resolver
      complete remains
  · have nothing : moved.declarations = [] := declarations_of_not_single one
    rw [declarations_of_not_single one, nothing]
    exact .nil

def reaching (name action : String) : VariableDecl where
  name := name
  type := some (name ++ "State")
  attributes := [{
    name := "compose_scope_path"
    args := [⟨some "action", .keyPath "Action" [action], {}⟩] }]

def journal (members : List Member) : ModuleDef where
  name := "Journal"
  directives := [{}]
  members := members

/-- The variable for the notes can be moved behind the action that it refers to, and behind the
variable for the drafts. Their two entries change places. -/
theorem scope_moved_journal :
    let action (name : String) : Member :=
      .type { name := name, form := .enum, attributes := [{ name := "compose_action_case" }] }
    let others := [action "Note", action "Draft", .variable (reaching "drafts" "draft")]
    let e := ofModule {} .textual (journal (.variable (reaching "notes" "note") :: others))
    let moved := ofModule {} .textual (journal (others ++ [.variable (reaching "notes" "note")]))
    List.Forall₂ (Declaration.SameButPlace "notes") e.declarations moved.declarations ∧
      e.accessorNames = ["notes", "drafts"] ∧ moved.accessorNames = ["drafts", "notes"] := by
  intro action others e moved
  have marked : ∃ a ∈ (reaching "notes" "note").attributes, a.name = Directive.scopePath.name :=
    ⟨_, List.mem_cons_self, rfl⟩
  have place : (journal (.variable (reaching "notes" "note") :: others)).members =
      [] ++ .variable (reaching "notes" "note") :: others := rfl
  have alone : ¬(journal others).Registers {} .textual "notes" := by
    rintro ⟨c, single, taken⟩
    cases single
    revert taken
    decide
  exact ⟨scope_moved {} .textual marked place (List.append_nil others) alone, by decide, by decide⟩

end Expansion

end StateWeave
