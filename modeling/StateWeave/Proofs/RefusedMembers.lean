import StateWeave.Proofs.ModuleTable
import StateWeave.Proofs.OwnDeclarations
import StateWeave.Proofs.Retouches

/-!
# Members that are refused

A member that is refused leaves its reports behind and nothing else, and nothing that happens
later looks at reports. A module without the member therefore expands to the same declarations,
and its reports are those of the module with the member, less what was reported of the member
itself. `expansion_without_refused` says so for functions and variables at any depth.
-/

namespace StateWeave

namespace SymbolTable

/-- A table with reports in front of its own that were made before. -/
def behind (t : SymbolTable) (earlier : Diagnostics) : SymbolTable :=
  t.withDiagnostics (earlier ++ t.diagnostics)

/-- A step does not look at reports if it does the same whatever was reported before. -/
def IgnoresReports (step : SymbolTable → SymbolTable) : Prop :=
  ∀ t earlier, step (t.behind earlier) = (step t).behind earlier

/-- Entering a contribution looks at names and stages, and never at reports. -/
theorem ignoresReports_contribute (c : Contribution) :
    IgnoresReports fun t => t.contribute c := by
  intro t earlier
  exact respects_contribute { earlier := earlier } (fun _ => rfl) t

/-- From some contribution on, a module is read and resolved without a look at reports. -/
theorem ignoresReports_resolve_foldl (cs : List Contribution) :
    IgnoresReports fun t => (cs.foldl contribute t).resolve := by
  intro t earlier
  have respects : Respects { earlier := earlier } fun t => (cs.foldl contribute t).resolve :=
    respects_resolve_foldl (fun _ _ _ => rfl) fun _ => rfl
  exact respects t

/-- Declarations are made without a look at the reports of a table. -/
theorem declare_behind (t : SymbolTable) (earlier : Diagnostics) (resolver : Resolver) :
    (t.behind earlier).declare resolver = t.declare resolver := by
  simp only [declare, declareWithin]
  rfl

def reportsOf (t : SymbolTable) (c : Contribution) : Diagnostics :=
  ((t.withDiagnostics []).contribute c).diagnostics

theorem diagnostics_contribute (t : SymbolTable) (c : Contribution) :
    (t.contribute c).diagnostics = t.diagnostics ++ t.reportsOf c := by
  have split : t = (t.withDiagnostics []).behind t.diagnostics := by
    rw [behind, diagnostics_withDiagnostics, List.append_nil]
    rfl
  exact congrArg diagnostics <| (congrArg (contribute · c) split).trans
    (ignoresReports_contribute c (t.withDiagnostics []) t.diagnostics)

theorem diagnostics_pushFragment (t : SymbolTable) (position : Position) (f : Fragment) :
    (t.pushFragment position f).diagnostics = t.diagnostics := by
  cases position <;> rfl

/-- An observer that finds no stage is reported and left out. -/
theorem attachObserver_refused_or_entered (t : SymbolTable) (attachment : Attachment)
    (o : Observer) (location : Location) :
    (t.attachObserver attachment o location).1 =
        t.withDiagnostics (t.attachObserver attachment o location).1.diagnostics ∨
      (t.attachObserver attachment o location).1.diagnostics = t.diagnostics := by
  cases attachment with
  | core => exact Or.inr rfl
  | binding =>
      rw [attachObserver]
      split
      · exact Or.inr rfl
      · exact Or.inl rfl
  | scope name =>
      rw [attachObserver]
      split
      · exact Or.inr rfl
      · exact Or.inl rfl

/-- A contribution is turned away, and then only its reports are added, or it is entered without
an error. -/
theorem contribute_refused_or_entered (t : SymbolTable) (c : Contribution) :
    t.contribute c = t.withDiagnostics (t.contribute c).diagnostics ∨
      ∀ d ∈ t.reportsOf c, d.isError = false := by
  have silent (same : (t.contribute c).diagnostics = t.diagnostics) :
      ∀ d ∈ t.reportsOf c, d.isError = false := by
    rw [diagnostics_contribute, List.append_right_eq_self] at same
    rw [same]
    exact fun d member => absurd member List.not_mem_nil
  by_cases taken : ∃ name, c.name? = some name ∧ name ∈ t.names
  · obtain ⟨name, asked, known⟩ := taken
    obtain ⟨diagnostics, refused⟩ := contribute_of_taken asked known
    exact Or.inl (by rw [refused]; rfl)
  · have free {name : String} (asked : c.name? = some name) : t.firstPlace? name = none :=
      firstPlace?_eq_none_iff.mpr fun known => taken ⟨name, asked, known⟩
    cases c with
    | refused reports => exact Or.inl rfl
    | pipeline location =>
        refine Or.inr fun d member => ?_
        rw [List.mem_singleton.mp member]
        rfl
    | action name type location =>
        refine Or.inr (silent ?_)
        rw [contribute, addAction, register_of_free (free rfl)]
        rfl
    | scope pending =>
        refine Or.inr (silent ?_)
        rw [contribute, queueScope, register_of_free (free rfl)]
        rfl
    | fragment position f => exact Or.inr (silent (diagnostics_pushFragment t position f))
    | actionFragment position name type location f =>
        refine Or.inr (silent ?_)
        rw [contribute, addAction, register_of_free (free rfl)]
        exact diagnostics_pushFragment _ position f
    | boundFragment position pending f =>
        exact Or.inr (silent (diagnostics_pushFragment _ position _))
    | observer attachment o location =>
        exact (t.attachObserver_refused_or_entered attachment o location).imp_right silent
    | _ => exact Or.inr (silent rfl)

/-- A contribution of which an error is reported changes nothing but the reports. -/
theorem contribute_of_error {t : SymbolTable} {c : Contribution}
    (error : ∃ d ∈ t.reportsOf c, d.isError = true) :
    t.contribute c = t.withDiagnostics (t.diagnostics ++ t.reportsOf c) := by
  rcases t.contribute_refused_or_entered c with refused | fine
  · rw [refused, diagnostics_contribute]
  · obtain ⟨d, member, fatal⟩ := error
    rw [fine d member] at fatal
    cases fatal

end SymbolTable

/-- A type contributes the same whatever its members are. -/
theorem Contribution.ofVisit_type (scopes : List String) (decl : TypeDecl)
    (members : List Member) :
    ofVisit ⟨scopes, .type { decl with members := members }⟩ = ofVisit ⟨scopes, .type decl⟩ := by
  have role : Role.ofMember (.type { decl with members := members }) scopes.isEmpty =
      Role.ofMember (.type decl) scopes.isEmpty := rfl
  rw [ofVisit, ofVisit, Visit.isTopLevel, Visit.isTopLevel]
  dsimp only
  rw [role]
  split
  · next role _ => cases role <;> rfl
  · rfl

/-- `Removal v scopes members before kept` takes a function or a variable out of the members of
a type, or of a type below it, and leaves the members `kept`. The member is visited by `v`, after
the visits `before`. -/
inductive Visit.Removal : Visit → List String → List Member → List Visit → List Member → Prop
  | here {scopes : List String} {m : Member} {rest : List Member} :
      m.sort ≠ .type → Removal ⟨scopes, m⟩ scopes (m :: rest) [] rest
  | later {v : Visit} {scopes : List String} {m : Member} {rest kept : List Member}
      {before : List Visit} :
      Removal v scopes rest before kept →
        Removal v scopes (m :: rest) (Visit.ofMember scopes m ++ before) (m :: kept)
  | inside {v : Visit} {scopes : List String} {decl : TypeDecl} {rest kept : List Member}
      {before : List Visit} :
      Removal v (scopes ++ [decl.name]) decl.members before kept →
        Removal v scopes (.type decl :: rest) (⟨scopes, .type decl⟩ :: before)
          (.type { decl with members := kept } :: rest)

namespace Visit

theorem ofMember_type (scopes : List String) (decl : TypeDecl) :
    ofMember scopes (.type decl) =
      ⟨scopes, .type decl⟩ :: ofMembers (scopes ++ [decl.name]) decl.members := by
  cases decl
  rw [ofMember, ofType]

theorem ofMember_of_sort {scopes : List String} {m : Member} (leaf : m.sort ≠ .type) :
    ofMember scopes m = [⟨scopes, m⟩] := by
  cases m with
  | type decl => exact absurd rfl leaf
  | function decl => rw [ofMember]
  | «variable» decl => rw [ofMember]

/-- Without the member all other visits read what they read with it. -/
theorem Removal.contributions {v : Visit} {scopes : List String} {members kept : List Member}
    {before : List Visit} (removal : Removal v scopes members before kept) :
    ∃ after,
      (ofMembers scopes members).map Contribution.ofVisit =
        before.map Contribution.ofVisit ++ Contribution.ofVisit v :: after ∧
      (ofMembers scopes kept).map Contribution.ofVisit =
        before.map Contribution.ofVisit ++ after := by
  induction removal with
  | @here scopes m rest leaf =>
      refine ⟨(ofMembers scopes rest).map Contribution.ofVisit, ?_, rfl⟩
      rw [ofMembers, ofMember_of_sort leaf]
      rfl
  | @later v scopes m rest kept before _ ih =>
      obtain ⟨after, whole, part⟩ := ih
      refine ⟨after, ?_, ?_⟩
      · rw [ofMembers, List.map_append, whole, List.map_append, List.append_assoc]
      · rw [ofMembers, List.map_append, part, List.map_append, List.append_assoc]
  | @inside v scopes decl rest kept before _ ih =>
      obtain ⟨after, whole, part⟩ := ih
      refine ⟨after ++ (ofMembers scopes rest).map Contribution.ofVisit, ?_, ?_⟩
      · rw [ofMembers, ofMember_type, List.map_append, List.map_cons, whole]
        simp
      · rw [ofMembers, ofMember_type, List.map_append, List.map_cons, part,
          Contribution.ofVisit_type]
        simp

mutual

/-- Every function and every variable that is visited can be taken out. -/
theorem exists_removal_ofMembers {v : Visit} (leaf : v.member.sort ≠ .type) {after : List Visit}
    {scopes : List String} {before : List Visit} :
    ∀ members : List Member, ofMembers scopes members = before ++ v :: after →
      ∃ kept, v.Removal scopes members before kept
  | [], whole => by
      rw [ofMembers] at whole
      cases before <;> cases whole
  | m :: rest, whole => by
      rw [ofMembers] at whole
      rcases List.append_eq_append_iff.mp whole with
        ⟨between, rfl, further⟩ | ⟨back, inside, further⟩
      · obtain ⟨kept, removal⟩ := exists_removal_ofMembers leaf rest further
        exact ⟨m :: kept, .later removal⟩
      · cases back with
        | nil =>
            have first : ofMembers scopes rest = [] ++ v :: after := further.symm
            obtain ⟨kept, removal⟩ := exists_removal_ofMembers leaf rest first
            rw [List.append_nil] at inside
            rw [← inside, ← List.append_nil (ofMember scopes m)]
            exact ⟨m :: kept, .later removal⟩
        | cons found more =>
            obtain ⟨rfl, -⟩ := List.cons_eq_cons.mp further
            exact exists_removal_ofMember leaf m inside rest

theorem exists_removal_ofMember {v : Visit} (leaf : v.member.sort ≠ .type) {after : List Visit}
    {scopes : List String} {before : List Visit} :
    ∀ m : Member, ofMember scopes m = before ++ v :: after → ∀ rest,
      ∃ kept, v.Removal scopes (m :: rest) before kept
  | .type ⟨name, form, attributes, members, location⟩, whole, rest => by
      rw [ofMember, ofType] at whole
      cases before with
      | nil =>
          obtain ⟨rfl, -⟩ := List.cons_eq_cons.mp whole
          exact absurd rfl leaf
      | cons first before =>
          obtain ⟨rfl, inside⟩ := List.cons_eq_cons.mp whole
          obtain ⟨kept, removal⟩ := exists_removal_ofMembers leaf members inside
          exact ⟨_,
            @Removal.inside v scopes ⟨name, form, attributes, members, location⟩ _ _ _ removal⟩
  | .function decl, whole, rest => by
      rw [ofMember] at whole
      cases before with
      | nil =>
          obtain ⟨rfl, -⟩ := List.cons_eq_cons.mp whole
          exact ⟨rest, .here leaf⟩
      | cons first before => simp at whole
  | .variable decl, whole, rest => by
      rw [ofMember] at whole
      cases before with
      | nil =>
          obtain ⟨rfl, -⟩ := List.cons_eq_cons.mp whole
          exact ⟨rest, .here leaf⟩
      | cons first before => simp at whole

end

end Visit

namespace SymbolTable

variable (policy : Policy) (resolver : Resolver) (definition : ModuleDef) (c : Composition)

/-- The table of a module after the visits of some of its members. -/
def visited (visits : List Visit) : SymbolTable :=
  visits.foldl (fun t v => t.contribute (Contribution.ofVisit v))
    ((blank policy definition c).compose c resolver)

theorem ofModule_eq_contributions :
    ofModule policy resolver definition c =
      (((Visit.ofMembers [] definition.members).map Contribution.ofVisit).foldl contribute
        ((blank policy definition c).compose c resolver)).resolve :=
  congrArg resolve (collect_eq_foldl _ definition.members)

end SymbolTable

namespace Expansion

open SymbolTable

/-- A function or a variable of which an error is reported can be taken out of a module, at any
depth. The module then has the same declarations, and its reports are those that it had before,
less those that the visit of the member made. -/
theorem expansion_without_refused (policy : Policy) (resolver : Resolver)
    {definition : ModuleDef} {c : Composition} (single : definition.directives = [c])
    {before after : List Visit} {v : Visit}
    (visits : Visit.ofMembers [] definition.members = before ++ v :: after)
    (leaf : v.member.sort ≠ .type) :
    let t := visited policy resolver definition c before
    let reports := t.reportsOf (Contribution.ofVisit v)
    let e := ofModule policy resolver definition
    (∃ d ∈ reports, d.isError = true) →
      (∃ kept, v.Removal [] definition.members before kept) ∧
      ∀ kept, v.Removal [] definition.members before kept →
        ∃ later, e.diagnostics = t.diagnostics ++ reports ++ later ∧
          ofModule policy resolver { definition with members := kept } =
            { e with diagnostics := t.diagnostics ++ later } := by
  intro t reports e error
  refine ⟨Visit.exists_removal_ofMembers leaf definition.members visits, ?_⟩
  intro kept removal
  obtain ⟨after, whole, part⟩ := removal.contributions
  let rest (u : SymbolTable) : SymbolTable := (after.foldl contribute u).resolve
  have ignores : IgnoresReports rest := ignoresReports_resolve_foldl after
  -- The rest of the work is the same from here on, with the reports of the visit in front or not.
  let u := t.withDiagnostics []
  have behind (reported : Diagnostics) : t.withDiagnostics reported = u.behind reported := by
    rw [SymbolTable.behind, diagnostics_withDiagnostics, List.append_nil]
    rfl
  have present : SymbolTable.ofModule policy resolver definition c =
      (rest u).behind (t.diagnostics ++ reports) := by
    rw [ofModule_eq_contributions, whole, List.foldl_append, List.foldl_map, List.foldl_cons]
    refine Eq.trans (congrArg rest ?_) (ignores u (t.diagnostics ++ reports))
    rw [← behind]
    exact contribute_of_error error
  have absent : SymbolTable.ofModule policy resolver { definition with members := kept } c =
      (rest u).behind t.diagnostics := by
    rw [ofModule_eq_contributions, part, List.foldl_append, List.foldl_map]
    refine Eq.trans (congrArg rest ?_) (ignores u t.diagnostics)
    rw [← behind]
    rfl
  have expanded : e = ofComposition policy resolver definition c := by
    change ofModule policy resolver definition = _
    rw [ofModule, single]
  have reduced : ofModule policy resolver { definition with members := kept } =
      ofComposition policy resolver { definition with members := kept } c := by
    rw [ofModule, single]
  refine ⟨(rest u).diagnostics ++ ((rest u).declare resolver).diagnostics, ?_, ?_⟩
  · rw [expanded, ofComposition, present, declare_behind]
    exact List.append_assoc _ _ _
  · rw [reduced, expanded, ofComposition, ofComposition, present, absent, declare_behind,
      declare_behind, SymbolTable.behind, diagnostics_withDiagnostics, List.append_assoc]

def bringing (function name : String) : Member :=
  .function {
    name := function
    attributes := [{ name := "compose_body_action_case", args := [⟨none, .string name, {}⟩] }]
    params := [⟨"action", "Tick", false, {}⟩]
    returnType := none }

def toolbar (members : List Member) : Member :=
  .type { name := "Toolbar", form := .struct, members := members }

def workbench (functions : List Member) : ModuleDef where
  name := "Workbench"
  directives := [{
    children := [⟨.reducer, false, some (.string "counter"), some (.named "Counter"), none, {}⟩] }]
  members := [toolbar functions]

/-- The function that asks for the name of the counter again can be taken out of the toolbar. The
only report goes with it, and the action that the other function brings stays. -/
theorem expansion_without_refused_workbench :
    let e := ofModule {} .textual (workbench [bringing "count" "counter", bringing "tick" "tick"])
    let e' := ofModule {} .textual (workbench [bringing "tick" "tick"])
    e.diagnostics.map Diagnostic.message = [(Problem.duplicateAction "counter").message] ∧
      e'.declarations = e.declarations ∧ e'.diagnostics = [] := by
  intro e e'
  let twice := workbench [bringing "count" "counter", bringing "tick" "tick"]
  have single : twice.directives = [_] := rfl
  have removal : Visit.Removal ⟨["Toolbar"], bringing "count" "counter"⟩ [] twice.members
      [⟨[], toolbar [bringing "count" "counter", bringing "tick" "tick"]⟩]
      [toolbar [bringing "tick" "tick"]] :=
    .inside (.here (by decide))
  have visits : Visit.ofMembers [] twice.members =
      [⟨[], toolbar [bringing "count" "counter", bringing "tick" "tick"]⟩] ++
        ⟨["Toolbar"], bringing "count" "counter"⟩ :: [⟨["Toolbar"], bringing "tick" "tick"⟩] := rfl
  obtain ⟨_, every⟩ :=
    expansion_without_refused {} .textual single visits (by decide) (by decide)
  obtain ⟨_, _, without⟩ := every _ removal
  refine ⟨by decide, ?_, by decide⟩
  change (ofModule {} .textual { twice with members := _ }).declarations = _
  rw [without]

end Expansion

end StateWeave
