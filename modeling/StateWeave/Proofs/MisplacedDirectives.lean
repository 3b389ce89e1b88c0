import StateWeave.Proofs.RefusedMembers
import StateWeave.Proofs.TableReports

/-!
# Directives that are not looked at

A directive on a sort of declaration that it does not belong on is an error, but only if it is the
first directive of its member: no attribute behind the first directive is ever looked at. A member
expands to the same whether these attributes are there or not, and a misplaced one among them is
not reported.
-/

namespace StateWeave

namespace Directive

/-- The attributes of a member that are looked at. -/
def upToFirst : List Attribute → List Attribute
  | [] => []
  | a :: rest => if (ofName? a.name).isSome then [a] else a :: upToFirst rest

theorem find?_upToFirst (attributes : List Attribute) :
    find? (upToFirst attributes) = find? attributes := by
  induction attributes with
  | nil => rfl
  | cons a rest ih =>
      rw [upToFirst]
      cases named : ofName? a.name with
      | none => simpa [find?, named] using ih
      | some d => simp [find?, named]

theorem find?_of_first {before behind : List Attribute} {a : Attribute} {d : Directive}
    (others : ∀ b ∈ before, ofName? b.name = none) (named : ofName? a.name = some d) :
    find? (before ++ a :: behind) = some (d, a) := by
  induction before with
  | nil => simp only [List.nil_append, find?, named]
  | cons b before ih =>
      obtain ⟨other, rest⟩ := List.forall_mem_cons.mp others
      simpa only [List.cons_append, find?, other] using ih rest

end Directive

namespace Member

mutual

/-- A member without the attributes behind its first directive, and its members likewise. -/
def trimmed : Member → Member
  | .type decl => .type (trimmedType decl)
  | .function decl => .function { decl with attributes := Directive.upToFirst decl.attributes }
  | .variable decl => .variable { decl with attributes := Directive.upToFirst decl.attributes }

def trimmedType : TypeDecl → TypeDecl
  | ⟨name, form, attributes, members, location⟩ =>
    ⟨name, form, Directive.upToFirst attributes, trimmedAll members, location⟩

def trimmedAll : List Member → List Member
  | [] => []
  | m :: rest => trimmed m :: trimmedAll rest

end

end Member

theorem Member.find?_trimmed (m : Member) :
    Directive.find? m.trimmed.attributes = Directive.find? m.attributes := by
  cases m with
  | type decl =>
      cases decl
      exact Directive.find?_upToFirst _
  | function decl => exact Directive.find?_upToFirst _
  | «variable» decl => exact Directive.find?_upToFirst _

theorem Role.ofMember_trimmed (m : Member) (topLevel : Bool) :
    ofMember m.trimmed topLevel = ofMember m topLevel := by
  rw [ofMember, ofMember, m.find?_trimmed]
  cases m with
  | type decl => cases decl; rfl
  | _ => rfl

theorem Contribution.ofRole_trimmed (scopes : List String) (m : Member) (role : Role) :
    ofRole scopes m.trimmed role = ofRole scopes m role := by
  cases m with
  | type decl => cases decl; cases role <;> rfl
  | _ => cases role <;> rfl

namespace Visit

/-- The visit of the member without the attributes behind its first directive. -/
def trimmed (v : Visit) : Visit := ⟨v.scopes, v.member.trimmed⟩

/-- What a member contributes does not depend on the attributes behind its first directive. -/
theorem ofVisit_trimmed (v : Visit) :
    Contribution.ofVisit v.trimmed = Contribution.ofVisit v := by
  rw [Contribution.ofVisit, Contribution.ofVisit, trimmed, isTopLevel, isTopLevel,
    Role.ofMember_trimmed]
  cases Role.ofMember v.member v.scopes.isEmpty with
  | ok role => exact Contribution.ofRole_trimmed v.scopes v.member role
  | error misplaced => rfl

mutual

theorem ofMembers_trimmedAll (scopes : List String) : ∀ members : List Member,
    ofMembers scopes (Member.trimmedAll members) = (ofMembers scopes members).map trimmed
  | [] => rfl
  | m :: rest => by
      rw [Member.trimmedAll, ofMembers, ofMembers, List.map_append,
        ofMember_trimmed scopes m, ofMembers_trimmedAll scopes rest]

theorem ofMember_trimmed (scopes : List String) : ∀ m : Member,
    ofMember scopes m.trimmed = (ofMember scopes m).map trimmed
  | .type ⟨name, form, attributes, members, location⟩ => by
      rw [ofMember_type, List.map_cons, ← ofMembers_trimmedAll]
      rfl
  | .function decl => rfl
  | .variable decl => rfl

end

end Visit

namespace Expansion

variable (policy : Policy) (resolver : Resolver) (definition : ModuleDef)

/-- A module expands to the same without the attributes behind the first directives. -/
theorem ofModule_trimmedAll :
    ofModule policy resolver { definition with members := Member.trimmedAll definition.members } =
      ofModule policy resolver definition := by
  have same : (Visit.ofMembers [] (Member.trimmedAll definition.members)).map Contribution.ofVisit =
      (Visit.ofMembers [] definition.members).map Contribution.ofVisit := by
    rw [Visit.ofMembers_trimmedAll, List.map_map]
    exact List.map_congr_left fun v _ => v.ofVisit_trimmed
  have tables (c : Composition) : SymbolTable.ofModule policy resolver
      { definition with members := Member.trimmedAll definition.members } c =
        SymbolTable.ofModule policy resolver definition c := by
    rw [SymbolTable.ofModule_eq_contributions, SymbolTable.ofModule_eq_contributions, same]
    rfl
  rw [ofModule, ofModule]
  dsimp only
  split
  · rfl
  · rw [ofComposition, ofComposition, tables]
  · rfl

variable {policy resolver definition}

/-- A directive that its member cannot take is reported where it stands if it is the first
directive of this member. Nothing behind the first directive of a member is looked at. -/
theorem misplaced_directive_reported {c : Composition} (single : definition.directives = [c]) :
    (∀ v ∈ Visit.ofMembers [] definition.members, ∀ before a behind d,
      v.member.attributes = before ++ a :: behind →
      (∀ b ∈ before, Directive.ofName? b.name = none) → Directive.ofName? a.name = some d →
      d.target ≠ v.member.sort →
      ∃ report ∈ (ofModule policy resolver definition).diagnostics,
        report = .ofProblem (.unsupportedDeclaration d.name v.member.kindName) a.location ∧
        report.kind = .structural ∧ report.isError = true ∧ report.location = a.location) ∧
    ofModule policy resolver { definition with members := Member.trimmedAll definition.members } =
      ofModule policy resolver definition := by
  refine ⟨?_, ofModule_trimmedAll policy resolver definition⟩
  intro v visited before a behind d attributes others named misplaced
  have refused : Contribution.ofVisit v =
      .refusal (.unsupportedDeclaration d.name v.member.kindName) a.location := by
    rw [Contribution.ofVisit, Role.ofMember, attributes, Directive.find?_of_first others named]
    simp only [if_neg misplaced]
  have reported := SymbolTable.mem_diagnostics_of_refused policy resolver definition c visited
    refused List.mem_cons_self
  refine ⟨_, ?_, rfl, rfl, rfl, rfl⟩
  rw [diagnostics_ofModule single]
  exact List.mem_append_left _ reported

def directed (function : String) (directives : List (String × UInt32)) : Member :=
  .function {
    name := function
    attributes := directives.map fun (name, line) => { name := name, location := ⟨line, 5⟩ }
    returnType := none }

/-- A clock whose functions take themselves for scopes, the first one on second thought. -/
def clock : ModuleDef where
  name := "Clock"
  directives := [{
    children := [⟨.reducer, false, some (.string "counter"), some (.named "Counter"), none, {}⟩] }]
  members := [directed "tick" [("compose_body", 4), ("compose_scope_path", 5)],
    directed "tock" [("compose_scope_path", 8)]]

/-- Of the two misplaced directives only the one in line 8 is reported. -/
theorem misplaced_directive_reported_clock :
    let e := ofModule {} .textual clock
    (∃ report ∈ e.diagnostics, report.kind = .structural ∧ report.location = ⟨8, 5⟩) ∧
      (∀ report ∈ e.diagnostics, report.location ≠ ⟨5, 5⟩) ∧
      e = ofModule {} .textual { clock with members :=
        [directed "tick" [("compose_body", 4)], directed "tock" [("compose_scope_path", 8)]] } := by
  intro e
  have single : clock.directives = [_] := rfl
  obtain ⟨reported, unread⟩ := misplaced_directive_reported single
  obtain ⟨report, member, rfl, structural, _, location⟩ :=
    reported ⟨[], directed "tock" [("compose_scope_path", 8)]⟩
      (List.mem_cons_of_mem _ List.mem_cons_self) [] _ [] .scopePath rfl
      (fun _ none => absurd none List.not_mem_nil) rfl (by decide)
  exact ⟨⟨_, member, structural, location⟩, by decide, unread.symm⟩

end Expansion

end StateWeave
