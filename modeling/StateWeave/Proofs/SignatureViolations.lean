import StateWeave.Proofs.CallSignatures
import StateWeave.Proofs.RefusedMembers

/-!
# Signatures that are not in order

A parameter offends if its directive does not know its name, or if it is changed in place and is
not the state. All offending parameters of a function are found in one pass, and a function that
has any is refused as a whole: its reports stand where the function is visited, one for each of
these parameters, and every other part of the table is what it is without the function.
-/

namespace StateWeave

namespace Signature

/-- A function with this directive cannot have this parameter. -/
def Offends (d : Directive) (identified : Bool) (p : Param) : Prop :=
  p.name ∉ d.allowedParams identified ∨ (p.isMutable = true ∧ p.name ≠ "state")

instance (d : Directive) (identified : Bool) : DecidablePred (Offends d identified) :=
  fun p => inferInstanceAs
    (Decidable (p.name ∉ d.allowedParams identified ∨ (p.isMutable = true ∧ p.name ≠ "state")))

/-- What a parameter that offends is reported as. An unknown name comes before mutability. -/
def offence (d : Directive) (identified : Bool) (p : Param) : Problem :=
  if p.name ∈ d.allowedParams identified then .mutableParameter d.name p.name
  else if p.name = "id" ∧ d = .body then .idWithoutIdentifiedAction d.name
  else .parameterNotAllowed d.name p.name

variable (d : Directive) (identified : Bool)

theorem violation?_eq (p : Param) :
    violation? d identified p =
      if Offends d identified p then some ⟨offence d identified p, p.location⟩ else none := by
  rw [violation?]
  by_cases allowed : p.name ∈ d.allowedParams identified
  · rw [if_pos (List.contains_iff_mem.mpr allowed), offence, if_pos allowed]
    have only : Offends d identified p ↔ (p.isMutable && p.name ≠ "state") = true := by
      simp [Offends, allowed]
    exact if_congr only.symm rfl rfl
  · have offends : Offends d identified p := Or.inl allowed
    rw [if_neg (mt List.contains_iff_mem.mp allowed), if_pos offends, offence, if_neg allowed]
    split <;> rfl

/-- There is one violation for each parameter that offends, in the order of the parameters. -/
theorem violations_eq (decl : FunctionDecl) :
    violations d identified decl =
      (decl.params.filter (Offends d identified)).map fun p =>
        ⟨offence d identified p, p.location⟩ := by
  rw [violations]
  induction decl.params with
  | nil => rfl
  | cons p rest ih =>
      by_cases offends : Offends d identified p
      · rw [List.filterMap_cons, violation?_eq, if_pos offends,
          List.filter_cons_of_pos (by simpa using offends), List.map_cons, ih]
      · rw [List.filterMap_cons, violation?_eq, if_neg offends,
          List.filter_cons_of_neg (by simpa using offends), ih]

theorem check_eq_error_iff (decl : FunctionDecl) (found : List Violation) :
    check d decl identified = .error found ↔
      violations d identified decl = found ∧ found ≠ [] := by
  rw [check]
  cases violations d identified decl with
  | nil =>
      constructor
      · intro failed
        cases failed
      · rintro ⟨rfl, nonempty⟩
        exact absurd rfl nonempty
  | cons v rest =>
      constructor
      · intro failed
        cases failed
        exact ⟨rfl, List.cons_ne_nil v rest⟩
      · rintro ⟨rfl, -⟩
        rfl

theorem exists_check_eq_error_iff (decl : FunctionDecl) :
    (∃ found, check d decl identified = .error found) ↔
      ∃ p ∈ decl.params, Offends d identified p := by
  simp only [check_eq_error_iff, violations_eq]
  constructor
  · rintro ⟨_, rfl, nonempty⟩
    obtain ⟨p, member⟩ := List.exists_mem_of_ne_nil _ (mt (congrArg (List.map _)) nonempty)
    exact ⟨p, List.mem_of_mem_filter member, by simpa using List.of_mem_filter member⟩
  · rintro ⟨p, member, offends⟩
    have kept : p ∈ decl.params.filter (Offends d identified) :=
      List.mem_filter.mpr ⟨member, by simpa using offends⟩
    refine ⟨_, rfl, ?_⟩
    intro empty
    rw [List.map_eq_nil_iff.mp empty] at kept
    exact absurd kept List.not_mem_nil

end Signature

theorem Role.ofDirective_of_function {d : Directive} (onFunction : d.target = .function)
    (a : Attribute) : ofDirective d a = .fragment d a := by
  cases d <;> first | rfl | cases onFunction

theorem Contribution.ofVisit_function (scopes : List String) {decl : FunctionDecl}
    {d : Directive} {a : Attribute} (directed : Directive.find? decl.attributes = some (d, a))
    (onFunction : d.target = .function) :
    ofVisit ⟨scopes, .function decl⟩ = ofFunction scopes d decl a := by
  have role : Role.ofMember (.function decl) (Visit.isTopLevel ⟨scopes, .function decl⟩) =
      .ok (.fragment d a) := by
    rw [Role.ofMember, Member.attributes, directed, ← Role.ofDirective_of_function onFunction]
    exact if_pos onFunction
  rw [ofVisit, role]
  rfl

namespace SymbolTable

theorem ignoresReports_foldl_contribute (cs : List Contribution) :
    IgnoresReports fun t => cs.foldl contribute t := by
  intro t earlier
  have respects : Respects { earlier := earlier } fun t => cs.foldl contribute t :=
    Respects.foldl fun c _ => respects_contribute _ fun _ => rfl
  exact respects t

/-- Entering contributions with a refusal in front adds the reports of the refusal, in front of
whatever the contributions report, and nothing else. -/
theorem foldl_contribute_refused (t : SymbolTable) (reports : Diagnostics)
    (cs : List Contribution) :
    let u := cs.foldl contribute (t.withDiagnostics [])
    cs.foldl contribute t = u.behind t.diagnostics ∧
      cs.foldl contribute (t.contribute (.refused reports)) =
        u.behind (t.diagnostics ++ reports) := by
  intro u
  have front (earlier : Diagnostics) :
      t.withDiagnostics earlier = (t.withDiagnostics []).behind earlier := by
    rw [behind, diagnostics_withDiagnostics, List.append_nil]
    rfl
  constructor
  · rw [← ignoresReports_foldl_contribute cs (t.withDiagnostics []) t.diagnostics, ← front]
    rfl
  · rw [← ignoresReports_foldl_contribute cs (t.withDiagnostics []), ← front]
    rfl

/-- What is made of members of which one is refused is what is made of the members without it,
with the reports of the refusal where the member is visited. -/
theorem collect_refused {v : Visit} (leaf : v.member.sort ≠ .type) {reports : Diagnostics}
    (refused : Contribution.ofVisit v = .refused reports) {members : List Member}
    {before after : List Visit} (visits : Visit.ofMembers [] members = before ++ v :: after) :
    ∃ kept, v.Removal [] members before kept ∧
      ∀ t : SymbolTable, ∃ later,
        let earlier := ((before.map Contribution.ofVisit).foldl contribute t).diagnostics
        (t.collect members).diagnostics = earlier ++ reports ++ later ∧
          t.collect kept = (t.collect members).withDiagnostics (earlier ++ later) := by
  obtain ⟨kept, removal⟩ := Visit.exists_removal_ofMembers leaf members visits
  refine ⟨kept, removal, ?_⟩
  intro t
  obtain ⟨behind, whole, part⟩ := removal.contributions
  generalize entered : (before.map Contribution.ofVisit).foldl contribute t = u
  obtain ⟨without, present⟩ := u.foldl_contribute_refused reports behind
  let rest := behind.foldl contribute (u.withDiagnostics [])
  have all : t.collect members = rest.behind (u.diagnostics ++ reports) := by
    rw [← present, ← refused, collect_eq_foldl, Contribution.ofMembers, whole, List.foldl_append,
      entered, List.foldl_cons]
  have others : t.collect kept = rest.behind u.diagnostics := by
    rw [← without, collect_eq_foldl, Contribution.ofMembers, part, List.foldl_append, entered]
  refine ⟨rest.diagnostics, congrArg diagnostics all, ?_⟩
  rw [others, all]
  rfl

end SymbolTable

namespace Signature

/-- The check of a signature fails if and only if some parameter offends. It then lists one
violation for each parameter that does, in their order and where they stand. The collector enters
nothing for the function: it adds these violations to the reports, and what it makes of all members
is what it makes of them without the function, with the reports of the function in their place. -/
theorem violations_accumulate {d : Directive} (onFunction : d.target = .function)
    (decl : FunctionDecl) (identified : Bool) :
    ((∃ found, check d decl identified = .error found) ↔
      ∃ p ∈ decl.params, Offends d identified p) ∧
    ∀ found, check d decl identified = .error found →
      found = ((decl.params.filter (Offends d identified)).map fun p =>
        ⟨offence d identified p, p.location⟩) ∧
      ∀ a scopes, Directive.find? decl.attributes = some (d, a) →
        (a.labeled? "identified_action").isSome = identified →
        let v : Visit := ⟨scopes, .function decl⟩
        let reports : Diagnostics := found.map fun w => .ofProblem w.problem w.location
        (∀ t : SymbolTable, t.contribute (Contribution.ofVisit v) =
          t.withDiagnostics (t.diagnostics ++ reports)) ∧
        ∀ members before after, Visit.ofMembers [] members = before ++ v :: after →
          ∃ kept, v.Removal [] members before kept ∧
            ∀ t : SymbolTable, ∃ later,
              let earlier := ((before.map Contribution.ofVisit).foldl SymbolTable.contribute
                t).diagnostics
              (t.collect members).diagnostics = earlier ++ reports ++ later ∧
                t.collect kept = (t.collect members).withDiagnostics (earlier ++ later) := by
  refine ⟨exists_check_eq_error_iff d identified decl, ?_⟩
  intro found failed
  have listed := ((check_eq_error_iff d identified decl found).mp failed).1
  refine ⟨listed.symm.trans (violations_eq d identified decl), ?_⟩
  rintro a scopes directed rfl v reports
  have refused : Contribution.ofVisit v = .refused reports := by
    rw [Contribution.ofVisit_function scopes directed onFunction, Contribution.ofFunction, failed]
  constructor
  · intro t
    rw [refused]
    rfl
  · intro members before after visits
    exact SymbolTable.collect_refused MemberSort.noConfusion refused visits

/-- A body that asks for more than it can be given: it changes the action in place, and has an id
and a parameter of its own. -/
def greedy : FunctionDecl where
  name := "reduce"
  attributes := [{ name := "compose_body", location := ⟨2, 5⟩ }]
  params := [⟨"state", "State", true, ⟨3, 9⟩⟩, ⟨"action", "Action", true, ⟨4, 9⟩⟩,
    ⟨"id", "ID", false, ⟨5, 9⟩⟩, ⟨"extra", "Int", false, ⟨6, 9⟩⟩]
  returnType := none
  location := ⟨3, 5⟩

/-- Three of the four parameters are reported, and behind it another function is as good as if it
were alone. -/
theorem violations_accumulate_greedy :
    let tick : FunctionDecl :=
      { name := "tick", attributes := [{ name := "compose_body" }], returnType := none }
    let table : SymbolTable := { module := "Counter" }
    let reports : Diagnostics := [
      .ofProblem (.mutableParameter "compose_body" "action") ⟨4, 9⟩,
      .ofProblem (.idWithoutIdentifiedAction "compose_body") ⟨5, 9⟩,
      .ofProblem (.parameterNotAllowed "compose_body" "extra") ⟨6, 9⟩]
    (table.collect [.function greedy, .function tick]).diagnostics = reports ∧
      table.collect [.function tick] =
        (table.collect [.function greedy, .function tick]).withDiagnostics [] := by
  intro tick table reports
  obtain ⟨_, failing⟩ := violations_accumulate (d := .body) rfl greedy false
  obtain ⟨_, entered⟩ := failing [
    ⟨.mutableParameter "compose_body" "action", ⟨4, 9⟩⟩,
    ⟨.idWithoutIdentifiedAction "compose_body", ⟨5, 9⟩⟩,
    ⟨.parameterNotAllowed "compose_body" "extra", ⟨6, 9⟩⟩] rfl
  obtain ⟨_, whole⟩ := entered { name := "compose_body", location := ⟨2, 5⟩ } [] rfl rfl
  obtain ⟨kept, removal, tables⟩ :=
    whole [.function greedy, .function tick] [] [⟨[], .function tick⟩] rfl
  have silent : (table.collect [.function greedy, .function tick]).diagnostics = reports := rfl
  obtain ⟨later, all, without⟩ := tables table
  have nothing : later = [] := List.self_eq_append_right.mp (silent.symm.trans all)
  rw [nothing] at without
  cases removal with
  | here => exact ⟨silent, without⟩

end Signature

end StateWeave
