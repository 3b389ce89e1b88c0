import StateWeave.Proofs.Contributions

/-!
# First come, first served

Children, actions and queued scopes ask for names out of one pool. A request whose name is
free enters all that follows from it; a request whose name is taken enters nothing and is
reported with a note that points at the first request for the name. `withRequests` says what
the requests that are let in enter, so that a table after any number of requests is one
equation in those that came first under their names.
-/

namespace StateWeave

open Admission

/-- The report on a name that is asked for again. -/
def Diagnostic.ofDuplicate (duplicate : Problem) (name : String) (location first : Location) :
    Diagnostic where
  severity := .error
  kind := .duplicateName
  message := duplicate.message
  location := location
  notes := [⟨SymbolTable.duplicateNote name, first⟩]

/-- A request for a name, with what is to be entered under it. -/
inductive Request where
  | child (child : NamedChild) (location : Location)
  | action (member : ActionMember) (location : Location)
  | scope (pending : PendingScope)
  deriving Inhabited

namespace Request

def name : Request → String
  | child c _ => c.name
  | action a _ => a.name
  | scope s => s.name

def location : Request → Location
  | child _ location => location
  | action _ location => location
  | scope s => s.location

/-- What a request is turned away as. -/
def duplicate : Request → Problem
  | child c _ => .duplicateChild c.name
  | action a _ => .duplicateAction a.name
  | scope s => .duplicateScope s.name

def child? : Request → Option NamedChild
  | child c _ => some c
  | _ => none

def action? : Request → Option ActionMember
  | child c _ => c.action?
  | action a _ => some a
  | scope _ => none

def pending? : Request → Option PendingScope
  | scope s => some s
  | _ => none

/-- The report on a request whose name was given out at `first`. -/
def refusal (r : Request) (first : Location) : Diagnostic :=
  .ofDuplicate r.duplicate r.name r.location first

/-- Make a request. The answer tells whether the name was free. -/
def apply (r : Request) (t : SymbolTable) : SymbolTable × Bool :=
  match r with
  | child c location => t.addChild c.name c.embedding c.initialValue location
  | action a location => t.addAction a.name a.type location
  | scope s => t.queueScope s

def enter (r : Request) (t : SymbolTable) : SymbolTable :=
  match r with
  | child c _ => t.pushChild c.name c.embedding c.initialValue
  | action a _ => { t with actionMembers := t.actionMembers ++ [a] }
  | scope s => { t with pendingScopes := t.pendingScopes ++ [s] }

/-- Every request is a registration. -/
theorem apply_eq (r : Request) (t : SymbolTable) :
    r.apply t = t.register r.name r.location r.duplicate r.enter := by
  cases r <;> rfl

theorem kind_duplicate (r : Request) : r.duplicate.kind = .duplicateName := by
  cases r <;> rfl

/-- The requests that are the first for their names, in order. -/
def firsts (rs : List Request) : List Request := admitted (some ∘ name) [] rs

theorem sublist_firsts (rs : List Request) : (firsts rs).Sublist rs := sublist_admitted [] rs

theorem nodup_names_firsts (rs : List Request) : ((firsts rs).map name).Nodup := by
  have distinct : ([] ++ (firsts rs).filterMap (some ∘ name)).Nodup :=
    nodup_names_admitted List.nodup_nil rs
  rwa [List.nil_append, List.filterMap_eq_map] at distinct

theorem mem_firsts_iff {rs : List Request} {r : Request} :
    r ∈ firsts rs ↔ rs.find? (fun s => s.name = r.name) = some r := by
  have asked : (some ∘ name) r = some r.name := rfl
  have first : r ∈ firsts rs ↔ rs.find? (fun s => (some ∘ name) s = some r.name) = some r :=
    mem_admitted_iff_find? asked List.not_mem_nil
  simpa using first

theorem find?_firsts (rs : List Request) (name : String) :
    (firsts rs).find? (fun r => r.name = name) = rs.find? (fun r => r.name = name) := by
  cases found : rs.find? (fun r => r.name = name) with
  | none =>
      rw [List.find?_eq_none] at found ⊢
      exact fun r member => found r ((sublist_firsts rs).mem member)
  | some r =>
      have same : r.name = name := by simpa using List.find?_some found
      have member : r ∈ firsts rs := mem_firsts_iff.mpr (same ▸ found)
      cases other : (firsts rs).find? (fun r => r.name = name) with
      | none => exact absurd same (by simpa using List.find?_eq_none.mp other r member)
      | some s =>
          have also : s.name = name := by simpa using List.find?_some other
          have first := mem_firsts_iff.mp (List.mem_of_find?_eq_some other)
          rw [also, found] at first
          exact congrArg some (Option.some.inj first).symm

theorem name_of_action? {r : Request} {a : ActionMember} (h : r.action? = some a) :
    r.name = a.name := by
  cases r with
  | child c _ => exact (NamedChild.name_of_action? h).symm
  | action => cases h; rfl
  | scope => cases h

theorem name_of_child? {r : Request} {c : NamedChild} (h : r.child? = some c) :
    r.name = c.name := by
  cases r <;> cases h
  rfl

theorem name_of_pending? {r : Request} {s : PendingScope} (h : r.pending? = some s) :
    r.name = s.name := by
  cases r <;> cases h
  rfl

/-- What is read off requests under their names is under distinct names if they are. -/
theorem nodup_labels {α : Type} {f : Request → Option α} {label : α → String}
    (named : ∀ {r : Request} {x : α}, f r = some x → r.name = label x) {rs : List Request}
    (distinct : (rs.map name).Nodup) : ((rs.filterMap f).map label).Nodup :=
  (sublist_labels (fun _ _ h => (named h).symm) _).nodup distinct

theorem lookup_places (rs : List Request) (name : String) :
    (rs.map fun r => (r.name, r.location)).lookup name =
      (rs.find? fun r => r.name = name).map location := by
  induction rs with
  | nil => rfl
  | cons r rs ih =>
      by_cases same : r.name = name
      · simp [same]
      · have differs : (name == r.name) = false := by simpa using Ne.symm same
        simp [List.lookup_cons, differs, same, ih]

end Request

namespace SymbolTable

theorem reportDuplicate_eq {duplicate : Problem} (known : duplicate.kind = .duplicateName)
    (t : SymbolTable) (name : String) (location first : Location) :
    t.reportDuplicate duplicate name location first =
      t.withDiagnostics (t.diagnostics ++ [.ofDuplicate duplicate name location first]) := by
  simp [reportDuplicate, withDiagnostics, Diagnostic.ofDuplicate, Diagnostic.ofProblem,
    Diagnostic.withNote, Problem.isFatal, known, ProblemKind.isFatal]

/-- A table with requests behind its own entries, all of which are let in. -/
def withRequests (t : SymbolTable) (rs : List Request) : SymbolTable :=
  { t with
    places := t.places ++ rs.map fun r => (r.name, r.location)
    stateMembers := t.stateMembers ++ (rs.filterMap Request.child?).map NamedChild.member
    actionMembers := t.actionMembers ++ rs.filterMap Request.action?
    scopeCases := t.scopeCases ++ t.casesOf (rs.filterMap Request.child?)
    scopes := t.scopes ++ (rs.filterMap Request.child?).filterMap t.scopeOf?
    pendingScopes := t.pendingScopes ++ rs.filterMap Request.pending? }

@[simp] theorem withRequests_nil (t : SymbolTable) : t.withRequests [] = t := by
  simp [withRequests, casesOf]

theorem withRequests_append (t : SymbolTable) (rs ss : List Request) :
    t.withRequests (rs ++ ss) = (t.withRequests rs).withRequests ss := by
  have cases : (t.withRequests rs).casesOf = t.casesOf := rfl
  have scopes : (t.withRequests rs).scopeOf? = t.scopeOf? := rfl
  rw [withRequests, withRequests, cases, scopes, withRequests]
  simp only [List.map_append, List.filterMap_append, casesOf_append, List.append_assoc]

theorem names_withRequests (t : SymbolTable) (rs : List Request) :
    (t.withRequests rs).names = t.names ++ rs.map Request.name := by
  simp [names, withRequests, Function.comp_def]

theorem apply_of_taken {t : SymbolTable} {r : Request} {first : Location}
    (taken : t.firstPlace? r.name = some first) :
    r.apply t = (t.withDiagnostics (t.diagnostics ++ [r.refusal first]), false) := by
  rw [Request.apply_eq, register_of_taken taken, reportDuplicate_eq r.kind_duplicate]
  rfl

theorem enter_reserve (t : SymbolTable) (r : Request) :
    r.enter (t.reserve r.name r.location) = t.withRequests [r] := by
  cases r with
  | child c location =>
      have queued : t.pendingScopes ++ [Request.child c location].filterMap Request.pending? =
          t.pendingScopes := List.append_nil _
      rw [withRequests, queued]
      exact pushChild_eq (t.reserve c.name location) c
  | action a location =>
      simp [withRequests, Request.enter, Request.name, Request.location, reserve, Request.child?,
        Request.action?, Request.pending?, casesOf]
  | scope s =>
      simp [withRequests, Request.enter, Request.name, Request.location, reserve, Request.child?,
        Request.action?, Request.pending?, casesOf]

theorem apply_of_free {t : SymbolTable} {r : Request} (free : t.firstPlace? r.name = none) :
    r.apply t = (t.withRequests [r], true) := by
  rw [Request.apply_eq, register_of_free free, enter_reserve]

def afterRequests (t : SymbolTable) (rs : List Request) : SymbolTable :=
  rs.foldl (fun t r => (r.apply t).1) t

/-- A request adds what it enters if nobody asked for its name, and a report otherwise. -/
theorem fst_apply_eq (t : SymbolTable) (r : Request) :
    ∃ diagnostics,
      (r.apply t).1 =
        (t.withRequests (admitted (some ∘ Request.name) t.names [r])).withDiagnostics
          diagnostics := by
  have asked : (some ∘ Request.name) r = some r.name := rfl
  cases place : t.firstPlace? r.name with
  | none =>
      have free := (isFree_of_some asked t.names).mpr (firstPlace?_eq_none_iff.mp place)
      rw [apply_of_free place, admitted_singleton_of_free free]
      exact ⟨t.diagnostics, rfl⟩
  | some first =>
      have old : r.name ∈ t.names := by
        by_contra free
        rw [firstPlace?_eq_none_iff.mpr free] at place
        cases place
      rw [apply_of_taken place, admitted_singleton_of_taken (isFree_eq_false_of_taken asked old),
        withRequests_nil]
      exact ⟨_, rfl⟩

/-- Any number of requests add what those that are let in enter. -/
theorem afterRequests_eq (t : SymbolTable) (rs : List Request) :
    ∃ diagnostics,
      t.afterRequests rs =
        (t.withRequests (admitted (some ∘ Request.name) t.names rs)).withDiagnostics
          diagnostics := by
  induction rs generalizing t with
  | nil =>
      refine ⟨t.diagnostics, ?_⟩
      rw [admitted, withRequests_nil]
      rfl
  | cons r rs ih =>
      obtain ⟨noted, first⟩ := fst_apply_eq t r
      obtain ⟨diagnostics, rest⟩ := ih (r.apply t).1
      refine ⟨diagnostics, ?_⟩
      have names : (r.apply t).1.names =
          t.names ++ (admitted (some ∘ Request.name) t.names [r]).map Request.name := by
        rw [first]
        exact names_withRequests t _
      change (r.apply t).1.afterRequests rs = _
      rw [rest, names, admitted_cons t.names r rs, List.filterMap_eq_map, withRequests_append, first]
      rfl

/-- The names, members and scopes of a table are what these requests enter, and nothing else. -/
structure ConsistsOf (t : SymbolTable) (rs : List Request) : Prop where
  places : t.places = rs.map fun r => (r.name, r.location)
  stateMembers : t.stateMembers = (rs.filterMap Request.child?).map NamedChild.member
  actionMembers : t.actionMembers = rs.filterMap Request.action?
  scopeCases : t.scopeCases = t.casesOf (rs.filterMap Request.child?)
  scopes : t.scopes = (rs.filterMap Request.child?).filterMap t.scopeOf?
  pendingScopes : t.pendingScopes = rs.filterMap Request.pending?

namespace ConsistsOf

variable {t : SymbolTable} {rs : List Request}

theorem firstPlace? (entries : t.ConsistsOf rs) (name : String) :
    t.firstPlace? name = (rs.find? fun r => r.name = name).map Request.location := by
  rw [SymbolTable.firstPlace?, entries.places, Request.lookup_places]

variable (entries : t.ConsistsOf rs) (distinct : (rs.map Request.name).Nodup)

include entries distinct

theorem nodup_stateMembers : (t.stateMembers.map StateMember.name).Nodup := by
  rw [entries.stateMembers, List.map_map]
  exact Request.nodup_labels Request.name_of_child? distinct

theorem nodup_actionMembers : (t.actionMembers.map ActionMember.name).Nodup := by
  rw [entries.actionMembers]
  exact Request.nodup_labels Request.name_of_action? distinct

theorem nodup_scopeCases : (t.scopeCases.map ScopeCase.name).Nodup := by
  rw [entries.scopeCases, casesOf]
  split
  · rw [List.map_map]
    exact Request.nodup_labels Request.name_of_child? distinct
  · exact List.nodup_nil

theorem nodup_scopes : (t.scopes.map Scope.name).Nodup := by
  have children := Request.nodup_labels Request.name_of_child? distinct
  rw [entries.scopes]
  exact (sublist_labels (fun _ _ h => name_of_scopeOf? h) _).nodup children

theorem nodup_pendingScopes : (t.pendingScopes.map PendingScope.name).Nodup := by
  rw [entries.pendingScopes]
  exact Request.nodup_labels Request.name_of_pending? distinct

end ConsistsOf

variable (module : String) (access : Access) (placement : Placement) (shape : StateShape)
  (policy : Policy) (location : Location) (placeholders : PlaceholderRegistry)

/-- A table in which nothing has been entered yet, but for the placeholders that it is
handed from outside. -/
def fresh : SymbolTable where
  module := module
  access := access
  placement := placement
  shape := shape
  policy := policy
  location := location
  placeholders := placeholders

/-- Of the requests that are made to a fresh table, those that come first under their names are
let in, and the others are only reported. -/
theorem afterRequests_fresh_eq (calls : List Request) :
    let start := fresh module access placement shape policy location placeholders
    start.afterRequests calls =
      (start.withRequests (Request.firsts calls)).withDiagnostics
        (start.afterRequests calls).diagnostics := by
  intro start
  obtain ⟨diagnostics, entered⟩ := afterRequests_eq start calls
  rw [entered]
  rfl

theorem consistsOf_afterRequests_fresh (calls : List Request) :
    ((fresh module access placement shape policy location placeholders).afterRequests
      calls).ConsistsOf (Request.firsts calls) := by
  rw [afterRequests_fresh_eq]
  exact ⟨rfl, rfl, rfl, rfl, rfl, rfl⟩

/-- A request that follows others is turned away if one of them was for its name. -/
theorem apply_afterRequests_fresh (calls : List Request) (next : Request) :
    let t := (fresh module access placement shape policy location placeholders).afterRequests calls
    next.apply t =
      match calls.find? fun r => r.name = next.name with
      | some first =>
        (t.withDiagnostics (t.diagnostics ++ [next.refusal first.location]), false)
      | none => (t.withRequests [next], true) := by
  intro t
  have entries : t.ConsistsOf (Request.firsts calls) :=
    consistsOf_afterRequests_fresh module access placement shape policy location placeholders calls
  have place := entries.firstPlace? next.name
  rw [Request.find?_firsts] at place
  cases found : calls.find? fun r => r.name = next.name with
  | none =>
      rw [found] at place
      exact apply_of_free place
  | some first =>
      rw [found] at place
      exact apply_of_taken place

/-- Names are given out once. A further request is turned away with one report, which points
at the first request for the name, or else enters what it asks for; and a table is made of
the requests that came first under their names, in their order, each list of it under
distinct names. -/
theorem first_registration_wins (calls : List Request) (next : Request) :
    let start := fresh module access placement shape policy location placeholders
    let t := start.afterRequests calls
    let firsts := Request.firsts calls
    next.apply t =
        (match calls.find? fun r => r.name = next.name with
        | some first =>
          (t.withDiagnostics (t.diagnostics ++ [next.refusal first.location]), false)
        | none => (t.withRequests [next], true)) ∧
      t = (start.withRequests firsts).withDiagnostics t.diagnostics ∧
      firsts.Sublist calls ∧
      (∀ r, r ∈ firsts ↔ calls.find? (fun s => s.name = r.name) = some r) ∧
      (t.stateMembers.map StateMember.name).Nodup ∧
      (t.actionMembers.map ActionMember.name).Nodup ∧
      (t.scopeCases.map ScopeCase.name).Nodup ∧
      (t.scopes.map Scope.name).Nodup ∧
      (t.pendingScopes.map PendingScope.name).Nodup := by
  intro start t firsts
  have entries : t.ConsistsOf firsts :=
    consistsOf_afterRequests_fresh module access placement shape policy location placeholders calls
  have distinct : (firsts.map Request.name).Nodup := Request.nodup_names_firsts calls
  refine ⟨?_, ?_, Request.sublist_firsts calls, fun r => Request.mem_firsts_iff,
    entries.nodup_stateMembers distinct, entries.nodup_actionMembers distinct,
    entries.nodup_scopeCases distinct, entries.nodup_scopes distinct,
    entries.nodup_pendingScopes distinct⟩
  · exact apply_afterRequests_fresh module access placement shape policy location placeholders
      calls next
  · exact afterRequests_fresh_eq module access placement shape policy location placeholders calls

end SymbolTable

end StateWeave
