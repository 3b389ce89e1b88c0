import Mathlib.Data.List.Induction
import StateWeave.Proofs.Admission
import StateWeave.Proofs.Registry
import StateWeave.SymbolTable.Children

/-!
# What the entries of a composition add to a table

An entry that is let in brings a child, or a placeholder whose child comes later, and
perhaps a stage. `addEntries_eq` says that a table with entries added is the table
before, with the children and stages of the admitted entries behind its own, and with
the placeholders of all entries declared: those of a list are declared even if the
list itself is turned away.

Everything else is left as it was, which is why the statement is one equation between
tables and not one for each field.
-/

namespace StateWeave

open Admission

/-- A child under its name, as it enters a table. -/
structure NamedChild where
  name : String
  embedding : Embedding
  initialValue : Option String
  deriving Inhabited

namespace NamedChild

def member (c : NamedChild) : StateMember :=
  SymbolTable.stateMemberFor c.name c.embedding c.initialValue

def action? (c : NamedChild) : Option ActionMember :=
  c.embedding.actionType?.map (ActionMember.mk c.name)

def scopeCase (c : NamedChild) : ScopeCase :=
  ⟨c.name, c.embedding, Path.state.case c.name, Path.action.case c.name⟩

@[simp] theorem name_member (c : NamedChild) : c.member.name = c.name := rfl

@[simp] theorem embedding_member (c : NamedChild) : c.member.embedding = c.embedding := rfl

@[simp] theorem name_scopeCase (c : NamedChild) : c.scopeCase.name = c.name := rfl

theorem name_of_action? {c : NamedChild} {a : ActionMember} (h : c.action? = some a) :
    a.name = c.name := by
  obtain ⟨type, _, rfl⟩ := Option.map_eq_some_iff.mp h
  rfl

end NamedChild

def CompositionOption.isBindable : CompositionOption → Bool
  | .bindable => true
  | _ => false

def Composition.isBindable (c : Composition) : Bool := c.options.any CompositionOption.isBindable

namespace ChildPlan

def name? : ChildPlan → Option String
  | .refused _ => none
  | .placeholder _ name => some name
  | .list name _ _ => some name
  | .child name _ _ _ => some name

/-- The child that a plan enters at once. -/
def child? : ChildPlan → Option NamedChild
  | .list name e _ => some ⟨name, e, none⟩
  | .child name e initialValue _ => some ⟨name, e, initialValue⟩
  | _ => none

theorem name?_of_child? {plan : ChildPlan} {c : NamedChild} (h : plan.child? = some c) :
    plan.name? = some c.name := by
  cases plan with
  | refused => cases h
  | placeholder => cases h
  | list => cases h; rfl
  | child => cases h; rfl

end ChildPlan

namespace ChildEntry

variable (policy : Policy) (resolve : Resolver)

/-- The name that an entry asks for; a refused entry asks for none. -/
def claim? (e : ChildEntry) : Option String := (e.plan policy resolve).name?

def child? (e : ChildEntry) : Option NamedChild := (e.plan policy resolve).child?

/-- The stage that an entry asks for. Lists are run from a root module only, and the
stage of a placeholder is asked for before it is known whether anything binds it. -/
def stage? (isRoot : Bool) (e : ChildEntry) : Option ChildStage :=
  match e.plan policy resolve with
  | .refused _ => none
  | .placeholder _ name => if e.presents then some ⟨.ifLet, name, true, none, []⟩ else none
  | .list name embedding _ => if isRoot then ChildStage.ofEmbedding? name embedding else none
  | .child name embedding _ _ => ChildStage.ofEmbedding? name embedding

def place? (e : ChildEntry) : Option (String × Location) :=
  (e.claim? policy resolve).map fun name => (name, e.location)

/-- The placeholder that an entry of a list declares for the parent. -/
def listed? (list : String) (e : ChildEntry) : Option Placeholder :=
  match PlaceholderKind.ofChild? e.kind, e.name? with
  | some kind, some name =>
    some (SymbolTable.placeholderOf (Naming.nestedKey list name) kind e resolve)
  | _, _ => none

/-- The placeholders that an entry declares. Its own needs a free name. -/
def declared (free : Bool) (e : ChildEntry) : List Placeholder :=
  match e.plan policy resolve with
  | .placeholder kind name =>
    if free then [SymbolTable.placeholderOf name kind e resolve] else []
  | .list name _ children => children.filterMap (listed? resolve name)
  | _ => []

/-- The placeholder that an entry declares under its own name. -/
def own? (e : ChildEntry) : Option Placeholder :=
  match e.plan policy resolve with
  | .placeholder kind name => some (SymbolTable.placeholderOf name kind e resolve)
  | _ => none

/-- All placeholders that entries declare, while some names are taken. -/
def declarations (taken : List String) : List ChildEntry → List Placeholder
  | [] => []
  | e :: rest =>
    e.declared policy resolve (isFree (claim? policy resolve) taken e) ++
      declarations
        (taken ++ (admitted (claim? policy resolve) taken [e]).filterMap (claim? policy resolve))
        rest

variable {policy resolve}

theorem claim?_of_child? {e : ChildEntry} {c : NamedChild}
    (h : e.child? policy resolve = some c) : e.claim? policy resolve = some c.name :=
  ChildPlan.name?_of_child? h

theorem claim?_of_own? {e : ChildEntry} {p : Placeholder}
    (h : e.own? policy resolve = some p) : e.claim? policy resolve = some p.name := by
  rw [own?] at h
  split at h
  · next plan =>
      cases h
      rw [claim?, plan]
      rfl
  · cases h

theorem embedding_of_planOf {e : ChildEntry} {name : String} {embedding : Embedding}
    {c : NamedChild} (h : (e.planOf name embedding).child? = some c) :
    c.embedding = embedding := by
  cases embedding <;>
    cases h <;>
    rfl

theorem name_of_planOf {e : ChildEntry} {name : String} {embedding : Embedding}
    {c : NamedChild} (h : (e.planOf name embedding).child? = some c) : c.name = name := by
  cases embedding <;>
    cases h <;>
    rfl

theorem typedEmbedding_cases {e : ChildEntry} {name : String} {type : TypeRef}
    {embedding : Embedding} (h : e.typedEmbedding resolve name type = .ok embedding) :
    (e.kind = .state ∧ embedding = e.stateEmbedding resolve type) ∨
      ∃ module, embedding = e.moduleEmbedding type module := by
  rw [typedEmbedding] at h
  repeat' split at h
  · next state => exact Or.inl ⟨state, (Except.ok.inj h).symm⟩
  · cases h
  · exact Or.inr ⟨_, (Except.ok.inj h).symm⟩

/-- Everything that an entry can embed: a list, nothing, a value of its type or a module. -/
theorem child?_cases {e : ChildEntry} {c : NamedChild} (h : e.child? policy resolve = some c) :
    (∃ module children, e.kind = .destination module children ∧
        c.embedding = .destination (module.getD policy.destinationModule) children) ∨
      (∃ module children, e.kind = .navigationStack module children ∧
        c.embedding = .navigationStack (module.getD policy.stackModule) children) ∨
      c.embedding = .stateless ∨
      (∃ type, c.embedding = e.stateEmbedding resolve type ∧ e.kind = .state ∧
        e.name? = some c.name ∧ e.type = some type) ∨
      ∃ type module, c.embedding = e.moduleEmbedding type module := by
  rw [child?, plan] at h
  repeat' split at h
  · next module children kind =>
      cases h
      exact Or.inl ⟨module, children, kind, rfl⟩
  · next module children kind =>
      cases h
      exact Or.inr (Or.inl ⟨module, children, kind, rfl⟩)
  · cases h
  · cases h
  · exact Or.inr (Or.inr (Or.inl (embedding_of_planOf h)))
  · next named _ _ _ _ =>
      rw [typedPlan] at h
      repeat' split at h
      · cases h
      · next type given _ _ typed =>
          rw [embedding_of_planOf h, name_of_planOf h]
          rcases typedEmbedding_cases typed with ⟨state, value⟩ | ⟨module, made⟩
          · exact Or.inr (Or.inr (Or.inr (Or.inl ⟨type, value, state, named, given⟩)))
          · exact Or.inr (Or.inr (Or.inr (Or.inr ⟨_, module, made⟩)))
      · cases h

theorem isLocal_of_listed? {list : String} {e : ChildEntry} {p : Placeholder}
    (h : e.listed? resolve list = some p) : p.isLocal = false := by
  rw [listed?] at h
  split at h
  · cases h
    exact Placeholder.isLocal_of_name rfl
  · cases h

/-- Of the placeholders that an entry declares only its own can belong to the module. -/
theorem filter_isLocal_declared (free : Bool) (e : ChildEntry) :
    (e.declared policy resolve free).filter Placeholder.isLocal =
      if free then (e.own? policy resolve).toList.filter Placeholder.isLocal else [] := by
  rw [declared, own?]
  cases e.plan policy resolve with
  | refused => cases free <;> rfl
  | placeholder => cases free <;> rfl
  | child => cases free <;> rfl
  | list name embedding children =>
      have nested :
          (children.filterMap (listed? resolve name)).filter Placeholder.isLocal = [] := by
        rw [List.filter_eq_nil_iff]
        intro p member
        obtain ⟨entry, _, found⟩ := List.mem_filterMap.mp member
        simp [isLocal_of_listed? found]
      cases free <;> exact nested

/-- The module's own placeholders are those of the entries that are let in. -/
theorem filter_isLocal_declarations (taken : List String) (es : List ChildEntry) :
    (declarations policy resolve taken es).filter Placeholder.isLocal =
      ((admitted (claim? policy resolve) taken es).filterMap (own? policy resolve)).filter
        Placeholder.isLocal := by
  induction es generalizing taken with
  | nil => rfl
  | cons e es ih =>
      rw [declarations, List.filter_append, filter_isLocal_declared, ih, admitted_cons taken e es,
        List.filterMap_append, List.filter_append]
      cases free : isFree (claim? policy resolve) taken e with
      | false => simp [admitted_singleton_of_taken free]
      | true =>
          rw [admitted_singleton_of_free free]
          cases own : e.own? policy resolve <;> simp [own]

end ChildEntry

namespace SymbolTable

def names (t : SymbolTable) : List String := t.places.map Prod.fst

theorem firstPlace?_eq_none_iff {t : SymbolTable} {name : String} :
    t.firstPlace? name = none ↔ name ∉ t.names := by
  rw [firstPlace?, names, List.lookup_eq_none_iff]
  constructor
  · intro h taken
    obtain ⟨place, member, rfl⟩ := List.mem_map.mp taken
    simpa using h place member
  · intro h place member
    have : name ≠ place.1 := fun same => h (same ▸ List.mem_map_of_mem member)
    simpa using this

/-! ## Adding children and stages -/

def scopeOf? (t : SymbolTable) (c : NamedChild) : Option Scope :=
  c.embedding.actionType?.map (t.scopeFor c.name c.embedding)

theorem name_of_scopeOf? {t : SymbolTable} {c : NamedChild} {s : Scope}
    (h : t.scopeOf? c = some s) : s.name = c.name := by
  obtain ⟨type, _, rfl⟩ := Option.map_eq_some_iff.mp h
  rfl

/-- The cases that children add to a table that switches over variant state. -/
def casesOf (t : SymbolTable) (children : List NamedChild) : List ScopeCase :=
  if t.isVariant then children.map NamedChild.scopeCase else []

theorem casesOf_append (t : SymbolTable) (cs ds : List NamedChild) :
    t.casesOf (cs ++ ds) = t.casesOf cs ++ t.casesOf ds := by
  cases h : t.isVariant <;> simp [casesOf, h]

def withChildren (t : SymbolTable) (children : List NamedChild) : SymbolTable :=
  { t with
    stateMembers := t.stateMembers ++ children.map NamedChild.member
    actionMembers := t.actionMembers ++ children.filterMap NamedChild.action?
    scopeCases := t.scopeCases ++ t.casesOf children
    scopes := t.scopes ++ children.filterMap t.scopeOf? }

def withStages (t : SymbolTable) (stages : List ChildStage) : SymbolTable :=
  { t with
    childStages := t.childStages ++ stages.filter fun stage => stage.kind = .scope
    guardedStages := t.guardedStages ++ stages.filter fun stage => stage.kind ≠ .scope }

def withPlaces (t : SymbolTable) (places : List (String × Location)) : SymbolTable :=
  { t with places := t.places ++ places }

/-- A table with entries behind its own, all of which are let in. -/
def withEntries (t : SymbolTable) (resolve : Resolver) (entries : List ChildEntry) :
    SymbolTable :=
  ((t.withPlaces (entries.filterMap (ChildEntry.place? t.policy resolve))).withChildren
      (entries.filterMap (ChildEntry.child? t.policy resolve))).withStages
    (entries.filterMap (ChildEntry.stage? t.policy resolve t.placement.isRoot))

def withPlaceholders (t : SymbolTable) (placeholders : PlaceholderRegistry) : SymbolTable :=
  { t with placeholders := placeholders }

def withDiagnostics (t : SymbolTable) (diagnostics : Diagnostics) : SymbolTable :=
  { t with diagnostics := diagnostics }

@[simp] theorem placeholders_withPlaceholders (t : SymbolTable) (r : PlaceholderRegistry) :
    (t.withPlaceholders r).placeholders = r := rfl

@[simp] theorem placeholders_withDiagnostics (t : SymbolTable) (ds : Diagnostics) :
    (t.withDiagnostics ds).placeholders = t.placeholders := rfl

@[simp] theorem diagnostics_withDiagnostics (t : SymbolTable) (ds : Diagnostics) :
    (t.withDiagnostics ds).diagnostics = ds := rfl

@[simp] theorem withPlaceholders_self (t : SymbolTable) :
    t.withPlaceholders t.placeholders = t := rfl

@[simp] theorem withDiagnostics_self (t : SymbolTable) : t.withDiagnostics t.diagnostics = t := rfl

@[simp] theorem withPlaceholders_withPlaceholders (t : SymbolTable)
    (r s : PlaceholderRegistry) :
    (t.withPlaceholders r).withPlaceholders s = t.withPlaceholders s := rfl

@[simp] theorem withDiagnostics_withDiagnostics (t : SymbolTable) (ds es : Diagnostics) :
    (t.withDiagnostics ds).withDiagnostics es = t.withDiagnostics es := rfl

theorem withPlaceholders_withDiagnostics (t : SymbolTable) (r : PlaceholderRegistry)
    (ds : Diagnostics) :
    (t.withDiagnostics ds).withPlaceholders r = (t.withPlaceholders r).withDiagnostics ds := rfl

theorem pushChild_eq (t : SymbolTable) (c : NamedChild) :
    t.pushChild c.name c.embedding c.initialValue = t.withChildren [c] := by
  cases h : c.embedding.actionType? <;>
    simp [pushChild, withChildren, NamedChild.member, NamedChild.action?, NamedChild.scopeCase,
      casesOf, scopeOf?, h]

theorem pushStage_eq (t : SymbolTable) (stage : ChildStage) :
    t.pushStage stage = t.withStages [stage] := by
  cases h : stage.kind <;> simp [pushStage, withStages, h]

@[simp] theorem withChildren_nil (t : SymbolTable) : t.withChildren [] = t := by
  simp [withChildren, casesOf]

@[simp] theorem withStages_nil (t : SymbolTable) : t.withStages [] = t := by
  simp [withStages]

@[simp] theorem withPlaces_nil (t : SymbolTable) : t.withPlaces [] = t := by
  simp [withPlaces]

theorem withChildren_append (t : SymbolTable) (cs ds : List NamedChild) :
    t.withChildren (cs ++ ds) = (t.withChildren cs).withChildren ds := by
  have cases : (t.withChildren cs).casesOf ds = t.casesOf ds := rfl
  have scopes : (t.withChildren cs).scopeOf? = t.scopeOf? := rfl
  rw [withChildren, withChildren, cases, scopes, withChildren]
  simp only [List.map_append, List.filterMap_append, casesOf_append, List.append_assoc]

@[simp] theorem withEntries_nil (t : SymbolTable) (resolve : Resolver) :
    t.withEntries resolve [] = t := by
  simp [withEntries]

theorem withEntries_singleton (t : SymbolTable) (resolve : Resolver) (e : ChildEntry) :
    t.withEntries resolve [e] =
      ((t.withPlaces (e.place? t.policy resolve).toList).withChildren
        (e.child? t.policy resolve).toList).withStages
          (e.stage? t.policy resolve t.placement.isRoot).toList := by
  simp only [withEntries, List.filterMap_cons, List.filterMap_nil]
  cases e.place? t.policy resolve <;> cases e.child? t.policy resolve <;>
    cases e.stage? t.policy resolve t.placement.isRoot <;> rfl

theorem withStages_append (t : SymbolTable) (ss ts : List ChildStage) :
    t.withStages (ss ++ ts) = (t.withStages ss).withStages ts := by
  simp only [withStages, List.filter_append, List.append_assoc]

theorem withPlaces_append (t : SymbolTable) (ps qs : List (String × Location)) :
    t.withPlaces (ps ++ qs) = (t.withPlaces ps).withPlaces qs := by
  simp only [withPlaces, List.append_assoc]

theorem withChildren_withStages (t : SymbolTable) (ss : List ChildStage)
    (cs : List NamedChild) :
    (t.withStages ss).withChildren cs = (t.withChildren cs).withStages ss := rfl

theorem withPlaces_withStages (t : SymbolTable) (ss : List ChildStage)
    (ps : List (String × Location)) :
    (t.withStages ss).withPlaces ps = (t.withPlaces ps).withStages ss := rfl

theorem withPlaces_withChildren (t : SymbolTable) (cs : List NamedChild)
    (ps : List (String × Location)) :
    (t.withChildren cs).withPlaces ps = (t.withPlaces ps).withChildren cs := rfl

theorem withEntries_append (t : SymbolTable) (resolve : Resolver) (es fs : List ChildEntry) :
    t.withEntries resolve (es ++ fs) = (t.withEntries resolve es).withEntries resolve fs := by
  have policy : (t.withEntries resolve es).policy = t.policy := rfl
  have placement : (t.withEntries resolve es).placement = t.placement := rfl
  rw [withEntries, withEntries, policy, placement, withEntries]
  simp only [List.filterMap_append, withPlaces_append, withChildren_append, withStages_append,
    withPlaces_withStages, withPlaces_withChildren, withChildren_withStages]

theorem withEntries_withPlaceholders (t : SymbolTable) (resolve : Resolver)
    (placeholders : PlaceholderRegistry) (es : List ChildEntry) :
    (t.withPlaceholders placeholders).withEntries resolve es =
      (t.withEntries resolve es).withPlaceholders placeholders := rfl

theorem withEntries_withDiagnostics (t : SymbolTable) (resolve : Resolver)
    (diagnostics : Diagnostics) (es : List ChildEntry) :
    (t.withDiagnostics diagnostics).withEntries resolve es =
      (t.withEntries resolve es).withDiagnostics diagnostics := rfl

theorem policy_withEntries (t : SymbolTable) (resolve : Resolver) (es : List ChildEntry) :
    (t.withEntries resolve es).policy = t.policy := rfl

theorem names_withEntries (t : SymbolTable) (resolve : Resolver) (es : List ChildEntry) :
    (t.withEntries resolve es).names =
      t.names ++ es.filterMap (ChildEntry.claim? t.policy resolve) := by
  have claims : (es.filterMap (ChildEntry.place? t.policy resolve)).map Prod.fst =
      es.filterMap (ChildEntry.claim? t.policy resolve) := by
    rw [List.map_filterMap]
    congr 1
    funext e
    simp [ChildEntry.place?, Function.comp_def]
  simp [withEntries, withStages, withChildren, withPlaces, names, claims]

/-! ## Placeholders -/

theorem insertPlaceholder_eq (t : SymbolTable) (p : Placeholder) :
    t.insertPlaceholder p = t.withPlaceholders (t.placeholders.declare p) := by
  rw [insertPlaceholder, PlaceholderRegistry.declare]
  split <;> rfl

theorem insertListed_eq (t : SymbolTable) (list : String) (resolve : Resolver)
    (e : ChildEntry) :
    insertListed list resolve t e =
      t.withPlaceholders (t.placeholders.declareAll (e.listed? resolve list).toList) := by
  rw [insertListed, ChildEntry.listed?]
  cases PlaceholderKind.ofChild? e.kind with
  | none => rfl
  | some kind =>
      cases e.name? with
      | none => rfl
      | some name => exact insertPlaceholder_eq _ _

theorem foldl_insertListed (t : SymbolTable) (list : String) (resolve : Resolver)
    (es : List ChildEntry) :
    es.foldl (insertListed list resolve) t =
      t.withPlaceholders
        (t.placeholders.declareAll (es.filterMap (ChildEntry.listed? resolve list))) := by
  induction es generalizing t with
  | nil => rfl
  | cons e es ih =>
      rw [List.foldl_cons, insertListed_eq, ih]
      cases h : e.listed? resolve list with
      | none => simp [h, PlaceholderRegistry.declareAll, withPlaceholders]
      | some p => simp [h, PlaceholderRegistry.declareAll, withPlaceholders]

/-! ## Adding entries -/

theorem addStaged_of_taken {t : SymbolTable} {name : String} (taken : name ∈ t.names)
    (e : Embedding) (initialValue : Option String) (location : Location) (staged : Bool) :
    ∃ diagnostics,
      t.addStaged name e initialValue location staged = t.withDiagnostics diagnostics := by
  cases h : t.firstPlace? name with
  | none => exact absurd taken (firstPlace?_eq_none_iff.mp h)
  | some first =>
      rw [addStaged, addChild, register_of_taken h]
      exact ⟨_, rfl⟩

theorem addStaged_of_free {t : SymbolTable} {name : String} (free : name ∉ t.names)
    (e : Embedding) (initialValue : Option String) (location : Location) (staged : Bool) :
    t.addStaged name e initialValue location staged =
      ((t.withPlaces [(name, location)]).withChildren [⟨name, e, initialValue⟩]).withStages
        (if staged then (ChildStage.ofEmbedding? name e).toList else []) := by
  have child := pushChild_eq (t.withPlaces [(name, location)]) ⟨name, e, initialValue⟩
  rw [addStaged, addChild, register_of_free (firstPlace?_eq_none_iff.mpr free), ← child]
  cases staged with
  | false => simp [withPlaces, reserve]
  | true =>
      cases ChildStage.ofEmbedding? name e with
      | none => simp [withPlaces, reserve]
      | some stage => simp [pushStage_eq, withPlaces, reserve]

theorem declarePlaceholder_of_taken {t : SymbolTable} {name : String} (taken : name ∈ t.names)
    (e : ChildEntry) (resolve : Resolver) (kind : PlaceholderKind) :
    ∃ diagnostics,
      t.declarePlaceholder e resolve kind name = t.withDiagnostics diagnostics := by
  cases h : t.firstPlace? name with
  | none => exact absurd taken (firstPlace?_eq_none_iff.mp h)
  | some first =>
      rw [declarePlaceholder, register_of_taken h]
      exact ⟨_, rfl⟩

theorem declarePlaceholder_of_free {t : SymbolTable} {name : String} (free : name ∉ t.names)
    (e : ChildEntry) (resolve : Resolver) (kind : PlaceholderKind) :
    t.declarePlaceholder e resolve kind name =
      ((t.withPlaces [(name, e.location)]).withStages
          (if e.presents then [⟨.ifLet, name, true, none, []⟩] else [])).withPlaceholders
        (t.placeholders.declare (placeholderOf name kind e resolve)) := by
  rw [declarePlaceholder, register_of_free (firstPlace?_eq_none_iff.mpr free)]
  simp only [insertPlaceholder_eq, pushStage_eq]
  cases e.presents with
  | false => simp [withPlaces, withPlaceholders, reserve]
  | true => simp [withPlaces, withPlaceholders, withStages, reserve]

/-- A child or a list is added with its stage, or leaves a report if its name is taken. -/
theorem addStaged_eq (t : SymbolTable) (resolve : Resolver) (e : ChildEntry) {name : String}
    {embedding : Embedding} {initialValue : Option String} {staged : Bool}
    (claim : e.claim? t.policy resolve = some name)
    (child : e.child? t.policy resolve = some ⟨name, embedding, initialValue⟩)
    (stage : e.stage? t.policy resolve t.placement.isRoot =
      if staged then ChildStage.ofEmbedding? name embedding else none) :
    ∃ diagnostics,
      t.addStaged name embedding initialValue e.location staged =
        (t.withEntries resolve
          (admitted (ChildEntry.claim? t.policy resolve) t.names [e])).withDiagnostics
            diagnostics := by
  by_cases taken : name ∈ t.names
  · rw [admitted_singleton_of_taken (isFree_eq_false_of_taken claim taken), withEntries_nil]
    exact addStaged_of_taken taken embedding initialValue e.location staged
  · have free := (isFree_of_some claim t.names).mpr taken
    refine ⟨t.diagnostics, ?_⟩
    rw [admitted_singleton_of_free free, addStaged_of_free taken, withEntries_singleton,
      ChildEntry.place?, claim, child, stage]
    cases staged <;> rfl

/-- A placeholder is declared together with its stage, or leaves a report if its name is taken. -/
theorem declarePlaceholder_eq (t : SymbolTable) (resolve : Resolver) (e : ChildEntry)
    {kind : PlaceholderKind} {name : String}
    (plan : e.plan t.policy resolve = .placeholder kind name) :
    ∃ diagnostics,
      t.declarePlaceholder e resolve kind name =
        ((t.withEntries resolve
          (admitted (ChildEntry.claim? t.policy resolve) t.names [e])).withPlaceholders
          (t.placeholders.declareAll
            (e.declared t.policy resolve
              (isFree (ChildEntry.claim? t.policy resolve) t.names e)))).withDiagnostics
          diagnostics := by
  have claim : e.claim? t.policy resolve = some name := congrArg ChildPlan.name? plan
  have child : e.child? t.policy resolve = none := congrArg ChildPlan.child? plan
  by_cases taken : name ∈ t.names
  · have refused := isFree_eq_false_of_taken claim taken
    rw [admitted_singleton_of_taken refused, withEntries_nil, ChildEntry.declared, plan, refused]
    exact declarePlaceholder_of_taken taken e resolve kind
  · have free := (isFree_of_some claim t.names).mpr taken
    refine ⟨t.diagnostics, ?_⟩
    rw [admitted_singleton_of_free free, declarePlaceholder_of_free taken, withEntries_singleton,
      ChildEntry.place?, claim, child, ChildEntry.stage?, ChildEntry.declared, plan, free,
      Option.toList_none, withChildren_nil]
    cases e.presents <;> rfl

/-- What one entry does. It adds what it brings if its name is free, and reports
something if it is not, but the placeholders of a list are declared either way. -/
theorem addEntry_eq (t : SymbolTable) (resolve : Resolver) (e : ChildEntry) :
    ∃ diagnostics,
      addEntry resolve t e =
        ((t.withEntries resolve
          (admitted (ChildEntry.claim? t.policy resolve) t.names [e])).withPlaceholders
          (t.placeholders.declareAll
            (e.declared t.policy resolve
              (isFree (ChildEntry.claim? t.policy resolve) t.names e)))).withDiagnostics
          diagnostics := by
  rw [addEntry]
  cases plan : e.plan t.policy resolve with
  | refused problem =>
      have claim : e.claim? t.policy resolve = none := congrArg ChildPlan.name? plan
      have child : e.child? t.policy resolve = none := congrArg ChildPlan.child? plan
      refine ⟨(t.report problem e.location).diagnostics, ?_⟩
      rw [admitted_singleton_of_free (isFree_of_none claim t.names), withEntries_singleton,
        ChildEntry.place?, claim, child, ChildEntry.stage?, ChildEntry.declared, plan]
      simp only [Option.map_none, Option.toList_none, withPlaces_nil, withChildren_nil,
        withStages_nil]
      rfl
  | placeholder kind name => exact declarePlaceholder_eq t resolve e plan
  | list name embedding children =>
      have claim : e.claim? t.policy resolve = some name := congrArg ChildPlan.name? plan
      have child : e.child? t.policy resolve = some ⟨name, embedding, none⟩ :=
        congrArg ChildPlan.child? plan
      have declared (free : Bool) : e.declared t.policy resolve free =
          children.filterMap (ChildEntry.listed? resolve name) := by
        rw [ChildEntry.declared, plan]
      simp only [foldl_insertListed, declared]
      generalize t.placeholders.declareAll _ = registry
      refine addStaged_eq (t.withPlaceholders registry) resolve e claim child ?_
      rw [ChildEntry.stage?]
      simp only [withPlaceholders, plan]
      rfl
  | child name embedding initialValue dropped =>
      have claim : e.claim? t.policy resolve = some name := congrArg ChildPlan.name? plan
      have child : e.child? t.policy resolve = some ⟨name, embedding, initialValue⟩ :=
        congrArg ChildPlan.child? plan
      have declared (free : Bool) : e.declared t.policy resolve free = [] := by
        rw [ChildEntry.declared, plan]
      obtain ⟨reported, warned⟩ : ∃ reported,
          (if dropped then t.report (.tupleInitialValueIgnored name) e.location else t) =
            t.withDiagnostics reported := by
        cases dropped with
        | false => exact ⟨t.diagnostics, rfl⟩
        | true => exact ⟨_, rfl⟩
      simp only [declared, warned]
      refine addStaged_eq (t.withDiagnostics reported) resolve e claim child ?_
      rw [ChildEntry.stage?]
      simp only [withDiagnostics, plan]
      rfl

theorem policy_addEntry (t : SymbolTable) (resolve : Resolver) (e : ChildEntry) :
    (addEntry resolve t e).policy = t.policy := by
  obtain ⟨diagnostics, entered⟩ := addEntry_eq t resolve e
  generalize admitted (ChildEntry.claim? t.policy resolve) t.names [e] = front at entered
  rw [entered]
  exact policy_withEntries t resolve front

theorem names_addEntry (t : SymbolTable) (resolve : Resolver) (e : ChildEntry) :
    (addEntry resolve t e).names =
      t.names ++ (admitted (ChildEntry.claim? t.policy resolve) t.names [e]).filterMap
        (ChildEntry.claim? t.policy resolve) := by
  obtain ⟨diagnostics, entered⟩ := addEntry_eq t resolve e
  generalize admitted (ChildEntry.claim? t.policy resolve) t.names [e] = front at entered ⊢
  rw [entered]
  exact names_withEntries t resolve front

/-- What all entries of a composition do, one after the other. -/
theorem addEntries_eq (t : SymbolTable) (resolve : Resolver) (es : List ChildEntry) :
    ∃ diagnostics,
      addEntries resolve t es =
        ((t.withEntries resolve
          (admitted (ChildEntry.claim? t.policy resolve) t.names es)).withPlaceholders
          (t.placeholders.declareAll
            (ChildEntry.declarations t.policy resolve t.names es))).withDiagnostics
          diagnostics := by
  induction es generalizing t with
  | nil =>
      refine ⟨t.diagnostics, ?_⟩
      rw [admitted, withEntries_nil, ChildEntry.declarations, PlaceholderRegistry.declareAll_nil,
        withPlaceholders_self, withDiagnostics_self]
      rfl
  | cons e es ih =>
      obtain ⟨noted, first⟩ := addEntry_eq t resolve e
      generalize admits : admitted (ChildEntry.claim? t.policy resolve) t.names [e] = front at first
      obtain ⟨diagnostics, rest⟩ := ih (addEntry resolve t e)
      refine ⟨diagnostics, ?_⟩
      change addEntries resolve (addEntry resolve t e) es = _
      rw [rest, policy_addEntry, names_addEntry, admits, admitted_cons t.names e es, admits,
        withEntries_append, ChildEntry.declarations, admits,
        PlaceholderRegistry.declareAll_append, first]
      simp only [withEntries_withDiagnostics, withEntries_withPlaceholders,
        withPlaceholders_withDiagnostics, withPlaceholders_withPlaceholders,
        withDiagnostics_withDiagnostics, placeholders_withDiagnostics,
        placeholders_withPlaceholders]

end SymbolTable

/-! ## Options and the initial case -/

def CompositionOption.initialCase? : CompositionOption → Option (Expr × Location)
  | .initialCase name location => some (name, location)
  | _ => none

/-- The initial cases that the options of a composition ask for, in their order. -/
def Composition.initialCases (c : Composition) : List (Expr × Location) :=
  c.options.filterMap CompositionOption.initialCase?

namespace SymbolTable

def withOptions (t : SymbolTable) (options : List CompositionOption) : SymbolTable :=
  options.foldl applyOption t

def withInitialName (t : SymbolTable) (name : Option String) : SymbolTable :=
  { t with initialName := name }

/-- Options change three fields and nothing else. -/
theorem withOptions_eq (t : SymbolTable) (options : List CompositionOption) :
    ∃ state action,
      t.withOptions options =
        { t with
          bindable := t.bindable || options.any CompositionOption.isBindable
          stateOptions := state
          actionOptions := action } := by
  induction options generalizing t with
  | nil => exact ⟨t.stateOptions, t.actionOptions, by simp [withOptions]⟩
  | cons option options ih =>
      obtain ⟨state, action, rest⟩ := ih (t.applyOption option)
      refine ⟨state, action, ?_⟩
      change (t.applyOption option).withOptions options = _
      rw [rest]
      cases option <;> simp [applyOption, CompositionOption.isBindable]

theorem lastInitialCase?_append (options : List CompositionOption) (option : CompositionOption) :
    lastInitialCase? (options ++ [option]) =
      option.initialCase?.or (lastInitialCase? options) := by
  rw [lastInitialCase?, List.foldl_append]
  cases option <;> rfl

theorem lastInitialCase?_eq (options : List CompositionOption) :
    lastInitialCase? options = (options.filterMap CompositionOption.initialCase?).getLast? := by
  induction options using List.reverseRecOn with
  | nil => rfl
  | append_singleton options option ih =>
      rw [lastInitialCase?_append, ih, List.filterMap_append]
      cases asked : option.initialCase? with
      | none =>
          rw [List.filterMap_cons_none asked, List.filterMap_nil, List.append_nil]
          rfl
      | some last =>
          rw [List.filterMap_cons_some asked, List.filterMap_nil, List.getLast?_concat]
          rfl

/-- What is reported of the initial case that a composition asks for, if anything is. -/
def initialReport? (t : SymbolTable) (c : Composition) : Option Diagnostic :=
  c.initialCases.getLast?.bind fun last =>
    match t.checkInitialCase last.1 with
    | .ok _ => none
    | .error problem => some (.ofProblem problem last.2)

/-- The name that a composition selects for the initial case, if it can be selected. -/
def initialName? (t : SymbolTable) (c : Composition) : Option String :=
  c.initialCases.getLast?.bind fun last => (t.checkInitialCase last.1).toOption

/-- Behind its entries a composition selects the initial case that it asks for last, or reports
what is wrong with it. -/
theorem compose_eq_selected (t : SymbolTable) (c : Composition) (resolve : Resolver) :
    let entered := addEntries resolve (t.withOptions c.options) c.children
    t.compose c resolve =
      (entered.withInitialName ((entered.initialName? c).or entered.initialName)).withDiagnostics
        (entered.diagnostics ++ (entered.initialReport? c).toList) := by
  intro entered
  have asked : lastInitialCase? c.options = c.initialCases.getLast? := lastInitialCase?_eq c.options
  rw [compose, asked, initialName?, initialReport?]
  cases c.initialCases.getLast? with
  | none =>
      rw [Option.bind_none, Option.bind_none, Option.toList_none, List.append_nil]
      rfl
  | some last =>
      rw [Option.bind_some, Option.bind_some]
      show entered.selectInitialCase last.1 last.2 = _
      rw [selectInitialCase]
      cases entered.checkInitialCase last.1 with
      | ok name =>
          simp only [Option.toList_none, List.append_nil]
          rfl
      | error problem => rfl

/-- So all that a composition adds behind its entries is a name and reports. -/
theorem compose_eq_addEntries (t : SymbolTable) (c : Composition) (resolve : Resolver) :
    let entered := addEntries resolve (t.withOptions c.options) c.children
    ∃ initial reports, t.compose c resolve =
      (entered.withInitialName initial).withDiagnostics (entered.diagnostics ++ reports) :=
  ⟨_, _, compose_eq_selected t c resolve⟩

/-- Applying a composition adds its entries, under its options. -/
theorem compose_eq (t : SymbolTable) (c : Composition) (resolve : Resolver) :
    ∃ initial diagnostics,
      t.compose c resolve =
        ((((t.withOptions c.options).withEntries resolve
          (admitted (ChildEntry.claim? t.policy resolve) t.names c.children)).withPlaceholders
          (t.placeholders.declareAll
            (ChildEntry.declarations t.policy resolve t.names c.children))).withInitialName
          initial).withDiagnostics diagnostics := by
  obtain ⟨state, action, options⟩ := withOptions_eq t c.options
  obtain ⟨diagnostics, entries⟩ := addEntries_eq (t.withOptions c.options) resolve c.children
  have policy : (t.withOptions c.options).policy = t.policy := by rw [options]
  have names : (t.withOptions c.options).names = t.names := by rw [options]; rfl
  have placeholders : (t.withOptions c.options).placeholders = t.placeholders := by rw [options]
  rw [policy, names, placeholders] at entries
  obtain ⟨initial, reports, composed⟩ := compose_eq_addEntries t c resolve
  rw [entries] at composed
  exact ⟨initial, _, composed⟩

end SymbolTable

end StateWeave
