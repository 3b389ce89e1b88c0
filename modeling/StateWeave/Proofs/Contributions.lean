import StateWeave.Contribution
import StateWeave.Proofs.Entries

/-!
# What the members of a module add to a table

A contribution that is let in adds to a few fields of a table, and to each of them at
the end. `collect_eq` says so for all members at once: a table with members collected is
the table before with the admitted contributions of the members behind its own.

Two fields are not simply added to. An observer of a child's stage changes that stage,
wherever it stands, and a fragment that binds a placeholder remembers its place in the
queue of bindings, which counts all bindings before it.
-/

namespace StateWeave

open Admission

namespace Contribution

@[simp] def name? : Contribution → Option String
  | action name _ _ => some name
  | scope pending => some pending.name
  | actionFragment _ name _ _ _ => some name
  | _ => none

@[simp] def place? : Contribution → Option (String × Location)
  | action name _ location => some (name, location)
  | scope pending => some (pending.name, pending.location)
  | actionFragment _ name _ location _ => some (name, location)
  | _ => none

@[simp] def action? : Contribution → Option ActionMember
  | action name type _ => some ⟨name, type⟩
  | actionFragment _ name type _ _ => some ⟨name, type⟩
  | _ => none

@[simp] def binding? : Contribution → Option PendingBinding
  | binding pending => some pending
  | boundFragment _ pending _ => some pending
  | _ => none

@[simp] def scope? : Contribution → Option PendingScope
  | scope pending => some pending
  | _ => none

@[simp] def observer? (attachment : Attachment) : Contribution → Option Observer
  | observer stage o _ => if stage = attachment then some o else none
  | _ => none

/-- The fragment that a contribution brings, with where it runs. One that binds a
placeholder waits for the binding in the given slot. -/
@[simp] def fragment? (slot : Nat) : Contribution → Option (Position × Fragment)
  | fragment position f => some (position, f)
  | actionFragment position _ _ _ f => some (position, f)
  | boundFragment position _ f => some (position, { f with routing := .placeholder slot })
  | _ => none

/-- The fragments that contributions bring, the first binding of which gets `slot`. -/
def fragments (slot : Nat) : List Contribution → List (Position × Fragment)
  | [] => []
  | c :: rest => (c.fragment? slot).toList ++ fragments (slot + c.binding?.toList.length) rest

/-- What is written by hand once a contribution has been entered. -/
@[simp] def mark (written : HandAuthored) : Contribution → HandAuthored
  | stateType location => { written with state := some location }
  | actionType location => { written with action := some location }
  | pipeline location => { written with pipeline := some location }
  | _ => written

theorem name_of_action? {c : Contribution} {a : ActionMember} (h : c.action? = some a) :
    c.name? = some a.name := by
  cases c with
  | action => cases h; rfl
  | actionFragment => cases h; rfl
  | _ => cases h

theorem name_of_scope? {c : Contribution} {pending : PendingScope} (h : c.scope? = some pending) :
    c.name? = some pending.name := by
  cases c with
  | scope => cases h; rfl
  | _ => cases h

theorem fst_place? (c : Contribution) : c.place?.map Prod.fst = c.name? := by
  cases c <;> rfl

theorem fragments_append (slot : Nat) (cs ds : List Contribution) :
    fragments slot (cs ++ ds) =
      fragments slot cs ++ fragments (slot + (cs.filterMap binding?).length) ds := by
  induction cs generalizing slot with
  | nil => rfl
  | cons c cs ih =>
      have count : slot + c.binding?.toList.length + (cs.filterMap binding?).length =
          slot + ((c :: cs).filterMap binding?).length := by
        cases h : c.binding? with
        | none => simp only [List.filterMap_cons, h, Option.toList, List.length_nil, Nat.add_zero]
        | some b =>
            simp only [List.filterMap_cons, h, Option.toList, List.length_cons, List.length_nil]
            omega
      rw [List.cons_append, fragments, fragments, ih, count, List.append_assoc]

end Contribution

def Position.select (position : Position) (fragments : List (Position × Fragment)) :
    List Fragment :=
  (fragments.filter fun f => f.1 = position).map Prod.snd

@[simp] theorem Position.select_nil (position : Position) : position.select [] = [] := rfl

theorem Position.select_append (position : Position) (fs gs : List (Position × Fragment)) :
    position.select (fs ++ gs) = position.select fs ++ position.select gs := by
  simp only [select, List.filter_append, List.map_append]

/-- A stage with the observers that contributions hang on it. -/
def ChildStage.observed (cs : List Contribution) (stage : ChildStage) : ChildStage :=
  { stage with
    observers := stage.observers ++ cs.filterMap (Contribution.observer? (.scope stage.name)) }

@[simp] theorem ChildStage.name_observed (cs : List Contribution) (stage : ChildStage) :
    (stage.observed cs).name = stage.name := rfl

@[simp] theorem ChildStage.observed_nil : ChildStage.observed [] = id := by
  funext stage
  simp [observed]

theorem ChildStage.map_observed_of_none {c : Contribution}
    (silent : ∀ name, c.observer? (.scope name) = none) (stages : List ChildStage) :
    stages.map (observed [c]) = stages := by
  have same : observed [c] = id := by
    funext stage
    rw [observed, List.filterMap_cons, silent, List.filterMap_nil, List.append_nil]
    rfl
  rw [same, List.map_id]

theorem ChildStage.observed_append (cs ds : List Contribution) (stage : ChildStage) :
    stage.observed (cs ++ ds) = (stage.observed cs).observed ds := by
  simp only [observed, List.filterMap_append, List.append_assoc]

namespace SymbolTable

/-- The observers of the stage for two-way bindings, which only a bindable module has. -/
def bindingObserversOf (t : SymbolTable) (cs : List Contribution) : List Observer :=
  if t.bindable then cs.filterMap (Contribution.observer? .binding) else []

theorem bindingObserversOf_append (t : SymbolTable) (cs ds : List Contribution) :
    t.bindingObserversOf (cs ++ ds) = t.bindingObserversOf cs ++ t.bindingObserversOf ds := by
  cases h : t.bindable <;> simp [bindingObserversOf, h]

/-- A table with contributions behind its own, all of which are let in. -/
def withContributions (t : SymbolTable) (cs : List Contribution) : SymbolTable :=
  let fragments := Contribution.fragments t.pendingBindings.length cs
  { t with
    handAuthored := cs.foldl Contribution.mark t.handAuthored
    actionMembers := t.actionMembers ++ cs.filterMap Contribution.action?
    beforeCore := t.beforeCore ++ (Position.beforeCore.select fragments).map .fragment
    core := t.core ++ Position.core.select fragments
    coreModifiers :=
      t.coreModifiers ++ (cs.filterMap (Contribution.observer? .core)).map .observer
    afterCore := t.afterCore ++ (Position.afterCore.select fragments).map .fragment
    bindingObservers := t.bindingObservers ++ t.bindingObserversOf cs
    childStages := t.childStages.map (ChildStage.observed cs)
    places := t.places ++ cs.filterMap Contribution.place?
    pendingBindings := t.pendingBindings ++ cs.filterMap Contribution.binding?
    pendingScopes := t.pendingScopes ++ cs.filterMap Contribution.scope? }

@[simp] theorem withContributions_nil (t : SymbolTable) : t.withContributions [] = t := by
  simp [withContributions, Contribution.fragments, Position.select, bindingObserversOf]

theorem withContributions_append (t : SymbolTable) (cs ds : List Contribution) :
    t.withContributions (cs ++ ds) = (t.withContributions cs).withContributions ds := by
  have bindings : (t.withContributions cs).bindingObserversOf ds = t.bindingObserversOf ds := rfl
  have stages : t.childStages.map (ChildStage.observed (cs ++ ds)) =
      (t.childStages.map (ChildStage.observed cs)).map (ChildStage.observed ds) := by
    rw [List.map_map]
    exact List.map_congr_left fun stage _ => ChildStage.observed_append cs ds stage
  rw [withContributions, withContributions, bindings, withContributions, stages]
  simp only [List.foldl_append, List.filterMap_append, Contribution.fragments_append,
    Position.select_append, List.map_append, List.append_assoc, List.length_append,
    bindingObserversOf_append]

theorem withContributions_withDiagnostics (t : SymbolTable) (diagnostics : Diagnostics)
    (cs : List Contribution) :
    (t.withDiagnostics diagnostics).withContributions cs =
      (t.withContributions cs).withDiagnostics diagnostics := rfl

theorem names_withContributions (t : SymbolTable) (cs : List Contribution) :
    (t.withContributions cs).names = t.names ++ cs.filterMap Contribution.name? := by
  have claims : (cs.filterMap Contribution.place?).map Prod.fst =
      cs.filterMap Contribution.name? := by
    rw [List.map_filterMap]
    congr 1
    funext c
    exact Contribution.fst_place? c
  simp only [withContributions, names, List.map_append, claims]

theorem stageNames_withContributions (t : SymbolTable) (cs : List Contribution) :
    (t.withContributions cs).childStages.map ChildStage.name =
      t.childStages.map ChildStage.name := by
  simp only [withContributions, List.map_map, Function.comp_def, ChildStage.name_observed]

/-! ## Observers of children's stages -/

theorem observeStage_eq_none {name : String} (observer : Observer) {stages : List ChildStage}
    (unknown : name ∉ stages.map ChildStage.name) : observeStage name observer stages = none := by
  induction stages with
  | nil => rfl
  | cons stage rest ih =>
      simp only [List.map_cons, List.mem_cons, not_or] at unknown
      rw [observeStage, if_neg (fun same => unknown.1 same.symm), ih unknown.2]
      rfl

/-- Where stages have distinct names, hanging an observer on the first stage of a name
is hanging it on every stage of that name. -/
theorem observeStage_eq_some {name : String} (observer : Observer) {stages : List ChildStage}
    (distinct : (stages.map ChildStage.name).Nodup) (known : name ∈ stages.map ChildStage.name) :
    observeStage name observer stages =
      some (stages.map fun stage =>
        if name = stage.name then { stage with observers := stage.observers ++ [observer] }
        else stage) := by
  induction stages with
  | nil => cases known
  | cons stage rest ih =>
      obtain ⟨fresh, distinct⟩ := List.nodup_cons.mp distinct
      by_cases same : name = stage.name
      · subst same
        have others : ∀ other ∈ rest, stage.name ≠ other.name :=
          fun other member same => fresh (same ▸ List.mem_map_of_mem member)
        rw [observeStage, if_pos rfl, List.map_cons, if_pos rfl,
          List.map_congr_left fun other member => if_neg (others other member), List.map_id']
      · have later : name ∈ rest.map ChildStage.name :=
          (List.mem_cons.mp known).resolve_left same
        rw [observeStage, if_neg (Ne.symm same), ih distinct later, List.map_cons, if_neg same]
        rfl

/-! ## Entering contributions -/

theorem addAction_of_taken {t : SymbolTable} {name : String} (taken : name ∈ t.names)
    (type : String) (location : Location) :
    ∃ diagnostics, t.addAction name type location = (t.withDiagnostics diagnostics, false) := by
  cases h : t.firstPlace? name with
  | none => exact absurd taken (firstPlace?_eq_none_iff.mp h)
  | some first =>
      rw [addAction, register_of_taken h]
      exact ⟨_, rfl⟩

theorem addAction_of_free {t : SymbolTable} {name : String} (free : name ∉ t.names)
    (type : String) (location : Location) :
    t.addAction name type location =
      ({ t with
          actionMembers := t.actionMembers ++ [⟨name, type⟩]
          places := t.places ++ [(name, location)] }, true) := by
  rw [addAction, register_of_free (firstPlace?_eq_none_iff.mpr free)]
  rfl

theorem queueScope_of_taken {t : SymbolTable} {s : PendingScope} (taken : s.name ∈ t.names) :
    ∃ diagnostics, t.queueScope s = (t.withDiagnostics diagnostics, false) := by
  cases h : t.firstPlace? s.name with
  | none => exact absurd taken (firstPlace?_eq_none_iff.mp h)
  | some first =>
      rw [queueScope, register_of_taken h]
      exact ⟨_, rfl⟩

theorem queueScope_of_free {t : SymbolTable} {s : PendingScope} (free : s.name ∉ t.names) :
    t.queueScope s =
      ({ t with
          pendingScopes := t.pendingScopes ++ [s]
          places := t.places ++ [(s.name, s.location)] }, true) := by
  rw [queueScope, register_of_free (firstPlace?_eq_none_iff.mpr free)]
  rfl

theorem withContributions_observer (t : SymbolTable) (attachment : Attachment) (o : Observer)
    (location : Location) :
    t.withContributions [.observer attachment o location] =
      { t with
        coreModifiers := t.coreModifiers ++ if attachment = .core then [.observer o] else []
        bindingObservers :=
          t.bindingObservers ++ if t.bindable ∧ attachment = .binding then [o] else []
        childStages := t.childStages.map fun stage =>
          if attachment = .scope stage.name then
            { stage with observers := stage.observers ++ [o] }
          else stage } := by
  have core : ([Contribution.observer attachment o location].filterMap
      (Contribution.observer? .core)).map CoreModifier.observer =
        if attachment = .core then [.observer o] else [] := by
    by_cases h : attachment = .core <;> simp [h]
  have binding : t.bindingObserversOf [.observer attachment o location] =
      if t.bindable ∧ attachment = .binding then [o] else [] := by
    cases bindable : t.bindable <;> by_cases h : attachment = .binding <;>
      simp [bindingObserversOf, bindable, h]
  have stages : ChildStage.observed [.observer attachment o location] = fun stage =>
      if attachment = .scope stage.name then { stage with observers := stage.observers ++ [o] }
      else stage := by
    funext stage
    by_cases h : attachment = .scope stage.name <;>
      simp [ChildStage.observed, h]
  rw [withContributions, core, binding, stages]
  simp [Contribution.fragments, Position.select]

/-- An observer is hung on its stage, or something is reported and nothing is changed. -/
theorem attachObserver_eq {t : SymbolTable}
    (distinct : (t.childStages.map ChildStage.name).Nodup) (attachment : Attachment)
    (o : Observer) (location : Location) :
    ∃ diagnostics,
      (t.attachObserver attachment o location).1 =
        (t.withContributions [.observer attachment o location]).withDiagnostics diagnostics := by
  rw [withContributions_observer]
  cases attachment with
  | core =>
      refine ⟨t.diagnostics, ?_⟩
      simp [attachObserver, withDiagnostics]
  | binding =>
      rw [attachObserver]
      cases bindable : t.bindable with
      | true =>
          refine ⟨t.diagnostics, ?_⟩
          simp [withDiagnostics]
      | false =>
          refine ⟨(t.report .bindingWithoutBindable location).diagnostics, ?_⟩
          simp [withDiagnostics, report, bindable]
  | scope name =>
      rw [attachObserver]
      by_cases known : name ∈ t.childStages.map ChildStage.name
      · refine ⟨t.diagnostics, ?_⟩
        simp [observeStage_eq_some o distinct known, withDiagnostics]
      · have untouched : ∀ stage ∈ t.childStages, name ≠ stage.name := by
          rintro stage member rfl
          exact known (List.mem_map_of_mem member)
        have stages : t.childStages.map (fun stage =>
            if name = stage.name then { stage with observers := stage.observers ++ [o] }
            else stage) = t.childStages := by
          rw [List.map_congr_left fun stage member => if_neg (untouched stage member),
            List.map_id']
        refine ⟨(t.report (.unknownAttachment name) location).diagnostics, ?_⟩
        simp [observeStage_eq_none o known, withDiagnostics, report, stages]

/-! ## Contributions without observers -/

theorem withContributions_of_silent (t : SymbolTable) {c : Contribution}
    (silent : ∀ attachment, c.observer? attachment = none) :
    t.withContributions [c] =
      let fragments := (c.fragment? t.pendingBindings.length).toList
      { t with
        handAuthored := c.mark t.handAuthored
        actionMembers := t.actionMembers ++ c.action?.toList
        beforeCore := t.beforeCore ++ (Position.beforeCore.select fragments).map .fragment
        core := t.core ++ Position.core.select fragments
        afterCore := t.afterCore ++ (Position.afterCore.select fragments).map .fragment
        places := t.places ++ c.place?.toList
        pendingBindings := t.pendingBindings ++ c.binding?.toList
        pendingScopes := t.pendingScopes ++ c.scope?.toList } := by
  have one {β : Type} (f : Contribution → Option β) : [c].filterMap f = (f c).toList := by
    cases h : f c <;> simp [h]
  have nothing (attachment : Attachment) :
      [c].filterMap (Contribution.observer? attachment) = [] := by
    rw [one, silent]
    rfl
  have bindings : t.bindingObserversOf [c] = [] := by
    rw [bindingObserversOf, nothing, ite_self]
  have stages : t.childStages.map (ChildStage.observed [c]) = t.childStages :=
    ChildStage.map_observed_of_none (fun name => silent (.scope name)) _
  simp only [withContributions, Contribution.fragments, one, silent, bindings, stages,
    List.foldl_cons, List.foldl_nil, List.append_nil, Option.toList_none, List.map_nil]

theorem pushFragment_eq (t : SymbolTable) (position : Position) (f : Fragment) :
    t.pushFragment position f =
      { t with
        beforeCore := t.beforeCore ++ (Position.beforeCore.select [(position, f)]).map .fragment
        core := t.core ++ Position.core.select [(position, f)]
        afterCore :=
          t.afterCore ++ (Position.afterCore.select [(position, f)]).map .fragment } := by
  cases position <;> simp [pushFragment, Position.select]

/-! ## One contribution after the other -/

/-- A contribution whose name is taken is reported, and nothing else happens. -/
theorem contribute_of_taken {t : SymbolTable} {c : Contribution} {name : String}
    (asked : c.name? = some name) (taken : name ∈ t.names) :
    ∃ diagnostics, t.contribute c = t.withDiagnostics diagnostics := by
  cases c with
  | action _ type location =>
      cases asked
      obtain ⟨diagnostics, refused⟩ := addAction_of_taken taken type location
      exact ⟨diagnostics, congrArg Prod.fst refused⟩
  | scope pending =>
      cases asked
      obtain ⟨diagnostics, refused⟩ := queueScope_of_taken taken
      exact ⟨diagnostics, congrArg Prod.fst refused⟩
  | actionFragment position _ type location f =>
      cases asked
      obtain ⟨diagnostics, refused⟩ := addAction_of_taken taken type location
      refine ⟨diagnostics, ?_⟩
      rw [contribute, refused]
  | _ => cases asked

/-- A contribution whose name is free adds what it brings. -/
theorem contribute_of_free {t : SymbolTable}
    (distinct : (t.childStages.map ChildStage.name).Nodup) {c : Contribution}
    (free : ∀ name, c.name? = some name → name ∉ t.names) :
    ∃ diagnostics,
      t.contribute c = (t.withContributions [c]).withDiagnostics diagnostics := by
  cases c with
  | observer attachment o location => exact attachObserver_eq distinct attachment o location
  | refused reports =>
      refine ⟨t.diagnostics ++ reports, ?_⟩
      rw [contribute, withContributions_of_silent t fun _ => rfl]
      simp [withDiagnostics]
  | action name type location =>
      refine ⟨t.diagnostics, ?_⟩
      rw [contribute, addAction_of_free (free name rfl), withContributions_of_silent t fun _ => rfl]
      simp [withDiagnostics]
  | scope pending =>
      refine ⟨t.diagnostics, ?_⟩
      rw [contribute, queueScope_of_free (free pending.name rfl),
        withContributions_of_silent t fun _ => rfl]
      simp [withDiagnostics]
  | actionFragment position name type location f =>
      refine ⟨t.diagnostics, ?_⟩
      rw [contribute, addAction_of_free (free name rfl), withContributions_of_silent t fun _ => rfl]
      simp [withDiagnostics, pushFragment_eq]
  | fragment position f =>
      refine ⟨t.diagnostics, ?_⟩
      rw [contribute, pushFragment_eq, withContributions_of_silent t fun _ => rfl]
      simp [withDiagnostics]
  | boundFragment position pending f =>
      refine ⟨t.diagnostics, ?_⟩
      rw [contribute, withContributions_of_silent t fun _ => rfl]
      simp [withDiagnostics, pushFragment_eq, queueBinding]
  | pipeline location =>
      refine ⟨(t.suppressPipeline location).diagnostics, ?_⟩
      rw [contribute, withContributions_of_silent t fun _ => rfl]
      simp [withDiagnostics, suppressPipeline]
  | _ =>
      refine ⟨t.diagnostics, ?_⟩
      rw [contribute, withContributions_of_silent t fun _ => rfl]
      simp [withDiagnostics, queueBinding]

/-- What one contribution does. It adds what it brings if its name is free, and reports
something if it is not. -/
theorem contribute_eq {t : SymbolTable}
    (distinct : (t.childStages.map ChildStage.name).Nodup) (c : Contribution) :
    ∃ diagnostics,
      t.contribute c =
        (t.withContributions (admitted Contribution.name? t.names [c])).withDiagnostics
          diagnostics := by
  cases free : isFree Contribution.name? t.names c with
  | true =>
      rw [admitted_singleton_of_free free]
      exact contribute_of_free distinct fun name asked => (isFree_of_some asked _).mp free
  | false =>
      rw [admitted_singleton_of_taken free, withContributions_nil]
      cases asked : c.name? with
      | none => rw [isFree_of_none asked] at free; cases free
      | some name =>
          have taken : name ∈ t.names := by
            by_contra fresh
            rw [(isFree_of_some asked _).mpr fresh] at free
            cases free
          exact contribute_of_taken asked taken

/-- What all contributions do, one after the other. -/
theorem foldl_contribute_eq {t : SymbolTable}
    (distinct : (t.childStages.map ChildStage.name).Nodup) (cs : List Contribution) :
    ∃ diagnostics,
      cs.foldl contribute t =
        (t.withContributions (admitted Contribution.name? t.names cs)).withDiagnostics
          diagnostics := by
  induction cs generalizing t with
  | nil =>
      refine ⟨t.diagnostics, ?_⟩
      rw [admitted, withContributions_nil, withDiagnostics_self]
      rfl
  | cons c cs ih =>
      obtain ⟨noted, first⟩ := contribute_eq distinct c
      generalize admits : admitted Contribution.name? t.names [c] = front at first
      have still : ((t.contribute c).childStages.map ChildStage.name).Nodup := by
        rw [first]
        exact (stageNames_withContributions t front).symm ▸ distinct
      have names : (t.contribute c).names = t.names ++ front.filterMap Contribution.name? := by
        rw [first]
        exact names_withContributions t front
      obtain ⟨diagnostics, rest⟩ := ih still
      refine ⟨diagnostics, ?_⟩
      rw [List.foldl_cons, rest, names, admitted_cons, admits, withContributions_append, first,
        withContributions_withDiagnostics, withDiagnostics_withDiagnostics]

end SymbolTable

def Contribution.ofMembers (members : List Member) : List Contribution :=
  (Visit.ofMembers [] members).map Contribution.ofVisit

theorem Visit.ofMembers_append (scopes : List String) (front back : List Member) :
    ofMembers scopes (front ++ back) = ofMembers scopes front ++ ofMembers scopes back := by
  induction front with
  | nil => rfl
  | cons m front ih => rw [List.cons_append, ofMembers, ofMembers, ih, List.append_assoc]

/-- A variable contributes where it stands, between the members before and behind it. -/
theorem Contribution.ofMembers_insert (front back : List Member) (decl : VariableDecl) :
    ofMembers (front ++ .variable decl :: back) =
      ofMembers front ++ ofVisit ⟨[], .variable decl⟩ :: ofMembers back := by
  rw [ofMembers, Visit.ofMembers_append, Visit.ofMembers, Visit.ofMember, List.map_append]
  rfl

theorem Contribution.ofMembers_append (front back : List Member) :
    ofMembers (front ++ back) = ofMembers front ++ ofMembers back := by
  rw [ofMembers, Visit.ofMembers_append, List.map_append]
  rfl

namespace SymbolTable

theorem collect_eq_foldl (t : SymbolTable) (members : List Member) :
    t.collect members = (Contribution.ofMembers members).foldl contribute t := by
  rw [Contribution.ofMembers, List.foldl_map]
  rfl

/-- Collecting members enters what they contribute, as far as names are free. -/
theorem collect_eq {t : SymbolTable} (distinct : (t.childStages.map ChildStage.name).Nodup)
    (members : List Member) :
    ∃ diagnostics,
      t.collect members =
        (t.withContributions
          (admitted Contribution.name? t.names
            (Contribution.ofMembers members))).withDiagnostics diagnostics := by
  rw [collect_eq_foldl]
  exact foldl_contribute_eq distinct (Contribution.ofMembers members)

end SymbolTable

end StateWeave
