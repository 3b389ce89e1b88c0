import StateWeave.Proofs.OwnDeclarations
import StateWeave.Proofs.Resolved

/-!
# Retouched tables

A step takes no notice of some parts of a table: of policies that no plan of an entry depends on,
of what is marked as written by hand, and of reports that were made before. What it makes of a
table in which these are changed is what it makes of the table, with the same change behind it.
Since reading and resolving are made of such steps, two runs that differ in one of these respects
can be compared at their ends.
-/

namespace StateWeave

/-- A change to a table that leaves the plans of all entries alone. -/
structure Retouch where
  policy : Policy → Policy := id
  written : HandAuthored → HandAuthored := id
  /-- Reports that are put in front. -/
  earlier : Diagnostics := []
  plan (e : ChildEntry) (p : Policy) (resolve : Resolver) :
    e.plan (policy p) resolve = e.plan p resolve := by intros; rfl

namespace SymbolTable

def retouched (t : SymbolTable) (r : Retouch) : SymbolTable :=
  { t with
    policy := r.policy t.policy
    handAuthored := r.written t.handAuthored
    diagnostics := r.earlier ++ t.diagnostics }

/-- A step makes of a retouched table what it makes of the table, retouched. -/
def Respects (r : Retouch) (step : SymbolTable → SymbolTable) : Prop :=
  ∀ t, step (t.retouched r) = (step t).retouched r

variable {r : Retouch}

namespace Respects

variable {first second : SymbolTable → SymbolTable}

theorem andThen (respects : Respects r first) (also : Respects r second) :
    Respects r fun t => second (first t) := by
  intro t
  exact (congrArg second (respects t)).trans (also (first t))

theorem foldl {α : Type} {step : SymbolTable → α → SymbolTable} {xs : List α}
    (each : ∀ x ∈ xs, Respects r fun t => step t x) : Respects r fun t => xs.foldl step t := by
  intro t
  induction xs generalizing t with
  | nil => rfl
  | cons x xs ih =>
      exact (congrArg (xs.foldl step) (each x List.mem_cons_self t)).trans
        (ih (fun y member => each y (List.mem_cons_of_mem x member)) (step t x))

end Respects

open Respects

variable (r)

theorem respects_append (added : Diagnostics) :
    Respects r fun t => t.withDiagnostics (t.diagnostics ++ added) := by
  intro t
  exact congrArg ({ t.retouched r with diagnostics := · }) (List.append_assoc _ _ _)

theorem respects_report (problem : Problem) (location : Location) :
    Respects r fun t => t.report problem location :=
  respects_append r [.ofProblem problem location]

variable {r}

theorem register_retouched (t : SymbolTable) (name : String) (location : Location)
    (duplicate : Problem) {proceed : SymbolTable → SymbolTable} (respects : Respects r proceed) :
    (t.retouched r).register name location duplicate proceed =
      (fun done => (done.1.retouched r, done.2)) (t.register name location duplicate proceed) := by
  cases place : t.firstPlace? name with
  | some first =>
      have same : (t.retouched r).firstPlace? name = some first := place
      rw [register_of_taken place, register_of_taken same]
      exact congrArg (·, false) (respects_append r _ t)
  | none =>
      have same : (t.retouched r).firstPlace? name = none := place
      rw [register_of_free place, register_of_free same]
      exact congrArg (·, true) (respects (t.reserve name location))

variable (r)

theorem addAction_retouched (t : SymbolTable) (name type : String) (location : Location) :
    (t.retouched r).addAction name type location =
      (fun done => (done.1.retouched r, done.2)) (t.addAction name type location) :=
  register_retouched t name location _ fun _ => rfl

theorem respects_pushStage (stage : ChildStage) : Respects r fun t => t.pushStage stage := by
  intro t
  dsimp only
  rw [pushStage_eq, pushStage_eq]
  rfl

theorem respects_insertPlaceholder (p : Placeholder) :
    Respects r fun t => t.insertPlaceholder p := by
  intro t
  dsimp only
  rw [insertPlaceholder_eq, insertPlaceholder_eq]
  rfl

theorem respects_addStaged (name : String) (e : Embedding) (initialValue : Option String)
    (location : Location) (staged : Bool) :
    Respects r fun t => t.addStaged name e initialValue location staged := by
  intro t
  have added : (t.retouched r).addChild name e initialValue location =
      (fun done => (done.1.retouched r, done.2)) (t.addChild name e initialValue location) :=
    register_retouched t name location _ fun _ => rfl
  dsimp only [addStaged]
  rw [added]
  rcases t.addChild name e initialValue location with ⟨u, entered⟩
  cases entered with
  | false => rfl
  | true =>
      dsimp only
      split
      · exact respects_pushStage r _ u
      · rfl

/-- Entering an entry goes by its plan. -/
theorem respects_addEntry (resolve : Resolver) (e : ChildEntry) :
    Respects r fun t => addEntry resolve t e := by
  intro t
  have plan : e.plan (t.retouched r).policy resolve = e.plan t.policy resolve :=
    r.plan e t.policy resolve
  dsimp only [addEntry]
  rw [plan]
  cases e.plan t.policy resolve with
  | refused problem => exact respects_report r problem e.location t
  | placeholder kind name =>
      refine congrArg Prod.fst (register_retouched t name e.location _ ?_)
      have inserted := respects_insertPlaceholder r (placeholderOf name kind e resolve)
      split
      · exact inserted.andThen (respects_pushStage r _)
      · exact inserted
  | list name embedding children =>
      have listed : Respects r fun t => children.foldl (insertListed name resolve) t := by
        intro t
        dsimp only
        rw [foldl_insertListed, foldl_insertListed]
        rfl
      exact (listed.andThen
        (respects_addStaged r name embedding none e.location t.placement.isRoot)) t
  | child name embedding initialValue dropped =>
      have added := respects_addStaged r name embedding initialValue e.location true
      cases dropped with
      | false => exact added t
      | true => exact ((respects_report r _ e.location).andThen added) t

theorem respects_applyOption (option : CompositionOption) :
    Respects r fun t => t.applyOption option := by
  intro t
  cases option <;> rfl

theorem respects_selectInitialCase (e : Expr) (location : Location) :
    Respects r fun t => t.selectInitialCase e location := by
  intro t
  have check : (t.retouched r).checkInitialCase e = t.checkInitialCase e := rfl
  dsimp only [selectInitialCase]
  rw [check]
  split
  · rfl
  · exact respects_report r _ location t

theorem respects_compose (c : Composition) (resolve : Resolver) :
    Respects r fun t => t.compose c resolve := by
  have entries : Respects r fun t =>
      addEntries resolve (c.options.foldl applyOption t) c.children :=
    (foldl fun option _ => respects_applyOption r option).andThen
      (foldl fun e _ => respects_addEntry r resolve e)
  intro t
  dsimp only [compose]
  split
  · next name location _ => exact (entries.andThen (respects_selectInitialCase r name location)) t
  · exact entries t

theorem respects_pushFragment (position : Position) (f : Fragment) :
    Respects r fun t => t.pushFragment position f := by
  intro t
  cases position <;> rfl

theorem respects_attachObserver (attachment : Attachment) (o : Observer) (location : Location) :
    Respects r fun t => (t.attachObserver attachment o location).1 := by
  intro t
  cases attachment with
  | core => rfl
  | binding =>
      have same : (t.retouched r).bindable = t.bindable := rfl
      simp only [attachObserver, same]
      split
      · rfl
      · exact respects_report r _ location t
  | scope name =>
      have same : (t.retouched r).childStages = t.childStages := rfl
      simp only [attachObserver, same]
      split
      · rfl
      · exact respects_report r _ location t

/-- Entering a contribution looks at names and stages. What it marks as written by hand has to get
along with what is marked otherwise. -/
theorem respects_contribute {c : Contribution}
    (marks : ∀ written, r.written (c.mark written) = c.mark (r.written written)) :
    Respects r fun t => t.contribute c := by
  intro t
  cases c with
  | refused reports => exact respects_append r reports t
  | stateType location =>
      exact congrArg ({ t.retouched r with handAuthored := · }) (marks t.handAuthored).symm
  | actionType location =>
      exact congrArg ({ t.retouched r with handAuthored := · }) (marks t.handAuthored).symm
  | pipeline location =>
      have kept := marks t.handAuthored
      dsimp only [Contribution.mark] at kept
      dsimp only [contribute, suppressPipeline, retouched]
      rw [kept, List.append_assoc]
  | action name type location =>
      exact congrArg Prod.fst (addAction_retouched r t name type location)
  | scope pending =>
      exact congrArg Prod.fst (register_retouched t pending.name pending.location _ fun _ => rfl)
  | fragment position f => exact respects_pushFragment r position f t
  | actionFragment position name type location f =>
      dsimp only [contribute]
      rw [addAction_retouched]
      rcases t.addAction name type location with ⟨u, entered⟩
      cases entered with
      | true => exact respects_pushFragment r position f u
      | false => rfl
  | boundFragment position pending f =>
      exact respects_pushFragment r position _ (t.queueBinding pending).1
  | observer attachment o location => exact respects_attachObserver r attachment o location t
  | _ => rfl

theorem bound_retouched (t : SymbolTable) : (t.retouched r).bound = t.bound.retouched r := rfl

theorem resolved_retouched (t : SymbolTable) :
    (t.retouched r).resolved = t.resolved.retouched r := by
  rw [resolved, bound_retouched, resolved]
  rfl

theorem respects_settleBindings : Respects r settleBindings := by
  intro t
  dsimp only [settleBindings, retouched]
  rw [List.append_assoc]

variable {r}

theorem respects_enterPlaceholder
    (told : ∀ p, (r.policy p).unboundPlaceholders = p.unboundPlaceholders) (p : Placeholder) :
    Respects r fun t => t.enterPlaceholder p := by
  intro t
  have same : (t.retouched r).policy.unboundPlaceholders = t.policy.unboundPlaceholders :=
    told t.policy
  simp only [enterPlaceholder, same]
  split
  · rfl
  · split
    · exact respects_report r _ p.location t
    · rfl

theorem respects_resolveScopes : Respects r resolveScopes := by
  intro t
  dsimp only [resolveScopes, retouched]
  rw [List.append_assoc]

/-- Resolving looks at queues, placeholders and actions, and of all policies at the one that says
whether unbound placeholders are told of. -/
theorem respects_resolve (told : ∀ p, (r.policy p).unboundPlaceholders = p.unboundPlaceholders) :
    Respects r resolve := by
  intro t
  have same : (t.retouched r).isResolved = t.isResolved := rfl
  simp only [resolve, same]
  split
  · rfl
  · have action : Respects r pushBindingAction := by
      intro t
      rw [pushBindingAction_eq, pushBindingAction_eq]
      rfl
    have placeholders : Respects r enterPlaceholders := fun t =>
      foldl (fun p _ => respects_enterPlaceholder told p) t
    have places : Respects r placeStages := fun _ => rfl
    exact (action.andThen <| (respects_settleBindings r).andThen <| placeholders.andThen <|
      places.andThen respects_resolveScopes) { t with isResolved := true }

/-- From some contribution on, a module is read and resolved without a look at what is retouched. -/
theorem respects_resolve_foldl {cs : List Contribution}
    (marks : ∀ c ∈ cs, ∀ written, r.written (c.mark written) = c.mark (r.written written))
    (told : ∀ p, (r.policy p).unboundPlaceholders = p.unboundPlaceholders) :
    Respects r fun t => (cs.foldl contribute t).resolve :=
  (Respects.foldl fun c member => respects_contribute r (marks c member)).andThen
    (respects_resolve told)

end SymbolTable

end StateWeave
