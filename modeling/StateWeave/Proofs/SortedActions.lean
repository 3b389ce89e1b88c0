import StateWeave.Proofs.DeclarationNames
import StateWeave.Proofs.FirstRegistration
import StateWeave.Proofs.Resolved

/-!
# Sorted actions

Under the sorted policy the cases of an action are written by name. The sort is stable, so the
order in which names were registered could still be seen where two cases are called alike. Names
are given out once, though, and the only case that nobody took a name for comes behind all others:
that of two-way bindings. What is called alike therefore stands in the same order however
the registrations were made, and `actionDecl_of_perm_requests` says that the declaration
of the actions is the same.
-/

namespace StateWeave

namespace Sorting

variable {α : Type} (label : α → String)

def byLabel (a b : α) : Bool := label a ≤ label b

theorem byLabel_trans (a b c : α) (first : byLabel label a b = true)
    (second : byLabel label b c = true) : byLabel label a c = true := by
  simp only [byLabel, decide_eq_true_eq] at *
  exact String.le_trans first second

theorem byLabel_total (a b : α) : (byLabel label a b || byLabel label b a) = true := by
  simp only [byLabel, Bool.or_eq_true, decide_eq_true_eq]
  exact String.le_total (label a) (label b)

variable {label}

theorem pairwise_label_mergeSort (xs : List α) :
    ((xs.mergeSort (byLabel label)).map label).Pairwise (· ≤ ·) := by
  have sorted := List.pairwise_mergeSort (byLabel_trans label) (byLabel_total label) xs
  rw [List.pairwise_map]
  exact sorted.imp of_decide_eq_true

/-- Sorting is stable: items with one label stay in their order. -/
theorem filter_label_mergeSort (xs : List α) (l : String) :
    (xs.mergeSort (byLabel label)).filter (fun x => label x = l) =
      xs.filter fun x => label x = l := by
  have alike : (xs.filter fun x => label x = l).Pairwise fun a b => byLabel label a b = true := by
    refine List.pairwise_of_forall_mem_list fun a ha b hb => ?_
    have first : label a = l := by simpa using List.of_mem_filter ha
    have second : label b = l := by simpa using List.of_mem_filter hb
    rw [byLabel, first, second]
    exact decide_eq_true (String.le_refl l)
  have kept : (xs.filter fun x => label x = l).Sublist (xs.mergeSort (byLabel label)) :=
    List.sublist_mergeSort (byLabel_trans label) (byLabel_total label) alike
      List.filter_sublist
  have inside := kept.filter fun x => decide (label x = l)
  simp only [List.filter_filter, Bool.and_self] at inside
  exact (inside.eq_of_length ((List.mergeSort_perm _ _).filter _).length_eq.symm).symm

/-- A list by label is told by which items have which label, in which order. -/
theorem eq_of_pairwise_label {xs ys : List α} (sorted : (xs.map label).Pairwise (· ≤ ·))
    (also : (ys.map label).Pairwise (· ≤ ·))
    (alike : ∀ l, (xs.filter fun x => label x = l) = ys.filter fun x => label x = l) :
    xs = ys := by
  have mem_iff (x : α) : x ∈ xs ↔ x ∈ ys := by
    simpa using congrArg (x ∈ ·) (alike (label x))
  induction xs generalizing ys with
  | nil =>
      cases ys with
      | nil => rfl
      | cons y ys => exact absurd ((mem_iff y).mpr List.mem_cons_self) List.not_mem_nil
  | cons x xs ih =>
      cases ys with
      | nil => exact absurd ((mem_iff x).mp List.mem_cons_self) List.not_mem_nil
      | cons y ys =>
          rw [List.map_cons, List.pairwise_cons] at sorted also
          have least {z : α} {zs : List α} (first : ∀ l ∈ zs.map label, label z ≤ l) {a : α}
              (member : a ∈ z :: zs) : label z ≤ label a := by
            rcases List.mem_cons.mp member with rfl | later
            · exact String.le_refl _
            · exact first _ (List.mem_map_of_mem later)
          have level : label x = label y :=
            String.le_antisymm (least sorted.1 ((mem_iff y).mpr List.mem_cons_self))
              (least also.1 ((mem_iff x).mp List.mem_cons_self))
          have heads := alike (label x)
          rw [List.filter_cons_of_pos (by simp), List.filter_cons_of_pos (by simp [level])] at heads
          obtain ⟨rfl, _⟩ := List.cons.inj heads
          have rest (l : String) : (xs.filter fun x => label x = l) =
              ys.filter fun x => label x = l := by
            have whole := alike l
            by_cases here : label x = l
            · rw [List.filter_cons_of_pos (by simpa using here),
                List.filter_cons_of_pos (by simpa using here)] at whole
              exact (List.cons.inj whole).2
            · rwa [List.filter_cons_of_neg (by simpa using here),
                List.filter_cons_of_neg (by simpa using here)] at whole
          exact congrArg (x :: ·) (ih sorted.2 also.2 rest fun z => by
            simpa using congrArg (z ∈ ·) (rest (label z)))

/-- Sorting does not see an order that is not one among items of one label. -/
theorem mergeSort_congr {xs ys : List α}
    (alike : ∀ l, (xs.filter fun x => label x = l) = ys.filter fun x => label x = l) :
    xs.mergeSort (byLabel label) = ys.mergeSort (byLabel label) := by
  refine eq_of_pairwise_label (pairwise_label_mergeSort xs) (pairwise_label_mergeSort ys)
    fun l => ?_
  rw [filter_label_mergeSort, filter_label_mergeSort, alike]

/-- Items with distinct labels have no order among items of one label. -/
theorem filter_label_of_perm {xs ys : List α} (perm : xs.Perm ys)
    (distinct : (xs.map label).Nodup) (l : String) :
    (xs.filter fun x => label x = l) = ys.filter fun x => label x = l := by
  have others := perm.filter fun x => decide (label x = l)
  by_cases known : ∃ x ∈ xs, label x = l
  · obtain ⟨x, member, rfl⟩ := known
    rw [Admission.filter_label_of_mem distinct member] at others ⊢
    exact List.singleton_perm.mp others
  · have nothing : (xs.filter fun x => label x = l) = [] := by
      rw [List.filter_eq_nil_iff]
      exact fun x member same => known ⟨x, member, of_decide_eq_true same⟩
    rw [nothing] at others ⊢
    exact others.symm.eq_nil.symm

end Sorting

namespace SymbolTable

open Admission

theorem orderedActions_of_sorted {t : SymbolTable} (sorted : t.policy.actionOrder = .sorted) :
    t.orderedActions = t.actionMembers.mergeSort (Sorting.byLabel ActionMember.name) := by
  rw [orderedActions, sorted]
  rfl

theorem pairwise_cases_of_sorted {t : SymbolTable} (sorted : t.policy.actionOrder = .sorted) :
    (t.actionDecl.cases.map ActionCase.name).Pairwise (· ≤ ·) := by
  rw [actionDecl, orderedActions_of_sorted sorted, List.map_map]
  exact Sorting.pairwise_label_mergeSort t.actionMembers

/-- Requests for distinct names all enter what they ask for, and resolving starts from that. -/
theorem resolve_afterRequests {t : SymbolTable} {calls : List Request}
    (fresh : t.isResolved = false) (distinct : (t.names ++ calls.map Request.name).Nodup) :
    ∃ diagnostics,
      (t.afterRequests calls).resolve =
        (t.withRequests calls).resolved.withDiagnostics diagnostics := by
  have letIn : admitted (some ∘ Request.name) t.names calls = calls :=
    admitted_eq_self (by rwa [List.filterMap_eq_map])
  obtain ⟨noted, entered⟩ := t.afterRequests_eq calls
  rw [letIn] at entered
  obtain ⟨diagnostics, result⟩ :=
    resolve_eq (t := t.afterRequests calls) (by rw [entered]; exact fresh)
  exact ⟨diagnostics, by rw [result, entered]; rfl⟩

/-- The declaration of the actions under the sorted policy does not tell registrations apart
that list their actions in a different order. -/
theorem actionDecl_congr {t u : SymbolTable} (sorted : t.policy.actionOrder = .sorted)
    (also : u.policy.actionOrder = .sorted) (options : t.actionOptions = u.actionOptions)
    (placement : t.placement = u.placement) (bindable : t.bindable = u.bindable)
    (written : t.handAuthored.action = u.handAuthored.action)
    (reordered : t.actionMembers.Perm u.actionMembers)
    (alike : ∀ name, (t.actionMembers.filter fun m => m.name = name) =
      u.actionMembers.filter fun m => m.name = name) :
    u.actionDecl = { t.actionDecl with access := u.access } := by
  have view : t.hasViewAction = u.hasViewAction := reordered.any_eq
  have cases : t.orderedActions = u.orderedActions := by
    rw [orderedActions_of_sorted sorted, orderedActions_of_sorted also,
      Sorting.mergeSort_congr alike]
  simp only [actionDecl, actionConformances, options, placement, bindable, written, view, cases]

variable (module module' : String) (access access' : Access) (placement : Placement)
  (shape : StateShape) (policy policy' : Policy) (location location' : Location)
  (placeholders : PlaceholderRegistry) (bindable : Bool)

/-- Two fresh tables of one shape at one place, in which the same children and actions are
registered under distinct names, but in different orders, come to the same declaration of actions
once they are resolved, each with its own access. Its cases are the actions of the table, each
once and by name: those of the requests, that of two-way bindings, and those of placeholders
handed down bound. -/
theorem actionDecl_of_perm_requests {calls calls' : List Request}
    (sorted : policy.actionOrder = .sorted) (sorted' : policy'.actionOrder = .sorted)
    (reordered : calls.Perm calls') (distinct : (calls.map Request.name).Nodup) :
    let start : SymbolTable :=
      { fresh module access placement shape policy location placeholders with
        bindable := bindable }
    let start' : SymbolTable :=
      { fresh module' access' placement shape policy' location' placeholders with
        bindable := bindable }
    let t := (start.afterRequests calls).resolve
    let t' := (start'.afterRequests calls').resolve
    t'.actionDecl = { t.actionDecl with access := access' } ∧
      t.actionDecl.cases.Perm (t.actionMembers.map actionCaseOf) ∧
      t.actionMembers =
        calls.filterMap Request.action? ++ start.bindingActions ++
          placeholders.children.filterMap NamedChild.action? ∧
      (t.actionDecl.cases.map ActionCase.name).Pairwise (· ≤ ·) := by
  intro start start' t t'
  let u := (start.withRequests calls).resolved
  let u' := (start'.withRequests calls').resolved
  obtain ⟨diagnostics, result⟩ := resolve_afterRequests (t := start) rfl distinct
  obtain ⟨diagnostics', result'⟩ := resolve_afterRequests (t := start') rfl
    ((reordered.map Request.name).nodup_iff.mp distinct)
  have decl : t.actionDecl = u.actionDecl := (congrArg SymbolTable.actionDecl result).trans rfl
  have decl' : t'.actionDecl = u'.actionDecl := (congrArg SymbolTable.actionDecl result').trans rfl
  have members : t.actionMembers = u.actionMembers :=
    (congrArg SymbolTable.actionMembers result).trans rfl
  have listed : u.actionMembers = calls.filterMap Request.action? ++
      (start.bindingActions ++ placeholders.children.filterMap NamedChild.action?) :=
    List.append_assoc _ _ _
  have listed' : u'.actionMembers = calls'.filterMap Request.action? ++
      (start.bindingActions ++ placeholders.children.filterMap NamedChild.action?) :=
    List.append_assoc _ _ _
  have registered := reordered.filterMap Request.action?
  have names : ((calls.filterMap Request.action?).map ActionMember.name).Nodup :=
    Request.nodup_labels Request.name_of_action? distinct
  have same : u'.actionDecl = { u.actionDecl with access := access' } := by
    refine actionDecl_congr (t := u) (u := u') sorted sorted' rfl rfl rfl rfl ?_ fun name => ?_
    · rw [listed, listed']
      exact registered.append_right _
    · rw [listed, listed', List.filter_append, Sorting.filter_label_of_perm registered names,
        ← List.filter_append]
  refine ⟨by rw [decl', decl, same], ?_, members, ?_⟩
  · rw [decl, members]
    exact u.perm_orderedActions.map _
  · rw [decl]
    exact pairwise_cases_of_sorted (t := u) sorted

/-- An editor with two-way bindings registers a child, an action, and an action that is called
as the one that two-way bindings bring. -/
def editorRequests : List Request :=
  [.action ⟨"zoom", "Zoom"⟩ {}, .action ⟨"binding", "Binding"⟩ {},
    .child ⟨"canvas", .singletonModule "Canvas", none⟩ {}]

theorem actionDecl_of_perm_requests_editor :
    let start : SymbolTable :=
      { fresh "Editor" .hidden .root .record {} {} .empty with bindable := true }
    let t := (start.afterRequests editorRequests).resolve
    let t' := (start.afterRequests editorRequests.reverse).resolve
    editorRequests.Perm editorRequests.reverse ∧
      (editorRequests.map Request.name).Nodup ∧
      t'.actionDecl = t.actionDecl ∧
      t.actionMembers.map ActionMember.name = ["zoom", "binding", "canvas", "binding"] ∧
      (t.actionDecl.cases.map ActionCase.name).Pairwise (· ≤ ·) := by
  have reordered : editorRequests.Perm editorRequests.reverse := (List.reverse_perm _).symm
  have distinct : (editorRequests.map Request.name).Nodup := by decide
  obtain ⟨same, _, members, byName⟩ := actionDecl_of_perm_requests "Editor" "Editor" .hidden
    .hidden .root .record {} {} {} {} .empty true rfl rfl reordered distinct
  exact ⟨reordered, distinct, same, congrArg (List.map ActionMember.name) members, byName⟩

end SymbolTable

end StateWeave
