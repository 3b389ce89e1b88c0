import StateWeave.Proofs.BindingRetries
import StateWeave.Proofs.BoundFragments
import StateWeave.Proofs.HandedDown

/-!
# The types of placeholders

A placeholder that is bound is out of reach for a binding that gives no name, but not for one
that names it: the last of those settles the type of its actions, whatever the fragments expect
that earlier ones have sent there. This type is what the state and the actions of a module show,
and what a list's module shows if the placeholder is handed down to it.
-/

namespace StateWeave

open Admission

namespace Placeholder

def isNamedBy (p : Placeholder) (b : PendingBinding) : Bool :=
  b.name = some p.name && b.kind = p.kind

theorem isNamedBy_iff {p : Placeholder} {b : PendingBinding} :
    p.isNamedBy b = true ↔ b.name = some p.name ∧ b.kind = p.kind := by
  simp only [isNamedBy, Bool.and_eq_true, decide_eq_true_eq]

/-- The type that a placeholder of some type ends with after more bindings: the last one that
names it has the say. -/
def typeAfter (p : Placeholder) (type : String) (queue : List PendingBinding) : String :=
  ((queue.filter p.isNamedBy).getLast?.map PendingBinding.actionType).getD type

@[simp] theorem typeAfter_nil (p : Placeholder) (type : String) : p.typeAfter type [] = type := rfl

theorem typeAfter_cons_of_named {p : Placeholder} {b : PendingBinding}
    (named : p.isNamedBy b = true) (type : String) (queue : List PendingBinding) :
    p.typeAfter type (b :: queue) = p.typeAfter b.actionType queue := by
  rw [typeAfter, typeAfter, List.filter_cons_of_pos named, List.getLast?_cons]
  cases (queue.filter p.isNamedBy).getLast? <;> rfl

theorem typeAfter_cons_of_not_named {p : Placeholder} {b : PendingBinding}
    (other : p.isNamedBy b = false) (type : String) (queue : List PendingBinding) :
    p.typeAfter type (b :: queue) = p.typeAfter type queue := by
  rw [typeAfter, typeAfter, List.filter_cons_of_neg (ne_true_of_eq_false other)]

end Placeholder

namespace PlaceholderRegistry

variable {r : PlaceholderRegistry} {p : Placeholder} {type : String}

section

variable (distinct : r.names.Nodup) (known : r.get? p.name = some (p.typed type))
  {b : PendingBinding}

include known in
theorem finds_of_named (named : p.isNamedBy b = true) : r.Finds b (p.typed type) := by
  obtain ⟨name, kind⟩ := Placeholder.isNamedBy_iff.mp named
  rw [Finds, name]
  exact ⟨(mem_of_get? known).1, kind.symm, rfl⟩

include distinct known

/-- Only a binding that names a bound placeholder finds it. -/
theorem named_of_finds {q : Placeholder} (found : r.Finds b q) (same : q.name = p.name) :
    p.isNamedBy b = true := by
  have entry := get?_of_mem distinct (mem_entries_of_finds found)
  rw [same, known] at entry
  obtain rfl := Option.some.inj entry
  have name := name_of_finds_bound found (p.isBound_typed type)
  exact Placeholder.isNamedBy_iff.mpr ⟨name, (kind_of_finds found).symm⟩

theorem get?_settle_of_named (named : p.isNamedBy b = true) :
    (r.settle [b]).get? p.name = some (p.typed b.actionType) := by
  rw [settle_of_finds distinct (finds_of_named known named), get?_assign, Placeholder.name_typed,
    if_pos rfl, known]
  rfl

theorem get?_settle_of_not_named (other : p.isNamedBy b = false) :
    (r.settle [b]).get? p.name = some (p.typed type) := by
  by_cases find : ∃ q, r.Finds b q
  · obtain ⟨q, found⟩ := find
    have differs : p.name ≠ q.name := by
      intro same
      rw [named_of_finds distinct known found same.symm] at other
      cases other
    rw [settle_of_finds distinct found, get?_assign, if_neg differs, known]
  · rw [settle_of_missing distinct (not_exists.mp find), known]

end

/-- A placeholder that is bound stays so, and the last binding that names it gives its type. -/
theorem get?_settle_of_bound (distinct : r.names.Nodup)
    (known : r.get? p.name = some (p.typed type)) (queue : List PendingBinding) :
    (r.settle queue).get? p.name = some (p.typed (p.typeAfter type queue)) := by
  induction queue generalizing r type with
  | nil => exact known
  | cons b queue ih =>
      have still := nodup_names_settle distinct [b]
      rw [settle_cons]
      cases named : p.isNamedBy b with
      | true =>
          rw [Placeholder.typeAfter_cons_of_named named]
          exact ih still (get?_settle_of_named distinct known named)
      | false =>
          rw [Placeholder.typeAfter_cons_of_not_named named]
          exact ih still (get?_settle_of_not_named distinct known named)

theorem get?_settle_of_finds (distinct : r.names.Nodup) {b : PendingBinding}
    (found : r.Finds b p) : (r.settle [b]).get? p.name = some (p.typed b.actionType) := by
  rw [settle_of_finds distinct found, get?_assign, if_pos rfl,
    get?_of_mem distinct (mem_entries_of_finds found)]
  rfl

/-- A search for a placeholder of the registry by its name succeeds, whatever its type is. -/
theorem target_ne_error_of_named (outlined : p.bare ∈ r.outline) {b : PendingBinding}
    (named : p.isNamedBy b = true) (error : BindError) : r.target b.kind b.name ≠ .error error := by
  intro failed
  obtain ⟨name, kind⟩ := Placeholder.isNamedBy_iff.mp named
  obtain ⟨q, member, kinds, names⟩ := exists_entry_of_bare outlined
  rw [name] at failed
  exact (target_some_eq_error_iff.mp failed).2 q member ⟨kinds.trans kind.symm, names⟩

/-- No binding that names a placeholder of the registry is ever reported. -/
theorem not_named_of_mem_failures (outlined : p.bare ∈ r.outline) {queue : List PendingBinding}
    {failure : PendingBinding × BindError} (failed : failure ∈ r.failures queue) :
    p.isNamedBy failure.1 = false := by
  induction queue generalizing r with
  | nil => cases failed
  | cons b queue ih =>
      have later : failure ∈ (r.settle [b]).failures queue → p.isNamedBy failure.1 = false := by
        refine ih ?_
        rwa [outline_settle]
      rw [failures] at failed
      split at failed
      · exact later failed
      · next error missed =>
          rcases List.mem_cons.mp failed with rfl | behind
          · rw [← Bool.not_eq_true]
            exact fun named => target_ne_error_of_named outlined named error missed
          · exact later behind

end PlaceholderRegistry

namespace Contribution

/-- A fragment's binding asks for the type of its function's `action` parameter. -/
theorem actionType_of_ofVisit {v : Visit} {position : Position} {b : PendingBinding}
    {f : Fragment} (h : ofVisit v = .boundFragment position b f) :
    ∃ decl, v.member = .function decl ∧ f.function = v.path ∧
      (Signature.ofFunction decl).actionType = some b.actionType := by
  have written : (ofVisit v).written? = some f := by
    rw [h]
    rfl
  obtain ⟨decl, d, a, function, _, _, made⟩ := exists_ofFunction written
  rw [h] at made
  cases made with
  | boundFragment _ acts => exact ⟨decl, function, (written_of_ofVisit written).1, acts⟩

end Contribution

section

variable {policy : Policy} {resolver : Resolver} {definition : ModuleDef} {c : Composition}
  {front back : List Contribution} {position : Position} {b : PendingBinding} {f : Fragment}
  {p : Placeholder}
  (contributions : c.contributions policy resolver definition.members =
    front ++ .boundFragment position b f :: back)
  (found : ((c.declared policy resolver).settle
    (front.filterMap Contribution.binding?)).Finds b p)

include contributions

theorem Composition.bindings_eq :
    (c.contributions policy resolver definition.members).filterMap Contribution.binding? =
      front.filterMap Contribution.binding? ++ b :: back.filterMap Contribution.binding? := by
  rw [contributions, List.filterMap_append]
  rfl

include found

/-- What the placeholder of a fragment is in the end. -/
theorem Composition.get?_settled_of_finds :
    (c.settled policy resolver definition.members).get? p.name =
      some (p.typed (p.typeAfter b.actionType (back.filterMap Contribution.binding?))) := by
  have distinct := PlaceholderRegistry.nodup_names_settle (c.nodup_names_declared policy resolver)
    (front.filterMap Contribution.binding?)
  have settled : c.settled policy resolver definition.members =
      (((c.declared policy resolver).settle (front.filterMap Contribution.binding?)).settle
        [b]).settle (back.filterMap Contribution.binding?) := by
    rw [settled, bindings_eq contributions, PlaceholderRegistry.settle_append,
      PlaceholderRegistry.settle_cons]
  rw [settled]
  exact PlaceholderRegistry.get?_settle_of_bound
    (PlaceholderRegistry.nodup_names_settle distinct [b])
    (PlaceholderRegistry.get?_settle_of_finds distinct found) _

theorem SymbolTable.receives_of_finds :
    (ofModule policy resolver definition c).Receives p
      (p.typeAfter b.actionType (back.filterMap Contribution.binding?))
      (p.typed (p.typeAfter b.actionType (back.filterMap Contribution.binding?))) where
  distinct := nodup_names_placeholders_ofModule policy resolver definition c
  enters := entersPlaceholders_ofModule policy resolver definition c
  member := by
    rw [placeholders_ofModule]
    exact (PlaceholderRegistry.mem_of_get?
      (Composition.get?_settled_of_finds contributions found)).1
  renamed := rfl

end

namespace Expansion

/-- A fragment of a binding goes to the placeholder that the binding has found. The type that
this placeholder has in the end, wherever it is shown, is that of the fragment's `action`
parameter unless a later binding names the placeholder; then it is that of the last such binding.
Later bindings find the placeholder only by its name, and none that names it is reported. -/
theorem bound_placeholder_type {policy : Policy} {resolver : Resolver} {definition : ModuleDef}
    {c : Composition} (single : definition.directives = [c])
    {front back : List Contribution} {position : Position} {b : PendingBinding} {f : Fragment}
    {p : Placeholder}
    (contributions : c.contributions policy resolver definition.members =
      front ++ .boundFragment position b f :: back)
    (found : ((c.declared policy resolver).settle
      (front.filterMap Contribution.binding?)).Finds b p) :
    let table := SymbolTable.ofModule policy resolver definition c
    let later := back.filterMap Contribution.binding?
    let type := p.typeAfter b.actionType later
    (∀ pipeline, (Expansion.ofModule policy resolver definition).pipeline? = some pipeline →
      { f with routing := .action p.path } ∈ pipeline.stages.flatMap Stage.fragments) ∧
    (∃ v ∈ Visit.ofMembers [] definition.members, ∃ decl, v.member = .function decl ∧
      f.function = v.path ∧ (Signature.ofFunction decl).actionType = some b.actionType) ∧
    table.placeholders.get? p.name = some (p.typed type) ∧
    (∀ u q, table.HandsDown resolver (p.typed type) u q → q.isLocal = true →
      u.Shows q.name (p.embedding type)) ∧
    (∀ before d after, later = before ++ d :: after →
      ∀ q, ((c.declared policy resolver).settle
        (front.filterMap Contribution.binding? ++ b :: before)).Finds d q →
          q.name = p.name → p.isNamedBy d = true) ∧
    ∃ failures : List (PendingBinding × BindError),
      (Expansion.ofModule policy resolver definition).diagnostics.ofBindings =
        failures.map PlaceholderRegistry.failureReport ∧
      ∀ failure ∈ failures, p.isNamedBy failure.1 = false := by
  intro table later type
  have distinct := PlaceholderRegistry.nodup_names_settle (c.nodup_names_declared policy resolver)
    (front.filterMap Contribution.binding?)
  have final := Composition.get?_settled_of_finds contributions found
  refine ⟨?_, ?_, ?_, ?_, ?_, ?_⟩
  · intro pipeline generated
    exact mem_fragments_of_finds single contributions found generated
  · have admitted : .boundFragment position b f ∈
        c.contributions policy resolver definition.members := by
      rw [contributions]
      exact List.mem_append_right _ List.mem_cons_self
    obtain ⟨v, visited, contributed⟩ := List.mem_map.mp (mem_of_mem_admitted admitted)
    exact ⟨v, visited, Contribution.actionType_of_ofVisit contributed⟩
  · rw [SymbolTable.placeholders_ofModule]
    exact final
  · intro u q handed own
    exact (handed.receives (SymbolTable.receives_of_finds contributions found)).shows own
  · intro before d after _ q reaches same
    rw [PlaceholderRegistry.settle_append, PlaceholderRegistry.settle_cons] at reaches
    have bound := PlaceholderRegistry.nodup_names_settle distinct [b]
    exact PlaceholderRegistry.named_of_finds (PlaceholderRegistry.nodup_names_settle bound before)
      (PlaceholderRegistry.get?_settle_of_bound bound
        (PlaceholderRegistry.get?_settle_of_finds distinct found) before) reaches same
  · refine ⟨_, ofBindings_ofModule policy resolver single, fun failure failed => ?_⟩
    have outlined : (p.typed type).bare ∈
        (c.settled policy resolver definition.members).outline :=
      List.mem_map_of_mem (PlaceholderRegistry.mem_of_get? final).1
    rw [c.outline_settled, Placeholder.bare_typed] at outlined
    exact PlaceholderRegistry.not_named_of_mem_failures outlined failed

def answering (function alert type : String) : Member :=
  .function {
    name := function
    attributes := [{
      name := "compose_body_action_alert_case", args := [⟨none, .string alert, {}⟩] }]
    params := [⟨"action", type, false, {}⟩]
    returnType := none }

def stopAlert : Composition where
  children := [⟨.alert, true, some (.string "stop"), none, none, {}⟩]

def lift : ModuleDef where
  name := "Lift"
  directives := [stopAlert]
  members := [answering "halt" "stop" "Halt", answering "call" "stop" "Call"]

theorem bound_placeholder_type_lift :
    (∃ pipeline, (Expansion.ofModule {} .textual lift).pipeline? = some pipeline ∧
      ⟨"halt", [⟨"action", false⟩], false, .action (Path.action.case "stop").presented, {}⟩ ∈
        pipeline.stages.flatMap Stage.fragments) ∧
      (SymbolTable.ofModule {} .textual lift stopAlert).Shows "stop" (.alert "Call" true) := by
  have contributions : stopAlert.contributions {} .textual lift.members =
      [] ++ .boundFragment .core ⟨.alert, some "stop", "Halt", {}⟩
          ⟨"halt", [⟨"action", false⟩], false, .any, {}⟩ ::
        [.boundFragment .core ⟨.alert, some "stop", "Call", {}⟩
          ⟨"call", [⟨"action", false⟩], false, .any, {}⟩] := rfl
  have found : ((stopAlert.declared {} .textual).settle
      (([] : List Contribution).filterMap Contribution.binding?)).Finds
        ⟨.alert, some "stop", "Halt", {}⟩ ⟨"stop", .alert, true, none, {}⟩ :=
    ⟨List.mem_cons_self, rfl, rfl⟩
  obtain ⟨routed, _, _, shown, _⟩ := bound_placeholder_type rfl contributions found
  exact ⟨⟨_, rfl, routed _ rfl⟩, shown _ _ .own rfl⟩

/-- A placeholder may end with another type than that of the first fragment that is sent to it,
and nothing is reported. -/
theorem bound_placeholder_type_may_change :
    (¬∀ (policy : Policy) (resolver : Resolver) (definition : ModuleDef) (c : Composition)
      (front back : List Contribution) (position : Position) (b : PendingBinding) (f : Fragment)
      (p : Placeholder), definition.directives = [c] →
        c.contributions policy resolver definition.members =
          front ++ .boundFragment position b f :: back →
          ((c.declared policy resolver).settle
            (front.filterMap Contribution.binding?)).Finds b p →
            (SymbolTable.ofModule policy resolver definition c).placeholders.get? p.name =
              some (p.typed b.actionType)) ∧
      (Expansion.ofModule {} .textual lift).diagnostics = [] := by
  constructor
  · intro kept
    have final : some (⟨"stop", .alert, true, some "Call", {}⟩ : Placeholder) =
        some ⟨"stop", .alert, true, some "Halt", {}⟩ :=
      kept {} .textual lift stopAlert [] _ _ _ _ ⟨"stop", .alert, true, none, {}⟩ rfl rfl
        ⟨List.mem_cons_self, rfl, rfl⟩
    exact absurd final (by decide)
  · rfl

end Expansion

end StateWeave
