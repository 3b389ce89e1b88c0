import StateWeave.Proofs.ChildNames
import StateWeave.Proofs.DeclarationNames

/-!
# The names of action cases

Children, members and bound placeholders bring action cases under names that they take,
and so these names are distinct. Two-way bindings bring the case `binding`, and nobody
takes that name for them. In a bindable module it therefore stands twice as soon as
anything else is called so: `nodup_actionNames_iff` says that nothing else goes wrong.
-/

namespace StateWeave

open Admission

def Expansion.actionNames (e : Expansion) : List String :=
  e.declarations.flatMap Declaration.actionNames

namespace Composition

variable (policy : Policy) (resolver : Resolver) (c : Composition)

/-- The action cases that are brought under a name that was taken for them. -/
def authoredActions (members : List Member) : List ActionMember :=
  (c.embedded policy resolver members).filterMap NamedChild.action? ++
    (c.contributions policy resolver members).filterMap Contribution.action?

/-- Entries and contributions draw their names from one pool. -/
theorem nodup_names_taken (members : List Member) :
    ((c.entries policy resolver).filterMap (ChildEntry.claim? policy resolver) ++
      (c.contributions policy resolver members).filterMap Contribution.name?).Nodup := by
  have pool (name : String) := (c.mem_claims_entries_iff policy resolver name).symm
  rw [contributions, admitted_congr pool]
  exact nodup_names_admitted (c.nodup_claims_entries policy resolver) _

theorem nodup_names_authoredActions (members : List Member) :
    ((c.authoredActions policy resolver members).map ActionMember.name).Nodup := by
  have children := (sublist_labels (fun _ _ => NamedChild.name_of_action?)
    (c.embedded policy resolver members)).subperm.trans
    (c.subperm_names_embedded policy resolver members)
  have named : ∀ c a, Contribution.action? c = some a → c.name? = some a.name :=
    fun _ _ h => Contribution.name_of_action? h
  have contributed := sublist_names named (c.contributions policy resolver members)
  rw [authoredActions, List.map_append]
  obtain ⟨names, same, sublist⟩ := children.append contributed.subperm
  exact same.nodup_iff.mp (sublist.nodup (c.nodup_names_taken policy resolver members))

end Composition

namespace SymbolTable

variable (policy : Policy) (resolver : Resolver) (definition : ModuleDef) (c : Composition)

/-- The actions of a module are those with names that were taken for them and the case of
two-way bindings. -/
theorem perm_actionMembers_ofModule :
    (ofModule policy resolver definition c).actionMembers.Perm
      (c.authoredActions policy resolver definition.members ++
        (started policy definition c).bindingActions) := by
  rw [actionMembers_ofModule, Composition.authoredActions, Composition.embedded,
    List.filterMap_append]
  simp only [List.append_assoc]
  refine List.Perm.append_left _ ?_
  rw [← List.append_assoc, ← List.append_assoc]
  exact List.perm_append_comm.trans (List.Perm.of_eq (by simp only [List.append_assoc]))

end SymbolTable

namespace Expansion

variable (policy : Policy) (resolver : Resolver) (definition : ModuleDef)

theorem perm_actionNames_ofModule {c : Composition} (single : definition.directives = [c]) :
    (Expansion.ofModule policy resolver definition).actionNames.Perm
      ((c.authoredActions policy resolver definition.members).map ActionMember.name ++
        if c.isBindable then ["binding"] else []) := by
  have cases : (Expansion.ofModule policy resolver definition).actionNames =
      (SymbolTable.ofModule policy resolver definition c).orderedActions.map ActionMember.name := by
    rw [actionNames, declarations_ofModule single]
    exact SymbolTable.actionNames_declare resolver _
      (SymbolTable.isResolved_ofModule policy resolver definition c)
  have binding : (SymbolTable.started policy definition c).bindingActions.map ActionMember.name =
      if c.isBindable then ["binding"] else [] := by
    rw [SymbolTable.bindingActions, SymbolTable.started]
    cases c.isBindable <;> rfl
  rw [cases, ← binding, ← List.map_append]
  exact ((SymbolTable.perm_orderedActions _).trans
    (SymbolTable.perm_actionMembers_ofModule policy resolver definition c)).map _

end Expansion

def Composition.withoutBinding (c : Composition) : Composition :=
  { c with options := c.options.filter fun option => !option.isBindable }

theorem Composition.isBindable_withoutBinding (c : Composition) :
    c.withoutBinding.isBindable = false := by
  simp [isBindable, withoutBinding]

namespace ModuleDef

def isBindable (definition : ModuleDef) : Bool :=
  definition.directives.any Composition.isBindable

def withoutBinding (definition : ModuleDef) : ModuleDef :=
  { definition with directives := definition.directives.map Composition.withoutBinding }

end ModuleDef

namespace Expansion

variable (policy : Policy) (resolver : Resolver) (definition : ModuleDef)

theorem perm_actionNames_withoutBinding {c : Composition}
    (single : definition.directives = [c]) :
    (Expansion.ofModule policy resolver definition.withoutBinding).actionNames.Perm
      ((c.authoredActions policy resolver definition.members).map ActionMember.name) := by
  have without : definition.withoutBinding.directives = [c.withoutBinding] := by
    rw [ModuleDef.withoutBinding, single]
    rfl
  have names := perm_actionNames_ofModule policy resolver definition.withoutBinding without
  rwa [c.isBindable_withoutBinding, if_neg Bool.false_ne_true, List.append_nil] at names

/-- A module without one composition of its own has no actions. -/
theorem actionNames_of_not_single (several : ∀ c, definition.directives ≠ [c]) :
    (Expansion.ofModule policy resolver definition).actionNames = [] := by
  rw [ofModule]
  split
  · rfl
  · next c single => exact absurd single (several c)
  · rfl

/-- No name but `binding` stands twice among the cases of a module's actions, and that one
stands twice just where a bindable module would have a case of this name anyway. -/
theorem nodup_actionNames_iff :
    ((Expansion.ofModule policy resolver definition).actionNames.filter
        (· ≠ "binding")).Nodup ∧
      ((Expansion.ofModule policy resolver definition).actionNames.Nodup ↔
        ¬(definition.isBindable = true ∧
          "binding" ∈
            (Expansion.ofModule policy resolver definition.withoutBinding).actionNames)) := by
  by_cases alone : ∃ c, definition.directives = [c]
  · obtain ⟨c, single⟩ := alone
    have distinct := c.nodup_names_authoredActions policy resolver definition.members
    have names := perm_actionNames_ofModule policy resolver definition single
    have without := perm_actionNames_withoutBinding policy resolver definition single
    have bindable : definition.isBindable = c.isBindable := by
      rw [ModuleDef.isBindable, single]
      exact Bool.or_false _
    rw [names.nodup_iff, (names.filter _).nodup_iff, without.mem_iff, bindable,
      List.filter_append]
    cases c.isBindable with
    | false => simp [distinct, distinct.filter]
    | true => simp [distinct, distinct.filter, List.nodup_append]
  · have nothing := actionNames_of_not_single policy resolver definition fun c single =>
      alone ⟨c, single⟩
    have without := actionNames_of_not_single policy resolver definition.withoutBinding
      fun c single => by
        obtain ⟨d, directives, _⟩ := List.map_eq_singleton_iff.mp single
        exact alone ⟨d, directives⟩
    simp [nothing, without]

example :
    (Expansion.ofModule { actionOrder := .declaration } .textual
      { name := "Feature"
        directives := [{
          options := [.bindable]
          children :=
            [⟨.reducer, false, some (.string "binding"), some (.named "Counter"), none, {}⟩] }] }
      ).actionNames = ["binding", "binding"] := by
  decide

end Expansion

end StateWeave
