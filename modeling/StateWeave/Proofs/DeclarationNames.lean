import StateWeave.Proofs.OwnDeclarations

/-!
# The names in declarations

Names are read off four sorts of declarations, each of which a module has at most once:
state, actions, the table of scopes and the table that switches over cases. Nested
modules have names of their own, which are not those of the module around them.
-/

namespace StateWeave

namespace Declaration

def stateNames : Declaration → List String
  | .state decl => decl.fields.map StateField.name
  | _ => []

def actionNames : Declaration → List String
  | .action decl => decl.cases.map ActionCase.name
  | _ => []

/-- The names in a table that switches over cases. -/
def switchNames : Declaration → List String
  | .scopeCases table => table.cases.map SwitchCase.name
  | _ => []

end Declaration

theorem SwitchCase.name_switchCase (c : ScopeCase) :
    (SymbolTable.switchCase c).name = c.name := by
  rw [SymbolTable.switchCase]
  repeat' split
  all_goals rfl

namespace SymbolTable

theorem name_of_accessor? {t : SymbolTable} {s : Scope} {a : Accessor}
    (h : t.accessor? s = some a) : a.name = s.name := by
  rw [accessor?] at h
  split at h
  · cases h
    rfl
  · obtain ⟨type, _, rfl⟩ := Option.map_eq_some_iff.mp h
    rfl

variable (resolver : Resolver) (t : SymbolTable)

/-- What is read off neither pipelines, modules nor errors is read off the declarations
that a table makes of its own state, actions and scopes. -/
theorem flatMap_declare {names : Declaration → List String} (resolved : t.isResolved = true)
    (pipelines : ∀ p, names (.pipeline p) = []) (modules : ∀ m, names (.nested m) = [])
    (errors : ∀ reason, names (.error reason) = []) :
    (t.declare resolver).declarations.flatMap names =
      names (.state t.stateDecl) ++ names (.action t.actionDecl) ++
        t.scopeTables.flatMap names := by
  have pipeline : (t.pipeline?.map Declaration.pipeline).toList.flatMap names = [] := by
    cases t.pipeline? with
    | none => rfl
    | some p => simp [pipelines]
  rw [flatMap_declarations_declare resolver resolved modules errors]
  simp [ownDeclarations, List.flatMap_append, pipeline]

theorem stateNames_declare (resolved : t.isResolved = true) :
    (t.declare resolver).declarations.flatMap Declaration.stateNames =
      t.stateMembers.map StateMember.name := by
  rw [flatMap_declare resolver t resolved (fun _ => rfl) (fun _ => rfl) fun _ => rfl, scopeTables]
  cases t.needsScopePaths <;> cases t.needsScopeCases <;>
    simp [Declaration.stateNames, stateDecl, stateField, Function.comp_def]

theorem actionNames_declare (resolved : t.isResolved = true) :
    (t.declare resolver).declarations.flatMap Declaration.actionNames =
      t.orderedActions.map ActionMember.name := by
  rw [flatMap_declare resolver t resolved (fun _ => rfl) (fun _ => rfl) fun _ => rfl, scopeTables]
  cases t.needsScopePaths <;> cases t.needsScopeCases <;>
    simp [Declaration.actionNames, actionDecl, actionCaseOf, Function.comp_def]

theorem accessorNames_declare (resolved : t.isResolved = true) :
    (t.declare resolver).declarations.flatMap Declaration.accessorNames =
      if t.needsScopePaths then t.accessors.map Accessor.name else [] := by
  rw [flatMap_declare resolver t resolved (fun _ => rfl) (fun _ => rfl) fun _ => rfl, scopeTables]
  cases t.needsScopePaths <;> cases t.needsScopeCases <;>
    simp [Declaration.accessorNames]

theorem switchNames_declare (resolved : t.isResolved = true) :
    (t.declare resolver).declarations.flatMap Declaration.switchNames =
      if t.needsScopeCases then t.scopeCases.map ScopeCase.name else [] := by
  rw [flatMap_declare resolver t resolved (fun _ => rfl) (fun _ => rfl) fun _ => rfl, scopeTables]
  cases t.needsScopePaths <;> cases t.needsScopeCases <;>
    simp [Declaration.switchNames, SwitchCase.name_switchCase, Function.comp_def]

theorem perm_orderedActions : t.orderedActions.Perm t.actionMembers := by
  rw [orderedActions]
  split
  · exact List.mergeSort_perm _ _
  · exact List.Perm.refl _

end SymbolTable

end StateWeave
