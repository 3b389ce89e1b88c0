import StateWeave.Composition
import StateWeave.Fragment

/-!
# Generated declarations

What a composition comes to: the types of its state and its actions, the pipeline
that runs it, tables through which callers reach its children, and modules for
its lists of children, which are made of declarations again. An error stands in
the place of a declaration that could not be made.
-/

namespace StateWeave

/-- Whether a type is generated whole or adds to one written by hand. -/
inductive Emission where
  | whole
  | augmentation
  deriving DecidableEq, Inhabited, Repr

/-- A field of record state or a case of variant state; a case may have no type. -/
structure StateField where
  name : String
  type : Option String
  initialValue : Option String
  presents : Bool
  deriving DecidableEq, Inhabited, Repr

/-- The case that variant state starts in. -/
structure InitialCase where
  name : String
  value : Option String
  deriving DecidableEq, Inhabited, Repr

/-- The state type, or what is added to one written by hand. -/
structure StateDecl where
  access : Access
  emission : Emission
  shape : StateShape
  conformances : List String
  fields : List StateField
  initialCase : Option InitialCase
  deriving DecidableEq, Inhabited, Repr

/-- A case of the action; a bare one has no payload. -/
structure ActionCase where
  name : String
  payload : Option String
  deriving DecidableEq, Inhabited, Repr

/-- The action type, or what is added to one written by hand. -/
structure ActionDecl where
  access : Access
  emission : Emission
  conformances : List String
  cases : List ActionCase
  deriving DecidableEq, Inhabited, Repr

/-- One step of a pipeline. -/
inductive Stage where
  /-- Stands alone in a pipeline that has nothing to run. -/
  | empty
  | binding (observers : List Observer)
  | fragment (fragment : Fragment)
  | child (stage : ChildStage)
  /-- All core fragments together, and what is wrapped around them. -/
  | core (fragments : List Fragment) (modifiers : List CoreModifier)
  deriving DecidableEq, Inhabited, Repr

/-- The stages that an action passes through, in order. -/
structure Pipeline where
  access : Access
  stages : List Stage
  deriving DecidableEq, Inhabited, Repr

/-- An entry of a table of scopes. -/
inductive Accessor where
  | path (name base : String) (state : Path) (stateType : String) (action : Path)
      (actionType : String)
  /-- Stands for the whole table of a nested module. -/
  | nested (name module : String)
  deriving DecidableEq, Inhabited, Repr

def Accessor.name : Accessor → String
  | .path name _ _ _ _ _ => name
  | .nested name _ => name

/-- The table through which callers reach the children of a module. -/
structure ScopeTable where
  access : Access
  entries : List Accessor
  deriving DecidableEq, Inhabited, Repr

/-- A case of a table that switches over variant state. -/
inductive SwitchCase where
  | module (name state action : String)
  | payload (name type : String)
  | bare (name : String)
  deriving DecidableEq, Inhabited, Repr

def SwitchCase.name : SwitchCase → String
  | .module name _ _ => name
  | .payload name _ => name
  | .bare name => name

/-- The table for switching over the cases of variant state. -/
structure SwitchTable where
  access : Access
  cases : List SwitchCase
  deriving DecidableEq, Inhabited, Repr

mutual

/-- A generated declaration, or an error where there should be one. -/
inductive Declaration where
  | state (decl : StateDecl)
  | action (decl : ActionDecl)
  | pipeline (decl : Pipeline)
  | scopePaths (table : ScopeTable)
  | scopeCases (table : SwitchTable)
  | nested (module : NestedModule)
  | error (message : String)

/-- The module of a nested list of children. -/
structure NestedModule where
  access : Access
  name : String
  placement : Placement
  declarations : List Declaration

end

instance : Inhabited Declaration := ⟨.error ""⟩

namespace Declaration

def isError : Declaration → Bool
  | .error _ => true
  | _ => false

def pipeline? : Declaration → Option Pipeline
  | .pipeline decl => some decl
  | _ => none

/-- The names in a table of scopes; other declarations have none. -/
def accessorNames : Declaration → List String
  | .scopePaths table => table.entries.map Accessor.name
  | _ => []

end Declaration

mutual

def Declaration.decEq (a b : Declaration) : Decidable (a = b) :=
  match a, b with
  | .state x, .state y => decidable_of_iff (x = y) (by simp)
  | .action x, .action y => decidable_of_iff (x = y) (by simp)
  | .pipeline x, .pipeline y => decidable_of_iff (x = y) (by simp)
  | .scopePaths x, .scopePaths y => decidable_of_iff (x = y) (by simp)
  | .scopeCases x, .scopeCases y => decidable_of_iff (x = y) (by simp)
  | .nested x, .nested y =>
    have := NestedModule.decEq x y
    decidable_of_iff (x = y) (by simp)
  | .error x, .error y => decidable_of_iff (x = y) (by simp)
  | .state _, .action _ | .state _, .pipeline _ | .state _, .scopePaths _
  | .state _, .scopeCases _ | .state _, .nested _ | .state _, .error _
  | .action _, .state _ | .action _, .pipeline _ | .action _, .scopePaths _
  | .action _, .scopeCases _ | .action _, .nested _ | .action _, .error _
  | .pipeline _, .state _ | .pipeline _, .action _ | .pipeline _, .scopePaths _
  | .pipeline _, .scopeCases _ | .pipeline _, .nested _ | .pipeline _, .error _
  | .scopePaths _, .state _ | .scopePaths _, .action _ | .scopePaths _, .pipeline _
  | .scopePaths _, .scopeCases _ | .scopePaths _, .nested _ | .scopePaths _, .error _
  | .scopeCases _, .state _ | .scopeCases _, .action _ | .scopeCases _, .pipeline _
  | .scopeCases _, .scopePaths _ | .scopeCases _, .nested _ | .scopeCases _, .error _
  | .nested _, .state _ | .nested _, .action _ | .nested _, .pipeline _
  | .nested _, .scopePaths _ | .nested _, .scopeCases _ | .nested _, .error _
  | .error _, .state _ | .error _, .action _ | .error _, .pipeline _
  | .error _, .scopePaths _ | .error _, .scopeCases _ | .error _, .nested _ =>
    isFalse (by intro e; cases e)

def NestedModule.decEq (a b : NestedModule) : Decidable (a = b) :=
  match a, b with
  | ⟨access, name, placement, declarations⟩, ⟨access', name', placement', declarations'⟩ =>
    have := Declaration.decEqList declarations declarations'
    decidable_of_iff
      (access = access' ∧ name = name' ∧ placement = placement' ∧ declarations = declarations')
      (by simp)

def Declaration.decEqList (a b : List Declaration) : Decidable (a = b) :=
  match a, b with
  | [], [] => isTrue rfl
  | x :: xs, y :: ys =>
    have := Declaration.decEq x y
    have := Declaration.decEqList xs ys
    decidable_of_iff (x = y ∧ xs = ys) (by simp)
  | [], _ :: _ => isFalse (by intro e; cases e)
  | _ :: _, [] => isFalse (by intro e; cases e)

end

instance : DecidableEq Declaration := Declaration.decEq

instance : DecidableEq NestedModule := NestedModule.decEq

end StateWeave
