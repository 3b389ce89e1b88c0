import StateWeave.Declaration.Basic
import StateWeave.SymbolTable.Basic

/-!
# Declarations of one module

Each declaration is read off a resolved table by a function of its own. Nothing
here looks at nested lists beyond their names.
-/

namespace StateWeave.SymbolTable

/-- A type whose author declared it is added to instead of generated. -/
def emissionOf (handAuthored : Option Location) : Emission :=
  if handAuthored.isSome then .augmentation else .whole

/-- Conformances belong to the declaration of a type, which an addition leaves alone. -/
def emitted (emission : Emission) (conformances : List String) : List String :=
  match emission with
  | .whole => conformances
  | .augmentation => []

/-- A stateless child is a case without payload in a variant and a unit in a record. -/
def stateField (t : SymbolTable) (m : StateMember) : StateField where
  name := m.name
  type := if m.isUnit && t.isVariant then none else some m.type
  initialValue := if m.isUnit && !t.isVariant then some "()" else m.initialValue
  presents := m.presents

/-- A stateless case starts with nothing in it. -/
def initialCaseOf (m : StateMember) : InitialCase :=
  ⟨m.name, if m.isUnit then none else m.initialValue⟩

/-- The state of a module, member for member. -/
def stateDecl (t : SymbolTable) : StateDecl where
  access := t.access
  emission := emissionOf t.handAuthored.state
  shape := t.shape
  conformances := emitted (emissionOf t.handAuthored.state) t.stateConformances
  fields := t.stateMembers.map t.stateField
  initialCase := t.initialCase?.map initialCaseOf

/-- An action of the unit type is a bare case. -/
def actionCaseOf (m : ActionMember) : ActionCase :=
  ⟨m.name, if m.type = "Void" then none else some m.type⟩

/-- The action of a module, in the order that its policy asks for. -/
def actionDecl (t : SymbolTable) : ActionDecl where
  access := t.access
  emission := emissionOf t.handAuthored.action
  conformances := emitted (emissionOf t.handAuthored.action) t.actionConformances
  cases := t.orderedActions.map actionCaseOf

def outerStage : OuterStage → Stage
  | .fragment f => .fragment f
  | .binding observers => .binding observers
  | .child stage => .child stage

/-- All core fragments make one stage, which is left out if it would be bare. -/
def coreStages (t : SymbolTable) : List Stage :=
  if t.core.isEmpty && t.coreModifiers.isEmpty then [] else [.core t.core t.coreModifiers]

/-- What there is to run: before the core, the core, and after it. -/
def liveStages (t : SymbolTable) : List Stage :=
  t.beforeCore.map outerStage ++ t.coreStages ++ t.afterCore.map outerStage

/-- A pipeline is never without a stage. -/
def pipelineStages (t : SymbolTable) : List Stage :=
  match t.liveStages with
  | [] => [.empty]
  | stages => stages

/-- The pipeline, unless its author wrote one. -/
def pipeline? (t : SymbolTable) : Option Pipeline :=
  if t.handAuthored.pipeline.isSome then none else some ⟨t.access, t.pipelineStages⟩

/-- The module whose types the scopes of a table start from. -/
def baseModule (t : SymbolTable) : String := t.placement.parent?.getD t.module

/-- The entry for a scope, or nothing for one that was never resolved. A
destination is entered as a whole, through its own table. -/
def accessor? (t : SymbolTable) (s : Scope) : Option Accessor :=
  match s.embedding with
  | .destination module _ => some (.nested s.name module)
  | _ =>
    s.actionType.map fun actionType =>
      .path s.name t.baseModule s.state s.stateType s.action actionType

def accessors (t : SymbolTable) : List Accessor := t.scopes.filterMap t.accessor?

/-- What is wrong with a table of scopes: each scope that was never resolved. -/
def unresolvedScopes (t : SymbolTable) : List String :=
  (t.scopes.filter fun s => (t.accessor? s).isNone).map fun s =>
    "scope path '" ++ s.name ++ "' was never resolved"

/-- Modules get a store of their own, plain data is handed over as it is. -/
def switchCase (c : ScopeCase) : SwitchCase :=
  match c.embedding.moduleType? with
  | some module => .module c.name (module ++ ".State") (module ++ ".Action")
  | none =>
    if c.embedding.isStateless then .bare c.name else .payload c.name c.embedding.stateType

/-- The tables of a module, each only where it is needed. -/
def scopeTables (t : SymbolTable) : List Declaration :=
  (if t.needsScopePaths then [.scopePaths ⟨t.access, t.accessors⟩] else []) ++
    (if t.needsScopeCases then [.scopeCases ⟨t.access, t.scopeCases.map switchCase⟩] else [])

/-- The violations that a table of scopes brings to light; without a table nobody looks. -/
def violations (t : SymbolTable) : List String :=
  if t.needsScopePaths then t.unresolvedScopes else []

/-- All declarations of a module but those of its nested lists. -/
def ownDeclarations (t : SymbolTable) : List Declaration :=
  [.state t.stateDecl, .action t.actionDecl] ++ (t.pipeline?.map .pipeline).toList ++
    t.scopeTables

end StateWeave.SymbolTable
