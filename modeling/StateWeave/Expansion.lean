import StateWeave.Contribution
import StateWeave.Declaration.OfTable
import StateWeave.Declaration.Rendered
import StateWeave.SymbolTable.Children
import StateWeave.SymbolTable.Resolution

/-!
# Expanding a module

A module with one composition is read into a table, the table is resolved, and
declarations are made from it. A list of children gets a table of its own, which
starts from the parent's placeholders of that list and nothing else; the module
made from it is one more declaration of the parent.

Expansion never fails. It always gives declarations together with diagnostics, and
it is up to the caller to stop at errors.
-/

namespace StateWeave

namespace SymbolTable

/-- The resolved table of a module under one composition. -/
def ofModule (policy : Policy) (resolver : Resolver) (definition : ModuleDef)
    (composition : Composition) : SymbolTable :=
  let fresh : SymbolTable := {
    module := definition.name
    access := definition.access
    placement := definition.placement
    shape := composition.shape
    policy := policy
    location := composition.location }
  ((fresh.compose composition resolver).collect definition.members).resolve

/-- The resolved table of one list of `parent`. It is always a variant and takes
over where the parent stands and who may see it. -/
def ofList (resolver : Resolver) (parent : SymbolTable) (list module : String)
    (placement : Placement) (children : List ChildEntry) : SymbolTable :=
  let fresh : SymbolTable := {
    module := module
    access := parent.access
    placement := placement
    shape := .variant
    policy := parent.policy
    location := parent.location
    placeholders := parent.placeholders.forList list }
  (fresh.compose { shape := .variant, children := children, location := parent.location }
    resolver).resolve

/-- The table of a state member that is a nested list. -/
def ofMember? (resolver : Resolver) (parent : SymbolTable) (m : StateMember) :
    Option SymbolTable :=
  match m.embedding with
  | .destination module children =>
    some (ofList resolver parent m.name module (.destination m.name parent.module) children)
  | .navigationStack module children =>
    some (ofList resolver parent m.name module (.stack m.name parent.module) children)
  | _ => none

/-- The tables of all lists of a module, in the order of its state. -/
def nestedTables (t : SymbolTable) (resolver : Resolver) : List SymbolTable :=
  t.stateMembers.filterMap (ofMember? resolver t)

/-- How deep the lists of a table lie inside one another. -/
def nesting (t : SymbolTable) : Nat :=
  t.stateMembers.foldl (fun deepest m => max deepest m.embedding.nesting) 0

/-- What a table comes to. `diagnostics` are those of nested tables and of the
making of declarations; the table keeps its own. -/
structure Outcome where
  declarations : List Declaration
  diagnostics : Diagnostics
  deriving Inhabited

/-- The report on a table that breaks what it promises to later steps. -/
def contractViolation (t : SymbolTable) (reason : String) : Diagnostic :=
  .ofProblem (.contractViolation reason) t.location

/-- Declarations can only be made from a resolved table. -/
def unresolvedOutcome (t : SymbolTable) : Outcome :=
  let reason := "'" ++ t.module ++ "' was synthesized before analysis"
  ⟨[.error reason], [t.contractViolation reason]⟩

/-- What a nested table comes to, as one declaration of its parent. -/
def nestedDeclaration (access : Access) (nested : SymbolTable) (o : Outcome) : Declaration :=
  .nested ⟨access, nested.module, nested.placement, o.declarations⟩

/-- Make declarations with nested lists followed `depth` levels down. -/
def declareWithin (resolver : Resolver) : Nat → SymbolTable → Outcome
  | 0, _ => ⟨[], []⟩
  | depth + 1, t =>
    if t.isResolved then
      let nested := (t.nestedTables resolver).map fun n => (n, declareWithin resolver depth n)
      ⟨t.ownDeclarations ++ nested.map (fun (n, o) => nestedDeclaration t.access n o) ++
          t.violations.map .error,
        nested.flatMap (fun (n, o) => n.diagnostics ++ o.diagnostics) ++
          t.violations.map t.contractViolation⟩
    else t.unresolvedOutcome

/-- Make all declarations of a table. -/
def declare (t : SymbolTable) (resolver : Resolver) : Outcome :=
  declareWithin resolver (t.nesting + 1) t

end SymbolTable

/-- What one module expands to. -/
structure Expansion where
  module : String
  declarations : List Declaration
  diagnostics : Diagnostics
  deriving Inhabited

namespace Expansion

def hasErrors (e : Expansion) : Bool := e.diagnostics.hasErrors

def render (e : Expansion) : String := Declaration.render e.module e.declarations

/-- The names that callers can reach children by. -/
def accessorNames (e : Expansion) : List String :=
  e.declarations.flatMap Declaration.accessorNames

def pipeline? (e : Expansion) : Option Pipeline := e.declarations.findSome? Declaration.pipeline?

/-- The expansion of a module under one composition. Diagnostics of the module
itself come before those of its nested lists. -/
def ofComposition (policy : Policy) (resolver : Resolver) (definition : ModuleDef)
    (composition : Composition) : Expansion :=
  let table := SymbolTable.ofModule policy resolver definition composition
  let outcome := table.declare resolver
  ⟨definition.name, outcome.declarations, table.diagnostics ++ outcome.diagnostics⟩

/-- Expand a module. Without a composition there is nothing to do, and more than
one is an error. -/
def ofModule (policy : Policy) (resolver : Resolver) (definition : ModuleDef) : Expansion :=
  match definition.directives with
  | [] => ⟨definition.name, [], []⟩
  | [composition] => ofComposition policy resolver definition composition
  | several =>
    ⟨definition.name, [],
      [.ofProblem (.multipleDirectives definition.name several.length) definition.location]⟩

/-- Expand a module and append its diagnostics to those of others. -/
def into (policy : Policy) (resolver : Resolver) (definition : ModuleDef) (sink : Diagnostics) :
    List Declaration × Diagnostics :=
  let e := ofModule policy resolver definition
  (e.declarations, sink ++ e.diagnostics)

/-- Modules are expanded independently of one another. -/
def ofModules (policy : Policy) (resolver : Resolver) (definitions : List ModuleDef) :
    List Expansion :=
  definitions.map (ofModule policy resolver)

end Expansion

end StateWeave
