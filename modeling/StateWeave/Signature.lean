import StateWeave.Diagnostic.Basic
import StateWeave.Directive

/-!
# Signatures of fragments

A fragment's parameters are given to it by name, so every parameter has to be one
that its directive knows, and only the state may be changed in place. All
violations of a signature are found, in parameter order, not only the first.
-/

namespace StateWeave

/-- A parameter that cannot be given to a fragment, and why. -/
structure Violation where
  problem : Problem
  location : Location
  deriving DecidableEq, Inhabited, Repr

/-- What a pipeline has to know of a fragment's function. -/
structure Signature where
  args : List CallArg
  actionType : Option String
  yieldsEffect : Bool
  deriving DecidableEq, Inhabited, Repr

namespace Signature

/-- What is wrong with one parameter. An unknown name comes before mutability, and
an `id` outside of element actions has a message of its own. -/
def violation? (d : Directive) (identified : Bool) (p : Param) : Option Violation :=
  if (d.allowedParams identified).contains p.name then
    if p.isMutable && p.name ≠ "state" then some ⟨.mutableParameter d.name p.name, p.location⟩
    else none
  else if p.name = "id" ∧ d = .body then some ⟨.idWithoutIdentifiedAction d.name, p.location⟩
  else some ⟨.parameterNotAllowed d.name p.name, p.location⟩

/-- All violations of a signature, in the order of its parameters. -/
def violations (d : Directive) (identified : Bool) (f : FunctionDecl) : List Violation :=
  f.params.filterMap (violation? d identified)

/-- The signature that a function has if nothing is wrong with it. -/
def ofFunction (f : FunctionDecl) : Signature where
  args := f.params.map fun p => ⟨p.name, p.isMutable⟩
  actionType := (f.params.find? fun p => p.name = "action").map Param.type
  yieldsEffect := f.returnType.isSome

/-- The signature of a function, or everything that is wrong with it. -/
def check (d : Directive) (f : FunctionDecl) (identified : Bool) :
    Except (List Violation) Signature :=
  match violations d identified f with
  | [] => .ok (ofFunction f)
  | found => .error found

end Signature

end StateWeave
