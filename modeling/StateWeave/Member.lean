import StateWeave.Expr
import StateWeave.Location

/-!
# Members of a module

A module declares types, functions and variables, and any of them may carry
attributes with arguments. Types hold members of their own, so the members of a
module form a tree; source order is a walk of the tree that takes a type before
its members.
-/

namespace StateWeave

/-- An argument of an attribute. -/
structure Argument where
  label : Option String
  value : Expr
  location : Location := {}
  deriving Inhabited

/-- An attribute as it was written; it may be a directive. -/
structure Attribute where
  name : String
  args : List Argument := []
  location : Location := {}
  deriving Inhabited

namespace Attribute

/-- The first argument without a label. -/
def positional? (a : Attribute) : Option Argument :=
  a.args.find? fun arg => arg.label.isNone

/-- The first argument with this label. -/
def labeled? (a : Attribute) (label : String) : Option Argument :=
  a.args.find? fun arg => arg.label = some label

/-- The name that an attribute gives by its first unlabeled argument, if that is a
literal and not empty. -/
def literalName? (a : Attribute) : Option String :=
  a.positional?.bind fun arg => arg.value.nonemptyLiteral?

end Attribute

/-- A parameter of a function; a mutable one is changed in place. -/
structure Param where
  name : String
  type : String
  isMutable : Bool := false
  location : Location := {}
  deriving DecidableEq, Inhabited, Repr

/-- A function, as far as its signature goes. -/
structure FunctionDecl where
  name : String
  attributes : List Attribute := []
  params : List Param := []
  returnType : Option String
  location : Location := {}
  deriving Inhabited

/-- A variable with or without a type. -/
structure VariableDecl where
  name : String
  type : Option String
  attributes : List Attribute := []
  location : Location := {}
  deriving Inhabited

/-- The forms of types that reports tell apart. -/
inductive TypeForm where
  | struct
  | enum
  deriving DecidableEq, Inhabited, Repr

mutual

/-- Anything declared inside a module. -/
inductive Member where
  | type (decl : TypeDecl)
  | function (decl : FunctionDecl)
  | variable (decl : VariableDecl)

/-- A type together with its members. -/
structure TypeDecl where
  name : String
  form : TypeForm
  attributes : List Attribute := []
  members : List Member := []
  location : Location := {}

end

namespace Member

def name : Member → String
  | .type decl => decl.name
  | .function decl => decl.name
  | .variable decl => decl.name

def attributes : Member → List Attribute
  | .type decl => decl.attributes
  | .function decl => decl.attributes
  | .variable decl => decl.attributes

def location : Member → Location
  | .type decl => decl.location
  | .function decl => decl.location
  | .variable decl => decl.location

/-- What a diagnostic calls this kind of declaration. -/
def kindName : Member → String
  | .type decl =>
    match decl.form with
    | .struct => "struct"
    | .enum => "enum"
  | .function _ => "function"
  | .variable _ => "variable"

end Member

instance : Inhabited Member := ⟨.variable default⟩

end StateWeave
