import StateWeave.Build.Error
import StateWeave.Member

/-!
# Building members and their attributes

Locations are given out when a member is built, so it does not matter when its
location was set. Attributes that were not placed themselves stand where the
member stands, and so do parameters.
-/

namespace StateWeave

/-- An attribute in the making; with no place of its own it takes its owner's. -/
structure AttributeDraft where
  name : String
  args : List (Option String × Expr) := []
  location : Option Location := none
  deriving Inhabited

namespace AttributeDraft

def arg (d : AttributeDraft) (value : Expr) : AttributeDraft :=
  { d with args := d.args ++ [(none, value)] }

def labeled (d : AttributeDraft) (label : String) (value : Expr) : AttributeDraft :=
  { d with args := d.args ++ [(some label, value)] }

def located (d : AttributeDraft) (location : Location) : AttributeDraft :=
  { d with location := some location }

/-- The attribute on a member that stands at `owner`. -/
def buildAt (d : AttributeDraft) (owner : Location) : Attribute :=
  let location := d.location.getD owner
  ⟨d.name, d.args.map fun (label, value) => ⟨label, value, location⟩, location⟩

def build (d : AttributeDraft) : Attribute := d.buildAt {}

end AttributeDraft

/-- A member has to have a name. -/
def requireName (name : String) (member : Member) : Except BuildError Member :=
  if name = "" then .error .missingDeclarationName else .ok member

/-- A function in the making: parameters by name, type and mutability. -/
structure FunctionDraft where
  name : String
  attributes : List AttributeDraft := []
  params : List (String × String × Bool) := []
  returnType : Option String := none
  location : Location := {}
  deriving Inhabited

namespace FunctionDraft

def withAttribute (d : FunctionDraft) (a : AttributeDraft) : FunctionDraft :=
  { d with attributes := d.attributes ++ [a] }

def param (d : FunctionDraft) (name type : String) : FunctionDraft :=
  { d with params := d.params ++ [(name, type, false)] }

def mutableParam (d : FunctionDraft) (name type : String) : FunctionDraft :=
  { d with params := d.params ++ [(name, type, true)] }

/-- The state, to be changed in place. -/
def state (d : FunctionDraft) : FunctionDraft := d.mutableParam "state" "State"

def action (d : FunctionDraft) (type : String) : FunctionDraft := d.param "action" type

def returns (d : FunctionDraft) (type : String) : FunctionDraft :=
  { d with returnType := some type }

def located (d : FunctionDraft) (location : Location) : FunctionDraft :=
  { d with location := location }

/-- The function, its parameters and its attributes, all placed where it stands. -/
def build (d : FunctionDraft) : Except BuildError Member :=
  requireName d.name <| .function
    ⟨d.name, d.attributes.map (·.buildAt d.location),
      d.params.map fun (name, type, isMutable) => ⟨name, type, isMutable, d.location⟩,
      d.returnType, d.location⟩

end FunctionDraft

/-- A type in the making, with members that are built already. -/
structure TypeDraft where
  name : String
  form : TypeForm
  attributes : List AttributeDraft := []
  members : List Member := []
  location : Location := {}
  deriving Inhabited

namespace TypeDraft

def withAttribute (d : TypeDraft) (a : AttributeDraft) : TypeDraft :=
  { d with attributes := d.attributes ++ [a] }

def withMember (d : TypeDraft) (m : Member) : TypeDraft := { d with members := d.members ++ [m] }

def located (d : TypeDraft) (location : Location) : TypeDraft := { d with location := location }

/-- The type; its members keep the places that they were built with. -/
def build (d : TypeDraft) : Except BuildError Member :=
  requireName d.name <| .type
    ⟨d.name, d.form, d.attributes.map (·.buildAt d.location), d.members, d.location⟩

end TypeDraft

/-- A variable in the making. -/
structure VariableDraft where
  name : String
  type : Option String := none
  attributes : List AttributeDraft := []
  location : Location := {}
  deriving Inhabited

namespace VariableDraft

def withAttribute (d : VariableDraft) (a : AttributeDraft) : VariableDraft :=
  { d with attributes := d.attributes ++ [a] }

def ofType (d : VariableDraft) (type : String) : VariableDraft := { d with type := some type }

def located (d : VariableDraft) (location : Location) : VariableDraft :=
  { d with location := location }

def build (d : VariableDraft) : Except BuildError Member :=
  requireName d.name <| .variable
    ⟨d.name, d.type, d.attributes.map (·.buildAt d.location), d.location⟩

end VariableDraft

namespace Member

def stateParam : Param := ⟨"state", "State", true, {}⟩

def actionParam (type : String) : Param := ⟨"action", type, false, {}⟩

/-- A fragment that brings and handles an action case of its own name. -/
def actionCaseFragment (name actionType : String) : Member :=
  .function
    ⟨name, [⟨"compose_body_action_case", [], {}⟩], [stateParam, actionParam actionType], none, {}⟩

/-- A fragment that sees every action, or those at a path, and yields an effect. -/
def bodyFragment (name : String) (path : Option Expr) : Member :=
  .function
    ⟨name, [⟨"compose_body", (path.map fun value => ⟨some "action", value, {}⟩).toList, {}⟩],
      [stateParam, actionParam "Action"], some "Effect", {}⟩

/-- A variable without attributes. -/
def plainVariable (name : String) (type : Option String) : Member :=
  .variable ⟨name, type, [], {}⟩

end Member

end StateWeave
