import StateWeave.Text.Blank

/-!
# References to types

A type reference is what somebody wrote: a name, an optional type or a tuple.
Its shape is all that is ever inspected. What a name stands for is up to a
resolver, which gives every reference a canonical text and says whether it names
a module or a plain value.
-/

namespace StateWeave

mutual

/-- A type as it was written. -/
inductive TypeRef where
  | named (name : String)
  | optional (inner : TypeRef)
  | tuple (elements : List TupleElement)

/-- A part of a tuple, labeled or not. -/
structure TupleElement where
  label : Option String
  type : TypeRef

end

instance : Inhabited TypeRef := ⟨.named ""⟩

namespace TypeRef

mutual

/-- Names are written without the blanks around them. -/
def text : TypeRef → String
  | .named name => Text.trim name
  | .optional inner => text inner ++ "?"
  | .tuple elements => "(" ++ ", ".intercalate (elementTexts elements) ++ ")"

def elementTexts : List TupleElement → List String
  | [] => []
  | ⟨label, type⟩ :: rest =>
    (match label with
      | some label => label ++ ": " ++ text type
      | none => text type) :: elementTexts rest

end

def isOptional : TypeRef → Bool
  | .optional _ => true
  | _ => false

/-- Take one level of optionality away. -/
def unwrapped : TypeRef → TypeRef
  | .optional inner => inner
  | type => type

@[simp] theorem unwrapped_optional (type : TypeRef) : (optional type).unwrapped = type := rfl

end TypeRef

/-- What is known about the thing a reference names. -/
inductive TypeKind where
  | module
  | value
  | unknown
  deriving DecidableEq, Repr, Inhabited

/-- What a reference stands for. -/
structure ResolvedType where
  canonical : String
  kind : TypeKind
  deriving DecidableEq, Repr

/-- Knowledge about types from outside: any function will do. -/
def Resolver := TypeRef → ResolvedType

namespace Resolver

/-- Trust the text and know nothing else. -/
def textual : Resolver := fun type => ⟨type.text, .unknown⟩

/-- The kind that two lists of names give a reference. A name in both lists is a
module, a tuple is always a value, and an optional is of its inner type's kind. -/
def kindOf (modules values : List String) : TypeRef → TypeKind
  | .named name =>
    if modules.contains (Text.trim name) then .module
    else if values.contains (Text.trim name) then .value
    else .unknown
  | .tuple _ => .value
  | .optional inner => kindOf modules values inner

/-- Knowledge given by the names of all modules and of all value types. -/
def ofNames (modules values : List String) : Resolver := fun type =>
  ⟨type.text, kindOf modules values type⟩

@[simp] theorem canonical_ofNames (modules values : List String) (type : TypeRef) :
    (ofNames modules values type).canonical = type.text := rfl

end Resolver

end StateWeave
