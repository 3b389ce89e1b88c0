import StateWeave.Composition
import StateWeave.Json.Decode

/-!
# JSON forms of modules as declared

Records are objects with one entry a field, and cases of sums are tagged. Reading
tolerates missing entries wherever a field has a natural default. Types that
contain themselves are read with a depth, which the nesting of the transcript
bounds.
-/

namespace StateWeave

open Json (OfJson Decoder Fields decode)
open Json.Fields (required optional withDefault)
open Json.Case (bare carrying)

instance : ToJson Location := ⟨fun l => .obj [("line", toJson l.line), ("column", toJson l.column)]⟩

instance : OfJson Location :=
  ⟨(Location.mk <$> required "line" decode <*> required "column" decode : Fields _).decoder⟩

/-- The location field that every declaration may leave out. -/
def Json.Fields.location : Fields Location := withDefault "location" decode {}

namespace TypeRef

mutual

def toJsonForm : TypeRef → Json
  | .named name => .tagged "Named" (.str name)
  | .optional inner => .tagged "Optional" (toJsonForm inner)
  | .tuple elements => .tagged "Tuple" (.arr (elementForms elements))

def elementForms : List TupleElement → List Json
  | [] => []
  | ⟨label, type⟩ :: rest =>
    .obj [("label", toJson label), ("ty", toJsonForm type)] :: elementForms rest

end

/-- Read a type of at most so many levels. -/
def decodeWithin : Nat → Decoder TypeRef
  | 0 => fun _ _ => .error .mismatch
  | depth + 1 =>
    let read := decodeWithin depth
    Decoder.sum [
      carrying "Named" (Decoder.map named decode),
      carrying "Optional" (Decoder.map optional read),
      carrying "Tuple" (Decoder.map tuple (Decoder.list
        (TupleElement.mk <$> Fields.optional "label" decode
          <*> required "ty" read : Fields _).decoder))]

end TypeRef

instance : ToJson TypeRef := ⟨TypeRef.toJsonForm⟩
instance : OfJson TypeRef := ⟨fun medium t => TypeRef.decodeWithin (t.depth + 1) medium t⟩

instance : ToJson TypeKind where
  toJson
    | .module => .tag "Module"
    | .value => .tag "Value"
    | .unknown => .tag "Unknown"

namespace Expr

mutual

def toJsonForm : Expr → Json
  | .string text => .tagged "StringLit" (.str text)
  | .member name => .tagged "Member" (.str name)
  | .call function args =>
    .tagged "Call" (.obj [("name", .str function), ("args", .arr (argForms args))])
  | .keyPath root segments =>
    .tagged "KeyPath" (.obj [("root", .str root), ("segments", toJson segments)])
  | .raw text => .tagged "Raw" (.str text)

def argForms : List Expr → List Json
  | [] => []
  | arg :: rest => toJsonForm arg :: argForms rest

end

/-- Read an expression of at most so many levels. -/
def decodeWithin : Nat → Decoder Expr
  | 0 => fun _ _ => .error .mismatch
  | depth + 1 =>
    Decoder.sum [
      carrying "StringLit" (Decoder.map string decode),
      carrying "Member" (Decoder.map member decode),
      carrying "Call" (call <$> required "name" decode
        <*> required "args" (Decoder.list (decodeWithin depth)) : Fields _).payloadDecoder,
      carrying "KeyPath" (keyPath <$> required "root" decode
        <*> required "segments" decode : Fields _).payloadDecoder,
      carrying "Raw" (Decoder.map raw decode)]

end Expr

instance : ToJson Expr := ⟨Expr.toJsonForm⟩
instance : OfJson Expr := ⟨fun medium t => Expr.decodeWithin (t.depth + 1) medium t⟩

instance : ToJson Argument where
  toJson a := .obj
    [("label", toJson a.label), ("value", toJson a.value), ("location", toJson a.location)]

instance : OfJson Argument where
  decode := (Argument.mk <$> optional "label" decode <*> required "value" decode
    <*> Fields.location : Fields _).decoder

instance : ToJson Attribute where
  toJson a := .obj
    [("name", toJson a.name), ("args", toJson a.args), ("location", toJson a.location)]

instance : OfJson Attribute where
  decode := (Attribute.mk <$> required "name" decode <*> withDefault "args" decode []
    <*> Fields.location : Fields _).decoder

instance : ToJson Param where
  toJson p := .obj
    [("name", toJson p.name), ("ty", toJson p.type), ("mutable", toJson p.isMutable),
      ("location", toJson p.location)]

instance : OfJson Param where
  decode := (Param.mk <$> required "name" decode <*> required "ty" decode
    <*> withDefault "mutable" decode false <*> Fields.location : Fields _).decoder

instance : ToJson FunctionDecl where
  toJson f := .obj
    [("name", toJson f.name), ("attributes", toJson f.attributes), ("params", toJson f.params),
      ("return_type", toJson f.returnType), ("location", toJson f.location)]

instance : OfJson FunctionDecl where
  decode := (FunctionDecl.mk <$> required "name" decode <*> withDefault "attributes" decode []
    <*> withDefault "params" decode [] <*> optional "return_type" decode
    <*> Fields.location : Fields _).decoder

instance : ToJson VariableDecl where
  toJson v := .obj
    [("name", toJson v.name), ("ty", toJson v.type), ("attributes", toJson v.attributes),
      ("location", toJson v.location)]

instance : OfJson VariableDecl where
  decode := (VariableDecl.mk <$> required "name" decode <*> optional "ty" decode
    <*> withDefault "attributes" decode [] <*> Fields.location : Fields _).decoder

instance : ToJson TypeForm where
  toJson
    | .struct => .tag "Struct"
    | .enum => .tag "Enum"

instance : OfJson TypeForm where
  decode := Decoder.sum [bare "Struct" .struct, bare "Enum" .enum]

namespace Member

mutual

def toJsonForm : Member → Json
  | .type decl => .tagged "Type" (typeForm decl)
  | .function decl => .tagged "Function" (toJson decl)
  | .variable decl => .tagged "Variable" (toJson decl)

def typeForm : TypeDecl → Json
  | ⟨name, form, attributes, members, location⟩ => .obj
    [("name", toJson name), ("shape", toJson form), ("attributes", toJson attributes),
      ("members", .arr (listForms members)), ("location", toJson location)]

def listForms : List Member → List Json
  | [] => []
  | member :: rest => toJsonForm member :: listForms rest

end

/-- Read a member with types at most so deep inside one another. -/
def decodeWithin : Nat → Decoder Member
  | 0 => fun _ _ => .error .mismatch
  | depth + 1 =>
    Decoder.sum [
      carrying "Type" (Decoder.map type
        (TypeDecl.mk <$> required "name" decode <*> required "shape" decode
          <*> withDefault "attributes" decode []
          <*> withDefault "members" (Decoder.list (decodeWithin depth)) []
          <*> Fields.location : Fields _).decoder),
      carrying "Function" (Decoder.map function decode),
      carrying "Variable" (Decoder.map .variable decode)]

end Member

instance : ToJson Member := ⟨Member.toJsonForm⟩
instance : OfJson Member := ⟨fun medium t => Member.decodeWithin (t.depth + 1) medium t⟩

instance : ToJson Access where
  toJson
    | .hidden => .tag "Private"
    | .package => .tag "Crate"
    | .exported => .tag "Public"

instance : OfJson Access where
  decode := Decoder.sum [bare "Private" .hidden, bare "Crate" .package, bare "Public" .exported]

instance : ToJson StateShape where
  toJson
    | .record => .tag "Record"
    | .variant => .tag "Variant"

instance : OfJson StateShape where
  decode := Decoder.sum [bare "Record" .record, bare "Variant" .variant]

instance : ToJson Conformance where
  toJson
    | .codable => .tag "Codable"
    | .equatable => .tag "Equatable"
    | .hashable => .tag "Hashable"
    | .notEquatable => .tag "NotEquatable"
    | .sendable => .tag "Sendable"

instance : OfJson Conformance where
  decode := Decoder.sum
    [bare "Codable" .codable, bare "Equatable" .equatable, bare "Hashable" .hashable,
      bare "NotEquatable" .notEquatable, bare "Sendable" .sendable]

instance : ToJson CompositionOption where
  toJson
    | .bindable => .tag "Bindable"
    | .initialCase name location =>
      .tagged "InitialCase" (.obj [("name", toJson name), ("location", toJson location)])
    | .stateConformances list => .tagged "StateConformances" (toJson list)
    | .actionConformances list => .tagged "ActionConformances" (toJson list)

instance : OfJson CompositionOption where
  decode := Decoder.sum
    [bare "Bindable" .bindable,
      carrying "InitialCase" (CompositionOption.initialCase <$> required "name" decode
        <*> Fields.location : Fields _).payloadDecoder,
      carrying "StateConformances" (Decoder.map .stateConformances decode),
      carrying "ActionConformances" (Decoder.map .actionConformances decode)]

namespace ChildKind

mutual

def toJsonForm : ChildKind → Json
  | .reducer => .tag "Reducer"
  | .identifiedArray => .tag "IdentifiedArray"
  | .state => .tag "State"
  | .stateless => .tag "Stateless"
  | .alert => .tag "Alert"
  | .confirmationDialog => .tag "ConfirmationDialog"
  | .destination module children =>
    .tagged "Destination" (.obj
      [("module", toJson module), ("children", .arr (entryForms children))])
  | .navigationStack module children =>
    .tagged "NavigationStack" (.obj
      [("module", toJson module), ("children", .arr (entryForms children))])

def entryForm : ChildEntry → Json
  | ⟨kind, presents, name, type, initialValue, location⟩ => .obj
    [("kind", toJsonForm kind), ("presents", toJson presents), ("name", toJson name),
      ("of", toJson type), ("initial_value", toJson initialValue), ("location", toJson location)]

def entryForms : List ChildEntry → List Json
  | [] => []
  | entry :: rest => entryForm entry :: entryForms rest

end

/-- The entry of a kind that is read by `kind`. -/
def entryDecoder (kind : Decoder ChildKind) : Decoder ChildEntry :=
  (ChildEntry.mk <$> required "kind" kind <*> withDefault "presents" decode false
    <*> optional "name" decode <*> optional "of" decode <*> optional "initial_value" decode
    <*> Fields.location : Fields _).decoder

/-- Read a kind of child with lists at most so deep inside one another. -/
def decodeWithin : Nat → Decoder ChildKind
  | 0 => fun _ _ => .error .mismatch
  | depth + 1 =>
    let children := required "children" (Decoder.list (entryDecoder (decodeWithin depth)))
    Decoder.sum [
      bare "Reducer" reducer, bare "IdentifiedArray" identifiedArray, bare "State" state,
      bare "Stateless" stateless, bare "Alert" alert, bare "ConfirmationDialog" confirmationDialog,
      carrying "Destination"
        (destination <$> optional "module" decode <*> children : Fields _).payloadDecoder,
      carrying "NavigationStack"
        (navigationStack <$> optional "module" decode <*> children : Fields _).payloadDecoder]

end ChildKind

instance : ToJson ChildKind := ⟨ChildKind.toJsonForm⟩
instance : OfJson ChildKind := ⟨fun medium t => ChildKind.decodeWithin (t.depth + 1) medium t⟩

instance : ToJson ChildEntry := ⟨ChildKind.entryForm⟩
instance : OfJson ChildEntry where
  decode medium t := ChildKind.entryDecoder (ChildKind.decodeWithin (t.depth + 1)) medium t

instance : ToJson Composition where
  toJson c := .obj
    [("shape", toJson c.shape), ("options", toJson c.options), ("children", toJson c.children),
      ("location", toJson c.location)]

instance : OfJson Composition where
  decode := (Composition.mk <$> withDefault "shape" decode .record
    <*> withDefault "options" decode [] <*> withDefault "children" decode []
    <*> Fields.location : Fields _).decoder

instance : ToJson Placement where
  toJson
    | .root => .tag "Root"
    | .destination list parent =>
      .tagged "Destination" (.obj [("name", toJson list), ("parent", toJson parent)])
    | .stack list parent =>
      .tagged "Stack" (.obj [("name", toJson list), ("parent", toJson parent)])

instance : OfJson Placement where
  decode := Decoder.sum
    [bare "Root" .root,
      carrying "Destination" (Placement.destination <$> required "name" decode
        <*> required "parent" decode : Fields _).payloadDecoder,
      carrying "Stack" (Placement.stack <$> required "name" decode
        <*> required "parent" decode : Fields _).payloadDecoder]

instance : ToJson ModuleDef where
  toJson m := .obj
    [("name", toJson m.name), ("access", toJson m.access), ("directives", toJson m.directives),
      ("context", toJson m.placement), ("members", toJson m.members),
      ("location", toJson m.location)]

instance : OfJson ModuleDef where
  decode := (ModuleDef.mk <$> required "name" decode <*> withDefault "access" decode .hidden
    <*> withDefault "directives" decode [] <*> withDefault "context" decode .root
    <*> withDefault "members" decode [] <*> Fields.location : Fields _).decoder

end StateWeave
