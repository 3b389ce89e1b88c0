import StateWeave.Declaration.Basic
import StateWeave.Diagnostic.Basic
import StateWeave.Json.Forms.Pipeline

/-!
# JSON forms of declarations and diagnostics
-/

namespace StateWeave

open Json (OfJson Decoder Fields decode)
open Json.Fields (required optional withDefault)
open Json.Case (bare carrying)

instance : ToJson Emission where
  toJson
    | .whole => .tag "Declaration"
    | .augmentation => .tag "Augmentation"

instance : OfJson Emission where
  decode := Decoder.sum [bare "Declaration" .whole, bare "Augmentation" .augmentation]

instance : ToJson StateField where
  toJson f := .obj
    [("name", toJson f.name), ("ty", toJson f.type), ("initial_value", toJson f.initialValue),
      ("presents", toJson f.presents)]

instance : OfJson StateField where
  decode := (StateField.mk <$> required "name" decode <*> optional "ty" decode
    <*> optional "initial_value" decode <*> required "presents" decode : Fields _).decoder

instance : ToJson InitialCase where
  toJson c := .obj [("name", toJson c.name), ("value", toJson c.value)]

instance : OfJson InitialCase where
  decode := (InitialCase.mk <$> required "name" decode
    <*> optional "value" decode : Fields _).decoder

instance : ToJson StateDecl where
  toJson d := .obj
    [("access", toJson d.access), ("emission", toJson d.emission), ("shape", toJson d.shape),
      ("conformances", toJson d.conformances), ("fields", toJson d.fields),
      ("initial_case", toJson d.initialCase)]

instance : OfJson StateDecl where
  decode := (StateDecl.mk <$> required "access" decode <*> required "emission" decode
    <*> required "shape" decode <*> required "conformances" decode <*> required "fields" decode
    <*> optional "initial_case" decode : Fields _).decoder

instance : ToJson ActionCase where
  toJson c := .obj [("name", toJson c.name), ("payload", toJson c.payload)]

instance : OfJson ActionCase where
  decode := (ActionCase.mk <$> required "name" decode
    <*> optional "payload" decode : Fields _).decoder

instance : ToJson ActionDecl where
  toJson d := .obj
    [("access", toJson d.access), ("emission", toJson d.emission),
      ("conformances", toJson d.conformances), ("cases", toJson d.cases)]

instance : OfJson ActionDecl where
  decode := (ActionDecl.mk <$> required "access" decode <*> required "emission" decode
    <*> required "conformances" decode <*> required "cases" decode : Fields _).decoder

instance : ToJson Stage where
  toJson
    | .empty => .tag "Empty"
    | .binding observers => .tagged "Binding" (.obj [("observers", toJson observers)])
    | .fragment f => .tagged "Fragment" (toJson f)
    | .child stage => .tagged "Child" (toJson stage)
    | .core fragments modifiers =>
      .tagged "Core" (.obj [("fragments", toJson fragments), ("modifiers", toJson modifiers)])

instance : OfJson Stage where
  decode := Decoder.sum
    [bare "Empty" .empty,
      carrying "Binding" (Stage.binding <$> required "observers" decode : Fields _).payloadDecoder,
      carrying "Fragment" (Decoder.map .fragment decode),
      carrying "Child" (Decoder.map .child decode),
      carrying "Core" (Stage.core <$> required "fragments" decode
        <*> required "modifiers" decode : Fields _).payloadDecoder]

instance : ToJson Pipeline where
  toJson p := .obj [("access", toJson p.access), ("stages", toJson p.stages)]

instance : OfJson Pipeline where
  decode := (Pipeline.mk <$> required "access" decode
    <*> required "stages" decode : Fields _).decoder

instance : ToJson Accessor where
  toJson
    | .path name base state stateType action actionType =>
      .tagged "Path" (.obj
        [("name", toJson name), ("base", toJson base), ("state", toJson state),
          ("state_type", toJson stateType), ("action", toJson action),
          ("action_type", toJson actionType)])
    | .nested name module =>
      .tagged "Nested" (.obj [("name", toJson name), ("module", toJson module)])

instance : OfJson Accessor where
  decode := Decoder.sum
    [carrying "Path" (Accessor.path <$> required "name" decode <*> required "base" decode
        <*> required "state" decode <*> required "state_type" decode
        <*> required "action" decode <*> required "action_type" decode : Fields _).payloadDecoder,
      carrying "Nested" (Accessor.nested <$> required "name" decode
        <*> required "module" decode : Fields _).payloadDecoder]

instance : ToJson ScopeTable where
  toJson t := .obj [("access", toJson t.access), ("entries", toJson t.entries)]

instance : OfJson ScopeTable where
  decode := (ScopeTable.mk <$> required "access" decode
    <*> required "entries" decode : Fields _).decoder

instance : ToJson SwitchCase where
  toJson
    | .module name state action =>
      .tagged "Module" (.obj
        [("name", toJson name), ("state", toJson state), ("action", toJson action)])
    | .payload name type => .tagged "Payload" (.obj [("name", toJson name), ("ty", toJson type)])
    | .bare name => .tagged "Bare" (.obj [("name", toJson name)])

instance : OfJson SwitchCase where
  decode := Decoder.sum
    [carrying "Module" (SwitchCase.module <$> required "name" decode
        <*> required "state" decode <*> required "action" decode : Fields _).payloadDecoder,
      carrying "Payload" (SwitchCase.payload <$> required "name" decode
        <*> required "ty" decode : Fields _).payloadDecoder,
      carrying "Bare" (SwitchCase.bare <$> required "name" decode : Fields _).payloadDecoder]

instance : ToJson SwitchTable where
  toJson t := .obj [("access", toJson t.access), ("cases", toJson t.cases)]

instance : OfJson SwitchTable where
  decode := (SwitchTable.mk <$> required "access" decode
    <*> required "cases" decode : Fields _).decoder

namespace Declaration

mutual

/-- Declarations are written as cases of a sum, nested modules included. -/
def toJsonForm : Declaration → Json
  | .state decl => .tagged "State" (toJson decl)
  | .action decl => .tagged "Action" (toJson decl)
  | .pipeline decl => .tagged "Pipeline" (toJson decl)
  | .scopePaths table => .tagged "ScopePaths" (toJson table)
  | .scopeCases table => .tagged "ScopeCases" (toJson table)
  | .nested module => .tagged "Nested" (moduleForm module)
  | .error message => .tagged "Error" (.obj [("message", toJson message)])

def moduleForm : NestedModule → Json
  | ⟨access, name, placement, declarations⟩ => .obj
    [("access", toJson access), ("name", toJson name), ("context", toJson placement),
      ("declarations", .arr (listForms declarations))]

def listForms : List Declaration → List Json
  | [] => []
  | declaration :: rest => toJsonForm declaration :: listForms rest

end

/-- Read a declaration with modules nested at most so deep. -/
def decodeWithin : Nat → Decoder Declaration
  | 0 => fun _ _ => .error .mismatch
  | depth + 1 =>
    Decoder.sum [
      carrying "State" (Decoder.map state decode),
      carrying "Action" (Decoder.map action decode),
      carrying "Pipeline" (Decoder.map pipeline decode),
      carrying "ScopePaths" (Decoder.map scopePaths decode),
      carrying "ScopeCases" (Decoder.map scopeCases decode),
      carrying "Nested" (Decoder.map nested
        (NestedModule.mk <$> required "access" decode <*> required "name" decode
          <*> required "context" decode
          <*> required "declarations" (Decoder.list (decodeWithin depth)) : Fields _).decoder),
      carrying "Error" (error <$> required "message" decode : Fields _).payloadDecoder]

end Declaration

instance : ToJson Declaration := ⟨Declaration.toJsonForm⟩
instance : OfJson Declaration := ⟨fun medium t => Declaration.decodeWithin (t.depth + 1) medium t⟩

instance : ToJson ProblemKind where
  toJson
    | .structural => .tag "Structural"
    | .duplicateName => .tag "DuplicateName"
    | .unresolvedReference => .tag "UnresolvedReference"
    | .ambiguousPlaceholder => .tag "AmbiguousPlaceholder"
    | .signature => .tag "Signature"
    | .warning => .tag "Warning"

instance : OfJson ProblemKind where
  decode := Decoder.sum
    [bare "Structural" .structural, bare "DuplicateName" .duplicateName,
      bare "UnresolvedReference" .unresolvedReference,
      bare "AmbiguousPlaceholder" .ambiguousPlaceholder, bare "Signature" .signature,
      bare "Warning" .warning]

instance : ToJson Severity where
  toJson
    | .error => .tag "Error"
    | .warning => .tag "Warning"

instance : OfJson Severity where
  decode := Decoder.sum [bare "Error" .error, bare "Warning" .warning]

instance : ToJson Remark where
  toJson r := .obj [("message", toJson r.message), ("location", toJson r.location)]

instance : OfJson Remark where
  decode := (Remark.mk <$> required "message" decode
    <*> required "location" decode : Fields _).decoder

instance : ToJson Diagnostic where
  toJson d := .obj
    [("severity", toJson d.severity), ("kind", toJson d.kind), ("message", toJson d.message),
      ("location", toJson d.location), ("notes", toJson d.notes), ("fix_it", toJson d.fixIt)]

instance : OfJson Diagnostic where
  decode := (Diagnostic.mk <$> required "severity" decode <*> required "kind" decode
    <*> required "message" decode <*> required "location" decode
    <*> withDefault "notes" decode [] <*> optional "fix_it" decode : Fields _).decoder

end StateWeave
