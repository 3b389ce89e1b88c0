import StateWeave.Fragment
import StateWeave.Json.Forms.Source

/-!
# JSON forms of paths and pipeline parts
-/

namespace StateWeave

open Json (OfJson Decoder Fields decode)
open Json.Fields (required optional)
open Json.Case (bare carrying)

instance : ToJson Step where
  toJson
    | .field name => .tagged "Field" (toJson name)
    | .case name => .tagged "Case" (toJson name)
    | .dynamicCase name => .tagged "DynamicCase" (toJson name)
    | .optional => .tag "Optional"
    | .presented => .tag "Presented"
    | .element => .tag "Element"

instance : OfJson Step where
  decode := Decoder.sum
    [carrying "Field" (Decoder.map .field decode), carrying "Case" (Decoder.map .case decode),
      carrying "DynamicCase" (Decoder.map .dynamicCase decode), bare "Optional" .optional,
      bare "Presented" .presented, bare "Element" .element]

instance : ToJson Path := ⟨fun p => .obj [("root", toJson p.root), ("segments", toJson p.steps)]⟩

instance : OfJson Path where
  decode := (Path.mk <$> required "root" decode <*> required "segments" decode : Fields _).decoder

instance : ToJson Position where
  toJson
    | .beforeCore => .tag "BeforeCore"
    | .core => .tag "Core"
    | .afterCore => .tag "AfterCore"

instance : ToJson CallArg where
  toJson a := .obj [("name", toJson a.name), ("mutable", toJson a.isMutable)]

instance : OfJson CallArg where
  decode := (CallArg.mk <$> required "name" decode
    <*> required "mutable" decode : Fields _).decoder

instance : ToJson Routing where
  toJson
    | .any => .tag "Any"
    | .action path => .tagged "Action" (toJson path)
    | .identified outer inner =>
      .tagged "Identified" (.obj [("action", toJson outer), ("element", toJson inner)])
    | .placeholder slot => .tagged "Placeholder" (.obj [("slot", toJson slot)])

instance : OfJson Routing where
  decode := Decoder.sum
    [bare "Any" .any, carrying "Action" (Decoder.map .action decode),
      carrying "Identified" (Routing.identified <$> required "action" decode
        <*> required "element" decode : Fields _).payloadDecoder,
      carrying "Placeholder" (Routing.placeholder <$> required "slot" decode
        : Fields _).payloadDecoder]

instance : ToJson Fragment where
  toJson f := .obj
    [("function", toJson f.function), ("args", toJson f.args),
      ("yields_effect", toJson f.yieldsEffect), ("routing", toJson f.routing),
      ("location", toJson f.location)]

instance : OfJson Fragment where
  decode := (Fragment.mk <$> required "function" decode <*> required "args" decode
    <*> required "yields_effect" decode <*> required "routing" decode
    <*> required "location" decode : Fields _).decoder

instance : ToJson Attachment where
  toJson
    | .core => .tag "Core"
    | .binding => .tag "Binding"
    | .scope name => .tagged "Scope" (toJson name)

instance : ToJson Observer where
  toJson o := .obj [("of", toJson o.watched), ("fragment", toJson o.fragment)]

instance : OfJson Observer where
  decode := (Observer.mk <$> required "of" decode
    <*> required "fragment" decode : Fields _).decoder

instance : ToJson StageKind where
  toJson
    | .scope => .tag "Scope"
    | .ifLet => .tag "IfLet"
    | .forEach => .tag "ForEach"
    | .ifCaseLet => .tag "IfCaseLet"

instance : OfJson StageKind where
  decode := Decoder.sum
    [bare "Scope" .scope, bare "IfLet" .ifLet, bare "ForEach" .forEach,
      bare "IfCaseLet" .ifCaseLet]

instance : ToJson ChildStage where
  toJson s := .obj
    [("kind", toJson s.kind), ("name", toJson s.name), ("binding", toJson s.binding),
      ("module", toJson s.module), ("observers", toJson s.observers)]

instance : OfJson ChildStage where
  decode := (ChildStage.mk <$> required "kind" decode <*> required "name" decode
    <*> required "binding" decode <*> optional "module" decode
    <*> required "observers" decode : Fields _).decoder

instance : ToJson OuterStage where
  toJson
    | .fragment f => .tagged "Fragment" (toJson f)
    | .binding observers => .tagged "Binding" (.obj [("observers", toJson observers)])
    | .child stage => .tagged "Child" (toJson stage)

instance : ToJson CoreModifier where
  toJson
    | .child stage => .tagged "Child" (toJson stage)
    | .observer o => .tagged "Observer" (toJson o)

instance : OfJson CoreModifier where
  decode := Decoder.sum
    [carrying "Child" (Decoder.map .child decode), carrying "Observer" (Decoder.map .observer decode)]

end StateWeave
