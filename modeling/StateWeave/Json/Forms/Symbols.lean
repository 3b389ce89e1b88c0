import StateWeave.Json.Forms.Pipeline
import StateWeave.Placeholder
import StateWeave.Symbol

/-!
# JSON forms of symbols and placeholders
-/

namespace StateWeave

open Json (OfJson Decoder Fields decode)
open Json.Fields (required optional)
open Json.Case (bare carrying)

instance : ToJson Wiring where
  toJson
    | .unconditional => .tag "unconditional"
    | .guarded binding => .tagged "guarded" (.obj [("binding", toJson binding)])
    | .iterated => .tag "iterated"

namespace Embedding

def moduleForm (module : String) : Json := .obj [("module", toJson module)]

def listForm (module : String) (children : List ChildEntry) : Json :=
  .obj [("module", toJson module), ("children", toJson children)]

def dialogForm (action : String) (presentable : Bool) : Json :=
  .obj [("action", toJson action), ("presentable", toJson presentable)]

def toJsonForm : Embedding → Json
  | singletonModule module => .tagged "SingletonModule" (moduleForm module)
  | optionalModule module presentable =>
    .tagged "OptionalModule" (.obj
      [("module", toJson module), ("presentable", toJson presentable)])
  | keyedCollection module => .tagged "KeyedCollectionModule" (moduleForm module)
  | destination module children => .tagged "PresentationDestination" (listForm module children)
  | navigationStack module children => .tagged "NavigationStack" (listForm module children)
  | stateValue type presentable =>
    .tagged "PureStateValue" (.obj [("ty", toJson type), ("presentable", toJson presentable)])
  | tupleState type labels presentable =>
    .tagged "TupleState" (.obj
      [("ty", toJson type), ("labels", toJson labels), ("presentable", toJson presentable)])
  | stateless => .tag "PureStateless"
  | alert action presentable => .tagged "Alert" (dialogForm action presentable)
  | confirmationDialog action presentable =>
    .tagged "ConfirmationDialog" (dialogForm action presentable)
  | userScope state => .tagged "UserDefinedScope" (.obj [("state", toJson state)])

def decoder : Decoder Embedding :=
  let module : Fields String := required "module" decode
  let children : Fields (List ChildEntry) := required "children" decode
  let type : Fields String := required "ty" decode
  let action : Fields String := required "action" decode
  let presentable : Fields Bool := required "presentable" decode
  Decoder.sum [
    carrying "SingletonModule" (singletonModule <$> module : Fields _).payloadDecoder,
    carrying "OptionalModule" (optionalModule <$> module <*> presentable : Fields _).payloadDecoder,
    carrying "KeyedCollectionModule" (keyedCollection <$> module : Fields _).payloadDecoder,
    carrying "PresentationDestination"
      (destination <$> module <*> children : Fields _).payloadDecoder,
    carrying "NavigationStack" (navigationStack <$> module <*> children : Fields _).payloadDecoder,
    carrying "PureStateValue" (stateValue <$> type <*> presentable : Fields _).payloadDecoder,
    carrying "TupleState" (tupleState <$> type <*> required "labels" decode
      <*> presentable : Fields _).payloadDecoder,
    bare "PureStateless" stateless,
    carrying "Alert" (alert <$> action <*> presentable : Fields _).payloadDecoder,
    carrying "ConfirmationDialog"
      (confirmationDialog <$> action <*> presentable : Fields _).payloadDecoder,
    carrying "UserDefinedScope" (userScope <$> required "state" decode : Fields _).payloadDecoder]

end Embedding

instance : ToJson Embedding := ⟨Embedding.toJsonForm⟩
instance : OfJson Embedding := ⟨Embedding.decoder⟩

instance : ToJson StateMember where
  toJson m := .obj
    [("name", toJson m.name), ("ty", toJson m.type), ("initial_value", toJson m.initialValue),
      ("presents", toJson m.presents), ("descriptor", toJson m.embedding)]

instance : ToJson ActionMember where
  toJson m := .obj [("name", toJson m.name), ("ty", toJson m.type)]

instance : ToJson Scope where
  toJson s := .obj
    [("name", toJson s.name), ("descriptor", toJson s.embedding), ("state", toJson s.state),
      ("action", toJson s.action), ("state_type", toJson s.stateTypeOverride),
      ("resolved_action_type", toJson s.actionType)]

instance : OfJson Scope where
  decode := (Scope.mk <$> required "name" decode <*> required "descriptor" decode
    <*> required "state" decode <*> required "action" decode <*> optional "state_type" decode
    <*> optional "resolved_action_type" decode : Fields _).decoder

instance : ToJson ScopeCase where
  toJson c := .obj
    [("name", toJson c.name), ("descriptor", toJson c.embedding), ("state", toJson c.state),
      ("action", toJson c.action)]

instance : ToJson PlaceholderKind where
  toJson
    | .alert => .tag "Alert"
    | .confirmationDialog => .tag "ConfirmationDialog"

instance : OfJson PlaceholderKind where
  decode := Decoder.sum [bare "Alert" .alert, bare "ConfirmationDialog" .confirmationDialog]

instance : ToJson Placeholder where
  toJson p := .obj
    [("name", toJson p.name), ("kind", toJson p.kind), ("presentable", toJson p.presentable),
      ("action_type", toJson p.actionType), ("location", toJson p.location)]

instance : OfJson Placeholder where
  decode := (Placeholder.mk <$> required "name" decode <*> required "kind" decode
    <*> required "presentable" decode <*> optional "action_type" decode
    <*> required "location" decode : Fields _).decoder

end StateWeave
