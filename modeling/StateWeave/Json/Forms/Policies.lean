import StateWeave.Json.Decode
import StateWeave.Policy

/-!
# Policies as JSON

Every field of a policy may be left out and then takes its default, but a field
that is there has to have a value.
-/

namespace StateWeave

open Json (OfJson Decoder DecodeError Fields decode)
open Json.Fields (withDefault)
open Json.Case (bare)

instance : ToJson ActionOrder where
  toJson
    | .sorted => .tag "sorted"
    | .declaration => .tag "declaration"

instance : OfJson ActionOrder where
  decode := Decoder.sum [bare "sorted" .sorted, bare "declaration" .declaration]

instance : ToJson UnboundPolicy where
  toJson
    | .omit => .tag "omit"
    | .warn => .tag "warn"

instance : OfJson UnboundPolicy where
  decode := Decoder.sum [bare "omit" .omit, bare "warn" .warn]

instance : ToJson Policy where
  toJson p := .obj
    [("action_order", toJson p.actionOrder),
      ("unbound_placeholders", toJson p.unboundPlaceholders),
      ("destination_name", toJson p.destinationName),
      ("destination_module", toJson p.destinationModule),
      ("stack_name", toJson p.stackName), ("stack_module", toJson p.stackModule)]

instance : OfJson Policy where
  decode :=
    let standard : Policy := {}
    (Policy.mk <$> withDefault "action_order" decode standard.actionOrder
      <*> withDefault "unbound_placeholders" decode standard.unboundPlaceholders
      <*> withDefault "destination_name" decode standard.destinationName
      <*> withDefault "destination_module" decode standard.destinationModule
      <*> withDefault "stack_name" decode standard.stackName
      <*> withDefault "stack_module" decode standard.stackModule : Fields _).decoder

/-- Read a policy from text. -/
def Policy.parse (text : String) : Except DecodeError Policy := Json.decodeText text

end StateWeave
