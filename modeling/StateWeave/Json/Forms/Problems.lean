import StateWeave.Diagnostic.Problem
import StateWeave.Json.Decode

/-!
# Problems in JSON

Problems are read by their names and written as what they say.
-/

namespace StateWeave

open Json (OfJson Decoder Fields decode)
open Json.Case (bare carrying)

namespace Problem

def textField (name : String) : Fields String := Fields.required name decode

def countField (name : String) : Fields Nat := Fields.required name decode

/-- A problem about one thing. -/
def one (tag name : String) (make : String → Problem) : Json.Case Problem :=
  carrying tag (make <$> textField name : Fields _).payloadDecoder

/-- A problem about two things. -/
def two (tag first second : String) (make : String → String → Problem) : Json.Case Problem :=
  carrying tag (make <$> textField first <*> textField second : Fields _).payloadDecoder

/-- A problem about something and how many there are. -/
def counted (tag name count : String) (make : String → Nat → Problem) : Json.Case Problem :=
  carrying tag (make <$> textField name <*> countField count : Fields _).payloadDecoder

/-- Every problem by its tag, with what it carries under the names of its fields. -/
def decoder : Decoder Problem :=
  Decoder.sum [
    two "UnsupportedDeclaration" "directive" "declaration" unsupportedDeclaration,
    counted "MultipleDirectives" "module" "count" multipleDirectives,
    bare "MissingChildName" missingChildName,
    one "MissingChildType" "name" missingChildType,
    two "ValueTypeAsModule" "name" "ty" valueTypeAsModule,
    bare "InitialCaseNotLiteral" initialCaseNotLiteral,
    bare "InitialCaseOnRecord" initialCaseOnRecord,
    one "ActionNameNotInferred" "ty" actionNameNotInferred,
    bare "BindingWithoutBindable" bindingWithoutBindable,
    two "MalformedDirective" "directive" "reason" malformedDirective,
    one "DuplicateChild" "name" duplicateChild,
    one "DuplicateAction" "name" duplicateAction,
    one "DuplicateScope" "name" duplicateScope,
    one "UnknownInitialCase" "name" unknownInitialCase,
    one "InitialCaseWithoutDefault" "name" initialCaseWithoutDefault,
    one "ActionPathNotRooted" "path" actionPathNotRooted,
    one "StatePathNotRooted" "path" statePathNotRooted,
    two "UnknownScopeAction" "name" "path" unknownScopeAction,
    one "UnknownAttachment" "name" unknownAttachment,
    two "PlaceholderNotFound" "kind" "name" placeholderNotFound,
    counted "AmbiguousPlaceholder" "kind" "candidates" ambiguousPlaceholder,
    two "MutableParameter" "directive" "name" mutableParameter,
    two "ParameterNotAllowed" "directive" "name" parameterNotAllowed,
    one "IdWithoutIdentifiedAction" "directive" idWithoutIdentifiedAction,
    one "MissingActionParameter" "directive" missingActionParameter,
    one "GenerationSuppressed" "module" generationSuppressed,
    two "UnboundPlaceholder" "kind" "name" unboundPlaceholder,
    one "TupleInitialValueIgnored" "name" tupleInitialValueIgnored,
    one "ContractViolation" "reason" contractViolation]

end Problem

instance : OfJson Problem := ⟨Problem.decoder⟩

end StateWeave
