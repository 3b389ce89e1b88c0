/-!
# What can go wrong in a composition

One constructor for each thing that is ever reported, with what the report has to
name. The category and the wording follow from the constructor. Only the category
`warning` lets a build go on.
-/

namespace StateWeave

/-- The categories of problems; those of one category never stop a build. -/
inductive ProblemKind where
  | structural
  | duplicateName
  | unresolvedReference
  | ambiguousPlaceholder
  | signature
  | warning
  deriving DecidableEq, Inhabited, Repr

namespace ProblemKind

def isFatal : ProblemKind → Bool
  | warning => false
  | _ => true

end ProblemKind

/-- All that is ever reported. -/
inductive Problem where
  | unsupportedDeclaration (directive declaration : String)
  | multipleDirectives (module : String) (count : Nat)
  | missingChildName
  | missingChildType (name : String)
  | valueTypeAsModule (name type : String)
  | initialCaseNotLiteral
  | initialCaseOnRecord
  | actionNameNotInferred (type : String)
  | bindingWithoutBindable
  | malformedDirective (directive reason : String)
  | duplicateChild (name : String)
  | duplicateAction (name : String)
  | duplicateScope (name : String)
  | unknownInitialCase (name : String)
  | initialCaseWithoutDefault (name : String)
  | actionPathNotRooted (path : String)
  | statePathNotRooted (path : String)
  | unknownScopeAction (name path : String)
  | unknownAttachment (name : String)
  | placeholderNotFound (kind name : String)
  | ambiguousPlaceholder (kind : String) (candidates : Nat)
  | mutableParameter (directive name : String)
  | parameterNotAllowed (directive name : String)
  | idWithoutIdentifiedAction (directive : String)
  | missingActionParameter (directive : String)
  | generationSuppressed (module : String)
  | unboundPlaceholder (kind name : String)
  | tupleInitialValueIgnored (name : String)
  | contractViolation (reason : String)
  deriving DecidableEq, Inhabited, Repr

namespace Problem

/-- The category of a problem. -/
def kind : Problem → ProblemKind
  | unsupportedDeclaration _ _ => .structural
  | multipleDirectives _ _ => .structural
  | missingChildName => .structural
  | missingChildType _ => .structural
  | valueTypeAsModule _ _ => .structural
  | initialCaseNotLiteral => .structural
  | initialCaseOnRecord => .structural
  | actionNameNotInferred _ => .structural
  | bindingWithoutBindable => .structural
  | malformedDirective _ _ => .structural
  | contractViolation _ => .structural
  | duplicateChild _ => .duplicateName
  | duplicateAction _ => .duplicateName
  | duplicateScope _ => .duplicateName
  | unknownInitialCase _ => .unresolvedReference
  | initialCaseWithoutDefault _ => .unresolvedReference
  | actionPathNotRooted _ => .unresolvedReference
  | statePathNotRooted _ => .unresolvedReference
  | unknownScopeAction _ _ => .unresolvedReference
  | unknownAttachment _ => .unresolvedReference
  | placeholderNotFound _ _ => .ambiguousPlaceholder
  | ambiguousPlaceholder _ _ => .ambiguousPlaceholder
  | mutableParameter _ _ => .signature
  | parameterNotAllowed _ _ => .signature
  | idWithoutIdentifiedAction _ => .signature
  | missingActionParameter _ => .signature
  | generationSuppressed _ => .warning
  | unboundPlaceholder _ _ => .warning
  | tupleInitialValueIgnored _ => .warning

def isFatal (p : Problem) : Bool := p.kind.isFatal

private def ticked (name : String) : String := "`" ++ name ++ "`"

private def quoted (name : String) : String := "'" ++ name ++ "'"

/-- The wording of a problem. Names that an author chose are quoted, others are ticked. -/
def message : Problem → String
  | unsupportedDeclaration directive declaration =>
    ticked directive ++ " cannot be attached to a " ++ declaration
  | multipleDirectives module count =>
    "only one composition directive may be attached to " ++ quoted module ++
      " (found " ++ toString count ++ ")"
  | missingChildName => "invalid or missing child name"
  | missingChildType name => "invalid or missing type for child " ++ quoted name
  | valueTypeAsModule name type =>
    quoted type ++ " is a value type and cannot be embedded as a child module " ++ quoted name
  | initialCaseNotLiteral => "only string literals may be used when specifying an initial case"
  | initialCaseOnRecord => "an initial case can only be selected for variant state"
  | actionNameNotInferred type =>
    "action case name could not be inferred from " ++ quoted type ++
      ", please provide an explicit name"
  | bindingWithoutBindable =>
    ticked "binding" ++ " attachment requires the " ++ ticked "bindable" ++ " option"
  | malformedDirective directive reason => ticked directive ++ " is malformed: " ++ reason
  | duplicateChild name => "duplicate definition of a child named " ++ quoted name
  | duplicateAction name => "duplicate definition of an action named " ++ quoted name
  | duplicateScope name => "duplicate definition of a scope path named " ++ quoted name
  | unknownInitialCase name => quoted name ++ " is not a valid initial case name"
  | initialCaseWithoutDefault name =>
    quoted name ++ " does not have a default value and cannot be used as the initial case"
  | actionPathNotRooted path =>
    "action path " ++ quoted path ++ " must begin with " ++ ticked "Action"
  | statePathNotRooted path =>
    "state path " ++ quoted path ++ " must begin with " ++ ticked "State"
  | unknownScopeAction name path =>
    "scope path " ++ quoted name ++ " refers to an unknown action " ++ quoted path
  | unknownAttachment name => quoted name ++ " is not a valid scoped child name"
  | placeholderNotFound kind name =>
    "could not find a " ++ kind ++ " placeholder named " ++ quoted name
  | ambiguousPlaceholder kind candidates =>
    "expected exactly one unbound " ++ kind ++ " placeholder, found " ++ toString candidates
  | mutableParameter directive name =>
    ticked directive ++ " doesn't allow a mutable parameter named " ++ quoted name
  | parameterNotAllowed directive name =>
    ticked directive ++ " doesn't allow a parameter named " ++ quoted name ++
      " in the function signature"
  | idWithoutIdentifiedAction directive =>
    ticked directive ++ " doesn't allow a parameter named 'id' unless using " ++
      ticked "identified_action"
  | missingActionParameter directive =>
    ticked directive ++ " requires an action parameter to infer an action type"
  | generationSuppressed module =>
    ticked "body" ++ " generation suppressed for " ++ quoted module
  | unboundPlaceholder kind name =>
    kind ++ " placeholder " ++ quoted name ++ " is never bound and will be omitted"
  | tupleInitialValueIgnored name =>
    "initial value of tuple state " ++ quoted name ++ " is not supported and will be ignored"
  | contractViolation reason => "internal contract violation: " ++ reason

end Problem

end StateWeave
