/-!
# Why something could not be built
-/

namespace StateWeave

/-- What a builder refuses to go on without. -/
inductive BuildError where
  | missingModuleName
  | missingChildName
  | missingChildType (name : String)
  | nestedListInList (list : String)
  | missingDeclarationName
  | missingDirective
  deriving DecidableEq, Inhabited, Repr

namespace BuildError

/-- The advice names the call that would have helped. -/
def message : BuildError → String
  | missingModuleName =>
    "Module name not specified. Pass a non-empty name to ModuleBuilder::new"
  | missingChildName => "Child name not specified. Call .named(name)"
  | missingChildType name => "Type of child '" ++ name ++ "' not specified. Call .of(type)"
  | nestedListInList list => "Destinations and stacks cannot be nested inside '" ++ list ++ "'"
  | missingDeclarationName => "Declaration name must not be empty"
  | missingDirective =>
    "Composition directive not started. Call .record() or .variant() first"

end BuildError

end StateWeave
