import StateWeave.Diagnostic.Problem
import StateWeave.Naming
import StateWeave.Placeholder
import StateWeave.Policy
import StateWeave.TypeRef

/-!
# What a child entry asks for

Each entry of a list of children comes to one of four things: a refusal, a
placeholder, a nested list, or a child with an embedding. The plan for an entry
follows from the entry, the policy and the resolver alone; whether the name it
asks for is still free is decided later.
-/

namespace StateWeave

/-- What an entry comes to before anyone asks whether its name is free. -/
inductive ChildPlan where
  | refused (problem : Problem)
  | placeholder (kind : PlaceholderKind) (name : String)
  /-- A nested list; `children` are the entries of the list. -/
  | list (name : String) (embedding : Embedding) (children : List ChildEntry)
  /-- A child of its own; `dropped` says that its initial value could not be used. -/
  | child (name : String) (embedding : Embedding) (initialValue : Option String) (dropped : Bool)
  deriving Inhabited

namespace ChildEntry

/-- The name of a child. A given name has to be a literal that says something, and
only alerts and dialogs have a name to fall back on when none is given. -/
def name? (entry : ChildEntry) : Option String :=
  match entry.name with
  | some e => e.nonemptyLiteral?
  | none => (PlaceholderKind.ofChild? entry.kind).map PlaceholderKind.defaultName

/-- The name of a nested list, which has a fallback even for a name of no use. -/
def listName (entry : ChildEntry) (fallback : String) : String :=
  (entry.name.bind Expr.nonemptyLiteral?).getD fallback

/-- Plain state is kept under the whole of its type, and tuples keep their labels. -/
def stateEmbedding (entry : ChildEntry) (resolve : Resolver) (type : TypeRef) : Embedding :=
  match type with
  | .tuple elements =>
    .tupleState (resolve type).canonical (elements.map TupleElement.label) entry.presents
  | _ => .stateValue (resolve type).canonical entry.presents

/-- The embedding of a child module of a known type. An optional type or a
presentation makes a single module optional; a collection stays a collection. -/
def moduleEmbedding (entry : ChildEntry) (type : TypeRef) (module : String) : Embedding :=
  match entry.kind with
  | .identifiedArray => .keyedCollection module
  | _ =>
    if type.isOptional || entry.presents then .optionalModule module entry.presents
    else .singletonModule module

/-- The embedding of a child that has to have a type. A module may be written as
optional, but it must not be known to be a plain value. -/
def typedEmbedding (entry : ChildEntry) (resolve : Resolver) (name : String) (type : TypeRef) :
    Except Problem Embedding :=
  match entry.kind with
  | .state => .ok (entry.stateEmbedding resolve type)
  | _ =>
    match resolve type.unwrapped with
    | ⟨canonical, .value⟩ => .error (.valueTypeAsModule name canonical)
    | ⟨canonical, _⟩ => .ok (entry.moduleEmbedding type canonical)

/-- Tuples cannot be given an initial value; one that was given is dropped. -/
def planOf (entry : ChildEntry) (name : String) (e : Embedding) : ChildPlan :=
  match e with
  | .tupleState _ _ _ => .child name e none entry.initialValue.isSome
  | _ => .child name e entry.initialValue false

/-- The plan for a child that is nothing without a type. -/
def typedPlan (entry : ChildEntry) (resolve : Resolver) (name : String) : ChildPlan :=
  match entry.type with
  | none => .refused (.missingChildType name)
  | some type =>
    match entry.typedEmbedding resolve name type with
    | .ok e => entry.planOf name e
    | .error problem => .refused problem

/-- The plan for an entry. The name is looked at first, then the type. -/
def plan (entry : ChildEntry) (policy : Policy) (resolve : Resolver) : ChildPlan :=
  match entry.kind with
  | .destination module children =>
    .list (entry.listName policy.destinationName)
      (.destination (module.getD policy.destinationModule) children) children
  | .navigationStack module children =>
    .list (entry.listName policy.stackName)
      (.navigationStack (module.getD policy.stackModule) children) children
  | kind =>
    match entry.name? with
    | none => .refused .missingChildName
    | some name =>
      match PlaceholderKind.ofChild? kind with
      | some placeholder => .placeholder placeholder name
      | none =>
        match kind with
        | .stateless => entry.planOf name .stateless
        | _ => entry.typedPlan resolve name

end ChildEntry

end StateWeave
