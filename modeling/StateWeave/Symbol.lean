import StateWeave.Embedding
import StateWeave.Path

/-!
# Entries of a symbol table

What a composition makes out of its children: parts of the state, cases of the
action, and scopes, which are named pairs of paths through which outside callers
reach a child.
-/

namespace StateWeave

/-- A field of record state or a case of variant state. -/
structure StateMember where
  name : String
  type : String
  initialValue : Option String
  presents : Bool
  embedding : Embedding
  deriving Inhabited

namespace StateMember

def isUnit (m : StateMember) : Bool := m.embedding.isStateless

end StateMember

/-- One case of the action. -/
structure ActionMember where
  name : String
  type : String
  deriving DecidableEq, Inhabited, Repr

/-- A pair of paths that exposes a child. The state type follows from the embedding
unless it is overridden, as it is where a variant parent makes it optional. -/
structure Scope where
  name : String
  embedding : Embedding
  state : Path
  action : Path
  stateTypeOverride : Option String
  actionType : Option String
  deriving Inhabited

namespace Scope

/-- The type at the end of a scope's state path. -/
def stateType (s : Scope) : String := s.stateTypeOverride.getD s.embedding.stateType

def isResolved (s : Scope) : Bool := s.actionType.isSome

def resolve (s : Scope) (actionType : String) : Scope := { s with actionType := some actionType }

@[simp] theorem isResolved_resolve (s : Scope) (actionType : String) :
    (s.resolve actionType).isResolved = true := rfl

end Scope

/-- One case of a variant, for tables that switch over all of them. -/
structure ScopeCase where
  name : String
  embedding : Embedding
  state : Path
  action : Path
  deriving Inhabited

end StateWeave
