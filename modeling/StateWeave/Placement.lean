/-!
# Where a module sits

A root module stands for itself. A nested module is made for one list of children,
a presentation destination or a navigation stack; it knows the name of the list
and the name of the module that declared it, and nothing else of that module.
-/

namespace StateWeave

/-- Where a module sits in the modules around it. -/
inductive Placement where
  | root
  | destination (list parent : String)
  | stack (list parent : String)
  deriving DecidableEq, Inhabited, Repr

namespace Placement

def isRoot : Placement → Bool
  | root => true
  | _ => false

def isStack : Placement → Bool
  | stack _ _ => true
  | _ => false

def isNested (p : Placement) : Bool := !p.isRoot

/-- The list that a nested module was made for. -/
def list? : Placement → Option String
  | root => none
  | destination list _ => some list
  | stack list _ => some list

/-- The module that declared the list. -/
def parent? : Placement → Option String
  | root => none
  | destination _ parent => some parent
  | stack _ parent => some parent

end Placement

end StateWeave
