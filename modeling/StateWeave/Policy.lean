/-!
# Policies

The few choices that a project makes once for all of its modules: in which order
the cases of an action are written, what happens to placeholders that nothing
binds, and how lists of children and their modules are called unless they say so
themselves.
-/

namespace StateWeave

/-- The order in which cases of an action are written. -/
inductive ActionOrder where
  /-- By case name, so that the order of declarations does not matter. -/
  | sorted
  /-- As registered. -/
  | declaration
  deriving DecidableEq, Inhabited, Repr

/-- An unbound placeholder is always left out; the question is whether to say so. -/
inductive UnboundPolicy where
  | omit
  | warn
  deriving DecidableEq, Repr

/-- The choices of a project and their defaults. -/
structure Policy where
  actionOrder : ActionOrder := .sorted
  unboundPlaceholders : UnboundPolicy := .warn
  destinationName : String := "destination"
  destinationModule : String := "Destination"
  stackName : String := "path"
  stackModule : String := "Path"
  deriving DecidableEq, Repr

instance : Inhabited Policy := ⟨{}⟩

end StateWeave
