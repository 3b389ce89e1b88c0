import StateWeave.Directive
import StateWeave.Placeholder

/-!
# The roles of members

A member with a directive plays the role that the directive names, provided that
the directive belongs on that sort of declaration. Without a directive, a member
at the top level is recognised by its name if it is one that would be generated
otherwise.
-/

namespace StateWeave

/-- What a member is to the composition. -/
inductive Role where
  | state
  | action
  | pipeline
  | fragment (directive : Directive) (attr : Attribute)
  | actionCase (attr : Attribute)
  | placeholder (kind : PlaceholderKind) (attr : Attribute)
  | scopePath (attr : Attribute)
  | unclassified
  deriving Inhabited

/-- A directive on a declaration that it cannot describe. -/
structure Misplaced where
  directive : Directive
  attr : Attribute
  declaration : String
  deriving Inhabited

namespace Role

/-- The role that a directive gives to a declaration of the right sort. -/
def ofDirective (d : Directive) (a : Attribute) : Role :=
  match d with
  | .actionCase => actionCase a
  | .alertActions => placeholder .alert a
  | .dialogActions => placeholder .confirmationDialog a
  | .scopePath => scopePath a
  | _ => fragment d a

/-- The role of a top-level member that carries no directive. -/
def ofName (m : Member) : Role :=
  match m with
  | .type decl =>
    if decl.name = "State" then state
    else if decl.name = "Action" then action
    else unclassified
  | .variable decl => if decl.name = "body" then pipeline else unclassified
  | .function _ => unclassified

/-- The role of a member, unless its directive stands on the wrong sort of declaration. -/
def ofMember (m : Member) (topLevel : Bool) : Except Misplaced Role :=
  match Directive.find? m.attributes with
  | some (d, a) =>
    if d.target = m.sort then .ok (ofDirective d a) else .error ⟨d, a, m.kindName⟩
  | none => .ok (if topLevel then ofName m else unclassified)

end Role

end StateWeave
