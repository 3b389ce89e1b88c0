/-!
# Argument expressions

Attributes and options take a handful of expression forms. Only literals, member
names, single calls and key paths are ever looked into; everything else is kept
as raw text.
-/

namespace StateWeave

/-- An argument as it was written. -/
inductive Expr where
  | string (text : String)
  | member (name : String)
  | call (function : String) (args : List Expr)
  | keyPath (root : String) (segments : List String)
  | raw (text : String)
  deriving Inhabited

namespace Expr

mutual

def text : Expr → String
  | .string text => "\"" ++ text ++ "\""
  | .member name => "." ++ name
  | .call function args => function ++ "(" ++ ", ".intercalate (texts args) ++ ")"
  | .keyPath root segments => segments.foldl (fun path segment => path ++ "." ++ segment) root
  | .raw text => text

def texts : List Expr → List String
  | [] => []
  | arg :: rest => text arg :: texts rest

end

def literal? : Expr → Option String
  | .string text => some text
  | _ => none

def memberName? : Expr → Option String
  | .member name => some name
  | _ => none

/-- A literal that says something: names given by empty literals count as missing. -/
def nonemptyLiteral? (e : Expr) : Option String :=
  e.literal?.filter fun text => text ≠ ""

end Expr

end StateWeave
