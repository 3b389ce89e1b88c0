/-!
# Paths into state and actions

A path leads from a root type down to a part of its values: through fields, cases,
optionals, the envelope around presented actions, and the elements of keyed
collections. The root only names the type that the path starts from; walking the
path takes no step for it.
-/

namespace StateWeave

/-- One step from a value to a part of it. -/
inductive Step where
  | field (name : String)
  | case (name : String)
  /-- A case read through the accessor that makes its payload optional. -/
  | dynamicCase (name : String)
  | optional
  | presented
  | element
  deriving DecidableEq, Inhabited, Repr

namespace Step

/-- Fields and plain cases print alike. -/
def text : Step → String
  | field name => "." ++ name
  | case name => "." ++ name
  | dynamicCase name => ".[case: " ++ name ++ "]"
  | optional => "?"
  | presented => ".presented"
  | element => "[id:]"

def name? : Step → Option String
  | field name => some name
  | case name => some name
  | dynamicCase name => some name
  | _ => none

end Step

/-- A way down from values of a root type. -/
structure Path where
  root : String
  steps : List Step
  deriving DecidableEq, Inhabited, Repr

namespace Path

def ofRoot (root : String) : Path := ⟨root, []⟩

def state : Path := ofRoot "State"

def action : Path := ofRoot "Action"

def push (path : Path) (step : Step) : Path := { path with steps := path.steps ++ [step] }

def field (path : Path) (name : String) : Path := path.push (.field name)

def case (path : Path) (name : String) : Path := path.push (.case name)

def dynamicCase (path : Path) (name : String) : Path := path.push (.dynamicCase name)

def optional (path : Path) : Path := path.push .optional

def presented (path : Path) : Path := path.push .presented

def element (path : Path) : Path := path.push .element

@[simp] theorem root_push (path : Path) (step : Step) : (path.push step).root = path.root := rfl

@[simp] theorem steps_push (path : Path) (step : Step) :
    (path.push step).steps = path.steps ++ [step] := rfl

/-- The name in the first step, which is a child's name on every path that a model
builds from its own root. -/
def head? (path : Path) : Option String := path.steps.head?.bind Step.name?

/-- The name of a path that is one plain case and nothing else. -/
def singleCase? (path : Path) : Option String :=
  match path.steps with
  | [.case name] => some name
  | _ => none

/-- A path as it is written in source text. -/
def text (path : Path) : String :=
  "\\" ++ path.root ++ String.join (path.steps.map Step.text)

end Path

end StateWeave
