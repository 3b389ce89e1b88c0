import StateWeave.Declaration.Basic
import StateWeave.Text.Quoted

/-!
# The text of declarations

Declarations are written line by line, four blanks to a level, so that two
expansions can be compared with a line-oriented tool. The writer keeps the level
that it is at: the head of a block goes one level in and its closing brace comes
back out, and what hangs on a stage stands one level in without a block.
-/

namespace StateWeave

/-- A text followed by another one if there is one. -/
def optionalText (lead : String) (text : Option String) : String :=
  match text with
  | some text => lead ++ text
  | none => ""

/-- A name with what it carries in parentheses, if it carries anything. -/
def applied (name : String) (payload : Option String) : String :=
  match payload with
  | some payload => name ++ "(" ++ payload ++ ")"
  | none => name

/-- A list of conformances with its colon, or nothing. -/
def conformanceText (conformances : List String) : String :=
  if conformances.isEmpty then "" else ": " ++ ", ".intercalate conformances

/-- The first line of a type. -/
def typeHeader (access : Access) (keyword type : String) (conformances : List String) : String :=
  access.marker ++ keyword ++ " " ++ type ++ conformanceText conformances

def CallArg.text (a : CallArg) : String := if a.isMutable then "&mut " ++ a.name else a.name

/-- Shows as an error that a slot was never settled. -/
def unsettledText (slot : Nat) : String :=
  " #error(\"unresolved placeholder route " ++ toString slot ++ "\")"

/-- What a fragment reacts to. -/
def Routing.text : Routing → String
  | .any => ""
  | .action path => " on " ++ path.text
  | .identified outer inner => " on " ++ outer.text ++ "[id:] " ++ inner.text
  | .placeholder slot => unsettledText slot

/-- A call as it is made, what it reacts to, and whether it yields nothing. -/
def Fragment.text (f : Fragment) : String :=
  f.function ++ "(" ++ ", ".intercalate (f.args.map CallArg.text) ++ ")" ++ f.routing.text ++
    (if f.yieldsEffect then "" else " -> none")

def Observer.text (o : Observer) : String :=
  ".on_change(" ++ o.watched.text ++ ") " ++ o.fragment.text

def StageKind.text : StageKind → String
  | .scope => "scope"
  | .ifLet => "if_let"
  | .forEach => "for_each"
  | .ifCaseLet => "if_case_let"

/-- A child's stage; `$` marks one that goes through the presentation wrapper. -/
def ChildStage.text (lead : String) (s : ChildStage) : String :=
  lead ++ s.kind.text ++ " " ++ (if s.binding then "$" else "") ++ s.name ++
    optionalText " -> " s.module

def StateField.text (f : StateField) : String :=
  (if f.presents then "@presents " else "") ++ f.name ++ optionalText ": " f.type ++
    optionalText " = " f.initialValue

def InitialCase.text (c : InitialCase) : String := "init = " ++ applied c.name c.value

def StateDecl.keyword (d : StateDecl) : String :=
  match d.emission, d.shape with
  | .augmentation, _ => "extend state"
  | .whole, .record => "state record"
  | .whole, .variant => "state variant"

def ActionCase.text (c : ActionCase) : String := applied c.name c.payload

def ActionDecl.keyword (d : ActionDecl) : String :=
  match d.emission with
  | .whole => "action"
  | .augmentation => "extend action"

/-- An entry of a table of scopes, with the types at both of its ends. -/
def Accessor.text : Accessor → String
  | .path name base state stateType action actionType =>
    name ++ ": ScopePath<" ++ base ++ ".State, " ++ stateType ++ ", " ++ base ++ ".Action, " ++
      actionType ++ ">(" ++ state.text ++ ", " ++ action.text ++ ")"
  | .nested name module => name ++ ": " ++ module ++ ".scope_paths"

def SwitchCase.text : SwitchCase → String
  | .module name state action =>
    name ++ "(store: Store<" ++ state ++ ", " ++ action ++ ">)"
  | .payload name type => name ++ "(" ++ type ++ ")"
  | .bare name => name

/-- The header names the list that the module was made for. -/
def NestedModule.header : NestedModule → String
  | ⟨access, name, placement, _⟩ =>
    access.marker ++ "module " ++ name ++ " for " ++ placement.list?.getD ""

def errorText (message : String) : String := "#error(" ++ Text.quoted message ++ ")"

/-- What has been written, and the level that the next line stands at. -/
structure Writer where
  out : String := ""
  depth : Nat := 0
  deriving DecidableEq, Inhabited, Repr

namespace Writer

/-- Write one line at the present level. -/
def line (text : String) (w : Writer) : Writer :=
  { w with out := w.out ++ (String.join (List.replicate w.depth "    ") ++ text ++ "\n") }

def deeper (w : Writer) : Writer := { w with depth := w.depth + 1 }

/-- There is no level outside the outermost one. -/
def shallower (w : Writer) : Writer := { w with depth := w.depth - 1 }

/-- Begin a block. -/
def enter (header : String) (w : Writer) : Writer := (w.line (header ++ " \x7b")).deeper

/-- End a block. -/
def leave (w : Writer) : Writer := w.shallower.line "\x7d"

def each {α : Type} (write : α → Writer → Writer) (items : List α) (w : Writer) : Writer :=
  items.foldl (fun w item => write item w) w

def observer (o : Observer) : Writer → Writer := line o.text

/-- Observers hang on the stage in the line above them. -/
def observers (list : List Observer) (w : Writer) : Writer :=
  (w.deeper.each observer list).shallower

def child (lead : String) (s : ChildStage) (w : Writer) : Writer :=
  (w.line (s.text lead)).observers s.observers

def modifier : CoreModifier → Writer → Writer
  | .child stage => child "." stage
  | .observer o => observer o

def fragment (f : Fragment) : Writer → Writer := line f.text

/-- The core without fragments keeps its braces on one line. -/
def core (fragments : List Fragment) (w : Writer) : Writer :=
  if fragments.isEmpty then w.line "core \x7b\x7d"
  else ((w.enter "core").each fragment fragments).leave

/-- Modifiers of the core stand one level in, whether or not the core has a body. -/
def stage : Stage → Writer → Writer
  | .empty, w => w.line "empty"
  | .binding list, w => (w.line "binding").observers list
  | .fragment f, w => w.fragment f
  | .child s, w => w.child "" s
  | .core fragments modifiers, w => ((w.core fragments).deeper.each modifier modifiers).shallower

/-- The block of a state type: its fields, then the case that it starts in. -/
def state (module : String) (d : StateDecl) (w : Writer) : Writer :=
  (((w.enter (typeHeader d.access d.keyword (module ++ ".State") d.conformances)).each
    (fun f => line f.text) d.fields).each (fun c => line c.text) d.initialCase.toList).leave

def action (module : String) (d : ActionDecl) (w : Writer) : Writer :=
  ((w.enter (typeHeader d.access d.keyword (module ++ ".Action") d.conformances)).each
    (fun c => line c.text) d.cases).leave

def pipeline (module : String) (p : Pipeline) (w : Writer) : Writer :=
  ((w.enter (p.access.marker ++ "pipeline " ++ module)).each stage p.stages).leave

def scopePaths (module : String) (t : ScopeTable) (w : Writer) : Writer :=
  ((w.enter (t.access.marker ++ "scope_paths " ++ module)).each
    (fun e => line e.text) t.entries).leave

def scopeCases (module : String) (t : SwitchTable) (w : Writer) : Writer :=
  ((w.enter (t.access.marker ++ "scope_cases " ++ module)).each
    (fun c => line c.text) t.cases).leave

mutual

/-- Write one declaration made for `module`. -/
def declaration (module : String) : Declaration → Writer → Writer
  | .state decl, w => w.state module decl
  | .action decl, w => w.action module decl
  | .pipeline decl, w => w.pipeline module decl
  | .scopePaths table, w => w.scopePaths module table
  | .scopeCases table, w => w.scopeCases module table
  | .nested inner, w => nested inner w
  | .error message, w => w.line (errorText message)

/-- The block of a nested module, which is written like a module of its own. -/
def nested : NestedModule → Writer → Writer
  | ⟨access, name, placement, inner⟩, w =>
    (declarations name inner (w.enter (NestedModule.header ⟨access, name, placement, []⟩))).leave

def declarations (module : String) : List Declaration → Writer → Writer
  | [], w => w
  | first :: rest, w => declarations module rest (declaration module first w)

end

end Writer

/-- The text of the declarations made for a module. -/
def Declaration.render (module : String) (declarations : List Declaration) : String :=
  (Writer.declarations module declarations {}).out

end StateWeave
