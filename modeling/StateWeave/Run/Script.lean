import StateWeave.Run.Interpreter

/-!
# Scripted hosts

A script is a host written as data: for each function the effect it produces and
the edits it makes to the state. Calls are recorded together with the action that
came with them.

A part of a script may be faulty, and then the fault stands in its place. It does
no harm as long as nothing comes upon it: neither the rule of a function that is
never called nor the value of an edit whose path leads nowhere is looked at. The
first fault that a run comes upon is what the run has to show, and after it the
host does nothing more.
-/

namespace StateWeave

/-- What an edit puts into the place that its path leads to. -/
inductive Change (ε : Type) where
  /-- The action of the call. -/
  | copy
  | set (value : Except ε Value)
  /-- An integer is increased, with wrap-around; anything else stays. -/
  | add (amount : Except ε Int64)

/-- A change of the state at one place. -/
structure Edit (ε : Type) where
  path : Path
  change : Change ε

/-- How one function behaves. -/
structure Rule (ε : Type) where
  effect : Option String := none
  edits : List (Except ε (Edit ε)) := []

/-- The rules of all functions, by name. A function without a rule does nothing. -/
structure Script (ε : Type) where
  rules : List (String × Except ε (Rule ε)) := []

/-- A call that a host remembers. -/
structure Call where
  function : String
  action : Value
  deriving Inhabited

variable {ε : Type}

/-- The new content of a place, from the action of the call and the old content. -/
def Change.apply (change : Change ε) (a old : Value) : Except ε Value :=
  match change, old with
  | copy, _ => .ok a
  | set value, _ => value
  | add amount, .int n => amount.map fun m => .int (n + m)
  | add _, other => .ok other

/-- An edit whose path leads nowhere is passed over. -/
def Edit.apply (e : Edit ε) (a state : Value) : Except ε Value :=
  match state.extract? e.path with
  | some old => do return (state.replace? e.path (← e.change.apply a old)).getD state
  | none => .ok state

/-- What a function does to the state: its edits, one after the other. -/
def Rule.apply (rule : Rule ε) (a state : Value) : Except ε Value :=
  rule.edits.foldlM (fun state edit => do (← edit).apply a state) state

namespace Script

def ruleOf (s : Script ε) (function : String) : Except ε (Rule ε) :=
  (Dict.find? function s.rules).getD (.ok {})

/-- The effect of a call and the state after it. -/
def respond (s : Script ε) (function : String) (a state : Value) :
    Except ε (Option String × Value) := do
  let rule ← s.ruleOf function
  return (rule.effect, ← rule.apply a state)

/-- The host that follows a script; it remembers its calls in order. -/
def host (s : Script ε) : Host (Except ε (List Call)) where
  call log f state a :=
    match log with
    | .error fault => (none, state, .error fault)
    | .ok calls =>
      match s.respond f.function a state with
      | .error fault => (none, state, .error fault)
      | .ok (effect, state) => (effect, state, .ok (calls ++ [⟨f.function, a⟩]))

end Script

/-- Run a pipeline for several actions, each from the state that the one before it
left. Every run records its own calls. -/
def Pipeline.runAll (p : Pipeline) (s : Script ε) :
    Value → List Value → List (Run (Except ε (List Call)))
  | _, [] => []
  | state, a :: rest =>
    let r := p.run s.host (.ok []) state a
    r :: p.runAll s r.state rest

end StateWeave
