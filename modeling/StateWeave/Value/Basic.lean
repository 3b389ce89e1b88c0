import StateWeave.Dict
import StateWeave.Path

/-!
# Values of state and actions

A value is what generated state and actions would hold at run time. Paths are
followed into values step by step: `extract?` reads what lies at the end of a path
and `replace?` puts another value there, both giving nothing where the path does
not fit. `embed` builds the smallest value that a path fits.
-/

namespace StateWeave

/-- A part of the state or of an action. -/
inductive Value where
  | unit
  | int (value : Int64)
  | text (value : String)
  /-- Fields in the order of their names. Keyed collections are records too, from
  element ids to elements. -/
  | record (fields : List (String × Value))
  | case (name : String) (payload : Value)
  | optional (inner : Option Value)
  /-- An action in its presentation envelope. -/
  | presented (inner : Value)
  /-- An element with its id, or an action for one. -/
  | keyed (id : String) (value : Value)
  deriving Inhabited

namespace Value

mutual

def decEq (a b : Value) : Decidable (a = b) :=
  match a, b with
  | .unit, .unit => isTrue rfl
  | .int x, .int y => decidable_of_iff (x = y) (by simp)
  | .text x, .text y => decidable_of_iff (x = y) (by simp)
  | .record x, .record y =>
    have := decEqFields x y
    decidable_of_iff (x = y) (by simp)
  | .case m x, .case n y =>
    have := decEq x y
    decidable_of_iff (m = n ∧ x = y) (by simp)
  | .optional none, .optional none => isTrue rfl
  | .optional (some x), .optional (some y) =>
    have := decEq x y
    decidable_of_iff (x = y) (by simp)
  | .presented x, .presented y =>
    have := decEq x y
    decidable_of_iff (x = y) (by simp)
  | .keyed i x, .keyed j y =>
    have := decEq x y
    decidable_of_iff (i = j ∧ x = y) (by simp)
  | .optional none, .optional (some _) | .optional (some _), .optional none
  | .unit, .int _ | .unit, .text _ | .unit, .record _ | .unit, .case _ _
  | .unit, .optional _ | .unit, .presented _ | .unit, .keyed _ _
  | .int _, .unit | .int _, .text _ | .int _, .record _ | .int _, .case _ _
  | .int _, .optional _ | .int _, .presented _ | .int _, .keyed _ _
  | .text _, .unit | .text _, .int _ | .text _, .record _ | .text _, .case _ _
  | .text _, .optional _ | .text _, .presented _ | .text _, .keyed _ _
  | .record _, .unit | .record _, .int _ | .record _, .text _ | .record _, .case _ _
  | .record _, .optional _ | .record _, .presented _ | .record _, .keyed _ _
  | .case _ _, .unit | .case _ _, .int _ | .case _ _, .text _ | .case _ _, .record _
  | .case _ _, .optional _ | .case _ _, .presented _ | .case _ _, .keyed _ _
  | .optional _, .unit | .optional _, .int _ | .optional _, .text _ | .optional _, .record _
  | .optional _, .case _ _ | .optional _, .presented _ | .optional _, .keyed _ _
  | .presented _, .unit | .presented _, .int _ | .presented _, .text _ | .presented _, .record _
  | .presented _, .case _ _ | .presented _, .optional _ | .presented _, .keyed _ _
  | .keyed _ _, .unit | .keyed _ _, .int _ | .keyed _ _, .text _ | .keyed _ _, .record _
  | .keyed _ _, .case _ _ | .keyed _ _, .optional _ | .keyed _ _, .presented _ =>
    isFalse (by intro e; cases e)

def decEqFields (a b : List (String × Value)) : Decidable (a = b) :=
  match a, b with
  | [], [] => isTrue rfl
  | (m, x) :: xs, (n, y) :: ys =>
    have := decEq x y
    have := decEqFields xs ys
    decidable_of_iff (m = n ∧ x = y ∧ xs = ys) (by simp [and_assoc])
  | [], _ :: _ => isFalse (by intro e; cases e)
  | _ :: _, [] => isFalse (by intro e; cases e)

end

instance : DecidableEq Value := decEq

/-- What one step leads to. A case can only be entered while it is the active one. -/
def get? : Step → Value → Option Value
  | .field name, .record fields => Dict.find? name fields
  | .case name, .case tag payload => if tag = name then some payload else none
  | .dynamicCase name, .case tag payload => if tag = name then some payload else none
  | .optional, .optional inner => inner
  | .presented, .presented inner => some inner
  | .element, .keyed _ value => some value
  | _, _ => none

/-- The value with another one in the place that a step leads to. -/
def set? (new : Value) : Step → Value → Option Value
  | .field name, .record fields => (Dict.replace? name new fields).map .record
  | .case name, .case tag _ => if tag = name then some (.case tag new) else none
  | .dynamicCase name, .case tag _ => if tag = name then some (.case tag new) else none
  | .optional, .optional (some _) => some (.optional (some new))
  | .presented, .presented _ => some (.presented new)
  | .element, .keyed id _ => some (.keyed id new)
  | _, _ => none

/-- The smallest value that a step leads through. -/
def wrap (id : String) (inner : Value) : Step → Value
  | .field name => .record [(name, inner)]
  | .case name => .case name inner
  | .dynamicCase name => .case name inner
  | .optional => .optional (some inner)
  | .presented => .presented inner
  | .element => .keyed id inner

@[simp] theorem get?_wrap (id : String) (inner : Value) (step : Step) :
    get? step (wrap id inner step) = some inner := by
  cases step <;> simp [get?, wrap, Dict.find?_cons]

/-- A step leads to a place that can be changed exactly if it leads to a value. -/
theorem isSome_set? (new : Value) (step : Step) (v : Value) :
    (set? new step v).isSome = (get? step v).isSome := by
  cases step <;> cases v <;> try rfl
  case field.record name fields => simp [set?, get?, Dict.isSome_replace?, Dict.contains]
  case case.case name tag payload => by_cases h : tag = name <;> simp [set?, get?, h]
  case dynamicCase.case name tag payload => by_cases h : tag = name <;> simp [set?, get?, h]
  case optional.optional inner => cases inner <;> rfl

theorem get?_of_set? {new : Value} {step : Step} {v w : Value} (h : set? new step v = some w) :
    get? step w = some new := by
  cases step <;> cases v <;> simp [set?] at h
  case field.record name fields =>
    obtain ⟨changed, hchanged, rfl⟩ := h
    simp [get?, Dict.find?_of_replace? hchanged]
  case case.case name tag payload => simp [get?, ← h.2, h.1]
  case dynamicCase.case name tag payload => simp [get?, ← h.2, h.1]
  case optional.optional inner =>
    cases inner with
    | none => simp at h
    | some old => simp at h; simp [get?, ← h]
  case presented.presented inner => simp [get?, ← h]
  case element.keyed id value => simp [get?, ← h]

def follow? : List Step → Value → Option Value
  | [], v => some v
  | step :: rest, v => (v.get? step).bind (follow? rest)

def replaceAt? (new : Value) : List Step → Value → Option Value
  | [], _ => some new
  | step :: rest, v => do
    let inner ← v.get? step
    let changed ← replaceAt? new rest inner
    set? changed step v

/-- What lies at the end of a path. The root of the path only names a type. -/
def extract? (v : Value) (path : Path) : Option Value := follow? path.steps v

/-- The value with another one at the end of a path, if the path leads anywhere. -/
def replace? (v : Value) (path : Path) (new : Value) : Option Value :=
  replaceAt? new path.steps v

/-- The smallest value that has `leaf` at the end of a path. Element steps get the
given id. -/
def embed (path : Path) (leaf : Value) (id : String) : Value :=
  path.steps.foldr (fun step inner => wrap id inner step) leaf

@[simp] theorem follow?_nil (v : Value) : follow? [] v = some v := rfl

@[simp] theorem follow?_cons (step : Step) (rest : List Step) (v : Value) :
    follow? (step :: rest) v = (v.get? step).bind (follow? rest) := rfl

theorem follow?_append (front back : List Step) (v : Value) :
    follow? (front ++ back) v = (follow? front v).bind (follow? back) := by
  induction front generalizing v with
  | nil => rfl
  | cons step front ih =>
    have rest : follow? (front ++ back) = fun inner => (follow? front inner).bind (follow? back) :=
      funext ih
    rw [List.cons_append, follow?_cons, follow?_cons, rest, Option.bind_assoc]

@[simp] theorem extract?_ofRoot (v : Value) (root : String) :
    v.extract? (Path.ofRoot root) = some v := rfl

/-- A longer path goes on from where the shorter one leads. -/
theorem extract?_push (v : Value) (path : Path) (step : Step) :
    v.extract? (path.push step) = (v.extract? path).bind (get? step) := by
  rw [extract?, extract?, Path.steps_push, follow?_append]
  congr 1
  funext inner
  exact Option.bind_fun_some (get? step inner)

@[simp] theorem extract?_state (v : Value) : v.extract? Path.state = some v := rfl

@[simp] theorem extract?_action (v : Value) : v.extract? Path.action = some v := rfl

theorem extract?_field_eq_some_iff {v inner : Value} {path : Path} {name : String} :
    v.extract? (path.field name) = some inner ↔
      ∃ fields, v.extract? path = some (.record fields) ∧
        Dict.find? name fields = some inner := by
  rw [Path.field, extract?_push]
  rcases v.extract? path with _ | outer
  · simp
  · cases outer <;> simp [get?]

theorem extract?_case_eq_some_iff {v inner : Value} {path : Path} {name : String} :
    v.extract? (path.case name) = some inner ↔ v.extract? path = some (.case name inner) := by
  rw [Path.case, extract?_push]
  rcases v.extract? path with _ | outer
  · simp
  · cases outer <;> simp [get?]

theorem extract?_optional_eq_some_iff {v inner : Value} {path : Path} :
    v.extract? path.optional = some inner ↔
      v.extract? path = some (.optional (some inner)) := by
  rw [Path.optional, extract?_push]
  rcases v.extract? path with _ | outer
  · simp
  · cases outer <;> simp [get?]

theorem extract?_element_eq_some_iff {v inner : Value} {path : Path} :
    v.extract? path.element = some inner ↔
      ∃ id, v.extract? path = some (.keyed id inner) := by
  rw [Path.element, extract?_push]
  rcases v.extract? path with _ | outer
  · simp
  · cases outer <;> simp [get?]

end Value

end StateWeave
