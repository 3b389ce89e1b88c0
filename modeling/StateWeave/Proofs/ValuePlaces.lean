import StateWeave.Proofs.ScopeSeparation

/-!
# Places in values

Writing at the end of a path is done in two ways. An edit reads what is there and asks
`Value.replace?` for the value with another content; code that holds on to a place enters the value
step by step and fills the place later. `Value.place?` is the second way, which is one with the
first, and with it a path is a lens: what is put somewhere is read there, putting back what was
there changes nothing, the last of several contents stays, and a path that parts from the one
written along reads what it has read before.

Paths are compared by the ways that their steps go, as a case is one way for both of its
accessors.
-/

namespace StateWeave

namespace Path

/-- The ways that the steps of a path go. The root is none of them. -/
def ways (p : Path) : List Step := p.steps.map Step.way

/-- Two paths part if neither of them goes on from the end of the other. -/
def Parts (p q : Path) : Prop := ¬p.ways <+: q.ways ∧ ¬q.ways <+: p.ways

instance (p q : Path) : Decidable (p.Parts q) := inferInstanceAs (Decidable (_ ∧ _))

end Path

/-- A place in a value: what is there, and the whole value with another content in the place. -/
structure Place where
  content : Value
  fill : Value → Value

namespace Value

theorem get?_way (step : Step) (v : Value) : get? step.way v = get? step v := by
  cases step <;> cases v <;> rfl

theorem set?_way (new : Value) (step : Step) (v : Value) :
    set? new step.way v = set? new step v := by
  cases step <;> cases v <;> rfl

theorem wrap_way (id : String) (inner : Value) (step : Step) :
    wrap id inner step.way = wrap id inner step := by
  cases step <;> rfl

/-- What a path leads to depends only on the ways it goes. -/
theorem follow?_ways (steps : List Step) (v : Value) :
    follow? (steps.map Step.way) v = follow? steps v := by
  induction steps generalizing v with
  | nil => rfl
  | cons step rest ih =>
    have behind : follow? (rest.map Step.way) = follow? rest := funext ih
    rw [List.map_cons, follow?_cons, follow?_cons, get?_way, behind]

theorem replaceAt?_cons (new : Value) (step : Step) (rest : List Step) (v : Value) :
    replaceAt? new (step :: rest) v =
      (get? step v).bind fun inner =>
        (replaceAt? new rest inner).bind fun changed => set? changed step v := rfl

theorem replaceAt?_ways (new : Value) (steps : List Step) (v : Value) :
    replaceAt? new (steps.map Step.way) v = replaceAt? new steps v := by
  induction steps generalizing v with
  | nil => rfl
  | cons step rest ih =>
    rw [List.map_cons, replaceAt?_cons, replaceAt?_cons, get?_way]
    simp only [ih, set?_way]

/-- Putting back what a step leads to changes nothing. -/
theorem set?_of_get? {inner : Value} {step : Step} {v : Value} (h : get? step v = some inner) :
    set? inner step v = some v := by
  cases step <;> cases v <;> simp [get?] at h
  case field.record name fields => simp [set?, Dict.replace?_of_find? h]
  case case.case name tag payload => simp [set?, h.1, h.2]
  case dynamicCase.case name tag payload => simp [set?, h.1, h.2]
  case optional.optional inner => simp [set?, h]
  case presented.presented inner => simp [set?, h]
  case element.keyed id value => simp [set?, h]

/-- Of two contents that a step's place is given the later one stays. -/
theorem set?_of_set? {old : Value} {step : Step} {v w : Value} (h : set? old step v = some w)
    (new : Value) : set? new step w = set? new step v := by
  cases step <;> cases v <;> simp [set?] at h
  case field.record name fields =>
    obtain ⟨changed, hchanged, rfl⟩ := h
    simp [set?, Dict.replace?_of_replace? hchanged]
  case case.case name tag payload => simp [set?, ← h.2]
  case dynamicCase.case name tag payload => simp [set?, ← h.2]
  case optional.optional inner =>
    cases inner with
    | none => cases h
    | some _ =>
      obtain rfl := Option.some.inj h
      rfl
  case presented.presented inner => simp [set?, ← h]
  case element.keyed id value => simp [set?, ← h]

/-- A step of another way finds what it has found before. -/
theorem get?_of_set?_other {new : Value} {step other : Step} {v w : Value}
    (h : set? new step v = some w) (parting : step.way ≠ other.way) :
    get? other w = get? other v := by
  cases step <;> cases v <;> simp [set?] at h
  case field.record name fields =>
    obtain ⟨changed, hchanged, rfl⟩ := h
    cases other with
    | field another =>
      have differs : another ≠ name := fun same => parting (congrArg Step.field same.symm)
      simp [get?, Dict.find?_of_replace? hchanged, differs]
    | _ => rfl
  case case.case name tag payload | dynamicCase.case name tag payload =>
    obtain ⟨rfl, rfl⟩ := h
    cases other <;> simp_all [get?, Step.way]
  case optional.optional inner =>
    cases inner with
    | none => cases h
    | some _ =>
      obtain rfl := Option.some.inj h
      cases other <;> simp_all [get?, Step.way]
  case presented.presented inner | element.keyed id value =>
    subst h
    cases other <;> simp_all [get?, Step.way]

/-- A path leads to a place that can be changed exactly if it leads to a value. -/
theorem isSome_replaceAt? (new : Value) (steps : List Step) (v : Value) :
    (replaceAt? new steps v).isSome = (follow? steps v).isSome := by
  induction steps generalizing v with
  | nil => rfl
  | cons step rest ih =>
    rw [replaceAt?_cons, follow?_cons]
    cases found : get? step v with
    | none => rfl
    | some inner =>
      rw [Option.bind_some, Option.bind_some, ← ih inner]
      cases replaceAt? new rest inner with
      | none => rfl
      | some changed =>
        have changeable := isSome_set? changed step v
        rw [found] at changeable
        exact changeable

/-- What changing a value along a path takes: the first step leads to a value that is changed
along the rest, and is then put into the place of the step. -/
theorem replaceAt?_cons_eq_some_iff {new : Value} {step : Step} {rest : List Step} {v w : Value} :
    replaceAt? new (step :: rest) v = some w ↔
      ∃ inner, get? step v = some inner ∧
        ∃ changed, replaceAt? new rest inner = some changed ∧ set? changed step v = some w := by
  rw [replaceAt?_cons, Option.bind_eq_some_iff]
  simp only [Option.bind_eq_some_iff]

/-- What was put at the end of a path is read there. -/
theorem follow?_of_replaceAt? {new : Value} {steps : List Step} {v w : Value}
    (h : replaceAt? new steps v = some w) : follow? steps w = some new := by
  induction steps generalizing v w with
  | nil => exact h.symm
  | cons step rest ih =>
    obtain ⟨inner, _, changed, below, put⟩ := replaceAt?_cons_eq_some_iff.mp h
    rw [follow?_cons, get?_of_set? put, Option.bind_some]
    exact ih below

/-- Putting back what is read at the end of a path changes nothing. -/
theorem replaceAt?_of_follow? {old : Value} {steps : List Step} {v : Value}
    (h : follow? steps v = some old) : replaceAt? old steps v = some v := by
  induction steps generalizing v with
  | nil => exact h.symm
  | cons step rest ih =>
    obtain ⟨inner, found, below⟩ := Option.bind_eq_some_iff.mp h
    exact replaceAt?_cons_eq_some_iff.mpr ⟨inner, found, inner, ih below, set?_of_get? found⟩

/-- Of two contents that the end of a path is given the later one stays. -/
theorem replaceAt?_of_replaceAt? {old : Value} {steps : List Step} {v w : Value}
    (h : replaceAt? old steps v = some w) (new : Value) :
    replaceAt? new steps w = replaceAt? new steps v := by
  induction steps generalizing v w with
  | nil => rfl
  | cons step rest ih =>
    obtain ⟨inner, found, changed, below, put⟩ := replaceAt?_cons_eq_some_iff.mp h
    rw [replaceAt?_cons, replaceAt?_cons, found, get?_of_set? put, Option.bind_some,
      Option.bind_some, ih below]
    simp only [set?_of_set? put]

/-- Where two paths part, reading along one of them does not see what is written along the
other. As long as they go the same ways both enter the value that is changed, and from there on
the step of the one leaves alone what the step of the other finds. -/
theorem follow?_of_replaceAt?_of_parting {new : Value} {steps others : List Step} {v w : Value}
    (h : replaceAt? new steps v = some w)
    (left : ¬steps.map Step.way <+: others.map Step.way)
    (right : ¬others.map Step.way <+: steps.map Step.way) :
    follow? others w = follow? others v := by
  induction steps generalizing others v w with
  | nil => exact absurd List.nil_prefix left
  | cons step rest ih =>
    cases others with
    | nil => exact absurd List.nil_prefix right
    | cons other beyond =>
      obtain ⟨inner, found, changed, below, put⟩ := replaceAt?_cons_eq_some_iff.mp h
      rw [follow?_cons, follow?_cons]
      by_cases together : step.way = other.way
      · have sameWay (u : Value) : get? other u = get? step u := by
          rw [← get?_way other, ← together, get?_way]
        rw [sameWay, sameWay, found, get?_of_set? put, Option.bind_some, Option.bind_some]
        apply ih below
        · intro further
          exact left (List.cons_prefix_cons.mpr ⟨together, further⟩)
        · intro further
          exact right (List.cons_prefix_cons.mpr ⟨together.symm, further⟩)
      · rw [get?_of_set?_other put together]

def enter? : Step → Value → Option Place
  | .field name, .record fields =>
    (Dict.find? name fields).map fun inner =>
      ⟨inner, fun new => .record ((Dict.replace? name new fields).getD fields)⟩
  | .case name, .case tag payload => if tag = name then some ⟨payload, .case tag⟩ else none
  | .dynamicCase name, .case tag payload =>
    if tag = name then some ⟨payload, .case tag⟩ else none
  | .optional, .optional inner => inner.map fun value => ⟨value, fun new => .optional (some new)⟩
  | .presented, .presented inner => some ⟨inner, .presented⟩
  | .element, .keyed id value => some ⟨value, .keyed id⟩
  | _, _ => none

/-- The place at the end of some steps. What fills a place further in fills with it the place
that it lies in. -/
def placeAt? : List Step → Value → Option Place
  | [], v => some ⟨v, id⟩
  | step :: rest, v =>
    (enter? step v).bind fun outer =>
      (placeAt? rest outer.content).map fun inner => ⟨inner.content, outer.fill ∘ inner.fill⟩

def place? (v : Value) (path : Path) : Option Place := placeAt? path.steps v

/-- The value with something put in the place at the end of a path, if the path leads
anywhere. -/
def put (v : Value) (path : Path) (new : Value) : Value :=
  ((v.place? path).map fun place => place.fill new).getD v

/-- A step enters the place of what it leads to. -/
theorem content_enter? (step : Step) (v : Value) :
    (enter? step v).map Place.content = get? step v := by
  cases step <;> cases v <;> try rfl
  case field.record name fields => simp [enter?, get?, Function.comp_def]
  case case.case name tag payload | dynamicCase.case name tag payload =>
    by_cases h : tag = name <;> simp [enter?, get?, h]
  case optional.optional inner => cases inner <;> rfl

/-- Filling the place that a step has entered is changing the value at that step. -/
theorem fill_enter? (new : Value) (step : Step) (v : Value) :
    ((enter? step v).map fun place => place.fill new) = set? new step v := by
  cases step <;> cases v <;> try rfl
  case field.record name fields =>
    have changeable := Dict.isSome_replace? name new fields
    cases found : Dict.find? name fields with
    | none =>
      have missing : Dict.replace? name new fields = none := by
        simpa [Dict.contains, found] using changeable
      simp [enter?, set?, found, missing]
    | some inner =>
      rw [Dict.contains, found] at changeable
      obtain ⟨changed, hchanged⟩ := Option.isSome_iff_exists.mp changeable
      simp [enter?, set?, found, hchanged]
  case case.case name tag payload | dynamicCase.case name tag payload =>
    by_cases h : tag = name <;> simp [enter?, set?, h]
  case optional.optional inner => cases inner <;> rfl

theorem content_placeAt? (steps : List Step) (v : Value) :
    (placeAt? steps v).map Place.content = follow? steps v := by
  induction steps generalizing v with
  | nil => rfl
  | cons step rest ih =>
    rw [placeAt?, follow?_cons, ← content_enter?]
    cases enter? step v with
    | none => rfl
    | some outer =>
      rw [Option.bind_some, Option.map_map, Option.map_some, Option.bind_some, ← ih]
      rfl

theorem fill_placeAt? (new : Value) (steps : List Step) (v : Value) :
    ((placeAt? steps v).map fun place => place.fill new) = replaceAt? new steps v := by
  induction steps generalizing v with
  | nil => rfl
  | cons step rest ih =>
    rw [placeAt?, replaceAt?_cons, ← content_enter?]
    simp only [← ih, ← fill_enter?]
    cases enter? step v with
    | none => rfl
    | some outer =>
      simp only [Option.bind_some, Option.map_some, Option.map_map]
      cases placeAt? rest outer.content with
      | none => rfl
      | some inner => rfl

/-- Putting something at the end of a path is replacing what is there. -/
theorem put_eq (v : Value) (path : Path) (new : Value) :
    v.put path new = (v.replace? path new).getD v :=
  congrArg (Option.getD · v) (fill_placeAt? new path.steps v)

theorem put_of_extract?_eq_none {v : Value} {path : Path} (nothing : v.extract? path = none)
    (new : Value) : v.put path new = v := by
  have noPlace : (v.replace? path new).isSome = (v.extract? path).isSome :=
    isSome_replaceAt? new path.steps v
  have unreplaced : v.replace? path new = none := by simpa [nothing] using noPlace
  rw [put_eq, unreplaced, Option.getD_none]

/-- Where a path leads to a value, what is put there replaces it. -/
theorem replace?_of_extract? {v old : Value} {path : Path} (found : v.extract? path = some old)
    (new : Value) : v.replace? path new = some (v.put path new) := by
  have place : (v.replace? path new).isSome = (v.extract? path).isSome :=
    isSome_replaceAt? new path.steps v
  rw [found] at place
  obtain ⟨changed, replaced⟩ := Option.isSome_iff_exists.mp place
  rw [put_eq, replaced, Option.getD_some]

/-- A path finds a place in just those values in which it finds a value, and the place holds that
value. Filling it is replacing the value. What is put there is read there; putting back what was
there restores the value; the last of several contents stays; and a path that parts from the one
that is written along reads what it has read before. Where a path finds no place nothing is
changed. -/
theorem put_lawful (v : Value) (p : Path) :
    (v.place? p).map Place.content = v.extract? p ∧
      (∀ new, ((v.place? p).map fun place => place.fill new) = v.replace? p new) ∧
      (∀ old, v.extract? p = some old →
        v.put p old = v ∧ ∀ new, (v.put p new).extract? p = some new) ∧
      (v.extract? p = none → ∀ new, v.put p new = v) ∧
      ∀ new, (∀ newer, (v.put p new).put p newer = v.put p newer) ∧
        ∀ q, p.Parts q → (v.put p new).extract? q = v.extract? q := by
  refine ⟨content_placeAt? p.steps v, fun new => fill_placeAt? new p.steps v, ?_,
    put_of_extract?_eq_none, ?_⟩
  · intro old found
    constructor
    · have same : v.replace? p old = some v := replaceAt?_of_follow? found
      rw [put_eq, same, Option.getD_some]
    · intro new
      exact follow?_of_replaceAt? (replace?_of_extract? found new)
  · intro new
    cases found : v.extract? p with
    | none =>
      rw [put_of_extract?_eq_none found]
      exact ⟨fun _ => rfl, fun _ _ => rfl⟩
    | some old =>
      have written := replace?_of_extract? found new
      constructor
      · intro newer
        have later : (v.put p new).replace? p newer = v.replace? p newer :=
          replaceAt?_of_replaceAt? written newer
        rw [put_eq (v.put p new), later, replace?_of_extract? found newer, Option.getD_some]
      · intro q parts
        exact follow?_of_replaceAt?_of_parting written parts.1 parts.2

/-- A detail is shown beside a count. Another detail and then the old one restore the state, and
the count, from which the path to the detail parts, stays one. A path into the count that does not
fit writes nothing. -/
theorem put_lawful_detail :
    let v : Value := .record [("count", .int 1), ("path", .optional (some (.case "detail" .unit)))]
    let detail := (Path.state.field "path").optional.dynamicCase "detail"
    let count := Path.state.field "count"
    (v.put detail (.int 2)).put detail .unit = v ∧
      (v.put detail (.int 2)).extract? count = some (.int 1) ∧
      v.put count.optional .unit = v := by
  intro v detail count
  obtain ⟨_, _, restored, _, law⟩ := put_lawful v detail
  obtain ⟨_, _, _, unchanged, _⟩ := put_lawful v count.optional
  obtain ⟨last, frame⟩ := law (.int 2)
  obtain ⟨back, _⟩ := restored .unit (by decide)
  exact ⟨(last .unit).trans back, (frame count (by decide)).trans (by decide),
    unchanged (by decide) .unit⟩

end Value

end StateWeave
