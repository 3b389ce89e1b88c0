import StateWeave.Proofs.ValuePlaces
import StateWeave.Run.Interpreter

/-!
# What an embedded value holds

`Value.embed` builds from the leaf outwards and `Value.extract?` walks from the root inwards. Where
the walk goes the ways of the embedding it is somewhere in what was built: short of the leaf it has
come to what the rest of the path embeds, and beyond the leaf it goes on into the leaf. Everywhere
else there is nothing to find.

Two paths one behind the other are walked one after the other, and so is the path of an element's
action: what `Routing.identified` delivers lies at the end of one path, through the element.
-/

namespace StateWeave

namespace Path

/-- A path that goes on from the end of another one; the root of the later one does not count. -/
def append (p q : Path) : Path := { p with steps := p.steps ++ q.steps }

end Path

namespace Value

theorem foldr_wrap_ways (id : String) (leaf : Value) (steps : List Step) :
    (steps.map Step.way).foldr (fun step inner => wrap id inner step) leaf =
      steps.foldr (fun step inner => wrap id inner step) leaf := by
  induction steps with
  | nil => rfl
  | cons step rest ih => rw [List.map_cons, List.foldr_cons, List.foldr_cons, ih, wrap_way]

/-- Beside the steps that it was built for an embedded value leads nowhere. -/
theorem follow?_foldr_wrap_of_parting (id : String) (leaf : Value) {steps others : List Step}
    (left : ¬steps.map Step.way <+: others.map Step.way)
    (right : ¬others.map Step.way <+: steps.map Step.way) :
    follow? others (steps.foldr (fun step inner => wrap id inner step) leaf) = none := by
  induction steps generalizing others with
  | nil => exact absurd List.nil_prefix left
  | cons step rest ih =>
    cases others with
    | nil => exact absurd List.nil_prefix right
    | cons other beyond =>
      rw [List.foldr_cons, follow?_cons, get?_wrap_way]
      by_cases together : other.way = step.way
      · rw [if_pos together, Option.bind_some]
        apply ih
        · intro further
          exact left (List.cons_prefix_cons.mpr ⟨together.symm, further⟩)
        · intro further
          exact right (List.cons_prefix_cons.mpr ⟨together, further⟩)
      · rw [if_neg together, Option.bind_none]

theorem extract?_eq_follow?_ways (v : Value) (p : Path) : v.extract? p = follow? p.ways v :=
  (follow?_ways p.steps v).symm

theorem replace?_eq_replaceAt?_ways (v : Value) (p : Path) (new : Value) :
    v.replace? p new = replaceAt? new p.ways v :=
  (replaceAt?_ways new p.steps v).symm

theorem embed_eq_foldr_ways (p : Path) (leaf : Value) (id : String) :
    embed p leaf id = p.ways.foldr (fun step inner => wrap id inner step) leaf :=
  (foldr_wrap_ways id leaf p.steps).symm

theorem extract?_append (v : Value) (p q : Path) :
    v.extract? (p.append q) = (v.extract? p).bind fun inner => inner.extract? q :=
  follow?_append p.steps q.steps v

/-- What an element's action delivers lies at the end of one path. -/
theorem deliver?_identified (outer inner : Path) (a : Value) :
    (Routing.identified outer inner).deliver? a = a.extract? (outer.element.append inner) := by
  rw [extract?_append, Path.element, extract?_push, Routing.deliver?]
  cases a.extract? outer with
  | none => rfl
  | some element => cases element <;> rfl

/-- Beyond the leaf a path goes on in the leaf, short of it the rest of the path is embedded, and
on any other way there is nothing. Walking two paths one after the other is walking the longer
path, and what is delivered for an element lies at the end of the path through the element. And
nothing of this sees more of a path than the ways it goes: neither its root nor which of the two
accessors it takes to a case. -/
theorem extract?_embed (p q : Path) (leaf : Value) (id : String) :
    (∀ r : Path, q.ways = p.ways ++ r.ways → (embed p leaf id).extract? q = leaf.extract? r) ∧
      (∀ r : Path, p.ways = q.ways ++ r.ways →
        (embed p leaf id).extract? q = some (embed r leaf id)) ∧
      (p.Parts q → (embed p leaf id).extract? q = none) ∧
      (∀ v : Value, v.extract? (p.append q) = (v.extract? p).bind fun inner => inner.extract? q) ∧
      (∀ a : Value,
        (Routing.identified p q).deliver? a = a.extract? (p.element.append q)) ∧
      (p.ways = q.ways →
        embed p leaf id = embed q leaf id ∧
          ∀ v : Value, v.extract? p = v.extract? q ∧
            (∀ new, v.replace? p new = v.replace? q new) ∧
            (Routing.action p).deliver? v = (Routing.action q).deliver? v ∧
            ∀ r : Path,
              (Routing.identified p r).deliver? v = (Routing.identified q r).deliver? v ∧
              (Routing.identified r p).deliver? v = (Routing.identified r q).deliver? v) := by
  refine ⟨?_, ?_, ?_, fun v => extract?_append v p q, fun a => deliver?_identified p q a, ?_⟩
  · intro r beyond
    have whole := follow?_foldr_wrap id leaf p.ways []
    rw [List.append_nil] at whole
    rw [extract?_eq_follow?_ways, beyond, embed_eq_foldr_ways, follow?_append, whole,
      Option.bind_some, ← extract?_eq_follow?_ways]
    rfl
  · intro r short
    rw [extract?_eq_follow?_ways, embed_eq_foldr_ways, short, follow?_foldr_wrap,
      ← embed_eq_foldr_ways]
  · intro parts
    exact follow?_foldr_wrap_of_parting id leaf parts.1 parts.2
  · intro same
    have read (v : Value) : v.extract? p = v.extract? q := by
      rw [extract?_eq_follow?_ways, extract?_eq_follow?_ways, same]
    refine ⟨by rw [embed_eq_foldr_ways, embed_eq_foldr_ways, same], ?_⟩
    intro v
    refine ⟨read v, ?_, read v, ?_⟩
    · intro new
      rw [replace?_eq_replaceAt?_ways, replace?_eq_replaceAt?_ways, same]
    · intro r
      simp only [deliver?_identified, extract?_append]
      constructor
      · rw [Path.element, Path.element, extract?_push, extract?_push, read v]
      · exact congrArg (Option.bind (v.extract? r.element)) (funext read)

/-- The two paths take different accessors to the case, and one of them goes on into the leaf. -/
theorem extract?_embed_detail :
    let detail := (Path.state.field "path").optional.dynamicCase "detail"
    let text := (((Path.ofRoot "Value").field "path").optional.case "detail").field "text"
    let leaf : Value := .record [("text", .text "read")]
    (embed detail leaf "1").extract? text = some (.text "read") ∧
      (embed text .unit "1").extract? detail = some (.record [("text", .unit)]) ∧
      (embed text .unit "1").extract? (Path.state.field "count") = none ∧
      embed detail leaf "1" =
        embed ((Path.action.field "path").optional.case "detail") leaf "1" := by
  intro detail text leaf
  obtain ⟨beyond, _⟩ := extract?_embed detail text leaf "1"
  obtain ⟨_, short, _⟩ := extract?_embed text detail .unit "1"
  obtain ⟨_, _, beside, _⟩ := extract?_embed text (Path.state.field "count") .unit "1"
  obtain ⟨_, _, _, _, _, same⟩ :=
    extract?_embed detail ((Path.action.field "path").optional.case "detail") leaf "1"
  refine ⟨?_, ?_, beside (by decide), (same (by decide)).1⟩
  · exact (beyond (Path.state.field "text") (by decide)).trans (by decide)
  · exact (short (Path.state.field "text") (by decide)).trans (by decide)

end Value

end StateWeave
