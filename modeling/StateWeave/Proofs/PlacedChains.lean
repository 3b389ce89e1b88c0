import StateWeave.Build.Module

/-!
# The place of a location in a chain of calls

A module is built by a chain of calls, and one of them says where the module stands. Its
composition takes the location over whenever it comes. An initial case takes the location that
holds when it is asked for and keeps it, so that a location which comes later does not reach it.
`located_moved` says what this makes of a location that is moved within its chain.
-/

namespace StateWeave

/-- Two computations that agree in what is looked at go on to agree, failures included. -/
theorem map_bind_congr {ε α β γ δ η ι : Type} {x : Except ε α} {y : Except ε β} {p : α → γ}
    {q : β → γ} {f : α → Except ε δ} {g : β → Except ε η} {h : δ → ι} {i : η → ι}
    (same : x.map p = y.map q) (step : ∀ a b, p a = q b → (f a).map h = (g b).map i) :
    (x >>= f).map h = (y >>= g).map i := by
  cases x with
  | error e =>
      cases y with
      | error _ => cases same; rfl
      | ok b => cases same
  | ok a =>
      cases y with
      | error _ => cases same
      | ok b => exact step a b (Except.ok.inj same)

/-- A chain of two computations gives a result only if both of them do. -/
theorem exists_of_bind_eq_ok {ε α β : Type} {x : Except ε α} {f : α → Except ε β} {b : β}
    (result : x >>= f = .ok b) : ∃ a, x = .ok a ∧ f a = .ok b := by
  cases x with
  | error => cases result
  | ok a => exact ⟨a, rfl, result⟩

theorem eq_error_of_map {ε α β : Type} {x : Except ε α} {p : α → β} {error : ε}
    (same : x.map p = .error error) : x = .error error := by
  cases x with
  | error => cases same; rfl
  | ok => cases same

def CompositionOption.unplaced : CompositionOption → CompositionOption
  | .initialCase name _ => .initialCase name {}
  | option => option

@[simp] theorem CompositionOption.unplaced_unplaced (option : CompositionOption) :
    option.unplaced.unplaced = option.unplaced := by
  cases option <;> rfl

def Composition.unplaced (c : Composition) : Composition :=
  { c with options := c.options.map CompositionOption.unplaced }

@[simp] theorem Composition.unplaced_unplaced (c : Composition) :
    c.unplaced.unplaced = c.unplaced := by
  simp [unplaced]

/-- A module without the locations of its options; all other locations stay. -/
def ModuleDef.unplaced (m : ModuleDef) : ModuleDef :=
  { m with directives := m.directives.map Composition.unplaced }

theorem Composition.eq_of_unplaced {c e : Composition} (same : c.unplaced = e.unplaced)
    (options : c.options = e.options) : c = e := by
  cases c
  cases e
  simp only [unplaced, Composition.mk.injEq] at same
  simp only at options
  obtain ⟨rfl, _, rfl, rfl⟩ := same
  rw [options]

namespace ModuleCall

/-- Whether a call neither says where the module stands nor brings a composition as a whole. -/
def isPlain : ModuleCall → Bool
  | located _ => false
  | composition _ => false
  | _ => true

/-- Whether a call makes a part that keeps the location which holds at that time. -/
def keepsLocation : ModuleCall → Bool
  | initialCase _ => true
  | _ => false

/-- The option that a call asks for while a location holds. -/
def option? (location : Location) : ModuleCall → Option CompositionOption
  | bindable => some .bindable
  | initialCase name => some (.initialCase (.string name) location)
  | stateConformances list => some (.stateConformances list)
  | actionConformances list => some (.actionConformances list)
  | _ => none

/-- Calls ask for the same options at two locations if these are one, or if nothing is kept. -/
theorem filterMap_option?_eq_iff {location other : Location} (calls : List ModuleCall) :
    calls.filterMap (option? location) = calls.filterMap (option? other) ↔
      location = other ∨ ∀ k ∈ calls, k.keepsLocation = false := by
  induction calls with
  | nil => simp
  | cons k rest ih =>
      cases k with
      | initialCase name => simp +contextual [option?, keepsLocation, ih]
      | _ => simpa [List.filterMap_cons, option?, keepsLocation] using ih

end ModuleCall

namespace ModuleDraft

/-- What a chain of calls builds a module of this name into. -/
def built (name : String) (calls : List ModuleCall) : Except BuildError ModuleDef := do
  let d ← callAll { name := name } calls
  d.build

def unplaced (d : ModuleDraft) : ModuleDraft :=
  { d with composition := d.composition.map Composition.unplaced }

def options (d : ModuleDraft) : List CompositionOption :=
  (d.composition.map Composition.options).getD []

theorem eq_of_unplaced {d e : ModuleDraft} (same : d.unplaced = e.unplaced)
    (options : d.options = e.options) : d = e := by
  obtain ⟨name, access, placement, c, others, members, location⟩ := d
  obtain ⟨_, _, _, c', _, _, _⟩ := e
  obtain ⟨rfl, rfl, rfl, compositions, rfl, rfl, rfl⟩ := ModuleDraft.mk.inj same
  cases c with
  | none =>
      cases c' with
      | none => rfl
      | some c' => cases compositions
  | some c =>
      cases c' with
      | none => cases compositions
      | some c' => rw [Composition.eq_of_unplaced (Option.some.inj compositions) options]

theorem callAll_cons (d : ModuleDraft) (k : ModuleCall) (calls : List ModuleCall) :
    d.callAll (k :: calls) = d.call k >>= fun d => d.callAll calls := rfl

theorem callAll_append (d : ModuleDraft) (calls others : List ModuleCall) :
    d.callAll (calls ++ others) = d.callAll calls >>= fun d => d.callAll others := by
  induction calls generalizing d with
  | nil => rfl
  | cons k rest ih =>
      rw [List.cons_append, callAll_cons, callAll_cons, bind_assoc]
      exact bind_congr ih

/-- A child that can be built is added like one that is there already. -/
theorem call_child (d : ModuleDraft) (start : ChildStart) (calls : List ChildCall) :
    d.call (.child start calls) =
      (start.draft.callAll calls >>= ChildDraft.build) >>= fun entry => d.call (.entry entry) :=
  (bind_assoc _ _ _).symm

theorem call_unplaced (d : ModuleDraft) (k : ModuleCall) :
    (d.unplaced.call k).map unplaced = (d.call k).map unplaced := by
  have entered (entry : ChildEntry) :
      (d.unplaced.call (.entry entry)).map unplaced = (d.call (.entry entry)).map unplaced := by
    cases started : d.composition <;>
      simp [call, withEntry, change, unplaced, Composition.unplaced, started, Except.map]
  cases k with
  | child start calls =>
      rw [call_child, call_child]
      refine map_bind_congr (p := id) rfl fun entry _ same => ?_
      subst same
      exact entered entry
  | entry entry => exact entered entry
  | _ =>
    cases started : d.composition <;>
      simp [call, withShape, withOption, withComposition, withLocation, change, unplaced,
        Composition.unplaced, started, Except.map]

/-- A chain does the same to drafts that differ in the locations of their options only. -/
theorem callAll_congr {d e : ModuleDraft} (same : d.unplaced = e.unplaced)
    (calls : List ModuleCall) :
    (d.callAll calls).map unplaced = (e.callAll calls).map unplaced := by
  induction calls generalizing d e with
  | nil => exact congrArg Except.ok same
  | cons k rest ih =>
      have step : (d.call k).map unplaced = (e.call k).map unplaced := by
        rw [← call_unplaced d, same, call_unplaced]
      exact map_bind_congr step fun _ _ agree => ih agree

/-- A location may come before a plain call or behind it, but for what the call keeps of it. -/
theorem call_withLocation {k : ModuleCall} (plain : k.isPlain = true) (d : ModuleDraft)
    (location : Location) :
    ((d.withLocation location).call k).map unplaced =
      (d.call k).map fun e => (e.withLocation location).unplaced := by
  have entered (entry : ChildEntry) :
      ((d.withLocation location).call (.entry entry)).map unplaced =
        (d.call (.entry entry)).map fun e => (e.withLocation location).unplaced := by
    cases started : d.composition <;>
      simp [call, withEntry, change, unplaced, Composition.unplaced, withLocation, started,
        Except.map]
  cases k with
  | child start calls =>
      rw [call_child, call_child]
      refine map_bind_congr (p := id) rfl fun entry _ same => ?_
      subst same
      exact entered entry
  | entry entry => exact entered entry
  | composition => cases plain
  | located => cases plain
  | _ =>
    cases started : d.composition <;>
      simp [call, withShape, withOption, change, unplaced, Composition.unplaced, withLocation,
        CompositionOption.unplaced, started, Except.map]

theorem callAll_withLocation {calls : List ModuleCall} (plain : ∀ k ∈ calls, k.isPlain = true)
    (d : ModuleDraft) (location : Location) :
    ((d.withLocation location).callAll calls).map unplaced =
      (d.callAll calls).map fun e => (e.withLocation location).unplaced := by
  induction calls generalizing d with
  | nil => rfl
  | cons k rest ih =>
      obtain ⟨now, later⟩ := List.forall_mem_cons.mp plain
      refine map_bind_congr (call_withLocation now d location) fun e f agree => ?_
      rw [callAll_congr agree, ih later]

/-- Whether a draft is another one with more options, as far as its compositions and its location
are concerned. -/
structure Adds (d e : ModuleDraft) (added : List CompositionOption) : Prop where
  options : e.options = d.options ++ added
  location : e.location = d.location
  others : e.others = d.others

/-- A plain call adds the option that it asks for. -/
theorem adds_call {k : ModuleCall} (plain : k.isPlain = true) {d e : ModuleDraft}
    (called : d.call k = .ok e) : d.Adds e (k.option? d.location).toList := by
  have kept {e : ModuleDraft} (compositions : e.composition = d.composition)
      (location : e.location = d.location) (others : e.others = d.others) : d.Adds e [] := by
    refine ⟨?_, location, others⟩
    rw [options, options, compositions, List.append_nil]
  have shaped (shape : StateShape) : d.Adds (d.withShape shape) [] := by
    refine ⟨?_, rfl, rfl⟩
    cases started : d.composition <;> simp [withShape, options, started]
  have changed {f : Composition → Composition} {added : List CompositionOption}
      (more : ∀ c, (f c).options = c.options ++ added) (done : d.change f = .ok e) :
      d.Adds e added := by
    rw [change] at done
    split at done
    · next c started =>
        cases done
        refine ⟨?_, rfl, rfl⟩
        simp [options, started, more]
    · cases done
  have entered {entry : ChildEntry} (done : d.withEntry entry = .ok e) : d.Adds e [] := by
    refine changed (fun c => ?_) done
    exact (List.append_nil c.options).symm
  cases k with
  | access | placement | member | members =>
      cases called
      exact kept rfl rfl rfl
  | record | variant =>
      cases called
      exact shaped _
  | bindable | initialCase | stateConformances | actionConformances =>
      exact changed (fun _ => rfl) called
  | entry => exact entered called
  | child start calls =>
      rw [call_child] at called
      obtain ⟨entry, _, done⟩ := exists_of_bind_eq_ok called
      exact entered done
  | composition | located => cases plain

/-- A plain chain adds the options that its calls ask for, at the location that holds. -/
theorem adds_callAll {calls : List ModuleCall} (plain : ∀ k ∈ calls, k.isPlain = true)
    {d e : ModuleDraft} (called : d.callAll calls = .ok e) :
    d.Adds e (calls.filterMap (ModuleCall.option? d.location)) := by
  induction calls generalizing d with
  | nil =>
      cases called
      exact ⟨(List.append_nil _).symm, rfl, rfl⟩
  | cons k rest ih =>
      obtain ⟨now, later⟩ := List.forall_mem_cons.mp plain
      obtain ⟨f, first, called⟩ := exists_of_bind_eq_ok called
      have here := adds_call now first
      have behind := ih later called
      refine ⟨?_, behind.location.trans here.location, behind.others.trans here.others⟩
      rw [behind.options, here.options, here.location, List.append_assoc]
      cases asked : k.option? d.location <;> simp [asked]

def finished (d : ModuleDraft) : ModuleDef :=
  ⟨d.name, d.access, d.composition.toList ++ d.others, d.placement, d.members, d.location⟩

theorem build_eq (d : ModuleDraft) :
    d.build = if d.name = "" then .error .missingModuleName else .ok d.finished := rfl

theorem unplaced_finished (d : ModuleDraft) : d.unplaced.finished.unplaced = d.finished.unplaced := by
  cases started : d.composition <;> simp [finished, unplaced, ModuleDef.unplaced, started]

theorem build_congr {d e : ModuleDraft} (same : d.unplaced = e.unplaced) :
    d.build.map ModuleDef.unplaced = e.build.map ModuleDef.unplaced := by
  have name : d.name = e.name := by
    change d.unplaced.name = e.unplaced.name
    rw [same]
  have finished : d.finished.unplaced = e.finished.unplaced := by
    rw [← unplaced_finished, same, unplaced_finished]
  rw [build_eq, build_eq, name]
  split
  · rfl
  · exact congrArg Except.ok finished

/-- What a draft is built into has its options, if nothing but its calls made them. -/
theorem options_finished {d : ModuleDraft} (alone : d.others = []) :
    d.finished.directives.flatMap Composition.options = d.options := by
  rw [finished, alone, List.append_nil, options]
  cases d.composition with
  | none => rfl
  | some c => exact List.flatMap_singleton Composition.options c

theorem finished_inj {d e : ModuleDraft} (same : d.unplaced = e.unplaced) :
    d.finished = e.finished ↔ d.options = e.options := by
  constructor
  · intro built
    have others : d.others = e.others := by
      change d.unplaced.others = e.unplaced.others
      rw [same]
    have compositions : d.composition.toList = e.composition.toList := by
      have directives := congrArg ModuleDef.directives built
      rw [finished, finished, others] at directives
      exact List.append_cancel_right directives
    have head : d.composition = e.composition := by
      simpa only [Option.head?_toList] using congrArg List.head? compositions
    rw [options, options, head]
  · intro options
    rw [eq_of_unplaced same options]

theorem exists_draft {name : String} {calls : List ModuleCall} {m : ModuleDef}
    (made : built name calls = .ok m) :
    ∃ d, callAll { name := name } calls = .ok d ∧ m = d.finished := by
  obtain ⟨d, called, made⟩ := exists_of_bind_eq_ok made
  rw [build_eq] at made
  split at made
  · cases made
  · cases made
    exact ⟨d, called, rfl⟩

variable {before between after : List ModuleCall} {location : Location}

/-- Chains that differ in the place of a location come to drafts that differ in the locations of
their options. -/
theorem map_callAll_located (plain : ∀ k ∈ between, k.isPlain = true) (d : ModuleDraft) :
    (d.callAll (before ++ .located location :: between ++ after)).map unplaced =
      (d.callAll (before ++ between ++ .located location :: after)).map unplaced := by
  rw [List.append_assoc, List.append_assoc, callAll_append, callAll_append]
  refine map_bind_congr (p := id) rfl fun e _ same => ?_
  subst same
  change ((e.withLocation location).callAll (between ++ after)).map unplaced = _
  rw [callAll_append, callAll_append]
  exact map_bind_congr (callAll_withLocation plain e location)
    fun _ _ agree => callAll_congr agree after

/-- Each option keeps the location that holds when it is asked for. -/
theorem options_callAll_located (front : ∀ k ∈ before, k.isPlain = true)
    (back : ∀ k ∈ after, k.isPlain = true) {d e : ModuleDraft}
    (called : d.callAll (before ++ .located location :: after) = .ok e) :
    e.others = d.others ∧
      e.options = d.options ++ before.filterMap (ModuleCall.option? d.location) ++
        after.filterMap (ModuleCall.option? location) := by
  have placed (f : ModuleDraft) : (f.withLocation location).options = f.options := by
    cases started : f.composition <;> simp [withLocation, options, started]
  rw [callAll_append] at called
  obtain ⟨f, first, called⟩ := exists_of_bind_eq_ok called
  have early := adds_callAll front first
  have late := adds_callAll back (d := f.withLocation location) called
  refine ⟨late.others.trans early.others, ?_⟩
  rw [late.options, placed, early.options]
  rfl

/-- Two drafts of chains that differ in the place of a location are built into the same module just
if no initial case tells the places apart. -/
theorem finished_eq_iff_of_located {name : String}
    (plain : ∀ k ∈ before ++ between ++ after, k.isPlain = true) {d e : ModuleDraft}
    (early : callAll { name := name } (before ++ .located location :: between ++ after) = .ok e)
    (late : callAll { name := name } (before ++ between ++ .located location :: after) = .ok d) :
    e.finished = d.finished ↔ location = {} ∨ ∀ k ∈ between, k.keepsLocation = false := by
  obtain ⟨front, back⟩ := List.forall_mem_append.mp plain
  have agree : e.unplaced = d.unplaced := by
    have drafts : (Except.ok e : Except BuildError _).map unplaced =
        (Except.ok d).map unplaced := by
      rw [← early, ← late]
      exact map_callAll_located (List.forall_mem_append.mp front).2 { name := name }
    exact Except.ok.inj drafts
  have behind : d.options = (before ++ between).filterMap (ModuleCall.option? {}) ++
      after.filterMap (ModuleCall.option? location) :=
    (options_callAll_located front back late).2
  rw [List.append_assoc] at plain early
  obtain ⟨first, others⟩ := List.forall_mem_append.mp plain
  have ahead : e.options = before.filterMap (ModuleCall.option? {}) ++
      (between ++ after).filterMap (ModuleCall.option? location) :=
    (options_callAll_located first others early).2
  rw [finished_inj agree, ahead, behind, List.filterMap_append, List.filterMap_append,
    ← List.append_assoc, List.append_left_inj, List.append_right_inj,
    ModuleCall.filterMap_option?_eq_iff]

/-- Moving a location over plain calls changes which location the initial cases among them keep,
and nothing else. The initial cases behind the location have it, and those in front of it have
none. So a chain builds the same wherever the location stands, failures included, exactly if it
fails anyway, if the location is the one that is held by default, or if no initial case is
passed. -/
theorem located_moved (name : String)
    (plain : ∀ k ∈ before ++ between ++ after, k.isPlain = true) :
    let early := built name (before ++ .located location :: between ++ after)
    let late := built name (before ++ between ++ .located location :: after)
    early.map ModuleDef.unplaced = late.map ModuleDef.unplaced ∧
      (∀ m, late = .ok m → m.directives.flatMap Composition.options =
        (before ++ between).filterMap (ModuleCall.option? {}) ++
          after.filterMap (ModuleCall.option? location)) ∧
      (early = late ↔
        (∃ error, late = .error error) ∨ location = {} ∨
          ∀ k ∈ between, k.keepsLocation = false) := by
  intro early late
  obtain ⟨front, back⟩ := List.forall_mem_append.mp plain
  have middle := (List.forall_mem_append.mp front).2
  let start : ModuleDraft := { name := name }
  have drafts : (start.callAll (before ++ .located location :: between ++ after)).map unplaced =
      (start.callAll (before ++ between ++ .located location :: after)).map unplaced :=
    map_callAll_located middle start
  have modules : early.map ModuleDef.unplaced = late.map ModuleDef.unplaced :=
    map_bind_congr drafts fun _ _ agree => build_congr agree
  refine ⟨modules, ?_, ?_⟩
  · intro m made
    obtain ⟨d, called, rfl⟩ := exists_draft made
    obtain ⟨alone, options⟩ := options_callAll_located front back called
    rw [options_finished alone, options]
    rfl
  · cases made : late with
    | error error =>
        rw [made] at modules
        exact iff_of_true (eq_error_of_map modules) (Or.inl ⟨error, rfl⟩)
    | ok m =>
        cases also : early with
        | error =>
            rw [also, made] at modules
            cases modules
        | ok m' =>
            obtain ⟨d, called, rfl⟩ := exists_draft made
            obtain ⟨e, moved, rfl⟩ := exists_draft also
            rw [Except.ok.injEq, finished_eq_iff_of_located plain moved called]
            simp

/-- The initial case of a feature is asked for before it is known where the feature stands. It keeps
the location that the feature has by default, and the feature takes the other one. -/
theorem located_moved_feature :
    let idle := ModuleCall.child (.stateless "idle") []
    let early := built "Feature" [.variant, .located ⟨4, 5⟩, .initialCase "idle", idle]
    let late := built "Feature" [.variant, .initialCase "idle", idle, .located ⟨4, 5⟩]
    early.map ModuleDef.unplaced = late.map ModuleDef.unplaced ∧ early ≠ late ∧
      ∃ m, late = .ok m ∧ m.location = ⟨4, 5⟩ ∧
        m.directives.flatMap Composition.options = [.initialCase (.string "idle") {}] := by
  intro idle early late
  have plain : ∀ k ∈ [ModuleCall.variant] ++ [.initialCase "idle", idle] ++ [],
      k.isPlain = true := by
    decide
  obtain ⟨modules, options, same⟩ := @located_moved _ _ _ ⟨4, 5⟩ "Feature" plain
  obtain ⟨m, made, placed⟩ : ∃ m, late = .ok m ∧ m.location = ⟨4, 5⟩ := ⟨_, rfl, rfl⟩
  refine ⟨modules, ?_, m, made, placed, options m made⟩
  · intro equal
    rcases same.mp equal with ⟨error, failed⟩ | default | silent
    · cases failed
    · revert default
      decide
    · exact Bool.noConfusion (silent (.initialCase "idle") List.mem_cons_self)

end ModuleDraft

end StateWeave
