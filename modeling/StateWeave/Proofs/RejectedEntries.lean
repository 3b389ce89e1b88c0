import StateWeave.Proofs.FirstRegistration

/-!
# Entries that are turned away

An entry whose name is taken is reported and enters no child, no stage and no name. What it may
leave behind are placeholders: those of a list are declared before anyone asks whether the name
of the list is free. `get?_declareAll` says what a registry then has under a key, and from it
follows when a list that is turned away leaves the registry as it was.
-/

namespace StateWeave

namespace PlaceholderRegistry

/-- The one that stands of placeholders which are declared under one name, one after the other:
the first that is bound, or else the last. -/
def standing (ps : List Placeholder) : Option Placeholder :=
  (ps.find? Placeholder.isBound).or ps.getLast?

theorem standing_singleton (p : Placeholder) : standing [p] = some p := by
  cases bound : p.isBound <;> simp [standing, bound]

theorem standing_cons_of_bound {p : Placeholder} (bound : p.isBound = true)
    (ps : List Placeholder) : standing (p :: ps) = some p := by
  simp [standing, bound]

theorem standing_cons_cons_of_unbound {p : Placeholder} (unbound : p.isBound = false)
    (q : Placeholder) (ps : List Placeholder) : standing (p :: q :: ps) = standing (q :: ps) := by
  simp [standing, List.find?_cons, unbound, List.getLast?_cons_cons]

theorem get?_declare_self (r : PlaceholderRegistry) (p : Placeholder) :
    (r.declare p).get? p.name = standing ((r.get? p.name).toList ++ [p]) := by
  have entered : (r.insert p).get? p.name = some p := find?_insertIn_self p r.entries
  rw [declare]
  cases known : r.get? p.name with
  | none =>
      rw [Option.any_none, if_neg Bool.false_ne_true, entered]
      exact (standing_singleton p).symm
  | some q =>
      cases bound : q.isBound with
      | false =>
          rw [Option.any_some, bound, if_neg Bool.false_ne_true, entered, Option.toList_some,
            List.singleton_append, standing_cons_cons_of_unbound bound, standing_singleton]
      | true =>
          rw [Option.any_some, bound, if_pos rfl, known, Option.toList_some,
            List.singleton_append, standing_cons_of_bound bound]

theorem get?_declare_of_ne {p : Placeholder} {key : String} (differs : key ≠ p.name)
    (r : PlaceholderRegistry) : (r.declare p).get? key = r.get? key := by
  rw [declare]
  split
  · rfl
  · exact find?_insertIn_of_ne differs r.entries

theorem standing_append (ps qs : List Placeholder) :
    standing ((standing ps).toList ++ qs) = standing (ps ++ qs) := by
  cases found : ps.find? Placeholder.isBound with
  | some p =>
      have bound : p.isBound = true := List.find?_some found
      simp [standing, found, bound]
  | none =>
      have last : standing ps = ps.getLast? := by rw [standing, found, Option.none_or]
      rw [last]
      cases known : ps.getLast? with
      | none =>
          rw [List.getLast?_eq_none_iff.mp known]
          rfl
      | some p =>
          have unbound : p.isBound = false := by
            simpa using List.find?_eq_none.mp found p (List.mem_of_getLast? known)
          have front : (ps ++ qs).find? Placeholder.isBound = qs.find? Placeholder.isBound := by
            rw [List.find?_append, found, Option.none_or]
          have back : (p :: qs).find? Placeholder.isBound = qs.find? Placeholder.isBound := by
            rw [List.find?_cons, unbound]
          have ends : (p :: qs).getLast? = (ps ++ qs).getLast? := by
            rw [List.getLast?_append, known, List.getLast?_cons]
            cases qs.getLast? <;> rfl
          rw [Option.toList_some, List.singleton_append, standing, standing, front, back, ends]

/-- What a registry has under a key after declarations. -/
theorem get?_declareAll (r : PlaceholderRegistry) (ps : List Placeholder) (key : String) :
    (r.declareAll ps).get? key =
      standing ((r.get? key).toList ++ ps.filter fun p => p.name = key) := by
  induction ps generalizing r with
  | nil =>
      rw [declareAll_nil, List.filter_nil, List.append_nil]
      cases r.get? key with
      | none => rfl
      | some p => exact (standing_singleton p).symm
  | cons p ps ih =>
      change ((r.declare p).declareAll ps).get? key = _
      rw [ih]
      by_cases same : p.name = key
      · subst same
        rw [get?_declare_self, standing_append, List.filter_cons_of_pos (by simp),
          List.append_assoc, List.singleton_append]
      · rw [get?_declare_of_ne (Ne.symm same), List.filter_cons_of_neg (by simpa using same)]

theorem names_declare (r : PlaceholderRegistry) (p : Placeholder) :
    ∃ fresh, (r.declare p).names = r.names ++ fresh := by
  rw [declare]
  split
  · exact ⟨[], (List.append_nil _).symm⟩
  · rw [names_insert]
    split
    · exact ⟨[], (List.append_nil _).symm⟩
    · exact ⟨[p.name], rfl⟩

/-- Declarations keep the names that a registry has, in their places. -/
theorem names_declareAll (r : PlaceholderRegistry) (ps : List Placeholder) :
    ∃ fresh, (r.declareAll ps).names = r.names ++ fresh := by
  induction ps generalizing r with
  | nil => exact ⟨[], (List.append_nil _).symm⟩
  | cons p ps ih =>
      obtain ⟨first, one⟩ := names_declare r p
      obtain ⟨rest, all⟩ := ih (r.declare p)
      refine ⟨first ++ rest, ?_⟩
      change ((r.declare p).declareAll ps).names = _
      rw [all, one, List.append_assoc]

/-- A registry is known by its names and by what each of them leads to. -/
theorem eq_of_get? {r s : PlaceholderRegistry} (distinct : r.names.Nodup)
    (names : s.names = r.names) (same : ∀ key, s.get? key = r.get? key) : s = r := by
  have length : s.entries.length = r.entries.length := by
    simpa [PlaceholderRegistry.names] using congrArg List.length names
  have entries : s.entries = r.entries := by
    refine List.ext_getElem length fun i inS inR => ?_
    have named : s.entries[i].name = r.entries[i].name := by
      have at_i : s.names[i]? = r.names[i]? := by rw [names]
      simpa [PlaceholderRegistry.names, inS, inR] using at_i
    have left : s.get? s.entries[i].name = some s.entries[i] :=
      get?_of_mem (names ▸ distinct) (List.getElem_mem inS)
    have right : r.get? r.entries[i].name = some r.entries[i] :=
      get?_of_mem distinct (List.getElem_mem inR)
    rw [same, named, right] at left
    exact (Option.some.inj left).symm
  cases s
  cases r
  exact congrArg _ entries

/-- Declarations leave a registry as it was exactly if under each of their names the one that
stands in the end is the one that stood before. -/
theorem declareAll_eq_self_iff {r : PlaceholderRegistry} (distinct : r.names.Nodup)
    (ps : List Placeholder) :
    r.declareAll ps = r ↔
      ∀ p ∈ ps, standing ((r.get? p.name).toList ++ ps.filter fun q => q.name = p.name) =
        r.get? p.name := by
  constructor
  · intro unchanged p _
    rw [← get?_declareAll, unchanged]
  · intro stands
    have same : ∀ key, (r.declareAll ps).get? key = r.get? key := by
      intro key
      by_cases declared : key ∈ ps.map Placeholder.name
      · obtain ⟨p, member, rfl⟩ := List.mem_map.mp declared
        rw [get?_declareAll, stands p member]
      · exact get?_declareAll_of_not_mem declared r
    obtain ⟨fresh, names⟩ := names_declareAll r ps
    have kept := nodup_names_declareAll distinct ps
    have none : fresh = [] := by
      rw [names, List.nodup_append] at kept
      refine List.eq_nil_iff_forall_not_mem.mpr fun name new => ?_
      have known : name ∈ (r.declareAll ps).names := names ▸ List.mem_append_right _ new
      have old : name ∈ r.names := by
        by_contra unknown
        exact get?_eq_none_iff.mp ((same name).trans (get?_eq_none_iff.mpr unknown)) known
      exact kept.2.2 name old name new rfl
    rw [none, List.append_nil] at names
    exact eq_of_get? distinct names same

end PlaceholderRegistry

namespace ChildEntry

variable (policy : Policy) (resolve : Resolver)

/-- The placeholders that an entry leaves behind when it is turned away: those of its list. -/
def leftBehind (e : ChildEntry) : List Placeholder :=
  match e.plan policy resolve with
  | .list name _ children => children.filterMap (listed? resolve name)
  | _ => []

/-- What is reported of an entry before its name is looked up. -/
def remarks (e : ChildEntry) : Diagnostics :=
  match e.plan policy resolve with
  | .child name _ _ true => [.ofProblem (.tupleInitialValueIgnored name) e.location]
  | _ => []

theorem isError_of_mem_remarks {e : ChildEntry} {d : Diagnostic}
    (member : d ∈ e.remarks policy resolve) : d.isError = false := by
  rw [remarks] at member
  split at member
  · rw [List.mem_singleton.mp member]
    rfl
  · cases member

end ChildEntry

namespace SymbolTable

open PlaceholderRegistry

theorem addStaged_of_place {t : SymbolTable} {name : String} {first : Location}
    (taken : t.firstPlace? name = some first) (e : Embedding) (initialValue : Option String)
    (location : Location) (staged : Bool) :
    t.addStaged name e initialValue location staged =
      t.withDiagnostics
        (t.diagnostics ++ [.ofDuplicate (.duplicateChild name) name location first]) := by
  rw [addStaged, addChild, register_of_taken taken, reportDuplicate_eq rfl]

theorem declarePlaceholder_of_place {t : SymbolTable} {name : String} {first : Location}
    (taken : t.firstPlace? name = some first) (e : ChildEntry) (resolve : Resolver)
    (kind : PlaceholderKind) :
    t.declarePlaceholder e resolve kind name =
      t.withDiagnostics
        (t.diagnostics ++ [.ofDuplicate (.duplicateChild name) name e.location first]) := by
  rw [declarePlaceholder, register_of_taken taken, reportDuplicate_eq rfl]

/-- An entry whose name is taken changes the registry of placeholders and is reported. -/
theorem addEntry_of_taken {t : SymbolTable} {resolve : Resolver} {e : ChildEntry}
    {name : String} {first : Location} (asked : e.claim? t.policy resolve = some name)
    (taken : t.firstPlace? name = some first) :
    addEntry resolve t e =
      (t.withPlaceholders
        (t.placeholders.declareAll (e.leftBehind t.policy resolve))).withDiagnostics
        (t.diagnostics ++ e.remarks t.policy resolve ++
          [.ofDuplicate (.duplicateChild name) name e.location first]) := by
  rw [ChildEntry.claim?] at asked
  rw [addEntry, ChildEntry.leftBehind, ChildEntry.remarks]
  cases plan : e.plan t.policy resolve with
  | refused problem =>
      rw [plan] at asked
      cases asked
  | placeholder kind own =>
      rw [plan] at asked
      obtain rfl : own = name := Option.some.inj asked
      simp only [declarePlaceholder_of_place taken, declareAll_nil, List.append_nil]
      rfl
  | list own embedding children =>
      rw [plan] at asked
      obtain rfl : own = name := Option.some.inj asked
      simp only [foldl_insertListed, List.append_nil]
      generalize t.placeholders.declareAll _ = registry
      have kept : (t.withPlaceholders registry).firstPlace? own = some first := taken
      exact addStaged_of_place kept embedding none e.location t.placement.isRoot
  | child own embedding initialValue dropped =>
      rw [plan] at asked
      obtain rfl : own = name := Option.some.inj asked
      cases dropped with
      | false =>
          simp only [Bool.false_eq_true, if_false, addStaged_of_place taken, declareAll_nil,
            List.append_nil]
          rfl
      | true =>
          exact addStaged_of_place (t := t.report (.tupleInitialValueIgnored own) e.location)
            taken embedding initialValue e.location true

/-- An entry that is turned away is reported once, with the place of the first entry under its
name, and changes nothing but the registry of placeholders. There, what its list declares
replaces placeholders that are unbound and is added where there are none, so that the table is
as before, but for the report, exactly if those that stand under the names of the list are the
ones that stood before. -/
theorem rejected_entry_eq {t : SymbolTable} {resolve : Resolver} {e : ChildEntry}
    {name : String} {first : Location} (distinct : t.placeholders.names.Nodup)
    (asked : e.claim? t.policy resolve = some name)
    (taken : t.firstPlace? name = some first) :
    let left := e.leftBehind t.policy resolve
    let remarks := e.remarks t.policy resolve
    let rejected := addEntry resolve t e
    rejected =
        (t.withPlaceholders rejected.placeholders).withDiagnostics
          (t.diagnostics ++ remarks ++
            [.ofDuplicate (.duplicateChild name) name e.location first]) ∧
      (∀ d ∈ remarks, d.isError = false) ∧
      (∀ key, rejected.placeholders.get? key =
        standing ((t.placeholders.get? key).toList ++ left.filter fun p => p.name = key)) ∧
      (rejected = t.withDiagnostics rejected.diagnostics ↔
        ∀ p ∈ left, standing
          ((t.placeholders.get? p.name).toList ++ left.filter fun q => q.name = p.name) =
            t.placeholders.get? p.name) := by
  intro left remarks rejected
  have result : rejected =
      (t.withPlaceholders (t.placeholders.declareAll left)).withDiagnostics
        (t.diagnostics ++ remarks ++
          [.ofDuplicate (.duplicateChild name) name e.location first]) :=
    addEntry_of_taken asked taken
  have registry : rejected.placeholders = t.placeholders.declareAll left := by
    rw [result]
    rfl
  refine ⟨?_, fun d member => e.isError_of_mem_remarks t.policy resolve member, ?_, ?_⟩
  · rw [registry]
    exact result
  · intro key
    rw [registry, get?_declareAll]
  · rw [← declareAll_eq_self_iff distinct left]
    constructor
    · intro unchanged
      have kept : rejected.placeholders = t.placeholders := by rw [unchanged]; rfl
      rw [← registry, kept]
    · intro unchanged
      rw [result, unchanged]
      rfl

def sheet (kinds : List (ChildKind × String)) (line : UInt32) : ChildEntry where
  kind := .destination (some "Sheet")
    (kinds.map fun kind => ⟨kind.1, true, some (.string kind.2), none, none, ⟨line, 5⟩⟩)
  name := some (.string "sheet")
  type := none
  initialValue := none
  location := ⟨line, 1⟩

def editor : SymbolTable :=
  addEntries .textual { module := "Editor" } [sheet [(.alert, "leave")] 2]

/-- A second sheet is reported, and yet its dialog takes the place of the alert of the first
sheet, and its alert is added. -/
theorem rejected_entry_eq_sheet :
    let rejected := addEntry .textual editor
      (sheet [(.confirmationDialog, "leave"), (.alert, "help")] 3)
    rejected.diagnostics =
        [.ofDuplicate (.duplicateChild "sheet") "sheet" ⟨3, 1⟩ ⟨2, 1⟩] ∧
      (editor.placeholders.get? "sheet.leave").map Placeholder.kind = some .alert ∧
      (rejected.placeholders.get? "sheet.leave").map Placeholder.kind =
        some .confirmationDialog ∧
      (editor.placeholders.get? "sheet.help").map Placeholder.kind = none ∧
      (rejected.placeholders.get? "sheet.help").map Placeholder.kind = some .alert ∧
      rejected ≠ editor.withDiagnostics rejected.diagnostics := by
  intro rejected
  let second := sheet [(.confirmationDialog, "leave"), (.alert, "help")] 3
  have distinct : editor.placeholders.names.Nodup := by decide
  have asked : second.claim? editor.policy .textual = some "sheet" := rfl
  have taken : editor.firstPlace? "sheet" = some ⟨2, 1⟩ := rfl
  obtain ⟨result, _, under, unchanged⟩ := rejected_entry_eq distinct asked taken
  refine ⟨congrArg SymbolTable.diagnostics result, rfl, ?_, rfl, ?_, ?_⟩
  · rw [under "sheet.leave"]
    rfl
  · rw [under "sheet.help"]
    rfl
  · rw [Ne, unchanged]
    intro kept
    have same := kept _ List.mem_cons_self
    revert same
    decide

end SymbolTable

end StateWeave
