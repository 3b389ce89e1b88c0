import StateWeave.Proofs.NestedPaths
import StateWeave.Proofs.PlaceholderTypes

/-!
# The two paths to a list's placeholder

The fragments of a placeholder follow its name, one case for each part of it. The module of the
list has a path of its own to the same actions, and on a stack this path also goes through an
element. `nested_placeholder_deliver_eq` says where the two meet: for a destination, if neither
the list nor the placeholder has a dot in its name, and for a stack never.
-/

namespace StateWeave

namespace Naming

theorem componentsOf_ne_nil (cs : List Char) : componentsOf cs ≠ [] := by
  cases cs with
  | nil => exact List.cons_ne_nil _ _
  | cons c cs =>
      rw [componentsOf]
      repeat' split
      all_goals exact List.cons_ne_nil _ _

/-- A dot between two names is where the parts of one end and those of the other begin. -/
theorem componentsOf_append_dot (xs ys : List Char) :
    componentsOf (xs ++ '.' :: ys) = componentsOf xs ++ componentsOf ys := by
  induction xs with
  | nil => rfl
  | cons c xs ih =>
      rw [List.cons_append, componentsOf, componentsOf, ih]
      split
      · rfl
      · cases parts : componentsOf xs with
        | nil => exact absurd parts (componentsOf_ne_nil xs)
        | cons first others => rfl

theorem componentsOf_of_dotless {cs : List Char} (dotless : '.' ∉ cs) : componentsOf cs = [cs] := by
  induction cs with
  | nil => rfl
  | cons c cs ih =>
      simp only [List.mem_cons, not_or] at dotless
      rw [componentsOf, if_neg (Ne.symm dotless.1), ih dotless.2]

theorem dot_not_mem_of_mem_componentsOf {cs part : List Char} (h : part ∈ componentsOf cs) :
    '.' ∉ part := by
  induction cs generalizing part with
  | nil =>
      rw [List.mem_singleton.mp h]
      exact List.not_mem_nil
  | cons c cs ih =>
      rw [componentsOf] at h
      split at h
      · rcases List.mem_cons.mp h with rfl | later
        · exact List.not_mem_nil
        · exact ih later
      · next letter =>
          cases parts : componentsOf cs with
          | nil => exact absurd parts (componentsOf_ne_nil cs)
          | cons first others =>
              rw [parts] at h ih
              rcases List.mem_cons.mp h with rfl | later
              · rw [List.mem_cons, not_or]
                exact ⟨Ne.symm letter, ih List.mem_cons_self⟩
              · exact ih (List.mem_cons_of_mem _ later)

theorem components_nestedKey (list name : String) :
    components (nestedKey list name) = components list ++ components name := by
  have key : (nestedKey list name).toList = list.toList ++ '.' :: name.toList := by
    simp [nestedKey]
  rw [components, key, componentsOf_append_dot, List.map_append]
  rfl

theorem components_of_dotless {name : String} (dotless : '.' ∉ name.toList) :
    components name = [name] := by
  rw [components, componentsOf_of_dotless dotless, List.map_singleton, String.ofList_toList]

/-- The parts of a name with a dot begin with another name. -/
theorem components_of_dotted {name : String} (dotted : '.' ∈ name.toList) :
    ∃ first others, components name = first :: others ∧ first ≠ name := by
  cases parts : componentsOf name.toList with
  | nil => exact absurd parts (componentsOf_ne_nil _)
  | cons first others =>
      refine ⟨String.ofList first, others.map String.ofList, ?_, ?_⟩
      · rw [components, parts, List.map_cons]
      · rintro rfl
        rw [String.toList_ofList] at dotted parts
        exact dot_not_mem_of_mem_componentsOf (parts ▸ List.mem_cons_self) dotted

end Naming

namespace Path

theorem steps_foldl_case (path : Path) (names : List String) :
    (names.foldl Path.case path).steps = path.steps ++ names.map Step.case := by
  induction names generalizing path with
  | nil => exact (List.append_nil _).symm
  | cons name names ih =>
      rw [List.foldl_cons, ih, Path.case, steps_push, List.append_assoc]
      rfl

end Path

theorem Placeholder.steps_path (p : Placeholder) :
    p.path.steps =
      (Naming.components p.name).map Step.case ++ if p.presentable then [.presented] else [] := by
  rw [path]
  cases p.presentable with
  | true =>
      rw [if_pos rfl, Path.presented, Path.steps_push, Path.steps_foldl_case]
      rfl
  | false =>
      rw [if_neg Bool.false_ne_true, Path.steps_foldl_case]
      exact (List.append_nil _).symm

namespace Value

/-- The cases of a name's parts lead into the case of that name if there is just one part. -/
theorem follow?_components (name : String) (rest : List Step) (v : Value) :
    follow? ((Naming.components name).map Step.case ++ rest) (.case name v) =
      if '.' ∈ name.toList then none else follow? rest v := by
  by_cases dotted : '.' ∈ name.toList
  · obtain ⟨first, others, parts, differs⟩ := Naming.components_of_dotted dotted
    rw [if_pos dotted, parts, List.map_cons, List.cons_append, follow?_cons, get?,
      if_neg (Ne.symm differs)]
    rfl
  · rw [if_neg dotted, Naming.components_of_dotless dotted, List.map_singleton,
      List.singleton_append, follow?_cons, get?, if_pos rfl]
    rfl

/-- The cases of a name's parts do not lead into an element. -/
theorem follow?_components_keyed (name id : String) (rest : List Step) (v : Value) :
    follow? ((Naming.components name).map Step.case ++ rest) (.keyed id v) = none := by
  cases parts : Naming.components name with
  | nil => exact absurd (List.map_eq_nil_iff.mp parts) (Naming.componentsOf_ne_nil _)
  | cons first others => rfl

end Value

theorem PlaceholderRegistry.localName?_nestedKey (list name : String) :
    localName? list (Naming.nestedKey list name) = some name := by
  have key : (Naming.nestedKey list name).toList = (list.toList ++ ['.']) ++ name.toList := by
    simp [Naming.nestedKey]
  rw [localName?, key, if_pos (List.isPrefixOf_iff_prefix.mpr (List.prefix_append _ _)),
    List.drop_left, String.ofList_toList]

/-- What a fragment sees of the actions of a list's placeholder. -/
theorem Placeholder.deliver?_path {p : Placeholder} {list name : String}
    (named : p.name = Naming.nestedKey list name) (a : Value) :
    (Routing.action p.path).deliver? a =
      Value.follow? ((Naming.components list).map Step.case ++
        ((Naming.components name).map Step.case ++
          if p.presentable then [.presented] else [])) a := by
  rw [Routing.deliver?, Value.extract?, steps_path, named, Naming.components_nestedKey,
    List.map_append, List.append_assoc]

/-- A placeholder's actions, in their envelope if it is presented. -/
def Placeholder.wrapped (p : Placeholder) (x : Value) : Value :=
  if p.presentable then .presented x else x

theorem Placeholder.follow?_wrapped (p : Placeholder) (x : Value) :
    Value.follow? (if p.presentable then [.presented] else []) (p.wrapped x) = some x := by
  rw [wrapped]
  cases p.presentable <;> rfl

namespace ListSite

variable {resolver : Resolver} {site : ListSite}

theorem action_of_mem_scopes {s : Scope} (h : s ∈ (site.table resolver).scopes) :
    ∃ e, s.action = site.started.actionPath s.name e := by
  rw [scopes_table] at h
  obtain ⟨child, _, scope⟩ := List.mem_filterMap.mp h
  obtain ⟨type, _, rfl⟩ := Option.map_eq_some_iff.mp scope
  exact ⟨_, rfl⟩

/-- A bound placeholder that is a list's own has its scope in the table of the list. -/
theorem exists_scope {p : Placeholder} {type : String}
    (member : p.typed type ∈ (site.placeholders resolver).entries) (own : p.isLocal = true) :
    ∃ s ∈ (site.table resolver).scopes, s.name = p.name ∧ s.embedding = p.embedding type := by
  have child : ⟨p.name, p.embedding type, none⟩ ∈ site.embedded resolver :=
    List.mem_append_right _ (PlaceholderRegistry.mem_children member own)
  have acts : ∃ actions, (p.embedding type).actionType? = some actions := by
    rw [Placeholder.embedding]
    cases p.kind <;> exact ⟨_, rfl⟩
  obtain ⟨actions, acts⟩ := acts
  refine ⟨site.started.scopeFor p.name (p.embedding type) actions, ?_, rfl, rfl⟩
  rw [scopes_table]
  refine List.mem_filterMap.mpr ⟨_, child, ?_⟩
  rw [SymbolTable.scopeOf?, acts]
  rfl

theorem embed_of_stack {s : Scope} (scope : s ∈ (site.table resolver).scopes)
    (stack : site.placement = .stack site.list site.parent.module) (x : Value) (id : String) :
    Value.embed s.action x id = .case site.list (.keyed id (.case s.name x)) := by
  obtain ⟨e, action⟩ := action_of_mem_scopes scope
  rw [action, SymbolTable.actionPath, started, stack]
  rfl

theorem embed_of_destination {s : Scope} (scope : s ∈ (site.table resolver).scopes)
    (destination : site.placement = .destination site.list site.parent.module) (x : Value)
    (id : String) : Value.embed s.action x id = .case site.list (.case s.name x) := by
  obtain ⟨e, action⟩ := action_of_mem_scopes scope
  rw [action, SymbolTable.actionPath, started, destination]
  rfl

/-- What the fragments of a placeholder get of what a scope of the placeholder's name sends. -/
theorem deliver?_of_mem_scopes {t : SymbolTable} (list : site ∈ t.lists) {p : Placeholder}
    {s : Scope} (scope : s ∈ (site.table resolver).scopes)
    (named : p.name = Naming.nestedKey site.list s.name) (x : Value) (id : String) :
    (Routing.action p.path).deliver? (Value.embed s.action (p.wrapped x) id) =
      if site.placement = .destination site.list site.parent.module ∧
          '.' ∉ site.list.toList ∧ '.' ∉ s.name.toList then some x
      else none := by
  rw [Placeholder.deliver?_path named]
  rcases SymbolTable.placement_of_mem_lists list with stack | destination
  · have other : site.placement ≠ .destination site.list site.parent.module := by
      rw [stack]
      intro same
      cases same
    rw [embed_of_stack scope stack, Value.follow?_components, Value.follow?_components_keyed,
      ite_self, if_neg fun meets => other meets.1]
  · rw [embed_of_destination scope destination, Value.follow?_components,
      Value.follow?_components, p.follow?_wrapped]
    by_cases outer : '.' ∈ site.list.toList
    · rw [if_pos outer, if_neg fun meets => meets.2.1 outer]
    · by_cases inner : '.' ∈ s.name.toList
      · rw [if_neg outer, if_pos inner, if_neg fun meets => meets.2.2 inner]
      · rw [if_neg outer, if_neg inner, if_pos ⟨destination, outer, inner⟩]

end ListSite

namespace Expansion

/-- A fragment that is bound to the placeholder of a list gets what the scope in the list's module
sends only if the list is a destination, and if neither of the names has a dot in it. On a stack
the scope sends its actions for an element, which the fragment's path does not go through. -/
theorem nested_placeholder_deliver_eq {policy : Policy} {resolver : Resolver}
    {definition : ModuleDef} {c : Composition} (single : definition.directives = [c])
    {front back : List Contribution} {position : Position} {b : PendingBinding} {f : Fragment}
    {p : Placeholder}
    (contributions : c.contributions policy resolver definition.members =
      front ++ .boundFragment position b f :: back)
    (found : ((c.declared policy resolver).settle
      (front.filterMap Contribution.binding?)).Finds b p)
    {site : ListSite}
    (list : site ∈ (SymbolTable.ofModule policy resolver definition c).lists) {name : String}
    (named : p.name = Naming.nestedKey site.list name) :
    (∀ pipeline, (Expansion.ofModule policy resolver definition).pipeline? = some pipeline →
      { f with routing := .action p.path } ∈ pipeline.stages.flatMap Stage.fragments) ∧
    ('.' ∉ name.toList →
      ∃ s ∈ (site.table resolver).scopes, s.name = name ∧
        s.embedding =
          p.embedding (p.typeAfter b.actionType (back.filterMap Contribution.binding?))) ∧
    ∀ s ∈ (site.table resolver).scopes, s.name = name → ∀ (x : Value) (id : String),
      (Routing.action p.path).deliver? (Value.embed s.action (p.wrapped x) id) =
        if site.placement = .destination site.list site.parent.module ∧
            '.' ∉ site.list.toList ∧ '.' ∉ name.toList then some x
        else none := by
  refine ⟨?_, ?_, ?_⟩
  · intro pipeline generated
    exact mem_fragments_of_finds single contributions found generated
  · intro dotless
    have belongs : PlaceholderRegistry.localName? site.list p.name = some name := by
      rw [named]
      exact PlaceholderRegistry.localName?_nestedKey site.list name
    let type := p.typeAfter b.actionType (back.filterMap Contribution.binding?)
    have received := SymbolTable.receives_of_finds contributions found
    have handed : (SymbolTable.ofModule policy resolver definition c).HandsDown resolver
        (p.typed type) (site.table resolver) ({ p with name := name }.typed type) :=
      .list .own list belongs
    have member := (handed.receives received).member
    rw [site.placeholders_table] at member
    have own : { p with name := name }.isLocal = true := by
      simpa [Placeholder.isLocal] using dotless
    exact ListSite.exists_scope member own
  · intro s scope same x id
    subst same
    exact ListSite.deliver?_of_mem_scopes list scope named x id

def presentedAlert (name : String) : ChildEntry :=
  ⟨.alert, true, some (.string name), none, none, {}⟩

/-- A stack of halls with a fire alarm, and a desk that is called for help. -/
def hallsAndDesk : Composition where
  children := [
    ⟨.navigationStack (some "Halls") [presentedAlert "fire"], false, some (.string "halls"),
      none, none, {}⟩,
    ⟨.destination (some "Desk") [presentedAlert "help"], false, some (.string "desk"), none,
      none, {}⟩]

def museum : ModuleDef where
  name := "Museum"
  directives := [hallsAndDesk]
  members := [answering "evacuate" "halls.fire" "Fire", answering "assist" "desk.help" "Help"]

def halls : ListSite :=
  ⟨SymbolTable.ofModule {} .textual museum hallsAndDesk, "halls", "Halls",
    .stack "halls" "Museum", [presentedAlert "fire"]⟩

def desk : ListSite :=
  ⟨SymbolTable.ofModule {} .textual museum hallsAndDesk, "desk", "Desk",
    .destination "desk" "Museum", [presentedAlert "help"]⟩

theorem nested_placeholder_deliver_eq_museum :
    (∃ s ∈ (halls.table .textual).scopes, s.name = "fire" ∧
      (Routing.action ((Path.action.case "halls").case "fire").presented).deliver?
        (Value.embed s.action (.presented .unit) "a") = none) ∧
      ∃ s ∈ (desk.table .textual).scopes, s.name = "help" ∧
        (Routing.action ((Path.action.case "desk").case "help").presented).deliver?
          (Value.embed s.action (.presented .unit) "a") = some .unit := by
  let evacuate : Fragment := ⟨"evacuate", [⟨"action", false⟩], false, .any, {}⟩
  let assist : Fragment := ⟨"assist", [⟨"action", false⟩], false, .any, {}⟩
  let fire : PendingBinding := ⟨.alert, some "halls.fire", "Fire", {}⟩
  let help : PendingBinding := ⟨.alert, some "desk.help", "Help", {}⟩
  constructor
  · have contributions : hallsAndDesk.contributions {} .textual museum.members =
        [] ++ .boundFragment .core fire evacuate :: [.boundFragment .core help assist] := rfl
    have found : ((hallsAndDesk.declared {} .textual).settle
        (([] : List Contribution).filterMap Contribution.binding?)).Finds fire
          ⟨"halls.fire", .alert, true, none, {}⟩ := ⟨List.mem_cons_self, rfl, rfl⟩
    have list : halls ∈ (SymbolTable.ofModule {} .textual museum hallsAndDesk).lists :=
      List.mem_cons_self
    have named : "halls.fire" = Naming.nestedKey halls.list "fire" := rfl
    obtain ⟨_, shown, delivers⟩ :=
      nested_placeholder_deliver_eq rfl contributions found list named
    obtain ⟨s, scope, same, _⟩ := shown (by decide)
    exact ⟨s, scope, same, delivers s scope same .unit "a"⟩
  · have contributions : hallsAndDesk.contributions {} .textual museum.members =
        [.boundFragment .core fire evacuate] ++ .boundFragment .core help assist :: [] := rfl
    have found : ((hallsAndDesk.declared {} .textual).settle
        ([Contribution.boundFragment .core fire evacuate].filterMap Contribution.binding?)).Finds
          help ⟨"desk.help", .alert, true, none, {}⟩ :=
      ⟨List.mem_cons_of_mem _ List.mem_cons_self, rfl, rfl⟩
    have list : desk ∈ (SymbolTable.ofModule {} .textual museum hallsAndDesk).lists :=
      List.mem_cons_of_mem _ List.mem_cons_self
    have named : "desk.help" = Naming.nestedKey desk.list "help" := rfl
    obtain ⟨_, shown, delivers⟩ :=
      nested_placeholder_deliver_eq rfl contributions found list named
    obtain ⟨s, scope, same, _⟩ := shown (by decide)
    exact ⟨s, scope, same, delivers s scope same .unit "a"⟩

end Expansion

end StateWeave
