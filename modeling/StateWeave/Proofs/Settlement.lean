import Mathlib.Data.List.Basic
import StateWeave.Proofs.Contributions

/-!
# Working off the queue of bindings

A fragment that binds a placeholder is first entered with a slot, its place in the
queue. When the table is resolved, the queue is worked off and every slot is replaced
by the route to the placeholder that was bound, or the fragment disappears.

`placed` tells the same story without slots: each binding is made where it is found,
and the route is taken at once. The two agree because a binding changes nothing but
the action type of one entry, on which no route depends.
-/

namespace StateWeave

namespace Placeholder

/-- A placeholder without its action type, which is all that a binding changes. -/
def bare (p : Placeholder) : Placeholder := { p with actionType := none }

@[simp] theorem name_bare (p : Placeholder) : p.bare.name = p.name := rfl

@[simp] theorem presentable_bare (p : Placeholder) : p.bare.presentable = p.presentable := rfl

@[simp] theorem isLocal_bare (p : Placeholder) : p.bare.isLocal = p.isLocal := rfl

end Placeholder

namespace PlaceholderRegistry

/-- What no binding changes. -/
def outline (r : PlaceholderRegistry) : List Placeholder := r.entries.map Placeholder.bare

theorem map_name_outline (r : PlaceholderRegistry) : r.outline.map Placeholder.name = r.names := by
  simp only [outline, names, List.map_map, Function.comp_def, Placeholder.name_bare]

theorem map_bare_locals (r : PlaceholderRegistry) :
    r.locals.map Placeholder.bare = r.outline.filter Placeholder.isLocal := by
  rw [locals, outline, List.filter_map]
  rfl

theorem names_congr {r s : PlaceholderRegistry} (same : r.outline = s.outline) :
    r.names = s.names := by
  rw [← map_name_outline, same, map_name_outline]

theorem map_bare_get? (r : PlaceholderRegistry) (name : String) :
    (r.get? name).map Placeholder.bare = r.outline.find? fun p => p.name = name := by
  rw [outline, List.find?_map]
  rfl

/-- Routes follow from the outline. -/
theorem route_congr {r s : PlaceholderRegistry} (same : r.outline = s.outline) (name : String) :
    r.route name = s.route name := by
  have found : (r.get? name).map Placeholder.bare = (s.get? name).map Placeholder.bare := by
    rw [map_bare_get?, same, map_bare_get?]
  rw [route, route]
  cases left : r.get? name with
  | none =>
      rw [left] at found
      rw [Option.map_eq_none_iff.mp found.symm]
  | some p =>
      rw [left] at found
      obtain ⟨q, right, bare⟩ := Option.map_eq_some_iff.mp found.symm
      have presentable : q.presentable = p.presentable := by
        simpa only [Placeholder.presentable_bare] using congrArg Placeholder.presentable bare
      rw [right]
      simp only [presentable]

theorem map_bare_bindFirst (test : Placeholder → Bool) (actionType : String)
    (entries : List Placeholder) :
    (bindFirst test actionType entries).map Placeholder.bare = entries.map Placeholder.bare := by
  induction entries with
  | nil => rfl
  | cons entry rest ih =>
      cases passes : test entry with
      | true => simp [bindFirst, passes, Placeholder.bare]
      | false => simp [bindFirst, passes, ih]

/-! ## Single bindings -/

/-- What a queued binding comes to, if it finds its placeholder. -/
def bound? (r : PlaceholderRegistry) (b : PendingBinding) :
    Option (String × PlaceholderRegistry) :=
  match r.bind b.kind b.name b.actionType with
  | .ok found => some found
  | .error _ => none

def routeOf? (r : PlaceholderRegistry) (b : PendingBinding) : Option Path :=
  (r.bound? b).map fun found => r.route found.1

/-- The registry after a queue of bindings, those that fail included. -/
def settle (r : PlaceholderRegistry) (queue : List PendingBinding) : PlaceholderRegistry :=
  queue.foldl (fun r b => ((r.bound? b).map Prod.snd).getD r) r

theorem outline_of_bound? {r s : PlaceholderRegistry} {b : PendingBinding} {name : String}
    (found : r.bound? b = some (name, s)) : s.outline = r.outline := by
  rw [bound?, bind] at found
  cases target : r.target b.kind b.name with
  | error => simp [target] at found
  | ok entry =>
      simp only [target, Option.some.injEq, Prod.mk.injEq] at found
      rw [← found.2]
      exact map_bare_bindFirst _ _ _

@[simp] theorem settle_nil (r : PlaceholderRegistry) : r.settle [] = r := rfl

theorem settle_cons (r : PlaceholderRegistry) (b : PendingBinding) (queue : List PendingBinding) :
    r.settle (b :: queue) = (r.settle [b]).settle queue := rfl

theorem settle_append (r : PlaceholderRegistry) (queue later : List PendingBinding) :
    r.settle (queue ++ later) = (r.settle queue).settle later := List.foldl_append

theorem settle_of_bound {r s : PlaceholderRegistry} {b : PendingBinding} {name : String}
    (found : r.bound? b = some (name, s)) : r.settle [b] = s := by
  simp [settle, found]

theorem settle_of_unbound {r : PlaceholderRegistry} {b : PendingBinding}
    (missing : r.bound? b = none) : r.settle [b] = r := by
  simp [settle, missing]

theorem outline_settle_singleton (r : PlaceholderRegistry) (b : PendingBinding) :
    (r.settle [b]).outline = r.outline := by
  cases h : r.bound? b with
  | none => rw [settle_of_unbound h]
  | some found => rw [settle_of_bound h, outline_of_bound? h]

/-- No queue of bindings changes the outline. -/
theorem outline_settle (r : PlaceholderRegistry) (queue : List PendingBinding) :
    (r.settle queue).outline = r.outline := by
  induction queue generalizing r with
  | nil => rfl
  | cons b queue ih => rw [settle_cons, ih, outline_settle_singleton]

theorem names_settle (r : PlaceholderRegistry) (queue : List PendingBinding) :
    (r.settle queue).names = r.names := names_congr (outline_settle r queue)

/-- The routes that a queue of bindings finds, one for each binding. -/
def routes (r : PlaceholderRegistry) : List PendingBinding → List (Option Path)
  | [] => []
  | b :: queue => r.routeOf? b :: (r.settle [b]).routes queue

theorem routes_append (r : PlaceholderRegistry) (queue later : List PendingBinding) :
    r.routes (queue ++ later) = r.routes queue ++ (r.settle queue).routes later := by
  induction queue generalizing r with
  | nil => rfl
  | cons b queue ih => rw [List.cons_append, routes, routes, ih, ← settle_cons, List.cons_append]

theorem length_routes (r : PlaceholderRegistry) (queue : List PendingBinding) :
    (r.routes queue).length = queue.length := by
  induction queue generalizing r with
  | nil => rfl
  | cons b queue ih => rw [routes, List.length_cons, List.length_cons, ih]

theorem bindAll_cons (r : PlaceholderRegistry) (b : PendingBinding)
    (queue : List PendingBinding) :
    (r.bindAll (b :: queue)).1 = ((r.settle [b]).bindAll queue).1 ∧
      (r.bindAll (b :: queue)).2.1 =
        (r.bound? b).map Prod.fst :: ((r.settle [b]).bindAll queue).2.1 := by
  rw [bindAll, bound?, settle, List.foldl_cons, List.foldl_nil, bound?]
  cases r.bind b.kind b.name b.actionType with
  | ok found => exact ⟨rfl, rfl⟩
  | error => exact ⟨rfl, rfl⟩

theorem fst_bindAll (r : PlaceholderRegistry) (queue : List PendingBinding) :
    (r.bindAll queue).1 = r.settle queue := by
  induction queue generalizing r with
  | nil => rfl
  | cons b queue ih => rw [(bindAll_cons r b queue).1, ih, ← settle_cons]

/-- Looking up all routes in the end gives what looking them up one by one does. -/
theorem map_route_bindAll {r final : PlaceholderRegistry} (same : final.outline = r.outline)
    (queue : List PendingBinding) :
    (r.bindAll queue).2.1.map (fun name => name.map final.route) = r.routes queue := by
  induction queue generalizing r with
  | nil => rfl
  | cons b queue ih =>
      have later := ih (same.trans (outline_settle_singleton r b).symm)
      have now : ((r.bound? b).map Prod.fst).map final.route = r.routeOf? b := by
        rw [routeOf?, Option.map_map]
        congr 1
        funext found
        exact route_congr same found.1
      rw [(bindAll_cons r b queue).2, List.map_cons, later, now, routes]

end PlaceholderRegistry

/-! ## Fragments in their places -/

namespace Contribution

def written? : Contribution → Option Fragment
  | fragment _ f => some f
  | actionFragment _ _ _ _ f => some f
  | boundFragment _ _ f => some f
  | _ => none

/-- The fragment that a contribution brings while the registry stands like this. -/
def placed? (r : PlaceholderRegistry) : Contribution → Option (Position × Fragment)
  | fragment position f => some (position, f)
  | actionFragment position _ _ _ f => some (position, f)
  | boundFragment position pending f =>
    (r.routeOf? pending).map fun path => (position, { f with routing := .action path })
  | _ => none

/-- The fragments that contributions bring. Bindings are made in the order in which
they come, and a fragment whose binding fails is left out. -/
def placed (r : PlaceholderRegistry) : List Contribution → List (Position × Fragment)
  | [] => []
  | c :: rest => (c.placed? r).toList ++ placed (r.settle c.binding?.toList) rest

end Contribution

/-- A fragment with its slot replaced, where it runs. -/
def Fragment.settledAt? (routes : List (Option Path)) (f : Position × Fragment) :
    Option (Position × Fragment) :=
  (f.2.settled? routes).map (Prod.mk f.1)

theorem Fragment.settled?_of_slot?_none {f : Fragment} (unslotted : f.routing.slot? = none)
    (routes : List (Option Path)) : f.settled? routes = some f := by
  rw [settled?]
  cases h : f.routing with
  | placeholder slot => rw [h] at unslotted; cases unslotted
  | _ => rfl

theorem Fragment.settled?_of_slot {f : Fragment} {slot : Nat} {routes : List (Option Path)}
    {route : Option Path} (known : routes[slot]? = some route) :
    ({ f with routing := .placeholder slot } : Fragment).settled? routes =
      route.map fun path => { f with routing := .action path } := by
  rw [settled?]
  cases route with
  | none => simp only [known, Option.map_none]
  | some path => simp only [known, Option.map_some]

theorem Position.filterMap_settled_select (position : Position) (routes : List (Option Path))
    (fs : List (Position × Fragment)) :
    (position.select fs).filterMap (Fragment.settled? routes) =
      position.select (fs.filterMap (Fragment.settledAt? routes)) := by
  induction fs with
  | nil => rfl
  | cons f fs ih =>
      by_cases here : f.1 = position <;> cases settled : f.2.settled? routes <;>
        simp_all [select, Fragment.settledAt?]

theorem OuterStage.filterMap_settled_fragments (routes : List (Option Path))
    (fs : List Fragment) :
    (fs.map OuterStage.fragment).filterMap (OuterStage.settled? routes) =
      (fs.filterMap (Fragment.settled? routes)).map OuterStage.fragment := by
  rw [List.filterMap_map, List.map_filterMap]
  rfl

namespace Contribution

/-- Settling one fragment is placing it. -/
theorem settledAt?_fragment? {c : Contribution} {routes : List (Option Path)}
    {r : PlaceholderRegistry} {slot : Nat}
    (unslotted : ∀ f, c.written? = some f → f.routing.slot? = none)
    (known : ∀ pending, c.binding? = some pending → routes[slot]? = some (r.routeOf? pending)) :
    (c.fragment? slot).bind (Fragment.settledAt? routes) = c.placed? r := by
  cases c with
  | fragment position f =>
      have kept := Fragment.settled?_of_slot?_none (unslotted f rfl) routes
      simp [Fragment.settledAt?, kept, placed?]
  | actionFragment position name type location f =>
      have kept := Fragment.settled?_of_slot?_none (unslotted f rfl) routes
      simp [Fragment.settledAt?, kept, placed?]
  | boundFragment position pending f =>
      have settled := Fragment.settled?_of_slot (known pending rfl) (f := f)
      simp [Fragment.settledAt?, settled, placed?, Function.comp_def]
  | _ => rfl

theorem filterMap_cons_toList {α β : Type} (f : α → Option β) (x : α) (xs : List α) :
    (x :: xs).filterMap f = (f x).toList ++ xs.filterMap f := by
  simp only [List.filterMap_eq_flatMap_toList, List.flatMap_cons]

/-- Settling the fragments of all contributions is placing them. `front` holds the
routes of earlier bindings. -/
theorem filterMap_settledAt_fragments {cs : List Contribution}
    (unslotted : ∀ c ∈ cs, ∀ f, c.written? = some f → f.routing.slot? = none)
    (r : PlaceholderRegistry) (front : List (Option Path)) :
    (fragments front.length cs).filterMap
        (Fragment.settledAt? (front ++ r.routes (cs.filterMap binding?))) =
      placed r cs := by
  induction cs generalizing r front with
  | nil => rfl
  | cons c cs ih =>
      have queue := filterMap_cons_toList binding? c cs
      have later := ih (fun d member => unslotted d (List.mem_cons_of_mem _ member))
        (r.settle c.binding?.toList) (front ++ r.routes c.binding?.toList)
      rw [List.length_append, PlaceholderRegistry.length_routes, List.append_assoc,
        ← PlaceholderRegistry.routes_append, ← queue] at later
      have known : ∀ pending, c.binding? = some pending →
          (front ++ r.routes ((c :: cs).filterMap binding?))[front.length]? =
            some (r.routeOf? pending) := by
        intro pending asked
        rw [queue, asked, List.getElem?_append_right (Nat.le_refl _), Nat.sub_self]
        rfl
      have now := settledAt?_fragment? (unslotted c List.mem_cons_self) known
      rw [fragments, placed, List.filterMap_append, later, ← now, List.filterMap_eq_flatMap_toList,
        Option.toList_bind]
      rfl

/-- Placing fragments changes neither what they call nor their order. -/
theorem sublist_functions_placed (r : PlaceholderRegistry) (cs : List Contribution) :
    ((placed r cs).map fun f => f.2.function).Sublist
      ((cs.filterMap written?).map Fragment.function) := by
  induction cs generalizing r with
  | nil => exact List.Sublist.refl _
  | cons c cs ih =>
      have here : ((c.placed? r).toList.map fun f => f.2.function).Sublist
          (c.written?.toList.map Fragment.function) := by
        cases c with
        | boundFragment position pending f =>
            rw [placed?]
            cases r.routeOf? pending with
            | none => exact List.nil_sublist _
            | some path => exact List.Sublist.refl _
        | _ => exact List.Sublist.refl _
      rw [placed, filterMap_cons_toList, List.map_append, List.map_append]
      exact here.append (ih _)

end Contribution

/-! ## Contributions of members -/

/-- A member's name, seen from outside the module. -/
def Visit.path (v : Visit) : String := Naming.qualified v.scopes v.member.name

/-- The call of a function as it is declared, on every action. -/
def Fragment.call (scopes : List String) (decl : FunctionDecl) : Fragment where
  function := Naming.qualified scopes decl.name
  args := decl.params.map fun p => ⟨p.name, p.isMutable⟩
  yieldsEffect := decl.returnType.isSome
  routing := .any
  location := decl.location

namespace Contribution

theorem slot?_of_bodyRouting {a : Attribute} {routing : Routing}
    (h : bodyRouting a = .ok routing) : routing.slot? = none := by
  rw [bodyRouting] at h
  repeat' split at h
  all_goals
    cases h
    try rfl

/-- What a function contributes that has a directive and a signature in order: a call of the
function, in one of four forms, or nothing for the reasons that are reported. -/
inductive OfFunction (scopes : List String) (decl : FunctionDecl) (a : Attribute) :
    Directive → Contribution → Prop
  | fragment {position : Position} {routing : Routing} :
      bodyRouting a = .ok routing →
        OfFunction scopes decl a .body
          (.fragment position { Fragment.call scopes decl with routing := routing })
  | actionFragment {position : Position} {name type : String} :
      OfFunction scopes decl a .bodyActionCase
        (.actionFragment position name type a.location
          { Fragment.call scopes decl with routing := .action (Path.action.case name) })
  /-- A binding asks for the type of the function's `action` parameter. -/
  | boundFragment {d : Directive} {kind : PlaceholderKind} {position : Position}
      {b : PendingBinding} :
      boundKind? d = some kind → (Signature.ofFunction decl).actionType = some b.actionType →
        OfFunction scopes decl a d (.boundFragment position b (Fragment.call scopes decl))
  | observer {attachment : Attachment} {watched : Path} :
      OfFunction scopes decl a .onChange
        (.observer attachment ⟨watched, Fragment.call scopes decl⟩ a.location)
  | nothing {d : Directive} : OfFunction scopes decl a d .nothing
  | refused {d : Directive} {reports : Diagnostics} : OfFunction scopes decl a d (.refused reports)

theorem ofFunction_ofSignature (scopes : List String) (d : Directive) (decl : FunctionDecl)
    (a : Attribute) :
    OfFunction scopes decl a d (ofSignature scopes d decl a (.ofFunction decl)) := by
  cases d with
  | body =>
      simp only [ofSignature]
      split
      · next routed => exact .fragment routed
      · exact .refused
  | onChange =>
      simp only [ofSignature, ofObserver]
      repeat' split
      · exact .refused
      · exact .refused
      · exact .observer
  | bodyActionCase =>
      simp only [ofSignature, refusal]
      split
      · exact .refused
      · exact .actionFragment
  | _ =>
      simp only [ofSignature, refusal]
      split
      · exact .nothing
      · exact .refused
      · next bound acts => exact .boundFragment bound acts

theorem ofRole_cases (scopes : List String) (m : Member) (role : Role) :
    (∃ decl d a, m = .function decl ∧ role = .fragment d a ∧
      Signature.violations d (a.labeled? "identified_action").isSome decl = [] ∧
      OfFunction scopes decl a d (ofRole scopes m role)) ∨
    ((ofRole scopes m role).written? = none ∧
      ∀ attachment, (ofRole scopes m role).observer? attachment = none) := by
  cases role with
  | fragment d a =>
      cases m with
      | function decl =>
          rw [ofRole, ofFunction, Signature.check]
          cases sound : Signature.violations d (a.labeled? "identified_action").isSome decl with
          | nil =>
              exact .inl ⟨decl, d, a, rfl, rfl, sound, ofFunction_ofSignature scopes d decl a⟩
          | cons => exact .inr ⟨rfl, fun _ => rfl⟩
      | _ => exact .inr ⟨rfl, fun _ => rfl⟩
  | actionCase a =>
      cases m with
      | type decl =>
          rw [ofRole, ofActionCase]
          split <;> exact .inr ⟨rfl, fun _ => rfl⟩
      | _ => exact .inr ⟨rfl, fun _ => rfl⟩
  | scopePath a =>
      cases m with
      | «variable» decl =>
          rw [ofRole, ofScopePath]
          split <;> exact .inr ⟨rfl, fun _ => rfl⟩
      | _ => exact .inr ⟨rfl, fun _ => rfl⟩
  | placeholder kind a => cases m <;> exact .inr ⟨rfl, fun _ => rfl⟩
  | _ => exact .inr ⟨rfl, fun _ => rfl⟩

theorem ofName_ne_fragment (m : Member) (d : Directive) (a : Attribute) :
    Role.ofName m ≠ .fragment d a := by
  cases m with
  | function => exact Role.noConfusion
  | _ =>
      rw [Role.ofName]
      repeat' split
      all_goals exact Role.noConfusion

/-- Only a directive makes a member a fragment. -/
theorem find?_of_ofMember {m : Member} {topLevel : Bool} {d : Directive} {a : Attribute}
    (h : Role.ofMember m topLevel = .ok (.fragment d a)) :
    Directive.find? m.attributes = some (d, a) := by
  rw [Role.ofMember] at h
  repeat' split at h
  · next other _ found _ =>
      rw [found]
      cases other <;> cases h <;> rfl
  · cases h
  · exact absurd (Except.ok.inj h) (ofName_ne_fragment m d a)
  · cases h

/-- Fragments and observers come from functions whose signature is in order, and only from
those. -/
theorem ofVisit_cases (v : Visit) :
    (∃ decl d a, v.member = .function decl ∧ Directive.find? decl.attributes = some (d, a) ∧
      Signature.violations d (a.labeled? "identified_action").isSome decl = [] ∧
      OfFunction v.scopes decl a d (ofVisit v)) ∨
    ((ofVisit v).written? = none ∧
      ∀ attachment, (ofVisit v).observer? attachment = none) := by
  rw [ofVisit]
  split
  · next role plays =>
      rcases ofRole_cases v.scopes v.member role with
        ⟨decl, d, a, function, rfl, sound, made⟩ | silent
      · have found := find?_of_ofMember plays
        rw [function] at found
        exact .inl ⟨decl, d, a, function, found, sound, made⟩
      · exact .inr silent
  · exact .inr ⟨rfl, fun _ => rfl⟩

/-- A member that brings a fragment is a function with a directive, and its signature is in
order. -/
theorem exists_ofFunction {v : Visit} {f : Fragment} (h : (ofVisit v).written? = some f) :
    ∃ decl d a, v.member = .function decl ∧ Directive.find? decl.attributes = some (d, a) ∧
      Signature.violations d (a.labeled? "identified_action").isSome decl = [] ∧
      OfFunction v.scopes decl a d (ofVisit v) := by
  rcases ofVisit_cases v with found | ⟨silent, _⟩
  · exact found
  · rw [silent] at h
    cases h

/-- The fragment of a function calls the function, and has no slot; slots are given out on
entering. -/
theorem OfFunction.written {scopes : List String} {decl : FunctionDecl} {a : Attribute}
    {d : Directive} {c : Contribution} (made : OfFunction scopes decl a d c) {f : Fragment}
    (h : c.written? = some f) :
    f = { Fragment.call scopes decl with routing := f.routing } ∧ f.routing.slot? = none := by
  cases made with
  | fragment routed =>
      cases h
      exact ⟨rfl, slot?_of_bodyRouting routed⟩
  | actionFragment =>
      cases h
      exact ⟨rfl, rfl⟩
  | boundFragment =>
      cases h
      exact ⟨rfl, rfl⟩
  | _ => cases h

theorem written_of_ofVisit {v : Visit} {f : Fragment} (h : (ofVisit v).written? = some f) :
    f.function = v.path ∧ f.routing.slot? = none := by
  obtain ⟨decl, d, a, function, _, _, made⟩ := exists_ofFunction h
  obtain ⟨call, unslotted⟩ := made.written h
  rw [call, Visit.path, function]
  exact ⟨rfl, unslotted⟩

/-- The fragments of members come in the order of the members. -/
theorem sublist_functions_ofMembers (members : List Member) :
    (((ofMembers members).filterMap written?).map Fragment.function).Sublist
      ((Visit.ofMembers [] members).map Visit.path) := by
  rw [ofMembers]
  induction Visit.ofMembers [] members with
  | nil => exact List.Sublist.refl _
  | cons v vs ih =>
      rw [List.map_cons, List.filterMap_cons, List.map_cons]
      cases h : (ofVisit v).written? with
      | none => exact ih.cons _
      | some f =>
          rw [List.map_cons, (written_of_ofVisit h).1]
          exact ih.cons_cons _

end Contribution

end StateWeave
