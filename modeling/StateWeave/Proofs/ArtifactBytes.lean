import StateWeave.Artifact.Binary
import StateWeave.Proofs.Readers
import StateWeave.Proofs.Slots
import StateWeave.Proofs.Timestamps

/-!
# Artifacts are read back from their bytes

Each type of an artifact has a reader that takes what is written for its values. A record takes
its fields in their order, and a sum takes the position of the case and then what the case carries.
-/

namespace StateWeave

open Bytes Bytes.Reader

/-- The reader of the type takes the bytes that are written for the value. -/
def ReadsBack {α : Type} [ToBytes α] [OfBytes α] (a : α) : Prop :=
  (get : Reader α).Takes (put a) a

section

variable {α : Type} [ToBytes α] [OfBytes α]

theorem readsBack_text (s : String) : ReadsBack s := takes_text s

theorem readsBack_word32 (n : UInt32) : ReadsBack n := takes_word32 n

theorem readsBack_bool (b : Bool) : ReadsBack b := takes_bool b

theorem readsBack_count {n : Nat} (fits : n < UInt64.size) : ReadsBack n := takes_count fits

theorem readsBack_option {value : Option α} (inner : ∀ a, value = some a → ReadsBack a) :
    ReadsBack value :=
  takes_option inner

theorem readsBack_list {items : List α} (inner : ∀ a ∈ items, ReadsBack a)
    (strict : (get : Reader α) [] = none) : ReadsBack items :=
  takes_list strict inner

theorem readsBack_text? (text : Option String) : ReadsBack text :=
  readsBack_option fun s _ => readsBack_text s

theorem readsBack_texts (texts : List String) : ReadsBack texts :=
  readsBack_list (fun s _ => readsBack_text s) rfl

end

theorem Location.readsBack (l : Location) : ReadsBack l :=
  (readsBack_word32 l.line).first (by rfl) |>.and (readsBack_word32 l.column) (by rfl)

theorem Access.readsBack (a : Access) : ReadsBack a := by
  cases a with
  | hidden => exact advances_sum rfl (by decide)
  | package => exact advances_sum rfl (by decide)
  | exported => exact advances_sum rfl (by decide)

theorem StateShape.readsBack (s : StateShape) : ReadsBack s := by
  cases s with
  | record => exact advances_sum rfl (by decide)
  | variant => exact advances_sum rfl (by decide)

theorem Placement.readsBack (p : Placement) : ReadsBack p := by
  cases p with
  | root => exact advances_sum rfl (by decide)
  | destination list parent =>
      exact advances_sum rfl (by decide)
        |>.and (readsBack_text list) (by rfl)
        |>.and (readsBack_text parent) (by rfl)
  | stack list parent =>
      exact advances_sum rfl (by decide)
        |>.and (readsBack_text list) (by rfl)
        |>.and (readsBack_text parent) (by rfl)

theorem Step.readsBack (s : Step) : ReadsBack s := by
  cases s with
  | field name => exact advances_sum rfl (by decide) |>.and (readsBack_text name) (by rfl)
  | case name => exact advances_sum rfl (by decide) |>.and (readsBack_text name) (by rfl)
  | dynamicCase name => exact advances_sum rfl (by decide) |>.and (readsBack_text name) (by rfl)
  | optional => exact advances_sum rfl (by decide)
  | presented => exact advances_sum rfl (by decide)
  | element => exact advances_sum rfl (by decide)

theorem Path.readsBack (p : Path) : ReadsBack p :=
  (readsBack_text p.root).first (by rfl)
    |>.and (readsBack_list (fun s _ => s.readsBack) (by rfl)) (by rfl)

theorem CallArg.readsBack (a : CallArg) : ReadsBack a :=
  (readsBack_text a.name).first (by rfl) |>.and (readsBack_bool a.isMutable) (by rfl)

theorem Routing.readsBack {r : Routing} (fits : ∀ slot, r.slot? = some slot → slot < UInt64.size) :
    ReadsBack r := by
  cases r with
  | any => exact advances_sum rfl (by decide)
  | action path => exact advances_sum rfl (by decide) |>.and path.readsBack (by rfl)
  | identified outer inner =>
      exact advances_sum rfl (by decide)
        |>.and outer.readsBack (by rfl)
        |>.and inner.readsBack (by rfl)
  | placeholder slot =>
      exact advances_sum rfl (by decide)
        |>.and (readsBack_count (fits slot rfl)) (by rfl)

theorem Fragment.readsBack {f : Fragment} (fits : f.SlotFits) : ReadsBack f :=
  (readsBack_text f.function).first (by rfl)
    |>.and (readsBack_list (fun a _ => a.readsBack) (by rfl)) (by rfl)
    |>.and (readsBack_bool f.yieldsEffect) (by rfl)
    |>.and (Routing.readsBack fits) (by rfl)
    |>.and f.location.readsBack (by rfl)

theorem Observer.readsBack {o : Observer} (fits : o.fragment.SlotFits) : ReadsBack o :=
  o.watched.readsBack.first (by rfl) |>.and (Fragment.readsBack fits) (by rfl)

theorem StageKind.readsBack (k : StageKind) : ReadsBack k := by
  cases k with
  | scope => exact advances_sum rfl (by decide)
  | ifLet => exact advances_sum rfl (by decide)
  | forEach => exact advances_sum rfl (by decide)
  | ifCaseLet => exact advances_sum rfl (by decide)

theorem readsBack_observers {observers : List Observer}
    (fit : SlotsFit (observers.map Observer.fragment)) : ReadsBack observers :=
  readsBack_list (fun o member => Observer.readsBack (SlotsFit.observers.mp fit o member)) rfl

theorem ChildStage.readsBack {s : ChildStage} (fit : SlotsFit (s.observers.map Observer.fragment)) :
    ReadsBack s :=
  s.kind.readsBack.first (by rfl)
    |>.and (readsBack_text s.name) (by rfl)
    |>.and (readsBack_bool s.binding) (by rfl)
    |>.and (readsBack_text? s.module) (by rfl)
    |>.and (readsBack_observers fit) (by rfl)

theorem CoreModifier.readsBack {m : CoreModifier} (fit : SlotsFit m.calls) : ReadsBack m := by
  cases m with
  | child stage => exact advances_sum rfl (by decide) |>.and (ChildStage.readsBack fit) (by rfl)
  | observer o =>
      exact advances_sum rfl (by decide)
        |>.and (Observer.readsBack (fit _ List.mem_cons_self)) (by rfl)

theorem Stage.readsBack {s : Stage} (fit : SlotsFit s.calls) : ReadsBack s := by
  cases s with
  | empty => exact advances_sum rfl (by decide)
  | binding observers =>
      exact advances_sum rfl (by decide)
        |>.and (readsBack_observers fit) (by rfl)
  | fragment f =>
      exact advances_sum rfl (by decide)
        |>.and (Fragment.readsBack (fit _ List.mem_cons_self)) (by rfl)
  | child stage => exact advances_sum rfl (by decide) |>.and (ChildStage.readsBack fit) (by rfl)
  | core fragments modifiers =>
      obtain ⟨own, around⟩ := SlotsFit.append.mp fit
      have calls : ReadsBack fragments :=
        readsBack_list (fun f member => Fragment.readsBack (own f member)) rfl
      have wrapped : ReadsBack modifiers := readsBack_list
        (fun m member => CoreModifier.readsBack (SlotsFit.flatMap.mp around m member)) rfl
      exact advances_sum rfl (by decide) |>.and calls (by rfl) |>.and wrapped (by rfl)

theorem Pipeline.readsBack {p : Pipeline} (fit : SlotsFit p.calls) : ReadsBack p := by
  have stages : ReadsBack p.stages :=
    readsBack_list (fun s member => Stage.readsBack (SlotsFit.flatMap.mp fit s member)) rfl
  exact p.access.readsBack.first (by rfl) |>.and stages (by rfl)

theorem Emission.readsBack (e : Emission) : ReadsBack e := by
  cases e with
  | whole => exact advances_sum rfl (by decide)
  | augmentation => exact advances_sum rfl (by decide)

theorem StateField.readsBack (f : StateField) : ReadsBack f :=
  (readsBack_text f.name).first (by rfl)
    |>.and (readsBack_text? f.type) (by rfl)
    |>.and (readsBack_text? f.initialValue) (by rfl)
    |>.and (readsBack_bool f.presents) (by rfl)

theorem InitialCase.readsBack (c : InitialCase) : ReadsBack c :=
  (readsBack_text c.name).first (by rfl) |>.and (readsBack_text? c.value) (by rfl)

theorem StateDecl.readsBack (d : StateDecl) : ReadsBack d :=
  d.access.readsBack.first (by rfl)
    |>.and d.emission.readsBack (by rfl)
    |>.and d.shape.readsBack (by rfl)
    |>.and (readsBack_texts d.conformances) (by rfl)
    |>.and (readsBack_list (fun f _ => f.readsBack) (by rfl)) (by rfl)
    |>.and (readsBack_option fun c _ => c.readsBack) (by rfl)

theorem ActionCase.readsBack (c : ActionCase) : ReadsBack c :=
  (readsBack_text c.name).first (by rfl) |>.and (readsBack_text? c.payload) (by rfl)

theorem ActionDecl.readsBack (d : ActionDecl) : ReadsBack d :=
  d.access.readsBack.first (by rfl)
    |>.and d.emission.readsBack (by rfl)
    |>.and (readsBack_texts d.conformances) (by rfl)
    |>.and (readsBack_list (fun c _ => c.readsBack) (by rfl)) (by rfl)

theorem Accessor.readsBack (a : Accessor) : ReadsBack a := by
  cases a with
  | path name base state stateType action actionType =>
      exact advances_sum rfl (by decide)
        |>.and (readsBack_text name) (by rfl)
        |>.and (readsBack_text base) (by rfl)
        |>.and state.readsBack (by rfl)
        |>.and (readsBack_text stateType) (by rfl)
        |>.and action.readsBack (by rfl)
        |>.and (readsBack_text actionType) (by rfl)
  | nested name module =>
      exact advances_sum rfl (by decide)
        |>.and (readsBack_text name) (by rfl)
        |>.and (readsBack_text module) (by rfl)

theorem ScopeTable.readsBack (t : ScopeTable) : ReadsBack t :=
  t.access.readsBack.first (by rfl)
    |>.and (readsBack_list (fun a _ => a.readsBack) (by rfl)) (by rfl)

theorem SwitchCase.readsBack (c : SwitchCase) : ReadsBack c := by
  cases c with
  | module name state action =>
      exact advances_sum rfl (by decide)
        |>.and (readsBack_text name) (by rfl)
        |>.and (readsBack_text state) (by rfl)
        |>.and (readsBack_text action) (by rfl)
  | payload name type =>
      exact advances_sum rfl (by decide)
        |>.and (readsBack_text name) (by rfl)
        |>.and (readsBack_text type) (by rfl)
  | bare name => exact advances_sum rfl (by decide) |>.and (readsBack_text name) (by rfl)

theorem SwitchTable.readsBack (t : SwitchTable) : ReadsBack t :=
  t.access.readsBack.first (by rfl)
    |>.and (readsBack_list (fun c _ => c.readsBack) (by rfl)) (by rfl)

namespace Declaration

theorem getWithin_nil (depth : Nat) : getWithin depth [] = none := by
  cases depth with
  | zero => rfl
  | succ depth => rfl

theorem putAll_eq_flatMap (declarations : List Declaration) :
    putAll declarations = declarations.flatMap putForm := by
  induction declarations with
  | nil => rfl
  | cons d rest ih => rw [putAll, ih, List.flatMap_cons]

/-- A nested module is written like any record. -/
theorem putForm_nested (access : Access) (name : String) (placement : Placement)
    (declarations : List Declaration) :
    putForm (.nested ⟨access, name, placement, declarations⟩) =
      putTag 5 ++ put access ++ put name ++ put placement ++ putList putForm declarations := by
  simp only [putForm, putModule, putList, putAll_eq_flatMap, List.append_assoc]

mutual

/-- A declaration is read at any depth beyond the number of its bytes, since the declarations
inside of it take fewer of them. -/
theorem takes_form : ∀ (d : Declaration) (depth : Nat), (putForm d).length < depth →
    SlotsFit d.calls → (getWithin depth).Takes (putForm d) d
  | _, 0, deep, _ => absurd deep (Nat.not_lt_zero _)
  | .state decl, _ + 1, _, _ => advances_sum rfl (by decide) |>.and decl.readsBack (by rfl)
  | .action decl, _ + 1, _, _ => advances_sum rfl (by decide) |>.and decl.readsBack (by rfl)
  | .pipeline _, _ + 1, _, fit =>
      advances_sum rfl (by decide)
        |>.and (Pipeline.readsBack fit) (by rfl)
  | .scopePaths table, _ + 1, _, _ => advances_sum rfl (by decide) |>.and table.readsBack (by rfl)
  | .scopeCases table, _ + 1, _, _ => advances_sum rfl (by decide) |>.and table.readsBack (by rfl)
  | .error message, _ + 1, _, _ =>
      advances_sum rfl (by decide)
        |>.and (readsBack_text message) (by rfl)
  | .nested ⟨access, name, placement, declarations⟩, depth + 1, deep, fit => by
      rw [putForm_nested] at deep ⊢
      have within : (putAll declarations).length < depth := by
        simp only [List.length_append, putList, putTag, length_littleEndian,
          ← putAll_eq_flatMap] at deep
        omega
      have inside := takes_forms declarations depth within fit
      exact advances_sum rfl (by decide)
        |>.and access.readsBack (by rfl)
        |>.and (readsBack_text name) (by rfl)
        |>.and placement.readsBack (by rfl)
        |>.and (takes_list (getWithin_nil depth) inside) (by rfl)

/-- The case of several declarations. -/
theorem takes_forms : ∀ (declarations : List Declaration) (depth : Nat),
    (putAll declarations).length < depth → SlotsFit (callsIn declarations) →
      ∀ d ∈ declarations, (getWithin depth).Takes (putForm d) d
  | [], _, _, _ => by
      rintro _ ⟨⟩
  | first :: rest, depth, deep, fit => by
      rw [putAll, List.length_append] at deep
      obtain ⟨own, others⟩ := SlotsFit.append.mp fit
      refine List.forall_mem_cons.mpr ⟨takes_form first depth (by omega) own, ?_⟩
      exact takes_forms rest depth (by omega) others

end

/-- The depth that a declaration is read with is taken from all bytes that are left. -/
theorem readsBack {d : Declaration} (fit : SlotsFit d.calls) : ReadsBack d := by
  intro short rest
  refine takes_form d _ ?_ fit short rest
  rw [List.length_append]
  change (putForm d).length < (putForm d).length + _ + 1
  omega

end Declaration

theorem Severity.readsBack (s : Severity) : ReadsBack s := by
  cases s with
  | error => exact advances_sum rfl (by decide)
  | warning => exact advances_sum rfl (by decide)

theorem ProblemKind.readsBack (k : ProblemKind) : ReadsBack k := by
  cases k with
  | structural => exact advances_sum rfl (by decide)
  | duplicateName => exact advances_sum rfl (by decide)
  | unresolvedReference => exact advances_sum rfl (by decide)
  | ambiguousPlaceholder => exact advances_sum rfl (by decide)
  | signature => exact advances_sum rfl (by decide)
  | warning => exact advances_sum rfl (by decide)

theorem Remark.readsBack (r : Remark) : ReadsBack r :=
  (readsBack_text r.message).first (by rfl) |>.and r.location.readsBack (by rfl)

theorem Diagnostic.readsBack (d : Diagnostic) : ReadsBack d :=
  d.severity.readsBack.first (by rfl)
    |>.and d.kind.readsBack (by rfl)
    |>.and (readsBack_text d.message) (by rfl)
    |>.and d.location.readsBack (by rfl)
    |>.and (readsBack_list (fun r _ => r.readsBack) (by rfl)) (by rfl)
    |>.and (readsBack_option fun r _ => r.readsBack) (by rfl)

theorem Timestamp.readsBack (t : Timestamp) : ReadsBack t :=
  (readsBack_text t.print).first (by rw [parse?_print])

/-- An artifact is taken from its bytes whenever the slots in it fit. -/
theorem Artifact.readsBack {a : Artifact} (fit : SlotsFit a.calls) : ReadsBack a := by
  have declarations : ReadsBack a.declarations := readsBack_list
    (fun d member => Declaration.readsBack (SlotsFit.callsIn.mp fit d member)) rfl
  have diagnostics : ReadsBack a.diagnostics := readsBack_list (fun d _ => d.readsBack) rfl
  exact (readsBack_word32 a.version).first (by rfl)
    |>.and (readsBack_text a.id) (by rfl)
    |>.and a.createdAt.readsBack (by rfl)
    |>.and (readsBack_text a.module) (by rfl)
    |>.and declarations (by rfl)
    |>.and diagnostics (by rfl)

end StateWeave
