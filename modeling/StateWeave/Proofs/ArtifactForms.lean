import StateWeave.Artifact.Text
import StateWeave.Proofs.JsonForms
import StateWeave.Proofs.Slots
import StateWeave.Proofs.Timestamps

/-!
# Artifacts are restored from their JSON forms

Each type of an artifact has a decoder that restores what is written for its values. A record
restores its fields in their order, and a sum restores what the case of its tag carries.
-/

namespace StateWeave

open Json (Restores OfJson Decoder decode)
open Json.Decoder (restores_bare restores_bool restores_carrying restores_list restores_natBelow
  restores_option restores_text restores_word32)
open Json.Fields (restores_pure)

theorem restores_text? (text : Option String) :
    (Decoder.option Decoder.text).Restores (toJson text) text :=
  restores_option fun s _ => ⟨restores_text s, nofun⟩

theorem restores_texts (texts : List String) : Restores texts :=
  restores_list fun s _ => restores_text s

theorem Location.restores (l : Location) : Restores l :=
  restores_pure Location.mk
    |>.field (restores_word32 l.line)
    |>.field (restores_word32 l.column)
    |>.decoder (by simp)

theorem Access.restores (a : Access) : Restores a := by
  cases a with
  | hidden => exact restores_bare rfl
  | package => exact restores_bare rfl
  | exported => exact restores_bare rfl

theorem StateShape.restores (s : StateShape) : Restores s := by
  cases s with
  | record => exact restores_bare rfl
  | variant => exact restores_bare rfl

theorem Placement.restores (p : Placement) : Restores p := by
  cases p with
  | root => exact restores_bare rfl
  | destination list parent =>
      exact restores_carrying
        (restores_pure Placement.destination
          |>.field (restores_text list)
          |>.field (restores_text parent)
          |>.payloadDecoder (by simp)) rfl
  | stack list parent =>
      exact restores_carrying
        (restores_pure Placement.stack
          |>.field (restores_text list)
          |>.field (restores_text parent)
          |>.payloadDecoder (by simp)) rfl

theorem Step.restores (s : Step) : Restores s := by
  cases s with
  | field name => exact restores_carrying ((restores_text name).map Step.field) rfl
  | case name => exact restores_carrying ((restores_text name).map Step.case) rfl
  | dynamicCase name => exact restores_carrying ((restores_text name).map Step.dynamicCase) rfl
  | optional => exact restores_bare rfl
  | presented => exact restores_bare rfl
  | element => exact restores_bare rfl

theorem Path.restores (p : Path) : Restores p :=
  restores_pure Path.mk
    |>.field (restores_text p.root)
    |>.field (restores_list fun s _ => s.restores)
    |>.decoder (by simp)

theorem CallArg.restores (a : CallArg) : Restores a :=
  restores_pure CallArg.mk
    |>.field (restores_text a.name)
    |>.field (restores_bool a.isMutable)
    |>.decoder (by simp)

theorem Routing.restores {r : Routing} (fits : ∀ slot, r.slot? = some slot → slot < UInt64.size) :
    Restores r := by
  cases r with
  | any => exact restores_bare rfl
  | action path => exact restores_carrying (path.restores.map Routing.action) rfl
  | identified outer inner =>
      exact restores_carrying
        (restores_pure Routing.identified
          |>.field outer.restores
          |>.field inner.restores
          |>.payloadDecoder (by simp)) rfl
  | placeholder slot =>
      exact restores_carrying
        (restores_pure Routing.placeholder
          |>.field (restores_natBelow (fits slot rfl) (fits slot rfl))
          |>.payloadDecoder (by simp)) rfl

theorem Fragment.restores {f : Fragment} (fits : f.SlotFits) : Restores f :=
  restores_pure Fragment.mk
    |>.field (restores_text f.function)
    |>.field (restores_list fun a _ => a.restores)
    |>.field (restores_bool f.yieldsEffect)
    |>.field (Routing.restores fits)
    |>.field f.location.restores
    |>.decoder (by simp)

theorem Observer.restores {o : Observer} (fits : o.fragment.SlotFits) : Restores o :=
  restores_pure Observer.mk
    |>.field o.watched.restores
    |>.field (Fragment.restores fits)
    |>.decoder (by simp)

theorem StageKind.restores (k : StageKind) : Restores k := by
  cases k with
  | scope => exact restores_bare rfl
  | ifLet => exact restores_bare rfl
  | forEach => exact restores_bare rfl
  | ifCaseLet => exact restores_bare rfl

theorem restores_observers {observers : List Observer}
    (fit : SlotsFit (observers.map Observer.fragment)) : Restores observers :=
  restores_list fun o member => Observer.restores (SlotsFit.observers.mp fit o member)

theorem ChildStage.restores {s : ChildStage}
    (fit : SlotsFit (s.observers.map Observer.fragment)) : Restores s :=
  restores_pure ChildStage.mk
    |>.field s.kind.restores
    |>.field (restores_text s.name)
    |>.field (restores_bool s.binding)
    |>.field (restores_text? s.module)
    |>.field (restores_observers fit)
    |>.decoder (by simp)

theorem CoreModifier.restores {m : CoreModifier} (fit : SlotsFit m.calls) : Restores m := by
  cases m with
  | child stage => exact restores_carrying ((ChildStage.restores fit).map CoreModifier.child) rfl
  | observer o =>
      exact restores_carrying
        ((Observer.restores (fit _ List.mem_cons_self)).map CoreModifier.observer) rfl

theorem Stage.restores {s : Stage} (fit : SlotsFit s.calls) : Restores s := by
  cases s with
  | empty => exact restores_bare rfl
  | binding observers =>
      exact restores_carrying
        (restores_pure Stage.binding
          |>.field (restores_observers fit)
          |>.payloadDecoder (by simp)) rfl
  | fragment f =>
      exact restores_carrying ((Fragment.restores (fit _ List.mem_cons_self)).map Stage.fragment) rfl
  | child stage => exact restores_carrying ((ChildStage.restores fit).map Stage.child) rfl
  | core fragments modifiers =>
      obtain ⟨own, around⟩ := SlotsFit.append.mp fit
      exact restores_carrying
        (restores_pure Stage.core
          |>.field (restores_list fun f member => Fragment.restores (own f member))
          |>.field (restores_list fun m member =>
            CoreModifier.restores (SlotsFit.flatMap.mp around m member))
          |>.payloadDecoder (by simp)) rfl

theorem Pipeline.restores {p : Pipeline} (fit : SlotsFit p.calls) : Restores p :=
  restores_pure Pipeline.mk
    |>.field p.access.restores
    |>.field (restores_list fun s member => Stage.restores (SlotsFit.flatMap.mp fit s member))
    |>.decoder (by simp)

theorem Emission.restores (e : Emission) : Restores e := by
  cases e with
  | whole => exact restores_bare rfl
  | augmentation => exact restores_bare rfl

theorem StateField.restores (f : StateField) : Restores f :=
  restores_pure StateField.mk
    |>.field (restores_text f.name)
    |>.field (restores_text? f.type)
    |>.field (restores_text? f.initialValue)
    |>.field (restores_bool f.presents)
    |>.decoder (by simp)

theorem InitialCase.restores (c : InitialCase) : Restores c :=
  restores_pure InitialCase.mk
    |>.field (restores_text c.name)
    |>.field (restores_text? c.value)
    |>.decoder (by simp)

theorem StateDecl.restores (d : StateDecl) : Restores d :=
  restores_pure StateDecl.mk
    |>.field d.access.restores
    |>.field d.emission.restores
    |>.field d.shape.restores
    |>.field (restores_texts d.conformances)
    |>.field (restores_list fun f _ => f.restores)
    |>.field (restores_option fun c _ => ⟨c.restores, nofun⟩)
    |>.decoder (by simp)

theorem ActionCase.restores (c : ActionCase) : Restores c :=
  restores_pure ActionCase.mk
    |>.field (restores_text c.name)
    |>.field (restores_text? c.payload)
    |>.decoder (by simp)

theorem ActionDecl.restores (d : ActionDecl) : Restores d :=
  restores_pure ActionDecl.mk
    |>.field d.access.restores
    |>.field d.emission.restores
    |>.field (restores_texts d.conformances)
    |>.field (restores_list fun c _ => c.restores)
    |>.decoder (by simp)

theorem Accessor.restores (a : Accessor) : Restores a := by
  cases a with
  | path name base state stateType action actionType =>
      exact restores_carrying
        (restores_pure Accessor.path
          |>.field (restores_text name)
          |>.field (restores_text base)
          |>.field state.restores
          |>.field (restores_text stateType)
          |>.field action.restores
          |>.field (restores_text actionType)
          |>.payloadDecoder (by simp)) rfl
  | nested name module =>
      exact restores_carrying
        (restores_pure Accessor.nested
          |>.field (restores_text name)
          |>.field (restores_text module)
          |>.payloadDecoder (by simp)) rfl

theorem ScopeTable.restores (t : ScopeTable) : Restores t :=
  restores_pure ScopeTable.mk
    |>.field t.access.restores
    |>.field (restores_list fun a _ => a.restores)
    |>.decoder (by simp)

theorem SwitchCase.restores (c : SwitchCase) : Restores c := by
  cases c with
  | module name state action =>
      exact restores_carrying
        (restores_pure SwitchCase.module
          |>.field (restores_text name)
          |>.field (restores_text state)
          |>.field (restores_text action)
          |>.payloadDecoder (by simp)) rfl
  | payload name type =>
      exact restores_carrying
        (restores_pure SwitchCase.payload
          |>.field (restores_text name)
          |>.field (restores_text type)
          |>.payloadDecoder (by simp)) rfl
  | bare name =>
      exact restores_carrying
        (restores_pure SwitchCase.bare
          |>.field (restores_text name)
          |>.payloadDecoder (by simp)) rfl

theorem SwitchTable.restores (t : SwitchTable) : Restores t :=
  restores_pure SwitchTable.mk
    |>.field t.access.restores
    |>.field (restores_list fun c _ => c.restores)
    |>.decoder (by simp)

namespace Declaration

open Json.Transcript (ofJson ofItems ofEntries depth depthItems depthEntries)

theorem listForms_eq_map (declarations : List Declaration) :
    listForms declarations = declarations.map toJsonForm := by
  induction declarations with
  | nil => rfl
  | cons d rest ih => rw [listForms, ih, List.map_cons]

/-- The declarations of a nested module lie below its own form. -/
theorem depth_listForms_lt (access : Access) (name : String) (placement : Placement)
    (declarations : List Declaration) :
    depthItems (ofItems (listForms declarations)) <
      depth (ofJson (toJsonForm (.nested ⟨access, name, placement, declarations⟩))) := by
  simp only [toJsonForm, moduleForm, Json.tagged, ofJson, ofEntries, depth, depthEntries]
  omega

mutual

/-- A declaration is restored at any depth beyond that of its form. -/
theorem restores_within : ∀ (d : Declaration) (deep : Nat), depth (ofJson (toJsonForm d)) < deep →
    SlotsFit d.calls → (decodeWithin deep).Restores (toJsonForm d) d
  | _, 0, within, _ => absurd within (Nat.not_lt_zero _)
  | .state decl, _ + 1, _, _ => restores_carrying (decl.restores.map state) rfl
  | .action decl, _ + 1, _, _ => restores_carrying (decl.restores.map action) rfl
  | .pipeline _, _ + 1, _, fit => restores_carrying ((Pipeline.restores fit).map pipeline) rfl
  | .scopePaths table, _ + 1, _, _ => restores_carrying (table.restores.map scopePaths) rfl
  | .scopeCases table, _ + 1, _, _ => restores_carrying (table.restores.map scopeCases) rfl
  | .error message, _ + 1, _, _ =>
      restores_carrying
        (restores_pure error
          |>.field (restores_text message)
          |>.payloadDecoder (by simp)) rfl
  | .nested ⟨access, name, placement, declarations⟩, deep + 1, within, fit => by
      have below := depth_listForms_lt access name placement declarations
      have inside : (Decoder.list (decodeWithin deep)).Restores (.arr (listForms declarations))
          declarations := by
        rw [listForms_eq_map]
        exact restores_list (restores_each declarations deep (by omega) fit)
      exact restores_carrying
        (restores_pure NestedModule.mk
          |>.field access.restores
          |>.field (restores_text name)
          |>.field placement.restores
          |>.field inside
          |>.decoder (by simp)
          |>.map nested) rfl

/-- The case of several declarations. -/
theorem restores_each : ∀ (declarations : List Declaration) (deep : Nat),
    depthItems (ofItems (listForms declarations)) < deep → SlotsFit (callsIn declarations) →
      ∀ d ∈ declarations, (decodeWithin deep).Restores (toJsonForm d) d
  | [], _, _, _ => by
      rintro _ ⟨⟩
  | first :: rest, deep, within, fit => by
      rw [listForms, ofItems, depthItems, Nat.max_lt] at within
      obtain ⟨own, others⟩ := SlotsFit.append.mp fit
      exact List.forall_mem_cons.mpr ⟨restores_within first deep within.1 own,
        restores_each rest deep within.2 others⟩

end

/-- The depth that a declaration is read with is taken from its transcript. -/
theorem restores {d : Declaration} (fit : SlotsFit d.calls) : Restores d :=
  have form := restores_within d _ (Nat.lt_succ_self _) fit
  ⟨form.writable, form.reads⟩

end Declaration

theorem Severity.restores (s : Severity) : Restores s := by
  cases s with
  | error => exact restores_bare rfl
  | warning => exact restores_bare rfl

theorem ProblemKind.restores (k : ProblemKind) : Restores k := by
  cases k with
  | structural => exact restores_bare rfl
  | duplicateName => exact restores_bare rfl
  | unresolvedReference => exact restores_bare rfl
  | ambiguousPlaceholder => exact restores_bare rfl
  | signature => exact restores_bare rfl
  | warning => exact restores_bare rfl

theorem Remark.restores (r : Remark) : Restores r :=
  restores_pure Remark.mk
    |>.field (restores_text r.message)
    |>.field r.location.restores
    |>.decoder (by simp)

theorem Diagnostic.restores (d : Diagnostic) : Restores d :=
  restores_pure Diagnostic.mk
    |>.field d.severity.restores
    |>.field d.kind.restores
    |>.field (restores_text d.message)
    |>.field d.location.restores
    |>.field (restores_list fun r _ => r.restores)
    |>.field (restores_option fun r _ => ⟨r.restores, nofun⟩)
    |>.decoder (by simp)

theorem Timestamp.restores (t : Timestamp) : Restores t := by
  refine ⟨trivial, fun medium => ?_⟩
  change (Decoder.text medium (.str t.print)).bind _ = _
  rw [Decoder.text, Except.bind, parse?_print]
  rfl

/-- An artifact is restored from its form whenever the slots in it fit. -/
theorem Artifact.restores {a : Artifact} (fit : SlotsFit a.calls) : Restores a :=
  restores_pure Artifact.mk
    |>.field (restores_word32 a.version)
    |>.field (restores_text a.id)
    |>.field a.createdAt.restores
    |>.field (restores_text a.module)
    |>.field (restores_list fun d member => Declaration.restores (SlotsFit.callsIn.mp fit d member))
    |>.field (restores_list fun d _ => d.restores)
    |>.decoder (by simp)

end StateWeave
