import StateWeave.Declaration.Rendered
import StateWeave.Proofs.Digits

/-!
# Texts of one line

Each text that is written on a line is put together from set phrases and from strings that come
with the declaration, and it can break over lines only where one of these strings does. The message
of an error is not among the strings that are written as they are: it is quoted, which leaves no
line break of any kind in it.
-/

namespace StateWeave

namespace Text

def IsOneLine (text : String) : Prop := '\n' ∉ text.toList

instance (text : String) : Decidable (IsOneLine text) :=
  inferInstanceAs (Decidable ('\n' ∉ text.toList))

/-- What ends a line for some reader: line feed, the controls like it, and the separators of
lines and paragraphs. -/
def isLineBreak (c : Char) : Bool :=
  [0xa, 0xb, 0xc, 0xd, 0x85, 0x2028, 0x2029].contains c.toNat

theorem isOneLine_ofList {cs : List Char} (plain : '\n' ∉ cs) : IsOneLine (String.ofList cs) := by
  rwa [IsOneLine, String.toList_ofList]

/-- For a text that is given by its characters. -/
theorem isOneLine_literal {text : String} (plain : '\n' ∉ text.toList) : IsOneLine text := plain

@[simp] theorem isOneLine_append {a b : String} :
    IsOneLine (a ++ b) ↔ IsOneLine a ∧ IsOneLine b := by
  simp [IsOneLine, not_or]

theorem isOneLine_join {texts : List String} (all : ∀ t ∈ texts, IsOneLine t) :
    IsOneLine (String.join texts) := by
  rw [IsOneLine, String.toList_join, List.mem_flatMap]
  rintro ⟨t, member, breaks⟩
  exact all t member breaks

theorem isOneLine_intercalate {between : String} {texts : List String}
    (plain : IsOneLine between) (all : ∀ t ∈ texts, IsOneLine t) :
    IsOneLine (between.intercalate texts) := by
  induction texts with
  | nil => simp [IsOneLine]
  | cons first rest ih =>
      obtain ⟨head, tail⟩ := List.forall_mem_cons.mp all
      cases rest with
      | nil => simpa using head
      | cons second rest =>
          rw [String.intercalate_cons_cons, isOneLine_append, isOneLine_append]
          exact ⟨⟨head, plain⟩, ih tail⟩

theorem isOneLine_toString (n : Nat) : IsOneLine (toString n) := by
  intro breaks
  have digit : '\n' ∈ Nat.toDigits 10 n := by simpa using breaks
  exact absurd (Digits.isDigit_of_mem_toDigits digit) (by decide)

/-- Each line break is among the characters without a form of their own. -/
theorem isInvisible_of_isLineBreak {c : Char} (breaks : isLineBreak c = true) :
    isInvisible c = true := by
  have table : ∀ n ∈ [0xa, 0xb, 0xc, 0xd, 0x85, 0x2028, 0x2029],
      isInvisible (Char.ofNat n) = true := by
    decide +kernel
  have listed := table c.toNat (List.contains_iff_mem.mp breaks)
  rwa [Char.ofNat_toNat] at listed

theorem isLineBreak_of_mem_codePointEscape {c d : Char} (member : d ∈ codePointEscape c) :
    isLineBreak d = false := by
  have digits : ∀ n < 16, isLineBreak (Nat.digitChar n) = false := by decide
  simp only [codePointEscape, List.mem_cons, List.mem_append, List.not_mem_nil, or_false]
    at member
  rcases member with rfl | rfl | rfl | digit | rfl
  · decide
  · decide
  · decide
  · obtain ⟨n, small, rfl⟩ := Digits.exists_of_mem_toDigits (by decide) digit
    exact digits n small
  · decide

theorem isLineBreak_of_mem_escapeChar {c d : Char} (member : d ∈ escapeChar c) :
    isLineBreak d = false := by
  have pair {e : Char} (plain : isLineBreak e = false) (among : d ∈ ['\\', e]) :
      isLineBreak d = false := by
    rcases List.mem_cons.mp among with rfl | last
    · decide
    · rwa [List.mem_singleton.mp last]
  unfold escapeChar at member
  split_ifs at member with _ _ _ _ _ _ hidden
  iterate 6 exact pair (by decide) member
  · exact isLineBreak_of_mem_codePointEscape member
  · rw [List.mem_singleton.mp member]
    by_contra breaks
    exact hidden (by simp [isInvisible_of_isLineBreak (by simpa using breaks)])

/-- Quoted text has no line break in it, whatever the text is. -/
theorem isLineBreak_of_mem_quoted {text : String} {c : Char} (member : c ∈ (quoted text).toList) :
    isLineBreak c = false := by
  simp only [quoted, String.toList_ofList, List.mem_cons, List.mem_append, List.mem_flatMap,
    List.not_mem_nil, or_false] at member
  rcases member with rfl | ⟨original, -, escaped⟩ | rfl
  · decide
  · exact isLineBreak_of_mem_escapeChar escaped
  · decide

end Text

def Path.strings (p : Path) : List String := p.root :: p.steps.filterMap Step.name?

def Routing.strings : Routing → List String
  | .any => []
  | .action path => path.strings
  | .identified outer inner => outer.strings ++ inner.strings
  | .placeholder _ => []

def Fragment.strings (f : Fragment) : List String :=
  f.function :: (f.args.map CallArg.name ++ f.routing.strings)

def Observer.strings (o : Observer) : List String := o.watched.strings ++ o.fragment.strings

def ChildStage.strings (s : ChildStage) : List String :=
  s.name :: s.module.toList ++ s.observers.flatMap Observer.strings

def CoreModifier.strings : CoreModifier → List String
  | .child stage => stage.strings
  | .observer o => o.strings

def Stage.strings : Stage → List String
  | .empty => []
  | .binding observers => observers.flatMap Observer.strings
  | .fragment f => f.strings
  | .child stage => stage.strings
  | .core fragments modifiers =>
    fragments.flatMap Fragment.strings ++ modifiers.flatMap CoreModifier.strings

def StateField.strings (f : StateField) : List String :=
  f.name :: (f.type.toList ++ f.initialValue.toList)

def InitialCase.strings (c : InitialCase) : List String := c.name :: c.value.toList

def StateDecl.strings (d : StateDecl) : List String :=
  d.conformances ++
    (d.fields.flatMap StateField.strings ++ d.initialCase.toList.flatMap InitialCase.strings)

def ActionCase.strings (c : ActionCase) : List String := c.name :: c.payload.toList

def ActionDecl.strings (d : ActionDecl) : List String :=
  d.conformances ++ d.cases.flatMap ActionCase.strings

def Accessor.strings : Accessor → List String
  | .path name base state stateType action actionType =>
    [name, base, stateType, actionType] ++ (state.strings ++ action.strings)
  | .nested name module => [name, module]

def SwitchCase.strings : SwitchCase → List String
  | .module name state action => [name, state, action]
  | .payload name type => [name, type]
  | .bare name => [name]

mutual

def Declaration.strings : Declaration → List String
  | .state decl => decl.strings
  | .action decl => decl.strings
  | .pipeline decl => decl.stages.flatMap Stage.strings
  | .scopePaths table => table.entries.flatMap Accessor.strings
  | .scopeCases table => table.cases.flatMap SwitchCase.strings
  | .nested inner => inner.strings
  | .error _ => []

/-- The strings of a nested module, those of its declarations at any depth included. -/
def NestedModule.strings : NestedModule → List String
  | ⟨_, name, placement, inner⟩ => name :: placement.list?.toList ++ Declaration.stringsOfAll inner

def Declaration.stringsOfAll : List Declaration → List String
  | [] => []
  | first :: rest => first.strings ++ Declaration.stringsOfAll rest

end

section

open Text (IsOneLine isOneLine_literal)

theorem isOneLine_optionalText {lead : String} {text : Option String} (head : IsOneLine lead)
    (plain : ∀ s ∈ text.toList, IsOneLine s) : IsOneLine (optionalText lead text) := by
  cases text with
  | none =>
      change IsOneLine ""
      decide
  | some text => exact Text.isOneLine_append.mpr ⟨head, plain text List.mem_cons_self⟩

theorem isOneLine_applied {name : String} {payload : Option String}
    (plain : ∀ s ∈ name :: payload.toList, IsOneLine s) : IsOneLine (applied name payload) := by
  cases payload <;> simpa [isOneLine_literal, applied] using plain

theorem isOneLine_conformanceText {conformances : List String}
    (plain : ∀ s ∈ conformances, IsOneLine s) : IsOneLine (conformanceText conformances) := by
  unfold conformanceText
  split
  · decide
  · exact Text.isOneLine_append.mpr ⟨by decide, Text.isOneLine_intercalate (by decide) plain⟩

theorem isOneLine_marker (access : Access) : IsOneLine access.marker := by
  cases access <;> decide

theorem Path.isOneLine_text (p : Path) (plain : ∀ s ∈ p.strings, IsOneLine s) :
    IsOneLine p.text := by
  obtain ⟨root, steps⟩ := List.forall_mem_cons.mp plain
  have each : ∀ t ∈ p.steps.map Step.text, IsOneLine t := by
    intro t member
    obtain ⟨step, among, rfl⟩ := List.mem_map.mp member
    have named : ∀ name, step.name? = some name → IsOneLine name := fun name found =>
      steps name (List.mem_filterMap.mpr ⟨step, among, found⟩)
    cases step <;> simp [isOneLine_literal, Step.text, Step.name?] at named ⊢
    all_goals exact named
  exact Text.isOneLine_append.mpr
    ⟨Text.isOneLine_append.mpr ⟨by decide, root⟩, Text.isOneLine_join each⟩

theorem isOneLine_unsettledText (slot : Nat) : IsOneLine (unsettledText slot) := by
  have lead : IsOneLine " #error(\"unresolved placeholder route " :=
    Text.isOneLine_ofList (by decide)
  unfold unsettledText
  rw [Text.isOneLine_append, Text.isOneLine_append]
  exact ⟨⟨lead, Text.isOneLine_toString slot⟩, by decide⟩

theorem Routing.isOneLine_text (r : Routing) (plain : ∀ s ∈ r.strings, IsOneLine s) :
    IsOneLine r.text := by
  cases r with
  | any => decide
  | action path =>
      have whole : IsOneLine path.text := path.isOneLine_text plain
      simp [isOneLine_literal, Routing.text, whole]
  | identified outer inner =>
      obtain ⟨first, second⟩ := List.forall_mem_append.mp plain
      simp [isOneLine_literal, Routing.text, outer.isOneLine_text first,
        inner.isOneLine_text second]
  | placeholder slot => exact isOneLine_unsettledText slot

theorem Fragment.isOneLine_text (f : Fragment) (plain : ∀ s ∈ f.strings, IsOneLine s) :
    IsOneLine f.text := by
  obtain ⟨function, plain⟩ := List.forall_mem_cons.mp plain
  obtain ⟨args, routing⟩ := List.forall_mem_append.mp plain
  have each : ∀ t ∈ f.args.map CallArg.text, IsOneLine t := by
    intro t member
    obtain ⟨arg, among, rfl⟩ := List.mem_map.mp member
    have named := args arg.name (List.mem_map_of_mem among)
    unfold CallArg.text
    split
    · exact Text.isOneLine_append.mpr ⟨by decide, named⟩
    · exact named
  have effect : IsOneLine (if f.yieldsEffect then "" else " -> none") := by split <;> decide
  simp [isOneLine_literal, Fragment.text, function, effect, f.routing.isOneLine_text routing,
    Text.isOneLine_intercalate _ each]

theorem Observer.isOneLine_text (o : Observer) (plain : ∀ s ∈ o.strings, IsOneLine s) :
    IsOneLine o.text := by
  obtain ⟨watched, fragment⟩ := List.forall_mem_append.mp plain
  unfold Observer.text
  simp [isOneLine_literal, o.watched.isOneLine_text watched, o.fragment.isOneLine_text fragment]

theorem ChildStage.isOneLine_text (s : ChildStage) {lead : String} (front : IsOneLine lead)
    (plain : ∀ t ∈ s.name :: s.module.toList, IsOneLine t) : IsOneLine (s.text lead) := by
  obtain ⟨name, module⟩ := List.forall_mem_cons.mp plain
  have kind : IsOneLine s.kind.text := by cases s.kind <;> decide
  have binding : IsOneLine (if s.binding then "$" else "") := by split <;> decide
  have target : IsOneLine (optionalText " -> " s.module) :=
    isOneLine_optionalText (by decide) module
  simp [isOneLine_literal, ChildStage.text, front, name, kind, binding, target]

theorem StateField.isOneLine_text (f : StateField) (plain : ∀ s ∈ f.strings, IsOneLine s) :
    IsOneLine f.text := by
  obtain ⟨name, plain⟩ := List.forall_mem_cons.mp plain
  obtain ⟨type, value⟩ := List.forall_mem_append.mp plain
  have mark : IsOneLine (if f.presents then "@presents " else "") := by split <;> decide
  have typed : IsOneLine (optionalText ": " f.type) := isOneLine_optionalText (by decide) type
  have start : IsOneLine (optionalText " = " f.initialValue) :=
    isOneLine_optionalText (by decide) value
  simp [StateField.text, mark, name, typed, start]

theorem InitialCase.isOneLine_text (c : InitialCase) (plain : ∀ s ∈ c.strings, IsOneLine s) :
    IsOneLine c.text :=
  Text.isOneLine_append.mpr ⟨by decide, isOneLine_applied plain⟩

theorem ActionCase.isOneLine_text (c : ActionCase) (plain : ∀ s ∈ c.strings, IsOneLine s) :
    IsOneLine c.text :=
  isOneLine_applied plain

theorem StateDecl.isOneLine_keyword (d : StateDecl) : IsOneLine d.keyword := by
  unfold StateDecl.keyword
  split <;> decide

theorem ActionDecl.isOneLine_keyword (d : ActionDecl) : IsOneLine d.keyword := by
  unfold ActionDecl.keyword
  split <;> decide

theorem isOneLine_typeHeader {access : Access} {keyword type : String}
    {conformances : List String} (key : IsOneLine keyword) (name : IsOneLine type)
    (plain : ∀ s ∈ conformances, IsOneLine s) :
    IsOneLine (typeHeader access keyword type conformances) := by
  simp [isOneLine_literal, typeHeader, isOneLine_marker, key, name,
    isOneLine_conformanceText plain]

theorem Accessor.isOneLine_text (e : Accessor) (plain : ∀ s ∈ e.strings, IsOneLine s) :
    IsOneLine e.text := by
  cases e with
  | path name base state stateType action actionType =>
      obtain ⟨own, plain⟩ := List.forall_mem_append.mp plain
      obtain ⟨left, right⟩ := List.forall_mem_append.mp plain
      simp only [List.forall_mem_cons] at own
      obtain ⟨name, base, stateType, actionType, -⟩ := own
      simp only [Accessor.text, Text.isOneLine_append]
      simp [isOneLine_literal, name, base, stateType, actionType,
        state.isOneLine_text left, action.isOneLine_text right]
  | nested name module =>
      simp only [Accessor.strings, List.forall_mem_cons] at plain
      obtain ⟨name, module, -⟩ := plain
      simp [isOneLine_literal, Accessor.text, name, module]

theorem SwitchCase.isOneLine_text (c : SwitchCase) (plain : ∀ s ∈ c.strings, IsOneLine s) :
    IsOneLine c.text := by
  cases c with
  | module name state action =>
      simp only [SwitchCase.strings, List.forall_mem_cons] at plain
      obtain ⟨name, state, action, -⟩ := plain
      simp [isOneLine_literal, SwitchCase.text, name, state, action]
  | payload name type =>
      simp only [SwitchCase.strings, List.forall_mem_cons] at plain
      obtain ⟨name, type, -⟩ := plain
      simp [isOneLine_literal, SwitchCase.text, name, type]
  | bare name => exact plain name List.mem_cons_self

theorem NestedModule.isOneLine_header (m : NestedModule) (plain : ∀ s ∈ m.strings, IsOneLine s) :
    IsOneLine m.header := by
  obtain ⟨access, name, placement, inner⟩ := m
  obtain ⟨plain, -⟩ := List.forall_mem_append.mp plain
  obtain ⟨name, list⟩ := List.forall_mem_cons.mp plain
  have target : IsOneLine (placement.list?.getD "") := by
    cases found : placement.list? with
    | none => decide
    | some text => exact list text (by rw [found]; exact List.mem_cons_self)
  simp [isOneLine_literal, NestedModule.header, isOneLine_marker, name, target]

theorem isLineBreak_of_mem_errorText {message : String} {c : Char}
    (member : c ∈ (errorText message).toList) : Text.isLineBreak c = false := by
  have lead : "#error(".toList.any Text.isLineBreak = false := by decide
  have close : ")".toList.any Text.isLineBreak = false := by decide
  rw [errorText, String.toList_append, String.toList_append] at member
  rcases List.mem_append.mp member with front | last
  · rcases List.mem_append.mp front with first | quoted
    · exact Bool.eq_false_iff.mpr (List.any_eq_false.mp lead c first)
    · exact Text.isLineBreak_of_mem_quoted quoted
  · exact Bool.eq_false_iff.mpr (List.any_eq_false.mp close c last)

theorem isOneLine_errorText (message : String) : IsOneLine (errorText message) := by
  intro breaks
  exact absurd (isLineBreak_of_mem_errorText breaks) (by decide)

end

end StateWeave
