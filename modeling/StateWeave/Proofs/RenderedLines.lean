import StateWeave.Proofs.OneLineTexts

/-!
# The lines of declarations

The writer raises and lowers its level as it goes through declarations. Whatever it writes, it
comes back to the level that it started from, and what it has written are lines that stand as
much further in as it did. So the texts of declarations are put one behind the other, and the
text of a nested module is the text of its own declarations with four blanks before each line,
between a header and a brace.
-/

namespace StateWeave

namespace Text

def blanks : List Char := [' ', ' ', ' ', ' ']

/-- Four blanks before each line, where `starts` tells whether a line starts here. -/
def indentFrom (starts : Bool) : List Char → List Char
  | [] => []
  | c :: rest => (if starts then blanks else []) ++ c :: indentFrom (c = '\n') rest

def indented (text : String) : String := String.ofList (indentFrom true text.toList)

theorem indentFrom_line {cs : List Char} (plain : '\n' ∉ cs) (starts : Bool) (rest : List Char) :
    indentFrom starts (cs ++ '\n' :: rest) =
      (if starts then blanks else []) ++ cs ++ '\n' :: indentFrom true rest := by
  induction cs generalizing starts with
  | nil => simp [indentFrom]
  | cons c cs ih =>
      obtain ⟨other, plain⟩ := not_or.mp (mt List.mem_cons.mpr plain)
      have inside : (c = '\n') = False := eq_false fun same => other same.symm
      simp [indentFrom, inside, ih plain]

theorem indented_line {text : String} (plain : IsOneLine text) (rest : String) :
    indented (text ++ "\n" ++ rest) = "    " ++ text ++ "\n" ++ indented rest := by
  apply String.toList_injective
  have line := indentFrom_line plain true rest.toList
  simpa [indented, blanks] using line

end Text

structure Line where
  level : Nat
  text : String
  deriving DecidableEq, Inhabited, Repr

namespace Line

open Text (IsOneLine)

/-- Move lines some levels further in. -/
def inset (levels : Nat) (lines : List Line) : List Line :=
  lines.map fun line => { line with level := line.level + levels }

def print (line : Line) : String :=
  String.join (List.replicate line.level "    ") ++ line.text ++ "\n"

def printAll (lines : List Line) : String := String.join (lines.map print)

@[simp] theorem inset_zero (lines : List Line) : inset 0 lines = lines := List.map_id lines

@[simp] theorem inset_append (levels : Nat) (xs ys : List Line) :
    inset levels (xs ++ ys) = inset levels xs ++ inset levels ys := by
  simp [inset]

@[simp] theorem inset_inset (a b : Nat) (lines : List Line) :
    inset b (inset a lines) = inset (a + b) lines := by
  simp [inset, Nat.add_assoc]

@[simp] theorem printAll_append (xs ys : List Line) :
    printAll (xs ++ ys) = printAll xs ++ printAll ys := by
  simp [printAll]

/-- To print lines one level further in is to indent what they print. -/
theorem indented_printAll {lines : List Line} (plain : ∀ l ∈ lines, IsOneLine l.text) :
    Text.indented (printAll lines) = printAll (inset 1 lines) := by
  induction lines with
  | nil => rfl
  | cons l rest ih =>
      obtain ⟨head, tail⟩ := List.forall_mem_cons.mp plain
      have lead : IsOneLine (String.join (List.replicate l.level "    ")) :=
        Text.isOneLine_join fun t member => by rw [List.eq_of_mem_replicate member]; decide
      have deeper : print ⟨l.level + 1, l.text⟩ = "    " ++ print l := by
        simp [print, List.replicate_succ, String.append_assoc]
      calc Text.indented (printAll (l :: rest))
        _ = Text.indented (String.join (List.replicate l.level "    ") ++ l.text ++ "\n" ++
              printAll rest) := by simp [printAll, print]
        _ = "    " ++ print l ++ Text.indented (printAll rest) := by
              rw [Text.indented_line (Text.isOneLine_append.mpr ⟨lead, head⟩), print]
              simp only [String.append_assoc]
        _ = print ⟨l.level + 1, l.text⟩ ++ printAll (inset 1 rest) := by rw [deeper, ih tail]
        _ = printAll (inset 1 (l :: rest)) := by simp [printAll, inset]

end Line

namespace Writer

open Text (IsOneLine)

/-- What is written is lines, as much further in as the writer is, and the writer comes back to
its level. No line is broken unless one of the strings is. -/
def WritesLines (strings : List String) (write : Writer → Writer) : Prop :=
  ∃ lines : List Line,
    (∀ w, write w = ⟨w.out ++ Line.printAll (Line.inset w.depth lines), w.depth⟩) ∧
    ((∀ s ∈ strings, IsOneLine s) → ∀ l ∈ lines, IsOneLine l.text)

section

variable {strings others : List String} {write next : Writer → Writer}

theorem WritesLines.mono (writes : WritesLines strings write) (sub : strings ⊆ others) :
    WritesLines others write := by
  obtain ⟨lines, written, plain⟩ := writes
  exact ⟨lines, written, fun all => plain fun s member => all s (sub member)⟩

theorem writesLines_id : WritesLines strings fun w => w :=
  ⟨[], fun w => by simp [Line.inset, Line.printAll], fun _ _ member =>
    absurd member List.not_mem_nil⟩

theorem writesLines_line {text : String} (plain : (∀ s ∈ strings, IsOneLine s) → IsOneLine text) :
    WritesLines strings (line text) := by
  refine ⟨[⟨0, text⟩], fun w => ?_, fun all l member => ?_⟩
  · simp [line, Line.inset, Line.printAll, Line.print]
  · rw [List.mem_singleton.mp member]
    exact plain all

theorem WritesLines.andThen (first : WritesLines strings write)
    (second : WritesLines strings next) : WritesLines strings fun w => next (write w) := by
  obtain ⟨front, front_written, front_plain⟩ := first
  obtain ⟨back, back_written, back_plain⟩ := second
  refine ⟨front ++ back, fun w => ?_, fun all l member => ?_⟩
  · dsimp only
    rw [front_written, back_written]
    simp [String.append_assoc]
  · rcases List.mem_append.mp member with early | late
    · exact front_plain all l early
    · exact back_plain all l late

theorem WritesLines.append (first : WritesLines strings write)
    (second : WritesLines others next) :
    WritesLines (strings ++ others) fun w => next (write w) :=
  (first.mono (List.subset_append_left _ _)).andThen (second.mono (List.subset_append_right _ _))

/-- A level that is raised for a while and lowered again. -/
theorem WritesLines.inside (writes : WritesLines strings write) :
    WritesLines strings fun w => (write w.deeper).shallower := by
  obtain ⟨lines, written, plain⟩ := writes
  refine ⟨Line.inset 1 lines, fun w => ?_, fun all l member => ?_⟩
  · dsimp only
    rw [written]
    simp [deeper, shallower, Nat.add_comm]
  · obtain ⟨inner, among, rfl⟩ := List.mem_map.mp member
    exact plain all inner among

/-- The closing brace stands at the level of the header. -/
theorem WritesLines.block {header : String} (head : (∀ s ∈ strings, IsOneLine s) → IsOneLine header)
    (body : WritesLines strings write) :
    WritesLines strings fun w => (write (w.enter header)).leave := by
  have opening : WritesLines strings (line (header ++ " \x7b")) :=
    writesLines_line fun all => Text.isOneLine_append.mpr ⟨head all, by decide⟩
  have closing : WritesLines strings (line "\x7d") := writesLines_line fun _ => by decide
  exact (opening.andThen body.inside).andThen closing

theorem WritesLines.each {α : Type} {strings : α → List String} {write : α → Writer → Writer}
    (step : ∀ item, WritesLines (strings item) (write item)) (items : List α) :
    WritesLines (items.flatMap strings) (each write items) := by
  induction items with
  | nil => exact writesLines_id
  | cons item rest ih => exact (step item).append ih

theorem writesLines_texts {α : Type} {strings : α → List String} {text : α → String}
    (plain : ∀ item, (∀ s ∈ strings item, IsOneLine s) → IsOneLine (text item)) (items : List α) :
    WritesLines (items.flatMap strings) (each (fun item => line (text item)) items) :=
  WritesLines.each (fun item => writesLines_line (plain item)) items

end

theorem writesLines_observers (list : List Observer) :
    WritesLines (list.flatMap Observer.strings) (observers list) :=
  (writesLines_texts Observer.isOneLine_text list).inside

theorem writesLines_child {lead : String} (front : IsOneLine lead) (s : ChildStage) :
    WritesLines s.strings (child lead s) := by
  have head : WritesLines (s.name :: s.module.toList) (line (s.text lead)) :=
    writesLines_line (s.isOneLine_text front)
  exact head.append (writesLines_observers s.observers)

theorem writesLines_modifier (m : CoreModifier) : WritesLines m.strings (modifier m) := by
  cases m with
  | child stage => exact writesLines_child (by decide) stage
  | observer o => exact writesLines_line o.isOneLine_text

theorem writesLines_core (fragments : List Fragment) :
    WritesLines (fragments.flatMap Fragment.strings) (core fragments) := by
  cases fragments with
  | nil => exact writesLines_line fun _ => by decide
  | cons first rest =>
      have body := writesLines_texts Fragment.isOneLine_text (first :: rest)
      exact body.block fun _ => by decide

theorem writesLines_stage (s : Stage) : WritesLines s.strings (stage s) := by
  cases s with
  | empty => exact writesLines_line fun _ => by decide
  | binding list =>
      have head : WritesLines (list.flatMap Observer.strings) (line "binding") :=
        writesLines_line fun _ => by decide
      exact head.andThen (writesLines_observers list)
  | fragment f => exact writesLines_line f.isOneLine_text
  | child s => exact writesLines_child (by decide) s
  | core fragments modifiers =>
      have wrapped := (WritesLines.each writesLines_modifier modifiers).inside
      exact (writesLines_core fragments).append wrapped

/-- A block whose header is a keyword and the name of the module. -/
theorem WritesLines.table {strings : List String} {write : Writer → Writer}
    (body : WritesLines strings write) (access : Access) {keyword : String}
    (plain : IsOneLine keyword) (module : String) :
    WritesLines (module :: strings) fun w =>
      (write (w.enter (access.marker ++ keyword ++ module))).leave := by
  refine (body.mono (List.subset_cons_self module _)).block fun all => ?_
  simp [isOneLine_marker, plain, all module List.mem_cons_self]

/-- A block for a type of the module. -/
theorem WritesLines.type {strings : List String} {write : Writer → Writer}
    (body : WritesLines strings write) (access : Access) {keyword ending : String}
    (key : IsOneLine keyword) (plain : IsOneLine ending) (module : String)
    (conformances : List String) :
    WritesLines (module :: (conformances ++ strings)) fun w =>
      (write (w.enter (typeHeader access keyword (module ++ ending) conformances))).leave := by
  have inside := body.mono
    (List.subset_cons_of_subset module (List.subset_append_right conformances strings))
  refine inside.block fun all => ?_
  obtain ⟨name, all⟩ := List.forall_mem_cons.mp all
  exact isOneLine_typeHeader key (Text.isOneLine_append.mpr ⟨name, plain⟩)
    (List.forall_mem_append.mp all).1

theorem writesLines_state (module : String) (d : StateDecl) :
    WritesLines (module :: d.strings) (state module d) := by
  have fields := writesLines_texts StateField.isOneLine_text d.fields
  have start := writesLines_texts InitialCase.isOneLine_text d.initialCase.toList
  have ending : IsOneLine ".State" := by decide
  exact ((fields.append start).type d.access d.isOneLine_keyword ending module d.conformances :)

theorem writesLines_action (module : String) (d : ActionDecl) :
    WritesLines (module :: d.strings) (action module d) := by
  have body := writesLines_texts ActionCase.isOneLine_text d.cases
  exact body.type d.access d.isOneLine_keyword (by decide) module d.conformances

mutual

/-- By induction over the declarations, down to those of modules in modules: each block goes one
level in and comes back. -/
theorem writesLines_declaration (module : String) :
    ∀ d : Declaration, WritesLines (module :: d.strings) (declaration module d)
  | .state decl => writesLines_state module decl
  | .action decl => writesLines_action module decl
  | .pipeline decl =>
      (WritesLines.each writesLines_stage decl.stages).table decl.access (by decide) module
  | .scopePaths table =>
      writesLines_texts Accessor.isOneLine_text table.entries
        |>.table table.access (by decide) module
  | .scopeCases table =>
      writesLines_texts SwitchCase.isOneLine_text table.cases
        |>.table table.access (by decide) module
  | .nested inner => (writesLines_nested inner).mono (List.subset_cons_self module _)
  | .error message => writesLines_line fun _ => isOneLine_errorText message

theorem writesLines_nested : ∀ m : NestedModule, WritesLines m.strings (nested m)
  | ⟨access, name, placement, inner⟩ => by
      have body := (writesLines_declarations name inner).mono
        (List.cons_subset_cons name (List.subset_append_right placement.list?.toList _))
      exact body.block (NestedModule.isOneLine_header ⟨access, name, placement, inner⟩)

theorem writesLines_declarations (module : String) :
    ∀ ds : List Declaration, WritesLines (module :: Declaration.stringsOfAll ds)
      (declarations module ds)
  | [] => writesLines_id
  | first :: rest => by
      have front := (writesLines_declaration module first).mono
        (List.cons_subset_cons module (List.subset_append_left _ (Declaration.stringsOfAll rest)))
      have back := (writesLines_declarations module rest).mono
        (List.cons_subset_cons module (List.subset_append_right first.strings _))
      exact front.andThen back

end

/-- Declarations that stand behind others are written behind them. -/
theorem declarations_append (module : String) (xs ys : List Declaration) (w : Writer) :
    declarations module (xs ++ ys) w = declarations module ys (declarations module xs w) := by
  induction xs generalizing w with
  | nil => rfl
  | cons first rest ih => exact ih (declaration module first w)

end Writer

namespace Declaration

open Text (IsOneLine)

theorem render_append (module : String) (xs ys : List Declaration) :
    render module (xs ++ ys) = render module xs ++ render module ys := by
  obtain ⟨front, front_written, -⟩ := Writer.writesLines_declarations module xs
  obtain ⟨back, back_written, -⟩ := Writer.writesLines_declarations module ys
  simp [render, Writer.declarations_append, front_written, back_written]

theorem render_nested (module : String) {m : NestedModule} (plain : ∀ s ∈ m.strings, IsOneLine s) :
    render module [.nested m] =
      m.header ++ " \x7b" ++ "\n" ++ Text.indented (render m.name m.declarations) ++
        "\x7d\n" := by
  obtain ⟨access, name, placement, inner⟩ := m
  obtain ⟨lines, written, whole⟩ := Writer.writesLines_declarations name inner
  have strings : ∀ s ∈ name :: stringsOfAll inner, IsOneLine s := fun s member =>
    plain s (List.cons_subset_cons name (List.subset_append_right _ _) member)
  have inside : render name inner = Line.printAll lines := by simp [render, written]
  calc render module [.nested ⟨access, name, placement, inner⟩]
    _ = NestedModule.header ⟨access, name, placement, inner⟩ ++ " \x7b" ++ "\n" ++
          Line.printAll (Line.inset 1 lines) ++ "\x7d\n" := by
        simp [render, Writer.declarations, Writer.declaration, Writer.nested, written, Writer.enter,
          Writer.leave, Writer.line, Writer.deeper, Writer.shallower, NestedModule.header]
    _ = _ := by rw [inside, Line.indented_printAll (whole strings)]

theorem render_error (module message : String) :
    render module [.error message] = errorText message ++ "\n" := by
  simp [render, Writer.declarations, Writer.declaration, Writer.line]

/-- The texts of declarations are put one behind the other. A nested module is a header in one
line, the text of its own declarations with four blanks before each line, and a brace, as long as
no string in it has a line feed. An error is one line whatever its message is, for a reader who
takes any other line break into account as well. -/
theorem render_composes (module : String) :
    (∀ xs ys, render module (xs ++ ys) = render module xs ++ render module ys) ∧
    (∀ m : NestedModule, (∀ s ∈ m.strings, IsOneLine s) →
      IsOneLine (m.header ++ " \x7b") ∧
      render module [.nested m] =
        m.header ++ " \x7b" ++ "\n" ++ Text.indented (render m.name m.declarations) ++
          "\x7d\n") ∧
    ∀ message,
      render module [.error message] = errorText message ++ "\n" ∧
      ∀ c ∈ (errorText message).toList, Text.isLineBreak c = false := by
  refine ⟨render_append module, fun m plain => ?_, fun message => ?_⟩
  · have header := m.isOneLine_header plain
    exact ⟨Text.isOneLine_append.mpr ⟨header, by decide⟩, render_nested module plain⟩
  · exact ⟨render_error module message, fun _ => isLineBreak_of_mem_errorText⟩

/-- A sheet with a list of its own, in which something went wrong. The message would break its line
if it stood there as it is. -/
theorem render_composes_sheet :
    let inner : NestedModule := ⟨.hidden, "Path", .stack "path" "Sheet", [.error "no\nname"]⟩
    let sheet : NestedModule := ⟨.exported, "Sheet", .destination "sheet" "Shop",
      [.pipeline ⟨.exported, [.empty]⟩, .nested inner]⟩
    (∀ s ∈ sheet.strings, IsOneLine s) ∧
      render "Shop" [.nested sheet] =
        "pub module Sheet for sheet \x7b\n" ++ Text.indented (render "Sheet" sheet.declarations) ++
          "\x7d\n" ∧
      ∀ c ∈ (errorText "no\nname").toList, Text.isLineBreak c = false := by
  intro inner sheet
  have plain : ∀ s ∈ sheet.strings, IsOneLine s := by decide
  obtain ⟨-, nested, error⟩ := render_composes "Shop"
  exact ⟨plain, (nested sheet plain).2, (error "no\nname").2⟩

end Declaration

end StateWeave
