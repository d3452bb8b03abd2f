import Reckoner.Proofs.Highlight
import Reckoner.Proofs.Number.Digits
import Reckoner.Proofs.Panel.Sight

/-!
# Results in the history

The first row of an entry shows the mark, the first line of the expression and the result behind it.
The expression is wrapped without regard to the result, so the row is as wide as that line and the
result together, and five columns more (`Panel.firstRow_columns`).  It fits into the box exactly if
the line leaves room for the result.  A result has 18 characters at most, so a line of up to
`width - 25` columns always does, while a line that fills its row leaves one column.  Nothing is
asked of the widths of texts but the laws of a screen.
-/

namespace Reckoner

open Terminal (Line Screen Span Style)

namespace Panel

variable {panel : Panel} {entry : Entry} {value : Float} {width height index : Nat}

section Rows

variable [Text.ScreenWidths]

/-- The columns that the spans of a row take together. -/
def rowColumns (row : Line) : Nat :=
  Text.columnsOfAll (row.map Span.characters)

theorem rowColumns_eq {row : Line} (unjoined : Text.Unjoined (row.flatMap Span.characters)) :
    rowColumns row = Text.columns (row.flatMap Span.characters) :=
  unjoined.columnsOfAll_eq

/-- A row is shown in full where its columns are: more room would show nothing else. -/
def InFull (row : Line) (room : Nat) : Prop :=
  ∀ (screen : Screen) (x y limit : Nat), x + room ≤ limit →
    screen.writeLine x y limit row = screen.writeLine x y (x + room) row

theorem inFull_of_columns {row : Line} {room : Nat}
    (unjoined : Text.Unjoined (row.flatMap Span.characters)) (fits : rowColumns row ≤ room) :
    InFull row room := by
  intro screen x y limit wider
  exact Screen.writeLine_of_room (Screen.unjoined_spans unjoined) (Nat.add_le_add_left fits x)
    wider screen y

/-- The first row of an entry is the first line of its expression, with the result behind it. -/
theorem exists_firstRow (session : Session) (width : Nat) (selected : Bool) {first : List Char}
    {below : List (List Char)} (result : entry.result = .ok value)
    (wrapped : Text.wrap width (session.pretty entry.input).toList = first :: below) :
    ∃ row rows, entryRows session width selected entry = row :: rows ∧
      row.flatMap Span.characters =
        promptMark.toList ++ first ++ " = ".toList ++ (Number.resultText value).toList := by
  unfold entryRows expressionLines
  dsimp only
  rw [wrapped, List.mapIdx_cons, appendToFirst, List.cons_append, result]
  refine ⟨_, _, rfl, ?_⟩
  rw [List.flatMap_append, List.flatMap_cons, Highlight.spans, Highlight.spansFrom_characters]
  simp [resultSpans, Report.resultText, Span.ofText]

theorem single_promptMark : Text.Single promptMark.toList :=
  .of_printable (by decide)

theorem single_equals : Text.Single " = ".toList :=
  .of_printable (by decide)

/-- The first line of the expression of an entry with a value, and what is known of its columns. -/
theorem InUse.exists_firstLine (inUse : InUse panel) (width : Nat)
    (member : entry ∈ panel.session.history) (result : entry.result = .ok value)
    (wide : 2 ≤ width) :
    ∃ first below, Text.wrap width (panel.session.pretty entry.input).toList = first :: below ∧
      Text.Unjoined first ∧ Text.columns first ≤ width := by
  obtain ⟨calculator, replayable⟩ := inUse.replayable
  obtain ⟨_, tree, read⟩ := replayable.read_of_value member result
  have room : 0 < width := Nat.lt_of_lt_of_le (by decide) wide
  have pretty : (panel.session.pretty entry.input).toList = tree.characters := by
    rw [Session.pretty_of_read read, Expr.text, String.toList_ofList]
  obtain ⟨first, below, wrapped⟩ := List.exists_cons_of_ne_nil
    (Text.wrap_ne_nil width (panel.session.words_pretty_ne_nil (inUse.worded entry member)))
  have inside : first ∈ Text.wrap width (panel.session.pretty entry.input).toList :=
    wrapped ▸ List.mem_cons_self
  refine ⟨first, below, wrapped, ?_, ?_⟩
  · have unjoined := tree.unjoined_characters (Calculator.isLowered_of_read read)
    intro character member
    rcases Text.mem_of_mem_wrap room inside member with rfl | ofText
    · exact ⟨by decide, by decide⟩
    · exact unjoined character (pretty ▸ ofText)
  · rcases (Text.wrap_isLine _ room first inside).narrow with fits | ⟨character, rfl, wider⟩
    · exact fits
    · have narrow : Text.columnsOf character ≤ 2 := Text.columns_le_two character
      omega

/-- The first row of an entry with a value: its first line fits on the row, its result has 18
characters at most, and with the marks between them they are `5` columns wider.  So the row fits into
the box exactly if the line leaves room for the result, and then the result is shown in full. -/
theorem firstRow_columns (panel : Panel) (inUse : InUse panel) (width height index : Nat)
    (wide : 50 ≤ width) (entry : Entry) (found : panel.session.history[index]? = some entry)
    (value : Float) (result : entry.result = .ok value) :
    ∃ first below row rows,
      Text.wrap (width - 6) (panel.session.pretty entry.input).toList = first :: below ∧
      (panel.blocks width height)[index]? = some (row :: rows) ∧
      row.flatMap Span.characters =
        promptMark.toList ++ first ++ " = ".toList ++ (Number.resultText value).toList ∧
      Text.columns first ≤ width - 6 ∧
      (Number.resultText value).toList.length ≤ 18 ∧
      rowColumns row = Text.columns first + (Number.resultText value).toList.length + 5 ∧
      (rowColumns row ≤ width - 2 ↔
        Text.columns first + (Number.resultText value).toList.length + 7 ≤ width) ∧
      (rowColumns row ≤ width - 2 → InFull row (width - 2)) := by
  have member : entry ∈ panel.session.history := List.mem_of_getElem? found
  obtain ⟨calculator, replayable⟩ := inUse.replayable
  have finite := (replayable.read_of_value member result).1
  obtain ⟨first, below, wrapped, unjoined, fits⟩ :=
    inUse.exists_firstLine (width - 6) member result (by omega)
  have inner : (historyArea width height).inner.width - margin = width - 6 := Nat.sub_sub _ _ _
  obtain ⟨row, rows, entryRows, characters⟩ :=
    exists_firstRow panel.session (width - 6) (index == panel.selected) result wrapped
  have single := Number.single_resultText value
  have prompted := single_promptMark.unjoined.append unjoined
  have equated := prompted.append single_equals.unjoined
  have rowUnjoined : Text.Unjoined (row.flatMap Span.characters) := by
    rw [characters]
    exact equated.append single.unjoined
  have columns : rowColumns row =
      Text.columns first + (Number.resultText value).toList.length + 5 := by
    have prompt : Text.columns promptMark.toList = 2 := Text.columns_of_single single_promptMark
    have equals : Text.columns " = ".toList = 3 := Text.columns_of_single single_equals
    rw [rowColumns_eq rowUnjoined, characters, equated.columns_append single.unjoined,
      prompted.columns_append single_equals.unjoined,
      single_promptMark.unjoined.columns_append unjoined, Text.columns_of_single single, prompt,
      equals]
    omega
  refine ⟨first, below, row, rows, wrapped, ?_, characters, fits, Number.length_resultText finite,
    columns, ?_, inFull_of_columns rowUnjoined⟩
  · rw [blocks_getElem? found, inner, entryRows]
  · rw [columns]
    omega

end Rows

theorem entered_inUse (line : String) : InUse (entered line) :=
  (InUse.start Calculator.standard []).run _

/-- The columns of the first row of the only entry. -/
def onlyRowColumns (panel : Panel) (width height : Nat) : Option Nat :=
  match panel.blocks width height with
  | [row :: _] => some (rowColumns row)
  | _ => none

theorem exists_of_value (value : (panel.session.history[index]?.bind Entry.value?).isSome = true) :
    ∃ entry value, panel.session.history[index]? = some entry ∧ entry.result = .ok value := by
  obtain ⟨value, valued⟩ := Option.isSome_iff_exists.mp value
  obtain ⟨entry, found, entryValue⟩ := Option.bind_eq_some_iff.mp valued
  refine ⟨entry, value, found, ?_⟩
  unfold Entry.value? at entryValue
  split at entryValue
  · next result => rw [result, Option.some.inj entryValue]
  · cases entryValue

theorem exists_onlyRow {columns : Nat} (only : onlyRowColumns panel width height = some columns) :
    ∃ row rows, panel.blocks width height = [row :: rows] ∧ rowColumns row = columns := by
  unfold onlyRowColumns at only
  split at only
  · next row rows blocks => exact ⟨row, rows, blocks, Option.some.inj only⟩
  · cases only

/-- The sum of two ones is shown in full. -/
theorem firstRow_columns_sum :
    InUse (entered "1+1") ∧ 50 ≤ 50 ∧
      ∃ entry value, (entered "1+1").session.history[0]? = some entry ∧
        entry.result = .ok value ∧
        ∃ row rows, ((entered "1+1").blocks 50 12)[0]? = some (row :: rows) ∧
          rowColumns row = 11 ∧ InFull row 48 := by
  obtain ⟨entry, value, found, result⟩ :
      ∃ entry value, (entered "1+1").session.history[0]? = some entry ∧
        entry.result = .ok value := exists_of_value (by decide +kernel)
  obtain ⟨_, _, row, rows, _, block, _, _, _, _, _, inFull⟩ :=
    firstRow_columns _ (entered_inUse "1+1") 50 12 0 (Nat.le_refl 50) entry found value result
  obtain ⟨only, others, blocks, columns⟩ : ∃ row rows,
      (entered "1+1").blocks 50 12 = [row :: rows] ∧ rowColumns row = 11 :=
    exists_onlyRow (by decide +kernel)
  obtain ⟨rfl, rfl⟩ : only = row ∧ others = rows := by simpa [blocks] using block
  exact ⟨entered_inUse _, Nat.le_refl 50, entry, value, found, result, _, _, block, columns,
    inFull (by rw [columns]; decide)⟩

/-- The sum of twelve ones fills a row of the smallest screen up to its last operator, and nothing
of the result is in sight. -/
theorem firstRow_columns_cut :
    ¬ ∀ (panel : Panel) (width height index : Nat) (entry : Entry) (value : Float) (row : Line)
        (rows : List Line), InUse panel → 50 ≤ width →
      panel.session.history[index]? = some entry → entry.result = .ok value →
      (panel.blocks width height)[index]? = some (row :: rows) → rowColumns row ≤ width - 2 := by
  intro claim
  obtain ⟨row, rows, blocks, columns⟩ : ∃ row rows,
      (entered "1+1+1+1+1+1+1+1+1+1+1+1").blocks 50 12 = [row :: rows] ∧ rowColumns row = 50 :=
    exists_onlyRow (by decide +kernel)
  obtain ⟨entry, value, found, result⟩ :
      ∃ entry value, (entered "1+1+1+1+1+1+1+1+1+1+1+1").session.history[0]? = some entry ∧
        entry.result = .ok value := exists_of_value (by decide +kernel)
  have fits := claim _ 50 12 0 entry value row rows (entered_inUse _) (Nat.le_refl 50) found
    result (by rw [blocks, List.getElem?_cons_zero])
  rw [columns] at fits
  exact absurd fits (by decide)

end Panel

end Reckoner
