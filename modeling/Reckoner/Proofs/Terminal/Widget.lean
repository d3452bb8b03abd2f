import Reckoner.Proofs.Terminal.Screen
import Reckoner.Terminal.Widget

/-!
# Boxes and lists

No widget changes the size of the screen.

Of paragraphs and lists the rest relies on a few rules only.  A line of a paragraph that is not
continued is cut off at the right (`Glyph.columnsOfAll_cutOff`); one that is continued fills a row
or more (`length_le_filledRows`).  An item of a list has one row, drawn as if it were the only one
(`Screen.agree_writeList`), and is cut off at the right too (`Screen.cell?_writeList`).  The rows in
sight begin at the offset, or at the last row if that is less, and are moved by as few rows as
possible to have the selected one among them (`Viewport.rows_eq`, `Viewport.top_nearest`).  So a
list that is scrolled to its end shows the selected row and what is behind it, as far as there is
room (`Viewport.rows_at_end`).
-/

namespace Reckoner

namespace Terminal

/-! ## The size of the screen -/

theorem Box.keepsSize_drawBorder (box : Box) (area : Area) :
    Screen.KeepsSize fun screen => box.drawBorder screen area := by
  have side (part : Area) (update : Cell → Cell) : Screen.KeepsSize (·.changeArea part update) :=
    Screen.keepsSize_changeArea part update
  have corner (x y : Nat) (character : Char) :
      Screen.KeepsSize (·.put x y [character] box.borderStyle) :=
    (Screen.onRow_put x y [character] box.borderStyle).toKeepsSize
  exact (side _ _).comp ((side _ _).comp ((side _ _).comp ((side _ _).comp
    ((corner _ _ _).comp ((corner _ _ _).comp ((corner _ _ _).comp (corner _ _ _)))))))

section Paragraphs

variable [Text.Widths]

namespace Screen

theorem onRow_putGlyphs (x y : Nat) (glyphs : List Glyph) : OnRow y (·.putGlyphs x y glyphs) := by
  induction glyphs generalizing x with
  | nil => exact .id y
  | cons glyph rest induction =>
      simp only [putGlyphs]
      split
      · exact induction x
      · exact (onRow_put x y glyph.characters glyph.style).comp (induction _)

theorem keepsSize_putRows (area : Area) (alignment : Alignment) (rows : List (List Glyph)) :
    KeepsSize (·.putRows area alignment rows) :=
  .foldl (fun (row, index) => (onRow_putGlyphs
    (area.x + alignment.column area.width (Glyph.columnsOfAll row)) (area.y + index)
    row).toKeepsSize) _

theorem keepsSize_writeLines (area : Area) (alignment : Alignment) (lines : List Line) :
    KeepsSize (·.writeLines area alignment lines) :=
  .ite .id (keepsSize_putRows area alignment _)

end Screen

theorem Box.keepsSize_draw (box : Box) (area : Area) :
    Screen.KeepsSize fun screen => box.draw screen area := by
  have title : Screen.KeepsSize fun screen => box.drawTitle screen area :=
    (Screen.onRow_writeLine _ _ _ _).toKeepsSize
  exact .ite .id ((Screen.keepsSize_changeArea area _).comp
    ((box.keepsSize_drawBorder area).comp title))

/-! ## Paragraphs -/

/-- What is left of a line that is cut off fits into the row. -/
theorem Glyph.columnsOfAll_cutOff {width used : Nat} (fits : used ≤ width) (glyphs : List Glyph) :
    used + Glyph.columnsOfAll (Glyph.cutOff width used glyphs) ≤ width := by
  induction glyphs generalizing used with
  | nil => exact fits
  | cons glyph rest induction =>
      rw [cutOff]
      split
      · exact induction fits
      · split
        · exact fits
        · rw [columnsOfAll, ← Nat.add_assoc]
          exact induction (by omega)

/-- Every line fills a row, if only an empty one. -/
theorem Filling.rowsOf_ne_nil (width : Nat) (line : Line) : Filling.rowsOf width line ≠ [] := by
  have some (rows : List (List Glyph)) : (if rows.isEmpty then [[]] else rows.reverse) ≠ [] := by
    cases rows with
    | nil => exact List.cons_ne_nil _ _
    | cons row rows => simp
  exact some _

theorem length_le_filledRows {width : Nat} (wide : 0 < width) (lines : List Line) :
    lines.length ≤ (filledRows width lines).length := by
  rw [filledRows, if_neg (Nat.ne_of_gt wide)]
  induction lines with
  | nil => exact Nat.le_refl 0
  | cons line lines induction =>
      have some := List.length_pos_iff.mpr (Filling.rowsOf_ne_nil width line)
      rw [List.flatMap_cons, List.length_append, List.length_cons]
      omega

end Paragraphs

/-! ## Lists -/

namespace Viewport

variable {count height selected : Nat}

/-- The first row that is shown: the one at the offset, or the last one if the offset is behind it,
but moved by as few rows as possible if the selected row would not be in sight. -/
def top (count height offset selected : Nat) : Nat :=
  let start := min offset (count - 1)
  if selected < start then selected else max start (selected + 1 - height)

/-- The rows are shown from the first one on, as many as there are and as there is room for. -/
theorem rows_eq (room : 0 < height) (inside : selected < count) (offset : Nat) :
    rows count height offset selected =
      (top count height offset selected,
        min count (top count height offset selected + height)) := by
  have last : min selected (count - 1) = selected := by omega
  unfold rows top
  dsimp only
  rw [last]
  rcases Nat.lt_or_ge selected (min offset (count - 1)) with above | below
  · have shown : ¬min count (min offset (count - 1) + height) ≤ selected := by omega
    rw [if_neg shown]
    dsimp only
    rw [if_pos above, if_pos above]
    congr 1
    omega
  · rw [if_neg (Nat.not_lt_of_le below)]
    split
    · next behind =>
        dsimp only
        rw [if_neg (by omega)]
        congr 1
        omega
    · next inSight =>
        dsimp only
        rw [if_neg (Nat.not_lt_of_le below), Nat.max_eq_left (by omega)]

theorem top_shows_selected (room : 0 < height) (offset : Nat) :
    top count height offset selected ≤ selected ∧
      selected < top count height offset selected + height := by
  unfold top
  dsimp only
  split <;> omega

/-- No other first row that has the selected row in sight is nearer to the offset. -/
theorem top_nearest {first : Nat} (above : first ≤ selected) (below : selected < first + height)
    (offset : Nat) :
    let start := min offset (count - 1)
    let moved := top count height offset selected
    (moved - start) + (start - moved) ≤ (first - start) + (start - first) := by
  unfold top
  dsimp only
  split <;> omega

/-- The rows that are shown are rows of the list, as many as there is room for at most, and the
selected one is among them. -/
theorem selected_inside (room : 0 < height) (inside : selected < count) (offset : Nat) :
    (rows count height offset selected).1 ≤ selected ∧
      selected < (rows count height offset selected).2 ∧
      (rows count height offset selected).2 ≤ count ∧
      (rows count height offset selected).2 ≤ (rows count height offset selected).1 + height := by
  obtain ⟨above, below⟩ := top_shows_selected room offset
  rw [rows_eq room inside]
  exact ⟨above, Nat.lt_min.mpr ⟨inside, below⟩, Nat.min_le_left _ _, Nat.min_le_right _ _⟩

/-- Scrolled to its end a list shows the rows from the selected one to the last, or, where they are
too many, those that fit, with the selected one on top. -/
theorem rows_at_end {length : Nat} (room : 0 < height) (nonempty : 0 < length) (selected : Nat) :
    let shown := rows (selected + length) height (selected + length - height) selected
    shown.1 ≤ selected ∧ selected + min length height ≤ shown.2 ∧
      shown.2 ≤ shown.1 + height ∧ (height < length → shown.1 = selected) := by
  rw [rows_eq room (by omega)]
  unfold top
  dsimp only
  split <;> omega

end Viewport

namespace Screen

variable [Text.Widths]

/-- The screen with a row of a list, which may be highlighted, and no other one. -/
def writeListRow (screen : Screen) (area : Area) (selectedStyle : Style) (highlighted : Bool)
    (index : Nat) (row : Line) : Screen :=
  let screen := screen.writeLine area.x (area.y + index) (area.x + area.width) row
  if highlighted then screen.restyle (area.row index) selectedStyle else screen

theorem onRow_writeListRow (area : Area) (selectedStyle : Style) (highlighted : Bool)
    (index : Nat) (row : Line) :
    OnRow (area.y + index) (·.writeListRow area selectedStyle highlighted index row) :=
  (onRow_writeLine area.x (area.y + index) (area.x + area.width) row).comp
    (.ite (onRow_restyle area index selectedStyle) (.id _))

/-- Every row in sight looks as if it were the only one. -/
theorem agree_writeList {area : Area} (wide : 0 < area.width) (room : 0 < area.height)
    {rows : List Line} {offset start finish place : Nat} {selected : Option Nat} {row : Line}
    (shown : Viewport.rows rows.length area.height offset (selected.getD 0) = (start, finish))
    (inSight : start + place < finish) (found : rows[start + place]? = some row)
    (screen : Screen) (selectedStyle : Style) :
    Agree (area.y + place) (screen.writeList area rows offset selected selectedStyle)
      (screen.writeListRow area selectedStyle (selected = some (start + place)) place row) := by
  have taken : ((rows.drop start).take (finish - start))[place]? = some row := by
    rw [List.getElem?_take_of_lt (by omega), List.getElem?_drop]
    exact found
  have rowDrawn := agree_drawRows (fun line index =>
    onRow_writeListRow area selectedStyle (selected = some (start + index)) index line) taken 0
    screen
  rw [Nat.zero_add] at rowDrawn
  unfold writeList
  rw [if_neg (by omega), shown]
  simp only [writeListRow, decide_eq_true_eq] at rowDrawn ⊢
  exact rowDrawn

/-- The rows of a list are cut off at the right. -/
theorem cell?_writeList {area : Area} {column : Nat}
    (outside : column < area.x ∨ area.x + area.width ≤ column) (rows : List Line) (offset : Nat)
    (selected : Option Nat) (selectedStyle : Style) (screen : Screen) (row : Nat) :
    (screen.writeList area rows offset selected selectedStyle).cell? column row =
      screen.cell? column row := by
  have each (screen : Screen) (highlighted : Bool) (index : Nat) (line : Line) :
      (screen.writeListRow area selectedStyle highlighted index line).cell? column row =
        screen.cell? column row := by
    unfold writeListRow
    dsimp only
    split
    · rw [restyle, cell?_changeArea, if_neg (by dsimp only [Area.row]; omega),
        cell?_writeLine outside]
    · exact cell?_writeLine outside screen _ line row
  unfold writeList
  split
  · rfl
  · obtain ⟨start, finish⟩ := Viewport.rows rows.length area.height offset (selected.getD 0)
    refine cell?_foldl (fun screen (line, index) => ?_) _ screen
    have drawn := each screen (selected = some (start + index)) index line
    simp only [writeListRow, decide_eq_true_eq] at drawn
    exact drawn

end Screen

end Terminal

end Reckoner
