import Reckoner.Proofs.Terminal.Widget

/-!
# What stands on a row

The text of a row is read from its cells, and the cells that a wide cluster covers are passed over.
So clusters that stand one behind the other are read one behind the other
(`Screen.ClustersAt.exists_behind`), and a character of theirs stands in the column behind the text
in front of it (`Screen.ClustersAt.showsAt`).

Glyphs that are put into a row stand there as clusters, if there are cells for all of them
(`Screen.clustersAt_putGlyphs`).  What is drawn below a row does not touch it (`Screen.Spares`).
-/

namespace Reckoner

namespace Terminal

namespace Screen

variable {screen other : Screen} {x y : Nat} {clusters front : List (List Char)}

/-! ## Cells -/

def rowCells (screen : Screen) (y : Nat) : List Cell :=
  (screen.cells.extract (y * screen.width) ((y + 1) * screen.width)).toList

theorem rowCells_getElem? (screen : Screen) (x y : Nat) :
    (screen.rowCells y)[x]? = screen.cell? x y := by
  have next : (y + 1) * screen.width = y * screen.width + screen.width := Nat.succ_mul _ _
  rw [rowCells, Array.getElem?_toList, Array.getElem?_extract, cell?, next]
  by_cases inside : x < screen.width
  · rw [if_pos inside]
    split
    · rfl
    · next outside => exact (Array.getElem?_eq_none (by omega)).symm
  · rw [if_neg inside, if_neg (by omega)]

theorem cell?_blank {width height : Nat} (inside : x < width) (onScreen : y < height) :
    (blank width height).cell? x y = some .blank := by
  have place : y * width + x < width * height := by
    calc
      y * width + x < y * width + width := Nat.add_lt_add_left inside _
      _ = (y + 1) * width := (Nat.succ_mul _ _).symm
      _ ≤ height * width := Nat.mul_le_mul_right _ onScreen
      _ = width * height := Nat.mul_comm _ _
  rw [cell?, blank, if_pos inside, Array.getElem?_replicate, if_pos place]

theorem isSome_put (screen : Screen) (x y : Nat) (characters : List Char) (style : Style)
    (column row : Nat) :
    ((screen.put x y characters style).cell? column row).isSome =
      (screen.cell? column row).isSome := by
  rw [cell?_put]
  split
  · next same => rw [Option.isSome_map, same.1, same.2]
  · rfl

theorem isSome_changeArea (screen : Screen) (area : Area) (update : Cell → Cell)
    (column row : Nat) :
    ((screen.changeArea area update).cell? column row).isSome =
      (screen.cell? column row).isSome := by
  rw [cell?_changeArea]
  split
  · exact Option.isSome_map
  · rfl

/-! ## Rows as texts -/

section Rows

variable [Text.Widths]

/-- The text that is read on a row. -/
def rowText (screen : Screen) (y : Nat) : List Char :=
  (screen.row y).flatMap Cell.characters

/-- The character stands in a column of a row: the text in front of it is as wide. -/
def ShowsAt (screen : Screen) (x y : Nat) (character : Char) : Prop :=
  ∃ before behind, screen.rowText y = before ++ character :: behind ∧ Text.columns before = x

/-- The clusters stand in a row, one behind the other from a column on. -/
def ClustersAt (screen : Screen) (y : Nat) : (x : Nat) → List (List Char) → Prop
  | _, [] => True
  | x, cluster :: rest =>
    (screen.cell? x y).map Cell.characters = some cluster ∧
      ClustersAt screen y (x + Text.columns cluster) rest

theorem Agree.rowText_eq (agree : Agree y screen other) : screen.rowText y = other.rowText y := by
  have cells : screen.rowCells y = other.rowCells y := by
    apply List.ext_getElem?
    intro x
    rw [rowCells_getElem?, rowCells_getElem?, agree.cells]
  exact congrArg (fun cells => (readCells 0 cells).flatMap Cell.characters) cells

theorem readCells_covered (covered : Nat) (cells : List Cell) :
    readCells covered cells = readCells 0 (cells.drop covered) := by
  induction cells generalizing covered with
  | nil => rw [List.drop_nil]; rfl
  | cons cell cells induction =>
      cases covered with
      | zero => rfl
      | succ covered => exact induction covered

theorem ClustersAt.exists_behind (standing : screen.ClustersAt y x clusters)
    (wide : ∀ cluster ∈ clusters, 0 < Text.columns cluster) :
    ∃ behind, (readCells 0 ((screen.rowCells y).drop x)).flatMap Cell.characters =
      clusters.flatten ++ behind := by
  induction clusters generalizing x with
  | nil => exact ⟨_, rfl⟩
  | cons cluster rest induction =>
      obtain ⟨first, standing⟩ := standing
      obtain ⟨positive, wide⟩ := List.forall_mem_cons.mp wide
      obtain ⟨behind, read⟩ := induction standing wide
      obtain ⟨cell, found, rfl⟩ := Option.map_eq_some_iff.mp first
      rw [← rowCells_getElem?] at found
      obtain ⟨inside, same⟩ := List.getElem?_eq_some_iff.mp found
      refine ⟨behind, ?_⟩
      have covered : x + 1 + (Text.columns cell.characters - 1) =
          x + Text.columns cell.characters := by omega
      rw [List.drop_eq_getElem_cons inside, same, readCells, readCells_covered, List.drop_drop,
        covered, List.flatMap_cons, read, List.flatten_cons, List.append_assoc]

/-- A character in the last of some clusters at the left end of a row. -/
theorem ClustersAt.showsAt {before after : List Char} {character : Char}
    (standing : screen.ClustersAt y 0 (front ++ [before ++ character :: after]))
    (wide : ∀ cluster ∈ front ++ [before ++ character :: after], 0 < Text.columns cluster) :
    screen.ShowsAt (Text.columns (front.flatten ++ before)) y character := by
  obtain ⟨behind, read⟩ := standing.exists_behind wide
  refine ⟨front.flatten ++ before, after ++ behind, ?_, rfl⟩
  calc
    screen.rowText y = (front ++ [before ++ character :: after]).flatten ++ behind := read
    _ = front.flatten ++ before ++ character :: (after ++ behind) := by simp

/-- Where the clusters stand depends on the cells in which they begin. -/
theorem ClustersAt.congr {limit : Nat} {last : List Char}
    (standing : screen.ClustersAt y x (front ++ [last]))
    (begins : x + Text.columnsOfAll front < limit)
    (same : ∀ column, x ≤ column → column < limit →
      other.cell? column y = screen.cell? column y) :
    other.ClustersAt y x (front ++ [last]) := by
  induction front generalizing x with
  | nil =>
      refine ⟨?_, trivial⟩
      rw [same x (Nat.le_refl x) begins]
      exact standing.1
  | cons cluster front induction =>
      rw [Text.columnsOfAll] at begins
      refine ⟨?_, induction standing.2 (by omega) fun column behind => same column (by omega)⟩
      rw [same x (Nat.le_refl x) (by omega)]
      exact standing.1

theorem Agree.showsAt {character : Char} (agree : Agree y screen other)
    (shows : other.ShowsAt x y character) : screen.ShowsAt x y character := by
  obtain ⟨before, behind, text, columns⟩ := shows
  exact ⟨before, behind, agree.rowText_eq.trans text, columns⟩

theorem clustersAt_append (clusters more : List (List Char)) :
    screen.ClustersAt y x (clusters ++ more) ↔
      screen.ClustersAt y x clusters ∧
        screen.ClustersAt y (x + Text.columnsOfAll clusters) more := by
  induction clusters generalizing x with
  | nil => exact (and_iff_right trivial).symm
  | cons cluster clusters induction =>
      rw [List.cons_append, ClustersAt, ClustersAt, induction, Text.columnsOfAll, Nat.add_assoc,
        and_assoc]

end Rows

/-! ## Glyphs -/

/-- The glyphs of a line are its clusters, if there are no line feeds. -/
theorem ofLine_characters {line : Line}
    (unjoined : ∀ span ∈ line, Text.Unjoined span.characters) :
    (Glyph.ofLine line).map Glyph.characters =
      line.flatMap fun span => Text.clusters span.characters := by
  induction line with
  | nil => rfl
  | cons span line induction =>
      obtain ⟨first, rest⟩ := List.forall_mem_cons.mp unjoined
      have kept : (Text.clusters span.characters).filter (· != ['\n']) =
          Text.clusters span.characters := by
        refine List.filter_eq_self.mpr fun cluster member => bne_iff_ne.mpr ?_
        rintro rfl
        have inside : '\n' ∈ span.characters := by
          rw [← Text.flatten_clusters span.characters]
          exact List.mem_flatten.mpr ⟨_, member, List.mem_singleton.mpr rfl⟩
        exact (first '\n' inside).1 rfl
      have behind := induction rest
      rw [Glyph.ofLine] at behind ⊢
      rw [List.flatMap_cons, List.flatMap_cons, List.map_append, behind, kept, List.map_map]
      exact congrArg (· ++ _) (List.map_id _)

theorem flatten_lineClusters (line : Line) :
    (line.flatMap fun span => Text.clusters span.characters).flatten =
      line.flatMap Span.characters := by
  induction line with
  | nil => rfl
  | cons span line induction =>
      rw [List.flatMap_cons, List.flatten_append, Text.flatten_clusters, induction,
        List.flatMap_cons]

section Glyphs

variable [Text.Widths] {glyphs : List Glyph}

theorem columnsOfAll_eq (glyphs : List Glyph) :
    Glyph.columnsOfAll glyphs = Text.columnsOfAll (glyphs.map Glyph.characters) := by
  induction glyphs with
  | nil => rfl
  | cons glyph glyphs induction => exact congrArg (Text.columns glyph.characters + ·) induction

/-- Where there is room for all glyphs, none is cut off. -/
theorem cutOff_of_room {width used : Nat} (room : used + Glyph.columnsOfAll glyphs ≤ width) :
    Glyph.cutOff width used glyphs = glyphs := by
  induction glyphs generalizing used with
  | nil => rfl
  | cons glyph glyphs induction =>
      rw [Glyph.columnsOfAll] at room
      rw [Glyph.cutOff, if_neg (by omega), if_neg (by omega), induction (by omega)]

theorem writeLines_singleton {area : Area} (wide : area.width ≠ 0) (high : 0 < area.height)
    (screen : Screen) (line : Line) :
    screen.writeLines area .left [line] =
      screen.putGlyphs area.x area.y (Glyph.cutOff area.width 0 (Glyph.ofLine line)) := by
  obtain ⟨x, y, width, height⟩ := area
  cases height with
  | zero => cases high
  | succ height =>
      rw [writeLines, if_neg wide, putRows, List.map_singleton, List.take_succ_cons, List.take_nil]
      rfl

/-- Glyphs are put into a row from left to right, each behind the one before. -/
theorem clustersAt_putGlyphs (wide : ∀ glyph ∈ glyphs, 0 < glyph.columns)
    (room : ∀ column < x + Glyph.columnsOfAll glyphs, (screen.cell? column y).isSome = true) :
    (screen.putGlyphs x y glyphs).ClustersAt y x (glyphs.map Glyph.characters) ∧
      ∀ column < x, (screen.putGlyphs x y glyphs).cell? column y = screen.cell? column y := by
  induction glyphs generalizing screen x with
  | nil => exact ⟨trivial, fun _ _ => rfl⟩
  | cons glyph glyphs induction =>
      obtain ⟨positive, wide⟩ := List.forall_mem_cons.mp wide
      rw [Glyph.columnsOfAll, ← Nat.add_assoc] at room
      rw [putGlyphs, if_neg (Nat.ne_of_gt positive)]
      have roomBehind : ∀ column < x + glyph.columns + Glyph.columnsOfAll glyphs,
          ((screen.put x y glyph.characters glyph.style).cell? column y).isSome = true := by
        intro column before
        rw [isSome_put]
        exact room column before
      obtain ⟨standing, kept⟩ := induction wide roomBehind
      have some : (screen.cell? x y).isSome = true := room x (by omega)
      obtain ⟨cell, found⟩ := Option.isSome_iff_exists.mp some
      refine ⟨⟨?_, standing⟩, fun column before => ?_⟩
      · rw [kept x (by omega), cell?_put, if_pos ⟨rfl, rfl⟩, found]
        rfl
      · rw [kept column (by omega), cell?_put, if_neg (by omega)]

end Glyphs

/-! ## What is drawn elsewhere -/

/-- The row is left as it is. -/
def Spares (row : Nat) (draw : Screen → Screen) : Prop :=
  ∀ screen, Agree row (draw screen) screen

variable {row : Nat} {draw next : Screen → Screen}

theorem OnRow.spares (onRow : OnRow y draw) (elsewhere : row ≠ y) : Spares row draw :=
  onRow.others elsewhere

theorem Spares.id (row : Nat) : Spares row fun screen => screen :=
  fun screen => .refl row screen

theorem Spares.comp (first : Spares row draw) (second : Spares row next) :
    Spares row fun screen => next (draw screen) :=
  fun screen => (second (draw screen)).trans (first screen)

theorem Spares.ite {condition : Prop} [Decidable condition] (first : Spares row draw)
    (second : Spares row next) :
    Spares row fun screen => if condition then draw screen else next screen := by
  split
  · exact first
  · exact second

theorem Spares.foldl {α : Type} {step : Screen → α → Screen}
    (each : ∀ item, Spares row (step · item)) (items : List α) :
    Spares row (items.foldl step ·) := by
  induction items with
  | nil => exact .id row
  | cons item items induction => exact (each item).comp induction

theorem spares_changeArea {area : Area} (above : row < area.y) (update : Cell → Cell) :
    Spares row (·.changeArea area update) := by
  refine fun screen => ⟨(keepsSize_changeArea area update).width screen, fun column => ?_⟩
  rw [cell?_changeArea, if_neg (by omega)]

variable [Text.Widths]

theorem spares_writeLines {area : Area} (above : row < area.y) (alignment : Alignment)
    (lines : List Line) : Spares row (·.writeLines area alignment lines) := by
  refine .ite (.id row) (.foldl (fun (glyphs, index) => ?_) _)
  exact (onRow_putGlyphs _ (area.y + index) glyphs).spares (by omega)

theorem spares_writeList {area : Area} (above : row < area.y) (rows : List Line) (offset : Nat)
    (selected : Option Nat) (selectedStyle : Style) :
    Spares row (·.writeList area rows offset selected selectedStyle) := by
  refine .ite (.id row) (.foldl (fun (line, index) => ?_) _)
  have elsewhere : row ≠ area.y + index := by omega
  exact ((onRow_writeLine _ (area.y + index) _ line).spares elsewhere).comp
    (.ite ((onRow_restyle area index selectedStyle).spares elsewhere) (.id row))

end Screen

namespace Box

open Screen (Spares)

variable {row : Nat} {area : Area}

theorem spares_drawBorder (box : Box) (above : row < area.y) (nonempty : area.height ≠ 0) :
    Spares row fun screen => box.drawBorder screen area := by
  have bottom : row < area.y + area.height - 1 := by omega
  have side (part : Area) (update : Cell → Cell) (below : row < part.y) :
      Spares row (·.changeArea part update) :=
    Screen.spares_changeArea below update
  have corner (x y : Nat) (character : Char) (below : row < y) :
      Spares row (·.put x y [character] box.borderStyle) :=
    (Screen.onRow_put x y [character] box.borderStyle).spares (Nat.ne_of_lt below)
  exact (side { area with width := 1 } _ above).comp ((side { area with height := 1 } _ above).comp
    ((side ⟨area.x + area.width - 1, area.y, 1, area.height⟩ _ above).comp
      ((side ⟨area.x, area.y + area.height - 1, area.width, 1⟩ _ bottom).comp
        ((corner _ _ _ bottom).comp ((corner _ _ _ above).comp ((corner _ _ _ bottom).comp
          (corner _ _ _ above)))))))

variable [Text.Widths]

/-- A box is drawn without touching the rows above it. -/
theorem spares_draw (box : Box) (above : row < area.y) :
    Spares row fun screen => box.draw screen area := by
  intro screen
  unfold draw
  split
  · exact .refl row screen
  · next nonempty =>
      have restyled : Spares row (·.restyle area box.style) :=
        Screen.spares_changeArea above _
      have title : Spares row fun screen => box.drawTitle screen area :=
        (Screen.onRow_writeLine _ area.y _ _).spares (Nat.ne_of_lt above)
      have border := box.spares_drawBorder above (not_or.mp nonempty).2
      exact restyled.comp (border.comp title) screen

/-- Between its upper and its lower line, a box has a bar on the left, and all cells are kept. -/
theorem draw_between (box : Box) (area : Area) (row : Nat) (below : area.y < row)
    (above : row + 1 < area.y + area.height) (wide : 1 < area.width) (screen : Screen) :
    ((box.draw screen area).cell? area.x row).map Cell.characters =
        (screen.cell? area.x row).map (fun _ => [box.border.vertical]) ∧
      ∀ column, ((box.draw screen area).cell? column row).isSome =
        (screen.cell? column row).isSome := by
  have title (screen : Screen) (column : Nat) :
      (box.drawTitle screen area).cell? column row = screen.cell? column row :=
    ((Screen.onRow_writeLine _ area.y _ _).others (Nat.ne_of_gt below) screen).cells column
  have apart : ¬ row = area.y ∧ ¬ row = area.y + area.height - 1 := by omega
  unfold draw
  rw [if_neg (by omega)]
  constructor
  · rw [title, drawBorder]
    dsimp only
    -- corners and the lines above and below are on other rows, the right bar is in another column
    rw [Screen.cell?_put, if_neg (by omega), Screen.cell?_put, if_neg (by omega), Screen.cell?_put,
      if_neg (by omega), Screen.cell?_put, if_neg (by omega), Screen.cell?_changeArea,
      if_neg (by dsimp only; omega), Screen.cell?_changeArea, if_neg (by dsimp only; omega),
      Screen.cell?_changeArea, if_neg (by dsimp only; omega), Screen.cell?_changeArea,
      if_pos (by dsimp only; omega), Screen.restyle, Screen.cell?_changeArea, if_pos (by omega)]
    cases screen.cell? area.x row <;> rfl
  · intro column
    rw [title, drawBorder]
    simp only [Screen.isSome_put, Screen.isSome_changeArea, Screen.restyle]

end Box

end Terminal

end Reckoner
