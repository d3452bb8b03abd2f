import Reckoner.Proofs.Text.Clusters
import Reckoner.Terminal.Screen

/-!
# Drawing row by row

Whatever is drawn, a screen keeps its size (`Screen.KeepsSize`).  A line is drawn on one row: the
cells of the other rows stay as they are, and what becomes of the row depends on nothing but the row
(`Screen.OnRow`).  So lines that are drawn on different rows do not touch each other, and each row
looks as if its line had been the only one (`Screen.agree_drawRows`).

A line is written between the column in which it begins and the limit, where it is cut off
(`Screen.cell?_writeLine`).  One that is as wide as its room at most is shown in full: more room
would show nothing else (`Screen.writeLine_of_room`).
-/

namespace Reckoner

namespace Terminal

namespace Screen

/-- The cell at a place; places beside the screen have none. -/
def cell? (screen : Screen) (x y : Nat) : Option Cell :=
  if x < screen.width then screen.cells[y * screen.width + x]? else none

/-- The size of every screen is kept. -/
structure KeepsSize (draw : Screen → Screen) : Prop where
  width (screen : Screen) : (draw screen).width = screen.width
  height (screen : Screen) : (draw screen).height = screen.height

/-- The screens show the same on a row. -/
structure Agree (row : Nat) (screen other : Screen) : Prop where
  width : screen.width = other.width
  cells : ∀ x, screen.cell? x row = other.cell? x row

/-- Nothing but the row is changed, and how it is changed depends on nothing but the row. -/
structure OnRow (row : Nat) (draw : Screen → Screen) : Prop extends KeepsSize draw where
  others : ∀ {y}, y ≠ row → ∀ screen : Screen, Agree y (draw screen) screen
  agree : ∀ {screen other : Screen}, Agree row screen other → Agree row (draw screen) (draw other)

variable {draw next : Screen → Screen} {row : Nat}

theorem Agree.refl (row : Nat) (screen : Screen) : Agree row screen screen :=
  ⟨rfl, fun _ => rfl⟩

theorem Agree.trans {screen other third : Screen} (first : Agree row screen other)
    (second : Agree row other third) : Agree row screen third :=
  ⟨first.width.trans second.width, fun x => (first.cells x).trans (second.cells x)⟩

theorem KeepsSize.id : KeepsSize fun screen => screen :=
  ⟨fun _ => rfl, fun _ => rfl⟩

theorem KeepsSize.comp (first : KeepsSize draw) (second : KeepsSize next) :
    KeepsSize fun screen => next (draw screen) where
  width screen := (second.width _).trans (first.width screen)
  height screen := (second.height _).trans (first.height screen)

theorem KeepsSize.foldl {α : Type} {step : Screen → α → Screen}
    (each : ∀ item, KeepsSize (step · item)) (items : List α) :
    KeepsSize (items.foldl step ·) := by
  induction items with
  | nil => exact .id
  | cons item items induction => exact (each item).comp induction

theorem OnRow.id (row : Nat) : OnRow row fun screen => screen where
  width _ := rfl
  height _ := rfl
  others _ screen := .refl _ screen
  agree same := same

theorem OnRow.comp (first : OnRow row draw) (second : OnRow row next) :
    OnRow row fun screen => next (draw screen) where
  toKeepsSize := first.toKeepsSize.comp second.toKeepsSize
  others other screen := (second.others other _).trans (first.others other screen)
  agree same := second.agree (first.agree same)

theorem OnRow.foldl {α : Type} {step : Screen → α → Screen}
    (each : ∀ item, OnRow row (step · item)) (items : List α) :
    OnRow row (items.foldl step ·) := by
  induction items with
  | nil => exact .id row
  | cons item items induction => exact (each item).comp induction

theorem KeepsSize.ite {condition : Prop} [Decidable condition] (first : KeepsSize draw)
    (second : KeepsSize next) :
    KeepsSize fun screen => if condition then draw screen else next screen := by
  split
  · exact first
  · exact second

theorem OnRow.ite {condition : Prop} [Decidable condition] (first : OnRow row draw)
    (second : OnRow row next) :
    OnRow row fun screen => if condition then draw screen else next screen := by
  split
  · exact first
  · exact second

/-! ## Cells -/

/-- Two places inside the width are the same if their cells are. -/
theorem place_inj {width x y column row : Nat} (inside : x < width) (columnInside : column < width) :
    y * width + x = row * width + column ↔ column = x ∧ row = y := by
  constructor
  · intro same
    have columns := congrArg (· % width) same
    have rows := congrArg (· / width) same
    have positive : 0 < width := Nat.zero_lt_of_lt inside
    simp only [Nat.mul_add_mod_self_right, Nat.mod_eq_of_lt inside, Nat.mod_eq_of_lt columnInside]
      at columns
    simp only [Nat.mul_comm _ width, Nat.mul_add_div positive, Nat.div_eq_of_lt inside,
      Nat.div_eq_of_lt columnInside, Nat.add_zero] at rows
    exact ⟨columns.symm, rows.symm⟩
  · rintro ⟨rfl, rfl⟩
    rfl

theorem cell?_change (screen : Screen) (x y : Nat) (update : Cell → Cell) (column row : Nat) :
    (screen.change x y update).cell? column row =
      if column = x ∧ row = y then (screen.cell? x y).map update
      else screen.cell? column row := by
  unfold change
  split
  · next inside =>
      by_cases columnInside : column < screen.width
      · simp only [cell?, columnInside, inside, if_true, Array.getElem?_modify,
          place_inj inside columnInside]
        split
        · next same => rw [same.1, same.2]
        · rfl
      · have other : ¬(column = x ∧ row = y) := by
          rintro ⟨rfl, _⟩
          exact columnInside inside
        rw [if_neg other]
        simp only [cell?, if_neg columnInside]
  · next outside =>
      split
      · next same =>
          rw [same.1]
          simp only [cell?, if_neg outside, Option.map_none]
      · rfl

theorem cell?_put (screen : Screen) (x y : Nat) (characters : List Char) (style : Style)
    (column row : Nat) :
    (screen.put x y characters style).cell? column row =
      if column = x ∧ row = y then
        (screen.cell? x y).map fun cell => ⟨characters, style.laidOver cell.style⟩
      else screen.cell? column row :=
  cell?_change screen x y _ column row

theorem onRow_change (x y : Nat) (update : Cell → Cell) : OnRow y (·.change x y update) where
  width screen := by
    unfold change
    split <;> rfl
  height screen := by
    unfold change
    split <;> rfl
  others {row} other screen := by
    refine ⟨?_, fun column => ?_⟩
    · unfold change
      split <;> rfl
    · rw [cell?_change, if_neg]
      exact fun same => other same.2
  agree {screen other} same := by
    refine ⟨?_, fun column => ?_⟩
    · unfold change
      split <;> split <;> exact same.width
    · rw [cell?_change, cell?_change, same.cells, same.cells]

theorem onRow_changeRow (x y width : Nat) (update : Cell → Cell) :
    OnRow y (·.changeRow x y width update) :=
  .foldl (fun index => onRow_change (x + index) y update) _

theorem cell?_changeRow (screen : Screen) (x y width : Nat) (update : Cell → Cell)
    (column row : Nat) :
    (screen.changeRow x y width update).cell? column row =
      if x ≤ column ∧ column < x + width ∧ row = y then (screen.cell? column row).map update
      else screen.cell? column row := by
  induction width with
  | zero => rw [if_neg (by omega)]; rfl
  | succ width induction =>
      rw [changeRow, List.range_succ, List.foldl_append]
      change ((screen.changeRow x y width update).change (x + width) y update).cell? column row = _
      rw [cell?_change]
      split
      · next last =>
          -- the last cell of the row has not been changed before
          obtain ⟨rfl, rfl⟩ := last
          rw [induction, if_neg (by omega), if_pos (by omega)]
      · rw [induction]
        split
        · rw [if_pos (by omega)]
        · rw [if_neg (by omega)]

theorem cell?_changeArea (screen : Screen) (area : Area) (update : Cell → Cell)
    (column row : Nat) :
    (screen.changeArea area update).cell? column row =
      if area.x ≤ column ∧ column < area.x + area.width ∧ area.y ≤ row ∧
          row < area.y + area.height then
        (screen.cell? column row).map update
      else screen.cell? column row := by
  obtain ⟨x, y, width, height⟩ := area
  dsimp only
  induction height with
  | zero => rw [if_neg (by omega)]; rfl
  | succ height induction =>
      rw [changeArea, List.range_succ, List.foldl_append]
      change ((screen.changeArea ⟨x, y, width, height⟩ update).changeRow x (y + height) width
        update).cell? column row = _
      rw [cell?_changeRow, induction]
      split
      · rw [if_neg (by omega), if_pos (by omega)]
      · split
        · rw [if_pos (by omega)]
        · rw [if_neg (by omega)]

theorem cell?_foldl {α : Type} {step : Screen → α → Screen} {column row : Nat}
    (each : ∀ screen item, (step screen item).cell? column row = screen.cell? column row)
    (items : List α) (screen : Screen) :
    (items.foldl step screen).cell? column row = screen.cell? column row := by
  induction items generalizing screen with
  | nil => rfl
  | cons item items induction => exact (induction _).trans (each screen item)

theorem onRow_put (x y : Nat) (characters : List Char) (style : Style) :
    OnRow y (·.put x y characters style) :=
  onRow_change x y _

theorem onRow_restyle (area : Area) (index : Nat) (style : Style) :
    OnRow (area.y + index) (·.restyle (area.row index) style) :=
  onRow_changeRow area.x (area.y + index + 0) area.width _

theorem keepsSize_changeArea (area : Area) (update : Cell → Cell) :
    KeepsSize (·.changeArea area update) :=
  .foldl (fun index => (onRow_changeRow area.x (area.y + index) area.width update).toKeepsSize) _

/-! ## Lines -/

section Lines

variable [Text.Widths]

/-- How far a row is filled does not depend on what it showed before. -/
theorem exists_column (x y limit : Nat) (style : Style) (clusters : List (List Char)) :
    ∃ column, ∀ screen : Screen, (screen.writeClusters x y limit style clusters).2 = column := by
  induction clusters generalizing x with
  | nil => exact ⟨x, fun _ => rfl⟩
  | cons cluster rest induction =>
      simp only [writeClusters]
      split
      · exact induction x
      · split
        · exact ⟨x, fun _ => rfl⟩
        · obtain ⟨column, same⟩ := induction (x + Text.columns cluster)
          exact ⟨column, fun screen => same _⟩

theorem onRow_writeClusters (x y limit : Nat) (style : Style) (clusters : List (List Char)) :
    OnRow y fun screen => (screen.writeClusters x y limit style clusters).1 := by
  induction clusters generalizing x with
  | nil => exact .id y
  | cons cluster rest induction =>
      simp only [writeClusters]
      split
      · exact induction x
      · split
        · exact .id y
        · exact ((onRow_put x y cluster style).comp
            (onRow_changeRow (x + 1) y (Text.columns cluster - 1) fun _ => .blank)).comp
              (induction (x + Text.columns cluster))

theorem onRow_writeLine (x y limit : Nat) (line : Line) : OnRow y (·.writeLine x y limit line) := by
  induction line generalizing x with
  | nil => exact .id y
  | cons span rest induction =>
      obtain ⟨column, same⟩ := exists_column x y limit span.style (Text.clusters span.characters)
      simp only [writeLine, same]
      exact (onRow_writeClusters x y limit span.style _).comp (induction column)

theorem le_writeClusters (screen : Screen) (x y limit : Nat) (style : Style)
    (clusters : List (List Char)) : x ≤ (screen.writeClusters x y limit style clusters).2 := by
  induction clusters generalizing screen x with
  | nil => exact Nat.le_refl x
  | cons cluster rest induction =>
      rw [writeClusters]
      split
      · exact induction screen x
      · split
        · exact Nat.le_refl x
        · exact Nat.le_trans (Nat.le_add_right x _) (induction _ _)

/-- Clusters are written from their column on, and cut off at the limit. -/
theorem cell?_writeClusters {x limit column : Nat} (outside : column < x ∨ limit ≤ column)
    (screen : Screen) (y : Nat) (style : Style) (clusters : List (List Char)) (row : Nat) :
    (screen.writeClusters x y limit style clusters).1.cell? column row =
      screen.cell? column row := by
  induction clusters generalizing screen x with
  | nil => rfl
  | cons cluster rest induction =>
      rw [writeClusters]
      split
      · exact induction outside screen
      · split
        · rfl
        · rw [induction (by omega), cell?_changeRow, if_neg (by omega), cell?_put,
            if_neg (by omega)]

/-- A line is cut off at the right. -/
theorem cell?_writeLine {x limit column : Nat} (outside : column < x ∨ limit ≤ column)
    (screen : Screen) (y : Nat) (line : Line) (row : Nat) :
    (screen.writeLine x y limit line).cell? column row = screen.cell? column row := by
  induction line generalizing screen x with
  | nil => rfl
  | cons span rest induction =>
      have behind :=
        screen.le_writeClusters x y limit span.style (Text.clusters span.characters)
      rw [writeLine]
      dsimp only
      rw [induction (by omega), cell?_writeClusters outside]

/-- Where there is room for all clusters, more room makes no difference. -/
theorem writeClusters_of_room {limit other : Nat} {clusters : List (List Char)} {x : Nat}
    (room : x + Text.columnsOfAll clusters ≤ limit) (wider : limit ≤ other) (screen : Screen)
    (y : Nat) (style : Style) :
    screen.writeClusters x y other style clusters = screen.writeClusters x y limit style clusters ∧
      (screen.writeClusters x y limit style clusters).2 = x + Text.columnsOfAll clusters := by
  induction clusters generalizing screen x with
  | nil => exact ⟨rfl, rfl⟩
  | cons cluster rest induction =>
      rw [Text.columnsOfAll, ← Nat.add_assoc] at room ⊢
      rw [writeClusters, writeClusters]
      split
      · next none =>
          rw [none, Nat.add_zero] at room ⊢
          exact induction room screen
      · have inside : x + Text.columns cluster ≤ limit := Nat.le_trans (Nat.le_add_right _ _) room
        rw [if_neg (Nat.not_lt_of_le inside), if_neg (Nat.not_lt_of_le (Nat.le_trans inside wider))]
        exact induction room _

end Lines

theorem unjoined_spans {line : Line} (unjoined : Text.Unjoined (line.flatMap Span.characters)) :
    ∀ span ∈ line, Text.Unjoined span.characters := by
  intro span member
  exact unjoined.of_subset fun character inside => List.mem_flatMap.mpr ⟨span, member, inside⟩

theorem writeLine_of_room [Text.ScreenWidths] {limit other : Nat} {line : Line} {x : Nat}
    (unjoined : ∀ span ∈ line, Text.Unjoined span.characters)
    (room : x + Text.columnsOfAll (line.map Span.characters) ≤ limit) (wider : limit ≤ other)
    (screen : Screen) (y : Nat) :
    screen.writeLine x y other line = screen.writeLine x y limit line := by
  induction line generalizing screen x with
  | nil => rfl
  | cons span rest induction =>
      obtain ⟨first, behind⟩ := List.forall_mem_cons.mp unjoined
      rw [List.map_cons, Text.columnsOfAll, ← Nat.add_assoc, ← first.columnsOfAll_clusters] at room
      obtain ⟨same, column⟩ := writeClusters_of_room
        (Nat.le_trans (Nat.le_add_right _ _) room) wider screen y span.style
      rcases written : screen.writeClusters x y limit span.style (Text.clusters span.characters)
        with ⟨next, behindSpan⟩
      rw [written] at column
      rw [← column] at room
      rw [writeLine, writeLine, same, written]
      exact induction behind room next

/-! ## Lines one below the other -/

variable {α : Type} {drawRow : Screen → α → Nat → Screen} {top : Nat}

/-- Rows above the first one that is drawn are not changed. -/
theorem agree_above (each : ∀ item index, OnRow (top + index) (drawRow · item index))
    (items : List α) {first above : Nat} (before : above < top + first) (screen : Screen) :
    Agree above ((items.zipIdx first).foldl (fun screen (item, index) => drawRow screen item index)
      screen) screen := by
  induction items generalizing first screen with
  | nil => exact .refl above screen
  | cons item items induction =>
      have behind : above < top + (first + 1) := Nat.lt_succ_of_lt before
      exact (induction behind _).trans ((each item first).others (Nat.ne_of_lt before) screen)

/-- Of items that are drawn on rows of their own, one below the other, each row shows one. -/
theorem agree_drawRows (each : ∀ item index, OnRow (top + index) (drawRow · item index))
    {items : List α} {place : Nat} {item : α} (found : items[place]? = some item) (first : Nat)
    (screen : Screen) :
    Agree (top + (first + place))
      ((items.zipIdx first).foldl (fun screen (item, index) => drawRow screen item index) screen)
      (drawRow screen item (first + place)) := by
  induction items generalizing place first screen with
  | nil => cases found
  | cons head items induction =>
      cases place with
      | zero =>
          obtain rfl : head = item := Option.some.inj found
          exact agree_above each items (Nat.lt_succ_self _) _
      | succ place =>
          have next : first + (place + 1) = first + 1 + place := by omega
          have later : top + (first + 1 + place) ≠ top + first := by omega
          rw [next]
          -- the item is drawn after the head, on a row that the head has left as it was
          exact (induction found (first + 1) (drawRow screen head first)).trans
            ((each item _).agree ((each head first).others later screen))

end Screen

end Terminal

end Reckoner
