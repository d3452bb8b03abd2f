import Reckoner.Proofs.Highlight
import Reckoner.Proofs.Panel.Sight
import Reckoner.Proofs.Terminal.Reading

/-!
# The caret

A frame sets the caret on the row of the line, behind the character in front of the cursor, if that
is in sight.  It stands inside the box, but for one case: where the cursor is behind the last
character of a line that fills the box, the caret stands on the border (`Panel.draw_caret`).  This
holds for all widths that obey the laws of a screen.
-/

namespace Reckoner

open Terminal (Area Box Cell Glyph Line Screen Span Style)

namespace Panel

variable {panel : Panel} {width height : Nat}

/-! ## The row of the line -/

def lineBox (panel : Panel) : Box :=
  ⟨.single, .colored panel.lineTitle.1, .plain,
    Span.ofText panel.lineTitle.2 (.colored panel.lineTitle.1)⟩

/-- The mark and the characters in sight, coloured. -/
def lineSpans (panel : Panel) (width : Nat) : Line :=
  Span.ofText promptMark (.colored .green) ::
    Highlight.spans panel.session.environment .plain (panel.line.visible (lineWidth width))

/-- A sign in the row of the line that characters are out of sight. -/
def sign (shown : Bool) (x : Nat) (character : Char) (screen : Screen) : Screen :=
  if shown then screen.put x 1 [character] faint else screen

theorem lineArea_inner (wide : 50 ≤ width) : (lineArea width).inner = ⟨1, 1, width - 2, 1⟩ := by
  have left : 0 + min 1 width = 1 := by omega
  change Area.mk (0 + min 1 width) 1 (width - 2) 1 = _
  rw [left]

/-- The clusters of the characters in sight. -/
def visibleClusters (panel : Panel) (width : Nat) : List (List Char) :=
  (Highlight.spans panel.session.environment .plain
    (panel.line.visible (lineWidth width))).flatMap fun span => Text.clusters span.characters

theorem flatten_visibleClusters (panel : Panel) (width : Nat) :
    (panel.visibleClusters width).flatten = panel.line.visible (lineWidth width) := by
  rw [visibleClusters, Screen.flatten_lineClusters, Highlight.spans, Highlight.spansFrom_characters]
  rfl

theorem lineClusters_eq (panel : Panel) (width : Nat) :
    ((panel.lineSpans width).flatMap fun span => Text.clusters span.characters) =
      ['>'] :: [' '] :: panel.visibleClusters width := by
  have prompt : Text.clusters promptMark.toList = [['>'], [' ']] :=
    Text.clusters_printable (by decide)
  rw [lineSpans, List.flatMap_cons, Span.ofText, prompt]
  rfl

theorem length_visible_le (panel : Panel) (width : Nat) :
    (panel.line.visible width).length ≤ width := by
  rw [InputLine.visible, List.length_take]
  exact Nat.min_le_left _ _

theorem cell?_sign (shown : Bool) (x : Nat) (character : Char) (screen : Screen) (column : Nat) :
    (sign shown x character screen).cell? column 1 =
      if shown = true ∧ column = x then
        (screen.cell? x 1).map fun cell => ⟨[character], faint.laidOver cell.style⟩
      else screen.cell? column 1 := by
  cases shown with
  | false => exact (if_neg (fun both => absurd both.1 nofun)).symm
  | true =>
      rw [sign, if_pos rfl, Screen.cell?_put]
      split
      · next same => rw [if_pos ⟨rfl, same.1⟩]
      · next apart => rw [if_neg fun both => apart ⟨both.2, rfl⟩]

section Frames

variable [Text.ScreenWidths]

theorem columns_mark : Text.columns ['>'] = 1 :=
  Text.columns_printable (by decide)

theorem columns_space : Text.columns [' '] = 1 :=
  Text.columns_printable (by decide)

/-- The line in its box, on a screen that shows nothing else. -/
def boxedLine (panel : Panel) (width height : Nat) : Screen :=
  (panel.lineBox.draw (Screen.blank width height) (lineArea width)).writeLines
    (lineArea width).inner .left [panel.lineSpans width]

theorem drawLine_eq (panel : Panel) (width height : Nat) :
    panel.drawLine (Screen.blank width height) =
      sign (panel.line.scroll + lineWidth width < panel.line.characters.length)
        ((lineArea width).inner.x + (width - 2 - 1)) '>'
        (sign (0 < panel.line.scroll) (lineArea width).inner.x '<'
          (panel.boxedLine width height)) :=
  rfl

theorem single_visible (single : Text.Single panel.line.characters) (width : Nat) :
    Text.Single (panel.line.visible width) :=
  single.of_subset fun _ member => List.mem_of_mem_drop (List.mem_of_mem_take member)

theorem unjoined_lineSpans (single : Text.Single panel.line.characters) (width : Nat) :
    Text.Unjoined ((panel.lineSpans width).flatMap Span.characters) := by
  have prompt : Text.Single promptMark.toList := .of_printable (by decide)
  rw [lineSpans, List.flatMap_cons, Highlight.spans, Highlight.spansFrom_characters]
  exact prompt.unjoined.append (single_visible single (lineWidth width)).unjoined

/-- The clusters in sight of a line of single columns: how wide each and all of them are. -/
theorem columns_visibleClusters (single : Text.Single panel.line.characters) (width : Nat) :
    (∀ cluster ∈ panel.visibleClusters width, 0 < Text.columns cluster) ∧
      Text.columnsOfAll (panel.visibleClusters width) =
        (panel.line.visible (lineWidth width)).length := by
  have visible := single_visible single (lineWidth width)
  have flat := flatten_visibleClusters panel width
  constructor
  · intro cluster member
    have inside : Text.Single cluster := visible.of_subset fun character inCluster => by
      rw [← flat]
      exact List.mem_flatten.mpr ⟨cluster, member, inCluster⟩
    obtain ⟨span, _, inSpan⟩ := List.mem_flatMap.mp member
    rw [Text.columns_of_single inside]
    exact List.length_pos_iff.mpr (Text.clusters_ne_nil inSpan)
  · have unjoined : Text.Unjoined (panel.visibleClusters width).flatten := by
      rw [flat]
      exact visible.unjoined
    rw [unjoined.columnsOfAll_eq, flat, Text.columns_of_single visible]

theorem characters_ofLine_lineSpans (single : Text.Single panel.line.characters) (width : Nat) :
    (Glyph.ofLine (panel.lineSpans width)).map Glyph.characters =
      ['>'] :: [' '] :: panel.visibleClusters width := by
  rw [← lineClusters_eq]
  exact Screen.ofLine_characters (Screen.unjoined_spans (unjoined_lineSpans single width))

theorem columns_lineSpans (single : Text.Single panel.line.characters) (width : Nat) :
    Glyph.columnsOfAll (Glyph.ofLine (panel.lineSpans width)) =
      2 + (panel.line.visible (lineWidth width)).length := by
  rw [Screen.columnsOfAll_eq, characters_ofLine_lineSpans single, Text.columnsOfAll,
    Text.columnsOfAll, (columns_visibleClusters single width).2, columns_mark,
    columns_space, ← Nat.add_assoc]

theorem lineGlyphs_wide (single : Text.Single panel.line.characters) (width : Nat) :
    ∀ glyph ∈ Glyph.ofLine (panel.lineSpans width), 0 < glyph.columns := by
  intro glyph member
  have cluster := List.mem_map_of_mem (f := Glyph.characters) member
  rw [characters_ofLine_lineSpans single, List.mem_cons, List.mem_cons] at cluster
  rcases cluster with mark | space | inSight
  · rw [Glyph.columns, mark, columns_mark]
    exact Nat.one_pos
  · rw [Glyph.columns, space, columns_space]
    exact Nat.one_pos
  · exact (columns_visibleClusters single width).1 _ inSight

/-- The mark and the characters in sight have room between the borders, and nothing is cut off. -/
theorem boxedLine_eq (single : Text.Single panel.line.characters) (wide : 50 ≤ width)
    (height : Nat) :
    panel.boxedLine width height =
      (panel.lineBox.draw (Screen.blank width height) (lineArea width)).putGlyphs 1 1
        (Glyph.ofLine (panel.lineSpans width)) := by
  have columns := columns_lineSpans single width
  have short := panel.length_visible_le (lineWidth width)
  rw [lineWidth_eq] at columns short
  rw [boxedLine, lineArea_inner wide, Screen.writeLines_singleton (by dsimp only; omega)
    Nat.one_pos, Screen.cutOff_of_room (by dsimp only; omega)]

/-- The row of the line behind the border: the mark and the characters in sight. -/
theorem clustersAt_boxedLine (single : Text.Single panel.line.characters) (wide : 50 ≤ width)
    (high : 10 ≤ height) :
    (panel.boxedLine width height).ClustersAt 1 0
      (['│'] :: ['>'] :: [' '] :: panel.visibleClusters width) := by
  have blank {column : Nat} (inside : column < width) :
      (Screen.blank width height).cell? column 1 = some .blank :=
    Screen.cell?_blank inside (by omega)
  obtain ⟨bar, kept⟩ := panel.lineBox.draw_between (lineArea width) 1 Nat.one_pos (Nat.le_refl 3)
    (Nat.lt_of_lt_of_le (by decide) wide) (Screen.blank width height)
  have columns := columns_lineSpans single width
  have short := panel.length_visible_le (lineWidth width)
  rw [lineWidth_eq] at columns short
  have cells : ∀ column < 1 + Glyph.columnsOfAll (Glyph.ofLine (panel.lineSpans width)),
      ((panel.lineBox.draw (Screen.blank width height) (lineArea width)).cell? column 1).isSome =
        true := by
    intro column inside
    rw [kept, blank (by omega)]
    rfl
  obtain ⟨standing, before⟩ := Screen.clustersAt_putGlyphs (lineGlyphs_wide single width) cells
  rw [characters_ofLine_lineSpans single] at standing
  rw [boxedLine_eq single wide, Screen.ClustersAt, Text.columns_side]
  refine ⟨?_, standing⟩
  have corner : (Screen.blank width height).cell? 0 1 = some .blank := blank (by omega)
  rw [before 0 Nat.one_pos]
  exact bar.trans (congrArg (Option.map fun _ => ['│']) corner)

/-! ## The frame -/

theorem spares_drawHints : Screen.Spares 1 drawHints := by
  intro screen
  have below : 1 < (hintArea screen.width).y := by
    change 1 < 3
    decide
  exact Screen.spares_writeLines below .left [hintLine] screen

theorem spares_drawHistory (panel : Panel) : Screen.Spares 1 panel.drawHistory := by
  intro screen
  have below : 1 < (historyArea screen.width screen.height).y := by
    change 1 < 4
    decide
  have inside : 1 < (historyArea screen.width screen.height).inner.y := Nat.lt_add_right _ below
  have box := panel.historyBox.spares_draw below screen
  unfold drawHistory
  dsimp only
  split
  · exact ((Screen.spares_writeLines inside _ _ _).trans
      (Screen.spares_changeArea inside _ _)).trans box
  · exact (Screen.spares_writeList inside _ _ _ _ _).trans box

/-- On the row of the line a frame shows the line. -/
theorem mainPicture_agree (panel : Panel) (width height : Nat) :
    Screen.Agree 1 (panel.mainPicture width height).screen
      (panel.drawLine (Screen.blank width height)) :=
  (panel.spares_drawHistory _).trans (spares_drawHints _)

/-- The signs stand in front of the line, in the place of the mark, and at its end. -/
theorem cell?_drawLine (panel : Panel) (wide : 50 ≤ width) (height column : Nat)
    (front : column ≠ 1)
    (back : panel.line.scroll + lineWidth width < panel.line.characters.length →
      column ≠ width - 2) :
    (panel.drawLine (Screen.blank width height)).cell? column 1 =
      (panel.boxedLine width height).cell? column 1 := by
  have last : 1 + (width - 2 - 1) = width - 2 := by omega
  rw [drawLine_eq, lineArea_inner wide, cell?_sign, last,
    if_neg fun both => back (of_decide_eq_true both.1) both.2, cell?_sign,
    if_neg fun both => front both.2]

theorem exists_mark (wide : 50 ≤ width)
    (mark : ((panel.boxedLine width height).cell? 1 1).map Cell.characters = some ['>']) :
    ∃ sign, Text.columns [sign] = 1 ∧
      ((panel.drawLine (Screen.blank width height)).cell? 1 1).map Cell.characters =
        some [sign] := by
  obtain ⟨cell, found, characters⟩ := Option.map_eq_some_iff.mp mark
  rw [drawLine_eq, lineArea_inner wide, cell?_sign, if_neg fun both => by omega, cell?_sign, found]
  split
  · exact ⟨'<', Text.columns_printable (by decide), rfl⟩
  · exact ⟨'>', Text.columns_printable (by decide), congrArg some characters⟩

/-- The clusters in sight up to one that no sign covers, behind the border.  A sign in the place of
the mark is as wide as the mark. -/
theorem exists_clustersAt_drawLine (single : Text.Single panel.line.characters) (wide : 50 ≤ width)
    (high : 10 ≤ height) {front back : List (List Char)} {last : List Char}
    (parts : panel.visibleClusters width = front ++ last :: back)
    (clear : panel.line.scroll + lineWidth width < panel.line.characters.length →
      Text.columnsOfAll front + 3 < width - 2) :
    ∃ sign, Text.columns [sign] = 1 ∧
      (panel.drawLine (Screen.blank width height)).ClustersAt 1 0
        (['│'] :: [sign] :: [' '] :: front ++ [last]) := by
  obtain ⟨barCell, behindBar⟩ := clustersAt_boxedLine single wide high
  rw [Text.columns_side] at behindBar
  obtain ⟨markCell, behind⟩ := behindBar
  rw [columns_mark] at behind
  obtain ⟨sign, signColumns, signCell⟩ := exists_mark wide markCell
  have same : ∀ column, column < Text.columnsOfAll front + 4 → column ≠ 1 →
      (panel.drawLine (Screen.blank width height)).cell? column 1 =
        (panel.boxedLine width height).cell? column 1 := by
    intro column before apart
    exact cell?_drawLine panel wide height column apart fun shown => by
      have room := clear shown
      omega
  have cut : [' '] :: (front ++ last :: back) = [' '] :: front ++ [last] ++ back := by simp
  rw [parts, cut, Screen.clustersAt_append] at behind
  have begins : 2 + Text.columnsOfAll ([' '] :: front) < Text.columnsOfAll front + 4 := by
    rw [Text.columnsOfAll, columns_space]
    omega
  refine ⟨sign, signColumns, ?_, ?_⟩
  · rw [same 0 (by omega) (by decide)]
    exact barCell
  · rw [Text.columns_side]
    refine ⟨signCell, ?_⟩
    rw [signColumns]
    exact behind.1.congr begins fun column _ before => same column before (by omega)

/-- A character in sight stands behind the border, the mark and the characters in front of it, if
there is no sign at its place. -/
theorem drawLine_showsAt (single : Text.Single panel.line.characters) (wide : 50 ≤ width)
    (high : 10 ≤ height) {index : Nat} {character : Char}
    (found : (panel.line.visible (lineWidth width))[index]? = some character)
    (clear : panel.line.scroll + lineWidth width < panel.line.characters.length →
      index + 3 < width - 2) :
    (panel.drawLine (Screen.blank width height)).ShowsAt (index + 3) 1 character := by
  rw [← flatten_visibleClusters] at found
  obtain ⟨front, before, after, back, parts, length⟩ := Text.exists_part found
  have visible := single_visible single (lineWidth width)
  rw [← flatten_visibleClusters, parts, List.flatten_append, List.flatten_cons, List.append_assoc,
    ← List.append_assoc] at visible
  have ahead : Text.Single (front.flatten ++ before) :=
    visible.of_subset (List.subset_append_left _ _)
  have frontColumns : Text.columnsOfAll front ≤ index := by
    have flat : Text.Single front.flatten := ahead.of_subset (List.subset_append_left _ _)
    rw [flat.unjoined.columnsOfAll_eq, Text.columns_of_single flat, ← length, List.length_append]
    exact Nat.le_add_right _ _
  obtain ⟨sign, signColumns, standing⟩ := exists_clustersAt_drawLine single wide high parts
    fun shown => Nat.lt_of_le_of_lt (Nat.add_le_add_right frontColumns 3) (clear shown)
  have positive := (columns_visibleClusters single width).1
  rw [parts] at positive
  obtain ⟨positiveFront, positiveBack⟩ := List.forall_mem_append.mp positive
  have positiveAll : ∀ cluster ∈
      ['│'] :: [sign] :: [' '] :: front ++ [before ++ character :: after],
      0 < Text.columns cluster := by
    refine List.forall_mem_cons.mpr ⟨?_, List.forall_mem_cons.mpr ⟨?_, ?_⟩⟩
    · exact Nat.lt_of_lt_of_eq Nat.one_pos Text.columns_side.symm
    · exact Nat.lt_of_lt_of_eq Nat.one_pos signColumns.symm
    · exact List.forall_mem_cons.mpr ⟨Nat.lt_of_lt_of_eq Nat.one_pos columns_space.symm,
        List.forall_mem_append.mpr
          ⟨positiveFront, List.forall_mem_singleton.mpr (positiveBack _ List.mem_cons_self)⟩⟩
  have column : Text.columns ((['│'] :: [sign] :: [' '] :: front).flatten ++ before) =
      index + 3 := by
    have single : Text.Single ('│' :: sign :: ' ' :: (front.flatten ++ before)) :=
      List.forall_mem_cons.mpr ⟨Text.columns_side, List.forall_mem_cons.mpr ⟨signColumns,
        List.forall_mem_cons.mpr ⟨columns_space, ahead⟩⟩⟩
    calc
      Text.columns ((['│'] :: [sign] :: [' '] :: front).flatten ++ before)
        = ('│' :: sign :: ' ' :: (front.flatten ++ before)).length := Text.columns_of_single single
      _ = index + 3 := congrArg (· + 3) length
  rw [← column]
  exact standing.showsAt positiveAll

/-- Of a line in sight of its cursor, the characters in front of the cursor are shown. -/
theorem caretColumn_eq (single : Text.Single panel.line.characters) (wide : 50 ≤ width)
    (within : panel.line.Within) (inSight : panel.line.InSight (width - 4)) :
    panel.caretColumn width = panel.line.cursor - panel.line.scroll + 3 := by
  have inside : panel.line.cursor ≤ panel.line.characters.length := within
  obtain ⟨notBefore, notBehind, filled⟩ := inSight
  have before : Text.Single ((panel.line.visible (lineWidth width)).take
      (panel.line.cursor - panel.line.scroll)) :=
    (single_visible single _).of_subset (List.take_subset _ _)
  have mark : promptMark.length = 2 := by decide
  rw [caretColumn, lineArea_inner wide]
  dsimp only
  rw [Text.columns_of_single before, mark, List.length_take, InputLine.visible, List.length_take,
    List.length_drop, lineWidth_eq]
  omega

/-- Of a line in sight of its cursor, the character in front of the cursor stands in front of the
caret. -/
theorem exists_showsAt_cursor (single : Text.Single panel.line.characters) (wide : 50 ≤ width)
    (high : 10 ≤ height) (within : panel.line.Within) (inSight : panel.line.InSight (width - 4))
    (behind : panel.line.scroll < panel.line.cursor) :
    ∃ character, panel.line.characters[panel.line.cursor - 1]? = some character ∧
      (panel.drawLine (Screen.blank width height)).ShowsAt
        (panel.line.cursor - panel.line.scroll + 3 - 1) 1 character := by
  have inside : panel.line.cursor ≤ panel.line.characters.length := within
  have before : panel.line.cursor - 1 < panel.line.characters.length := by omega
  obtain ⟨notBefore, notBehind, filled⟩ := inSight
  refine ⟨_, List.getElem?_eq_getElem before, ?_⟩
  have place : panel.line.cursor - panel.line.scroll - 1 + 3 =
      panel.line.cursor - panel.line.scroll + 3 - 1 := by omega
  have offset : panel.line.scroll + (panel.line.cursor - panel.line.scroll - 1) =
      panel.line.cursor - 1 := by omega
  rw [← place]
  apply drawLine_showsAt single wide high
  · rw [InputLine.visible, lineWidth_eq, List.getElem?_take_of_lt (by omega), List.getElem?_drop,
      offset, List.getElem?_eq_getElem before]
  · rw [lineWidth_eq]
    omega

/-- On every screen that shows the line, the caret stands on its row.  With a line of single columns
it is behind the mark and not behind the border; it stands on the border exactly if the cursor is
behind the last character and the line fills the box.  In front of the caret is the character in
front of the cursor, if that is in sight. -/
theorem draw_caret (panel : Panel) (inUse : InUse panel) (hidden : panel.helpShown = false)
    (single : ∀ character ∈ panel.line.characters, Text.columnsOf character = 1)
    (width height : Nat) (wide : 50 ≤ width) (high : 10 ≤ height) :
    ∃ column, (panel.draw width height).2.caret = some (column, 1) ∧
      3 ≤ column ∧ column ≤ width - 1 ∧
      (column ≤ width - 2 ↔
        ¬(panel.line.cursor = panel.line.characters.length ∧
          width - 4 ≤ panel.line.characters.length)) ∧
      ((panel.draw width height).1.line.scroll < panel.line.cursor →
        ∃ character, panel.line.characters[panel.line.cursor - 1]? = some character ∧
          (panel.draw width height).2.screen.ShowsAt (column - 1) 1 character) := by
  have within := inUse.valid.within
  have shown : (panel.helpShown || !fits width height) = false := by
    rw [hidden, fits_iff.mpr ⟨wide, high⟩]
    rfl
  have frame := draw_of_shown shown
  obtain ⟨_, characters, cursor, _⟩ := settle_differsInSight panel width height
  have inSight : (panel.settle width height).line.InSight (width - 4) := by
    rw [settle_line shown, lineWidth_eq]
    exact InputLine.follow_inSight within (by omega)
  have length := congrArg List.length characters
  have inside : panel.line.cursor ≤ panel.line.characters.length := within
  have settledWithin : (panel.settle width height).line.Within := by
    unfold InputLine.Within
    rw [cursor, characters]
    exact inside
  have settledSingle : Text.Single (panel.settle width height).line.characters :=
    characters.symm ▸ single
  have column := caretColumn_eq settledSingle wide settledWithin inSight
  have shows := exists_showsAt_cursor settledSingle wide high settledWithin inSight
  obtain ⟨notBefore, notBehind, filled⟩ := inSight
  rw [cursor] at column notBefore notBehind shows
  rw [length] at notBehind filled
  refine ⟨panel.line.cursor - (panel.settle width height).line.scroll + 3, ?_, by omega, by omega,
    by omega, ?_⟩
  · rw [frame, mainPicture, lineArea_inner wide, column]
  · intro behind
    obtain ⟨character, found, showsAt⟩ := shows behind
    rw [characters] at found
    rw [frame]
    exact ⟨character, found, (mainPicture_agree _ width height).showsAt showsAt⟩

end Frames

/-- A new panel in which a text has been typed. -/
def typed (text : String) : Panel :=
  (start (Session.start Calculator.standard)).run (typing text)

theorem typed_inUse (text : String) : InUse (typed text) :=
  (InUse.start Calculator.standard []).run _

/-- The caret behind a short line, with its last character in front of it. -/
theorem draw_caret_sum :
    InUse (typed "12+3") ∧ (typed "12+3").helpShown = false ∧
      (∀ character ∈ (typed "12+3").line.characters, Text.columnsOf character = 1) ∧
      ((typed "12+3").draw 50 10).2.caret = some (7, 1) ∧
      ((typed "12+3").draw 50 10).2.screen.ShowsAt 6 1 '3' := by
  have hidden : (typed "12+3").helpShown = false := by decide +kernel
  have single : Text.Single (typed "12+3").line.characters := .of_all (by decide +kernel)
  obtain ⟨column, caret, _, _, _, shows⟩ :=
    draw_caret _ (typed_inUse "12+3") hidden single 50 10 (by decide) (by decide)
  have place : ((typed "12+3").draw 50 10).2.caret = some (7, 1) := by decide +kernel
  obtain rfl : column = 7 := by simpa using caret.symm.trans place
  obtain ⟨character, found, showsAt⟩ := shows (by decide +kernel)
  have last : (typed "12+3").line.characters[(typed "12+3").line.cursor - 1]? = some '3' := by
    decide +kernel
  rw [found, Option.some.injEq] at last
  rw [last] at showsAt
  exact ⟨typed_inUse _, hidden, single, place, showsAt⟩

/-- Behind a line of 46 characters on the smallest screen the caret stands on the border. -/
theorem draw_caret_border :
    ¬ ∀ (panel : Panel) (width height : Nat), InUse panel → panel.helpShown = false →
      (∀ character ∈ panel.line.characters, Text.columnsOf character = 1) →
      50 ≤ width → 10 ≤ height →
      ∃ column, (panel.draw width height).2.caret = some (column, 1) ∧
        1 ≤ column ∧ column ≤ width - 2 ∧
        ((panel.draw width height).1.line.scroll < panel.line.cursor →
          ∃ character, panel.line.characters[panel.line.cursor - 1]? = some character ∧
            (panel.draw width height).2.screen.ShowsAt (column - 1) 1 character) := by
  intro claim
  have single : Text.Single
      (typed "1234567890123456789012345678901234567890123456").line.characters :=
    .of_all (by decide +kernel)
  obtain ⟨column, caret, _, inside, _⟩ := claim _ 50 10
    (typed_inUse "1234567890123456789012345678901234567890123456") (by decide +kernel) single
    (by decide) (by decide)
  have border : ((typed "1234567890123456789012345678901234567890123456").draw 50 10).2.caret =
      some (49, 1) := by decide +kernel
  obtain rfl : column = 49 := by simpa using caret.symm.trans border
  exact absurd inside (by decide)

end Panel

end Reckoner
