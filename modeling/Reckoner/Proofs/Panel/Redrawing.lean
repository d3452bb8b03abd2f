import Reckoner.Panel.Frame
import Reckoner.Proofs.Panel.Editing

/-!
# Drawing again

A frame takes the panel to a state that the screen can show, and in such a state another frame of the
same size changes nothing.  The cursor has come in sight from wherever the line was scrolled, and
then the line need not scroll (`InputLine.InSight.follow_eq`); and the history has scrolled to its
end if it was asked to, and is asked no more.  So the pictures are the same, and the panel can be
drawn as often as one likes while no key is pressed.

A frame moves what is in sight, and nothing else (`Panel.DiffersInSight`).
-/

namespace Reckoner

namespace InputLine

/-- The cursor is in sight, or directly behind the last character when the line has scrolled to its
end, and no room is left empty while characters are out of sight. -/
structure InSight (line : InputLine) (width : Nat) : Prop where
  notBefore : line.scroll ≤ line.cursor
  notBehind : line.cursor < line.scroll + width ∨
    line.cursor = line.scroll + width ∧ line.scroll = line.characters.length - width
  filled : line.scroll ≤ line.characters.length - width

variable {line : InputLine} {width : Nat}

theorem follow_inSight (within : line.Within) (room : 0 < width) :
    (line.follow width).InSight width := by
  have inside : line.cursor ≤ line.characters.length := within
  unfold follow
  dsimp only
  split
  · constructor <;> dsimp only <;> omega
  · split
    · constructor <;> dsimp only <;> omega
    · constructor <;> dsimp only <;> omega

/-- A line that is in sight does not scroll. -/
theorem InSight.follow_eq (inSight : line.InSight width) : line.follow width = line := by
  obtain ⟨notBefore, notBehind, filled⟩ := inSight
  have scroll : (line.follow width).scroll = line.scroll := by
    unfold follow
    dsimp only
    rw [if_neg (Nat.not_lt_of_le notBefore)]
    split <;> omega
  calc
    line.follow width = { line with scroll := (line.follow width).scroll } := rfl
    _ = line := by rw [scroll]

/-- The cursor stands right of what is in sight only behind the last character. -/
theorem InSight.eq_length (inSight : line.InSight width) (within : line.Within)
    (right : line.cursor = line.scroll + width) : line.cursor = line.characters.length := by
  have inside : line.cursor ≤ line.characters.length := within
  rcases inSight.notBehind with before | ⟨_, toEnd⟩
  · exact absurd right (Nat.ne_of_lt before)
  · omega

/-- Wherever the line was scrolled, it scrolls so that the cursor is in sight, or directly behind the
last character, and leaves no room empty while characters are out of sight.  Then it scrolls no
further, and a line that was scrolled like this stays as it is.  No difference that is taken on the
way is negative. -/
theorem follow_settles (line : InputLine) {width : Nat} (within : line.Within)
    (room : 0 < width) :
    let after := line.follow width
    (after.characters = line.characters ∧ after.cursor = line.cursor) ∧
      (after.scroll ≤ line.cursor ∧ line.cursor ≤ after.scroll + width ∧
        (line.cursor = after.scroll + width → line.cursor = line.characters.length)) ∧
      after.scroll ≤ line.characters.length - width ∧
      after.follow width = after ∧
      (line.scroll ≤ line.cursor → line.cursor < line.scroll + width →
        line.scroll ≤ line.characters.length - width → after = line) ∧
      line.follow? width = some after := by
  intro after
  have inSight : after.InSight width := follow_inSight within room
  have reached : line.cursor ≤ after.scroll + width := by
    rcases inSight.notBehind with before | ⟨behind, _⟩
    · exact Nat.le_of_lt before
    · exact Nat.le_of_eq behind
  refine ⟨⟨rfl, rfl⟩, ⟨inSight.notBefore, reached, inSight.eq_length within⟩, inSight.filled,
    inSight.follow_eq, ?_, follow?_eq line width⟩
  intro notBefore before filled
  exact InSight.follow_eq ⟨notBefore, .inl before, filled⟩

/-- A line of ten characters, scrolled as far as a longer one, comes back; one that shows its cursor
stays. -/
theorem follow_settles_stale :
    let stale : InputLine := ⟨"1234567890".toList, 10, 30⟩
    let settled : InputLine := ⟨"1234567890".toList, 7, 5⟩
    stale.Within ∧ (stale.follow 4).scroll = 6 ∧
      (stale.follow 4).follow 4 = stale.follow 4 ∧ stale.follow? 4 = some (stale.follow 4) ∧
      settled.Within ∧ settled.follow 4 = settled := by
  intro stale settled
  have staleWithin : stale.Within := (by decide : 10 ≤ "1234567890".toList.length)
  have settledWithin : settled.Within := (by decide : 7 ≤ "1234567890".toList.length)
  obtain ⟨_, _, _, again, _, defined⟩ := follow_settles stale staleWithin (by decide : 0 < 4)
  obtain ⟨_, _, _, _, kept, _⟩ := follow_settles settled settledWithin (by decide : 0 < 4)
  exact ⟨staleWithin, by decide, again, defined, settledWithin,
    kept (by decide) (by decide) (by decide)⟩

end InputLine

namespace Panel

variable {panel : Panel} {width height : Nat}

theorem fits_iff : fits width height = true ↔ 50 ≤ width ∧ 10 ≤ height := by
  unfold fits leastWidth leastHeight
  rw [Bool.and_eq_true, decide_eq_true_eq, decide_eq_true_eq]

theorem lineWidth_eq (width : Nat) : lineWidth width = width - 4 :=
  Nat.sub_sub width 2 2

/-- The other panel differs at most in what is in sight: how far the line and the history are
scrolled, whether the history has still to be, and how its rows are laid out. -/
structure DiffersInSight (panel other : Panel) : Prop where
  session : other.session = panel.session
  characters : other.line.characters = panel.line.characters
  cursor : other.line.cursor = panel.line.cursor
  selected : other.selected = panel.selected
  leaving : other.leaving = panel.leaving
  helpShown : other.helpShown = panel.helpShown
  helpScroll : other.helpScroll = panel.helpScroll

theorem DiffersInSight.refl (panel : Panel) : panel.DiffersInSight panel :=
  ⟨rfl, rfl, rfl, rfl, rfl, rfl, rfl⟩

section Frames

variable [Text.Widths]

/-- A panel that shows no line and no history stays as it is. -/
theorem settle_of_covered (covered : (panel.helpShown || !fits width height) = true) :
    panel.settle width height = panel :=
  if_pos covered

theorem settle_of_shown (shown : (panel.helpShown || !fits width height) = false) :
    panel.settle width height =
      { (panel.edit (·.follow (lineWidth width))).settleHistory width height with
        listHeight := (historyArea width height).height } :=
  if_neg (Bool.eq_false_iff.mp shown)

/-- The history is laid out for the size, and does not ask to be scrolled to its end. -/
structure LaidOut (panel : Panel) (width height : Nat) : Prop where
  itemStarts : panel.itemStarts =
    startsFrom 0 (panel.entryBlocks (historyArea width height).inner.width)
  toBottom : panel.toBottom = false

theorem settleHistory_laidOut (nonempty : panel.session.history.isEmpty = false) :
    (panel.settleHistory width height).LaidOut width height := by
  have settled : panel.settleHistory width height = _ := if_neg (Bool.eq_false_iff.mp nonempty)
  rw [settled]
  exact ⟨rfl, rfl⟩

theorem LaidOut.settleHistory_eq (laidOut : panel.LaidOut width height) :
    panel.settleHistory width height = panel := by
  unfold settleHistory
  split
  · rfl
  · dsimp only
    rw [← laidOut.itemStarts, laidOut.toBottom, if_neg Bool.false_ne_true, ← laidOut.toBottom]

theorem settleHistory_settleHistory (panel : Panel) (width height : Nat) :
    (panel.settleHistory width height).settleHistory width height =
      panel.settleHistory width height := by
  cases empty : panel.session.history.isEmpty with
  | true =>
      have same : panel.settleHistory width height = panel := if_pos empty
      rw [same, same]
  | false => exact (settleHistory_laidOut empty).settleHistory_eq

theorem settleHistory_differsInSight (panel : Panel) (width height : Nat) :
    panel.DiffersInSight (panel.settleHistory width height) := by
  unfold settleHistory
  split
  · exact .refl panel
  · exact ⟨rfl, rfl, rfl, rfl, rfl, rfl, rfl⟩

theorem settle_differsInSight (panel : Panel) (width height : Nat) :
    panel.DiffersInSight (panel.settle width height) := by
  cases shown : panel.helpShown || !fits width height with
  | true =>
      rw [settle_of_covered shown]
      exact .refl panel
  | false =>
      rw [settle_of_shown shown]
      obtain ⟨session, characters, cursor, selected, leaving, helpShown, helpScroll⟩ :=
        settleHistory_differsInSight (panel.edit (·.follow (lineWidth width))) width height
      exact ⟨session, characters, cursor, selected, leaving, helpShown, helpScroll⟩

theorem settleHistory_listHeight (panel : Panel) (rows : Nat) :
    { panel with listHeight := rows }.settleHistory width height =
      { panel.settleHistory width height with listHeight := rows } := by
  unfold settleHistory
  split <;> rfl

theorem settleHistory_line (panel : Panel) (width height : Nat) :
    (panel.settleHistory width height).line = panel.line := by
  unfold settleHistory
  split <;> rfl

theorem settle_line (shown : (panel.helpShown || !fits width height) = false) :
    (panel.settle width height).line = panel.line.follow (lineWidth width) := by
  rw [settle_of_shown shown]
  exact settleHistory_line _ width height

/-- Where the line and the history are shown, a frame is their picture. -/
theorem draw_of_shown (shown : (panel.helpShown || !fits width height) = false) :
    (panel.draw width height).2 = (panel.settle width height).mainPicture width height := by
  obtain ⟨hidden, fit⟩ := Bool.or_eq_false_iff.mp shown
  rw [Bool.not_eq_false'] at fit
  have stillHidden : (panel.settle width height).helpShown = false :=
    (settle_differsInSight panel width height).helpShown.trans hidden
  change (panel.settle width height).picture width height = _
  rw [picture, stillHidden, fit]
  rfl

/-- A panel that has been drawn is not moved by another frame of the same size. -/
theorem settle_settle (within : panel.line.Within) (width height : Nat) :
    (panel.settle width height).settle width height = panel.settle width height := by
  cases shown : panel.helpShown || !fits width height with
  | true => rw [settle_of_covered shown, settle_of_covered shown]
  | false =>
      have stillShown : ((panel.settle width height).helpShown || !fits width height) = false := by
        rw [(settle_differsInSight panel width height).helpShown]
        exact shown
      have room : 0 < lineWidth width := by
        have fit : fits width height = true := by simpa using (Bool.or_eq_false_iff.mp shown).2
        have wide := (fits_iff.mp fit).1
        rw [lineWidth_eq]
        omega
      have line := settle_line shown
      have followed : (panel.settle width height).edit (·.follow (lineWidth width)) =
          panel.settle width height := by
        rw [edit, line, (InputLine.follow_inSight within room).follow_eq, ← line]
      rw [settle_of_shown stillShown, followed, settle_of_shown shown]
      rw [settleHistory_listHeight, settleHistory_settleHistory]

/-- A second frame of the same size shows the same picture with the caret at the same place, and
leaves the panel as the first did.  A frame changes at most what is in sight, and nothing at all
where the help is shown or the screen is too small for the line and the history. -/
theorem draw_draw (panel : Panel) (within : panel.line.cursor ≤ panel.line.characters.length)
    (width height : Nat) :
    (panel.draw width height).1.draw width height = panel.draw width height ∧
      panel.DiffersInSight (panel.draw width height).1 ∧
      (panel.helpShown = true ∨ width < 50 ∨ height < 10 → (panel.draw width height).1 = panel) := by
  refine ⟨?_, settle_differsInSight panel width height, ?_⟩
  · unfold draw
    rw [settle_settle within]
  · intro hidden
    apply settle_of_covered
    rw [Bool.or_eq_true, Bool.not_eq_true', Bool.eq_false_iff, ne_eq, fits_iff]
    refine hidden.imp_right ?_
    intro small both
    omega

end Frames

/-- A line longer than the screen is wide, with the cursor far behind what is in sight. -/
theorem draw_draw_long_line :
    let line : InputLine := ⟨List.replicate 60 '7', 60, 0⟩
    let panel : Panel := { start (Session.start Calculator.standard) with line := line }
    line.cursor ≤ line.characters.length ∧
      (panel.draw 50 10).1.draw 50 10 = panel.draw 50 10 ∧
      (panel.draw 50 10).1.line.scroll = 14 := by
  intro line panel
  have within : panel.line.cursor ≤ panel.line.characters.length := by decide
  exact ⟨within, (draw_draw panel within 50 10).1, by decide⟩

end Panel

end Reckoner
