import Reckoner.Proofs.Panel.History
import Reckoner.Proofs.Panel.Recall
import Reckoner.Proofs.Panel.Redrawing
import Reckoner.Proofs.Terminal.Widget

/-!
# What is in sight of the history

A frame shows some rows of the history, one below the other, and each of them looks as if it stood
alone in the box (`Panel.ShowsRow`).  The entry that is selected is always in sight with its first
row, however far the wheel has scrolled, and an entry that has just been added is shown from its
first row on, as far as there is room (`Panel.draw_sight`).

The rows of an entry depend on its duration, which is measured while the panel is in use: `InUse`
allows for any.
-/

namespace Reckoner

open Terminal (Area Box Line Screen Span Style)

namespace Panel

variable {panel : Panel} {width height : Nat}

/-! ## New entries -/

/-- The panel with the duration of the last entry. -/
def timeLast (panel : Panel) (nanoseconds : Nat) : Panel :=
  { panel with session := panel.session.timeLast nanoseconds }

theorem length_history_timeLast (panel : Panel) (nanoseconds : Nat) :
    (panel.timeLast nanoseconds).session.history.length = panel.session.history.length :=
  List.length_modify _ _ _

theorem Valid.selected_lt (valid : Valid panel) (nonempty : panel.session.history ≠ []) :
    panel.selected < panel.session.history.length := by
  have some := List.length_pos_iff.mpr nonempty
  have selected := valid.selected
  omega

/-- Entering a line that is evaluated adds an entry, selects it and asks for the end of the
history. -/
theorem enter_of_evaluated (hidden : panel.helpShown = false)
    (evaluated : (panel.session.submit panel.line.text).1 = .evaluated) (modifiers : Modifiers) :
    ∃ entry, (panel.key modifiers .enter).session.history = panel.session.history ++ [entry] ∧
      (panel.key modifiers .enter).selected = panel.session.history.length ∧
      (panel.key modifiers .enter).toBottom = true := by
  have entered : panel.key modifiers .enter = panel.submit :=
    if_neg (Bool.eq_false_iff.mp hidden)
  rw [entered]
  rcases panel.session.submit_cases panel.line.text with
    ⟨request, _, _, submitted⟩ | submitted | ⟨outcome, notNew, _, submitted⟩
  · refine ⟨panel.session.added request, ?_⟩
    unfold submit
    rw [submitted]
    refine ⟨rfl, ?_, rfl⟩
    change (panel.session.evaluate request).history.length - 1 = _
    rw [Session.evaluate_history, List.length_append, List.length_singleton, Nat.add_sub_cancel]
  · rw [submitted] at evaluated
    cases evaluated
  · rw [submitted] at evaluated
    exact absurd evaluated notNew

/-! ## Sizes -/

/-- A frame of this size shows the history, and there are entries in it. -/
structure ShowsHistory (panel : Panel) (width height : Nat) : Prop where
  hidden : panel.helpShown = false
  nonempty : panel.session.history ≠ []
  wide : 50 ≤ width
  high : 10 ≤ height

namespace ShowsHistory

theorem fits (showsHistory : panel.ShowsHistory width height) : fits width height = true :=
  fits_iff.mpr ⟨showsHistory.wide, showsHistory.high⟩

theorem shown (showsHistory : panel.ShowsHistory width height) :
    (panel.helpShown || !Panel.fits width height) = false := by
  rw [showsHistory.hidden, showsHistory.fits]
  rfl

theorem isEmpty_eq (showsHistory : panel.ShowsHistory width height) :
    panel.session.history.isEmpty = false :=
  List.isEmpty_eq_false_iff.mpr showsHistory.nonempty

theorem inner_width (showsHistory : panel.ShowsHistory width height) :
    0 < (historyArea width height).inner.width := by
  have wide := showsHistory.wide
  change 0 < width - 2
  omega

theorem inner_height (showsHistory : panel.ShowsHistory width height) :
    0 < (historyArea width height).inner.height := by
  have high := showsHistory.high
  change 0 < height - 4 - 2
  omega

end ShowsHistory

/-! ## Panels in use -/

section Sight

variable [Text.Widths]

/-- A state to which events lead, where the evaluations may have taken any time. -/
inductive InUse : Panel → Prop where
  | start (calculator : Calculator) (calls : List Session.Call) :
      InUse (start ((Session.start calculator).run calls).2)
  | handle {panel : Panel} (event : Event) : InUse panel → InUse (panel.handle event)
  | timeLast {panel : Panel} (nanoseconds : Nat) : InUse panel → InUse (panel.timeLast nanoseconds)

theorem InUse.valid (inUse : InUse panel) : Valid panel := by
  induction inUse with
  | start calculator calls => exact start_valid _
  | handle event _ induction => exact induction.handle event
  | @timeLast panel nanoseconds _ induction =>
      refine ⟨induction.within, ?_, induction.helpScroll⟩
      rw [length_history_timeLast]
      exact induction.selected

theorem InUse.worded (inUse : InUse panel) : panel.session.Worded := by
  induction inUse with
  | start calculator calls =>
      have atStart : (Session.start calculator).Worded := nofun
      exact atStart.run calls
  | @handle panel event _ induction =>
      rcases handle_session panel event with same | submitted
      · rw [same]
        exact induction
      · rw [submitted]
        exact induction.submit panel.line.text
  | timeLast nanoseconds _ induction => exact induction.timeLast nanoseconds

/-- The history of a panel in use can be replayed. -/
theorem InUse.replayable (inUse : InUse panel) :
    ∃ calculator, Session.Replayable calculator panel.session := by
  induction inUse with
  | start calculator calls =>
      exact ⟨calculator, (Session.start_replayable calculator).run calls⟩
  | @handle panel event _ induction =>
      obtain ⟨calculator, replayable⟩ := induction
      rcases handle_session panel event with same | submitted
      · rw [same]
        exact ⟨calculator, replayable⟩
      · rw [submitted]
        exact ⟨calculator, replayable.answer (.submit panel.line.text)⟩
  | timeLast nanoseconds _ induction =>
      obtain ⟨calculator, replayable⟩ := induction
      exact ⟨calculator, replayable.timeLast nanoseconds⟩

theorem InUse.run (inUse : InUse panel) (events : List Event) : InUse (panel.run events) := by
  induction events generalizing panel with
  | nil => exact inUse
  | cons event events induction => exact induction (inUse.handle event)

/-! ## The box of the history -/

def historyBox (panel : Panel) : Box :=
  let title := " History (" ++ toString panel.session.history.length ++ ") "
  ⟨.single, faint, .plain, Span.ofText title .plain⟩

/-- The style laid over the first row of the selected entry. -/
def selectedStyle : Style :=
  { Style.plain with background := some .darkGray }.inBold

/-- The screen of a panel with the box of the history, in which nothing stands. -/
def emptyHistory (panel : Panel) (width height : Nat) : Screen :=
  panel.historyBox.draw (drawHints (panel.drawLine (Screen.blank width height)))
    (historyArea width height)

/-- The rows of the entries as a screen of this size shows them. -/
def blocks (panel : Panel) (width height : Nat) : List (List Line) :=
  panel.entryBlocks (historyArea width height).inner.width

/-- All rows of the history as a screen of this size lists them. -/
def listRows (panel : Panel) (width height : Nat) : List Line :=
  historyRows (historyArea width height).inner.width (panel.blocks width height)

/-- The row on which the selected entry starts. -/
def selectedRow (panel : Panel) (width height : Nat) : Nat :=
  rowsAbove (panel.blocks width height) panel.selected

/-- A row of the box shows the line in a frame, as if nothing else stood in the box; it may be
highlighted. -/
structure ShowsRow (panel : Panel) (width height place : Nat) (highlighted : Bool) (row : Line) :
    Prop where
  inside : place < (historyArea width height).inner.height
  agree : Screen.Agree ((historyArea width height).inner.y + place)
    (panel.draw width height).2.screen
    (((panel.draw width height).1.emptyHistory width height).writeListRow
      (historyArea width height).inner selectedStyle highlighted place row)

theorem keepsSize_drawLine (panel : Panel) : Screen.KeepsSize panel.drawLine := by
  have sameSize (screen : Screen) :
      ∃ draw, Screen.KeepsSize draw ∧ panel.drawLine screen = draw screen := by
    unfold drawLine
    rcases panel.lineTitle with ⟨color, title⟩
    have mark (condition : Bool) (x y : Nat) (character : Char) : Screen.KeepsSize fun screen =>
        if condition then screen.put x y [character] faint else screen :=
      .ite (Screen.onRow_put x y [character] faint).toKeepsSize .id
    exact ⟨_, (Box.keepsSize_draw _ (lineArea screen.width)).comp
      ((Screen.keepsSize_writeLines _ _ _).comp ((mark _ _ _ _).comp (mark _ _ _ _))), rfl⟩
  constructor
  · intro screen
    obtain ⟨draw, keepsSize, same⟩ := sameSize screen
    rw [same, keepsSize.width]
  · intro screen
    obtain ⟨draw, keepsSize, same⟩ := sameSize screen
    rw [same, keepsSize.height]

theorem keepsSize_drawHints : Screen.KeepsSize drawHints where
  width screen := (Screen.keepsSize_writeLines (hintArea screen.width) _ _).width screen
  height screen := (Screen.keepsSize_writeLines (hintArea screen.width) _ _).height screen

/-- The history is drawn into its box. -/
theorem mainPicture_screen (nonempty : panel.session.history.isEmpty = false) (width height : Nat) :
    (panel.mainPicture width height).screen =
      (panel.emptyHistory width height).writeList (historyArea width height).inner
        (panel.listRows width height) panel.historyScroll panel.itemStarts[panel.selected]?
        selectedStyle := by
  have keepsSize := panel.keepsSize_drawLine.comp keepsSize_drawHints
  have drawn (screen : Screen) : panel.drawHistory screen = _ :=
    if_neg (Bool.eq_false_iff.mp nonempty)
  unfold mainPicture
  -- the boxes above the history leave the size of the screen, from which its area is computed
  rw [drawn, keepsSize.width, keepsSize.height]
  rfl

/-! ## Frames that show the history -/

theorem length_blocks (panel : Panel) (width height : Nat) :
    (panel.blocks width height).length = panel.session.history.length :=
  List.length_mapIdx

theorem blocks_getElem? {index : Nat} {entry : Entry}
    (found : panel.session.history[index]? = some entry) :
    (panel.blocks width height)[index]? =
      some (entryRows panel.session ((historyArea width height).inner.width - margin)
        (index == panel.selected) entry) := by
  rw [blocks, entryBlocks, List.getElem?_mapIdx, found]
  rfl

theorem blocks_concat {history : List Entry} {entry : Entry}
    (concat : panel.session.history = history ++ [entry]) (width height : Nat) :
    ∃ above, panel.blocks width height =
        above ++ [entryRows panel.session ((historyArea width height).inner.width - margin)
          (history.length == panel.selected) entry] ∧
      above.length = history.length := by
  rw [blocks, entryBlocks, concat, List.mapIdx_concat]
  exact ⟨_, rfl, List.length_mapIdx⟩

namespace ShowsHistory

theorem settle_eq (showsHistory : panel.ShowsHistory width height) :
    panel.settle width height =
      { panel.edit (·.follow (lineWidth width)) with
        itemStarts := startsFrom 0 (panel.blocks width height)
        historyScroll :=
          if panel.toBottom then
            (panel.listRows width height).length - (historyArea width height).inner.height
          else panel.historyScroll
        toBottom := false
        listHeight := (historyArea width height).height } := by
  have laidOut : (panel.edit (·.follow (lineWidth width))).settleHistory width height = _ :=
    if_neg (Bool.eq_false_iff.mp showsHistory.isEmpty_eq)
  rw [settle_of_shown showsHistory.shown, laidOut]
  rfl

/-- The history is drawn as a list of all rows, with the first row of the selected entry as the
row to be kept in sight. -/
theorem screen_eq (showsHistory : panel.ShowsHistory width height) (valid : Valid panel) :
    (panel.draw width height).2.screen =
      ((panel.draw width height).1.emptyHistory width height).writeList
        (historyArea width height).inner (panel.listRows width height)
        (panel.settle width height).historyScroll (some (panel.selectedRow width height))
        selectedStyle := by
  have differs := settle_differsInSight panel width height
  have isEmpty : (panel.settle width height).session.history.isEmpty = false := by
    rw [differs.session]
    exact showsHistory.isEmpty_eq
  have picture := draw_of_shown showsHistory.shown
  have inside : panel.selected < (panel.blocks width height).length := by
    rw [length_blocks]
    exact valid.selected_lt showsHistory.nonempty
  -- the rows depend on the session and on what is selected, and a frame changes neither
  have rows : (panel.settle width height).listRows width height = panel.listRows width height := by
    rw [listRows, blocks, entryBlocks, differs.session, differs.selected]
    rfl
  have kept : (panel.settle width height).itemStarts[(panel.settle width height).selected]? =
      some (panel.selectedRow width height) := by
    rw [differs.selected, showsHistory.settle_eq]
    change (startsFrom 0 (panel.blocks width height))[panel.selected]? = _
    rw [startsFrom_getElem? inside, Nat.zero_add]
    rfl
  rw [picture, mainPicture_screen isEmpty, rows, kept]
  rfl

/-- What the list shows stands on the screen. -/
theorem showsRow (showsHistory : panel.ShowsHistory width height) (valid : Valid panel)
    {start finish place : Nat} {row : Line}
    (inList : panel.selectedRow width height < (panel.listRows width height).length)
    (shown : Terminal.Viewport.rows (panel.listRows width height).length
      (historyArea width height).inner.height (panel.settle width height).historyScroll
      (panel.selectedRow width height) = (start, finish))
    (inSight : start + place < finish)
    (found : (panel.listRows width height)[start + place]? = some row) :
    panel.ShowsRow width height place (panel.selectedRow width height = start + place) row := by
  have bounds := Terminal.Viewport.selected_inside showsHistory.inner_height inList
    (panel.settle width height).historyScroll
  rw [shown] at bounds
  refine ⟨by omega, ?_⟩
  have shownList : Terminal.Viewport.rows _ _ _
      ((some (panel.selectedRow width height)).getD 0) = (start, finish) := shown
  have agree := Screen.agree_writeList showsHistory.inner_width showsHistory.inner_height
    shownList inSight found ((panel.draw width height).1.emptyHistory width height) selectedStyle
  simp only [Option.some.injEq] at agree
  rw [showsHistory.screen_eq valid]
  exact agree

/-- The row on which the selected entry starts is in sight, highlighted. -/
theorem exists_selected (showsHistory : panel.ShowsHistory width height) (valid : Valid panel)
    {row : Line}
    (found : (panel.listRows width height)[panel.selectedRow width height]? = some row) :
    ∃ place, panel.ShowsRow width height place true row := by
  obtain ⟨inList, _⟩ := List.getElem?_eq_some_iff.mp found
  obtain ⟨notBefore, inSight, _⟩ := Terminal.Viewport.selected_inside showsHistory.inner_height
    inList (panel.settle width height).historyScroll
  rcases shown : Terminal.Viewport.rows (panel.listRows width height).length
      (historyArea width height).inner.height (panel.settle width height).historyScroll
      (panel.selectedRow width height) with ⟨start, finish⟩
  rw [shown] at notBefore inSight
  have place : start + (panel.selectedRow width height - start) =
      panel.selectedRow width height := Nat.add_sub_cancel' notBefore
  have showsRow := showsHistory.showsRow valid inList shown (place.symm ▸ inSight)
    (place.symm ▸ found)
  rw [place, decide_eq_true rfl] at showsRow
  exact ⟨_, showsRow⟩

/-- The last entry is shown from its first row on, if it is selected and the end of the history is
asked for. -/
theorem exists_newest (showsHistory : panel.ShowsHistory width height) (valid : Valid panel)
    {history : List Entry} {entry : Entry} (concat : panel.session.history = history ++ [entry])
    (selected : panel.selected = history.length) (toBottom : panel.toBottom = true)
    {rows : List Line} (nonempty : rows ≠ [])
    (rowsEq : entryRows panel.session ((historyArea width height).inner.width - margin) true entry =
      rows) :
    ∃ top, top + min rows.length (historyArea width height).inner.height ≤
        (historyArea width height).inner.height ∧
      ((historyArea width height).inner.height < rows.length → top = 0) ∧
      ∀ place row, place < (historyArea width height).inner.height → rows[place]? = some row →
        panel.ShowsRow width height (top + place) (place = 0) row := by
  obtain ⟨above, blocks, length⟩ := blocks_concat concat width height
  rw [← selected, beq_self_eq_true, rowsEq] at blocks
  rw [← selected] at length
  have filled := List.length_pos_iff.mpr nonempty
  have count : (panel.listRows width height).length =
      panel.selectedRow width height + rows.length := by
    rw [listRows, selectedRow, blocks, length_historyRows, length]
  have scroll : (panel.settle width height).historyScroll =
      (panel.listRows width height).length - (historyArea width height).inner.height := by
    rw [showsHistory.settle_eq]
    exact if_pos toBottom
  have inList : panel.selectedRow width height < (panel.listRows width height).length := by
    omega
  -- scrolled to the end, and the entry is the last one: nothing stands below it
  obtain ⟨notBefore, inSight, few, onTop⟩ := Terminal.Viewport.rows_at_end
    showsHistory.inner_height filled (panel.selectedRow width height)
  rw [← count, ← scroll] at notBefore inSight few onTop
  rcases shown : Terminal.Viewport.rows (panel.listRows width height).length
      (historyArea width height).inner.height (panel.settle width height).historyScroll
      (panel.selectedRow width height) with ⟨start, finish⟩
  rw [shown] at notBefore inSight few onTop
  dsimp only at notBefore inSight few onTop
  refine ⟨panel.selectedRow width height - start, by omega, by omega, ?_⟩
  intro place row inside found
  obtain ⟨inRows, _⟩ := List.getElem?_eq_some_iff.mp found
  have row_eq : start + (panel.selectedRow width height - start + place) =
      panel.selectedRow width height + place := by
    omega
  have block : (panel.blocks width height)[panel.selected]? = some rows := by
    rw [blocks, ← length, List.getElem?_concat_length]
  have rowFound := historyRows_getElem? (historyArea width height).inner.width block inRows
  rw [found] at rowFound
  have showsRow := showsHistory.showsRow valid inList shown (by omega) (row_eq ▸ rowFound)
  have first : (panel.selectedRow width height =
      start + (panel.selectedRow width height - start + place)) = (place = 0) := by
    rw [row_eq, Nat.left_eq_add]
  simp only [first] at showsRow
  exact showsRow

end ShowsHistory

/-! ## The selected entry and the newest one -/

/-- The selected entry has a first row, and this is a row of the list. -/
theorem InUse.exists_selected_row (inUse : InUse panel) (nonempty : panel.session.history ≠ [])
    (width height : Nat) :
    ∃ row rest, (panel.blocks width height)[panel.selected]? = some (row :: rest) ∧
      (panel.listRows width height)[panel.selectedRow width height]? = some row := by
  have inside := inUse.valid.selected_lt nonempty
  have worded := inUse.worded _ (List.getElem_mem inside)
  obtain ⟨row, rest, rows⟩ := List.exists_cons_of_ne_nil
    (entryRows_ne_nil panel.session ((historyArea width height).inner.width - margin)
      (panel.selected == panel.selected) worded)
  have block := @blocks_getElem? panel width height _ _ _ (List.getElem?_eq_getElem inside)
  rw [rows] at block
  refine ⟨row, rest, block, ?_⟩
  exact @historyRows_getElem? _ _ _ 0 _ block (Nat.succ_pos _)

/-- A frame notes on which row each entry starts: below the rows of the entries above and a rule for
each of them.  It shows the first row of the selected entry, highlighted, wherever the wheel has
scrolled to.  After a line that was evaluated has been entered, it shows the rows of the new entry
from the first on, all of them or, if there are more than the box has room for, as many as fill
it. -/
theorem draw_sight (panel : Panel) (inUse : InUse panel) (hidden : panel.helpShown = false)
    (nonempty : panel.session.history ≠ []) (width height : Nat) (wide : 50 ≤ width)
    (high : 10 ≤ height) :
    let starts := (panel.draw width height).1.itemStarts
    let inner := (historyArea width height).inner
    starts.length = panel.session.history.length ∧
      (∀ index < panel.session.history.length,
        starts[index]? = some (rowsAbove (panel.blocks width height) index)) ∧
      starts.Pairwise (· < ·) ∧
      (∃ place row rest, (panel.blocks width height)[panel.selected]? = some (row :: rest) ∧
        panel.ShowsRow width height place true row) ∧
      ∀ (before : Panel) (modifiers : Modifiers) (nanoseconds : Nat),
        before.helpShown = false →
        (before.session.submit before.line.text).1 = .evaluated →
        panel = (before.key modifiers .enter).timeLast nanoseconds →
          ∃ entry top, panel.session.history = before.session.history ++ [entry] ∧
            let rows := entryRows panel.session (inner.width - margin) true entry
            top + min rows.length inner.height ≤ inner.height ∧
              (inner.height < rows.length → top = 0) ∧
              ∀ place row, place < inner.height → rows[place]? = some row →
                panel.ShowsRow width height (top + place) (place = 0) row := by
  intro starts inner
  have showsHistory : panel.ShowsHistory width height := ⟨hidden, nonempty, wide, high⟩
  have startsEq : starts = startsFrom 0 (panel.blocks width height) :=
    congrArg itemStarts showsHistory.settle_eq
  obtain ⟨row, rest, block, rowFound⟩ := inUse.exists_selected_row nonempty width height
  refine ⟨?_, ?_, ?_, ?_, ?_⟩
  · rw [startsEq, length_startsFrom, length_blocks]
  · intro index inside
    rw [← length_blocks panel width height] at inside
    rw [startsEq, startsFrom_getElem? inside, Nat.zero_add]
  · rw [startsEq]
    exact startsFrom_increasing 0 _
  · obtain ⟨place, showsRow⟩ := showsHistory.exists_selected inUse.valid rowFound
    exact ⟨place, row, rest, block, showsRow⟩
  · intro before modifiers nanoseconds beforeHidden evaluated panelEq
    obtain ⟨entry, history, selected, toBottom⟩ :=
      enter_of_evaluated beforeHidden evaluated modifiers
    have timed := Session.timeLast_of_concat history nanoseconds
    have concat : panel.session.history =
        before.session.history ++ [{ entry with nanoseconds := nanoseconds }] := by
      rw [panelEq]
      exact congrArg Session.history timed
    have panelSelected : panel.selected = before.session.history.length := by
      rw [panelEq]
      exact selected
    have panelToBottom : panel.toBottom = true := by
      rw [panelEq]
      exact toBottom
    have worded := inUse.worded { entry with nanoseconds := nanoseconds } (by simp [concat])
    obtain ⟨top, newest⟩ := showsHistory.exists_newest inUse.valid concat panelSelected
      panelToBottom (entryRows_ne_nil panel.session (inner.width - margin) true worded) rfl
    exact ⟨_, top, concat, newest⟩

end Sight

/-- An entry with a step, in the smallest box that shows it. -/
theorem draw_sight_power :
    let before := (start (Session.start Calculator.standard)).run (typing "details 2 ^ 10")
    let panel := (before.key .none .enter).timeLast 1500000
    let inner := (historyArea 50 10).inner
    InUse panel ∧ panel.helpShown = false ∧ panel.session.history ≠ [] ∧
      before.helpShown = false ∧ (before.session.submit before.line.text).1 = .evaluated ∧
      ∃ entry top, panel.session.history = before.session.history ++ [entry] ∧
        let rows := entryRows panel.session (inner.width - margin) true entry
        top + min rows.length inner.height ≤ inner.height ∧
          ∀ place row, place < inner.height → rows[place]? = some row →
            panel.ShowsRow 50 10 (top + place) (place = 0) row := by
  intro before panel inner
  have inUse : InUse panel :=
    .timeLast _ (.handle (.key .none .enter) ((InUse.start .standard []).run _))
  have hidden : panel.helpShown = false := by decide +kernel
  have nonempty : panel.session.history ≠ [] := by
    apply List.length_pos_iff.mp
    decide +kernel
  have beforeHidden : before.helpShown = false := by decide +kernel
  have evaluated : (before.session.submit before.line.text).1 = .evaluated := by decide +kernel
  have sight := draw_sight panel inUse hidden nonempty 50 10 (by decide) (by decide)
  obtain ⟨entry, top, history, inside, _, shows⟩ :=
    sight.2.2.2.2 before .none 1500000 beforeHidden evaluated rfl
  exact ⟨inUse, hidden, nonempty, beforeHidden, evaluated, entry, top, history, inside, shows⟩

end Panel

end Reckoner
