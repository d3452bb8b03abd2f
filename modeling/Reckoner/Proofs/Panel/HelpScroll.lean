import Reckoner.Proofs.Panel.Sight

/-!
# Scrolling the help

How far the help is scrolled is counted in 64 bits, and the count stops at the greatest number
(`Panel.scrolledDown`).  A frame leaves out as many rows as the last 16 bits of the count say, and
not more than there are (`Panel.hiddenRows`).  So scrolling down hides more rows until the count
passes `2 ^ 16`; from there the help starts from the top again (`Panel.helpScrolled_hiddenRows`).
-/

namespace Reckoner

open Terminal (Area Box Glyph Screen Span Style)

namespace Panel

variable {panel : Panel} {event : Event} {width height : Nat}

/-! ## Events that scroll -/

/-- The rows that an event scrolls down in a help that is shown. -/
def Event.rowsDown : Event → Nat
  | .key _ .down => 1
  | .key _ .pageDown => helpPage
  | .wheel true => wheelRows
  | _ => 0

/-- The rows that an event scrolls up in a help that is shown. -/
def Event.rowsUp : Event → Nat
  | .key _ .up => 1
  | .key _ .pageUp => helpPage
  | .wheel false => wheelRows
  | _ => 0

def rowsDownAll : List Event → Nat
  | [] => 0
  | event :: events => event.rowsDown + rowsDownAll events

theorem rowsDownAll_replicate (count : Nat) (event : Event) :
    rowsDownAll (List.replicate count event) = count * event.rowsDown := by
  induction count with
  | zero => exact (Nat.zero_mul _).symm
  | succ count induction =>
      rw [List.replicate_succ, rowsDownAll, induction, Nat.succ_mul, Nat.add_comm]

theorem Event.rowsDown_le (event : Event) : event.rowsDown ≤ helpPage := by
  unfold Event.rowsDown
  split <;> decide

theorem Event.rowsUp_le (event : Event) : event.rowsUp ≤ helpPage := by
  unfold Event.rowsUp
  split <;> decide

theorem key_of_helpShown (shown : panel.helpShown = true) (modifiers : Modifiers) (key : Key) :
    panel.key modifiers key = panel.helpKey key :=
  if_pos shown

theorem wheel_of_helpShown (shown : panel.helpShown = true) (down : Bool) :
    panel.wheel down =
      { panel with
        helpScroll :=
          if down then scrolledDown panel.helpScroll wheelRows
          else panel.helpScroll - wheelRows } :=
  if_pos shown

/-- Scrolling down by a page at most, the count passes no multiple of `2 ^ 16`, or the rows that
are left out start anew. -/
theorem skipped_scrolledDown (scroll : Nat) {rows : Nat} (page : rows ≤ helpPage) :
    let skipped := scroll % Nat.pow 2 16
    let next := scrolledDown scroll rows % Nat.pow 2 16
    (skipped ≤ next ∨ next ≤ helpPage) ∧
      (skipped ≤ next ↔ skipped + rows < Nat.pow 2 16 ∨ Nat.pow 2 64 ≤ scroll + rows) := by
  have half : Nat.pow 2 16 = 65536 := rfl
  have all : Nat.pow 2 64 = 18446744073709551616 := rfl
  have last : scrollLimit = 18446744073709551615 := rfl
  unfold scrolledDown
  unfold helpPage at page ⊢
  dsimp only
  rw [half, all, last]
  omega

theorem skipped_scrolledUp (scroll : Nat) {rows : Nat} (page : rows ≤ helpPage) :
    let skipped := scroll % Nat.pow 2 16
    let next := (scroll - rows) % Nat.pow 2 16
    (next ≤ skipped ∨ skipped ≤ helpPage) ∧
      (next ≤ skipped ↔ rows ≤ skipped ∨ scroll < Nat.pow 2 16) := by
  have half : Nat.pow 2 16 = 65536 := rfl
  unfold helpPage at page ⊢
  dsimp only
  rw [half]
  omega

section Frames

variable [Text.Widths]

theorem handle_of_rowsDown (shown : panel.helpShown = true) (down : 0 < event.rowsDown) :
    panel.handle event =
      { panel with helpScroll := scrolledDown panel.helpScroll event.rowsDown } := by
  unfold Event.rowsDown at down
  split at down
  · exact key_of_helpShown shown _ _
  · exact key_of_helpShown shown _ _
  · exact wheel_of_helpShown shown _
  · cases down

theorem handle_of_rowsUp (shown : panel.helpShown = true) (up : 0 < event.rowsUp) :
    panel.handle event = { panel with helpScroll := panel.helpScroll - event.rowsUp } := by
  unfold Event.rowsUp at up
  split at up
  · exact key_of_helpShown shown _ _
  · exact key_of_helpShown shown _ _
  · exact wheel_of_helpShown shown _
  · cases up

/-- A run of events that scroll down adds their rows, as long as they can be counted. -/
theorem run_of_rowsDown {events : List Event} (shown : panel.helpShown = true)
    (down : ∀ event ∈ events, 0 < event.rowsDown)
    (counted : panel.helpScroll + rowsDownAll events ≤ scrollLimit) :
    panel.run events =
      { panel with helpScroll := panel.helpScroll + rowsDownAll events } := by
  induction events generalizing panel with
  | nil => rfl
  | cons event events induction =>
      obtain ⟨first, later⟩ := List.forall_mem_cons.mp down
      rw [rowsDownAll, ← Nat.add_assoc] at counted
      have scrolled : scrolledDown panel.helpScroll event.rowsDown =
          panel.helpScroll + event.rowsDown :=
        Nat.min_eq_left (Nat.le_trans (Nat.le_add_right _ _) counted)
      rw [run, handle_of_rowsDown shown first, scrolled, rowsDownAll, ← Nat.add_assoc]
      exact induction shown later counted

/-! ## Rows that a frame hides -/

def helpBox : Box :=
  ⟨.double, .colored .yellow, { Style.plain with background := some .black },
    Span.ofText " exprcalc Help " .plain⟩

/-- The rows of the help on a screen of the given width. -/
def helpRows (panel : Panel) (width : Nat) : List (List Glyph) :=
  Terminal.filledRows (width - 2) (Help.lines panel.session.environment)

/-- The rows of the help that a frame leaves out at the top. -/
def hiddenRows (panel : Panel) (width : Nat) : Nat :=
  min panel.helpRowsSkipped (panel.helpRows width).length

/-- A frame shows the help from the row behind the hidden ones on, in its box. -/
structure HidesRows (panel : Panel) (width height hidden : Nat) : Prop where
  within : hidden ≤ (panel.helpRows width).length
  screen : (panel.draw width height).2.screen =
    (helpBox.draw (Screen.blank width height) ⟨0, 0, width, height⟩).putRows
      (Area.mk 0 0 width height).inner .left ((panel.helpRows width).drop hidden)

theorem hidesRows (shown : panel.helpShown = true) (width height : Nat) :
    panel.HidesRows width height (panel.hiddenRows width) := by
  refine ⟨Nat.min_le_right _ _, ?_⟩
  have settled : panel.settle width height = panel := settle_of_covered (by rw [shown]; rfl)
  have picture : panel.picture width height = panel.helpPicture width height := if_pos shown
  have dropped : (panel.helpRows width).drop (panel.hiddenRows width) =
      (panel.helpRows width).drop panel.helpRowsSkipped := by
    rcases Nat.le_total panel.helpRowsSkipped (panel.helpRows width).length with some | all
    · rw [hiddenRows, Nat.min_eq_left some]
    · rw [hiddenRows, Nat.min_eq_right all, List.drop_length, List.drop_eq_nil_of_le all]
  rw [draw, settled, picture, dropped]
  rfl

/-- On a screen with room for a row the help has more rows than a page. -/
theorem helpPage_lt_helpRows (panel : Panel) (wide : 2 < width) :
    helpPage < (panel.helpRows width).length := by
  have lines : helpPage < (Help.lines panel.session.environment).length := by
    have first : helpPage < (Help.title :: Help.expressionLines).length := by decide
    rw [Help.lines, List.length_append, List.length_append]
    omega
  exact Nat.lt_of_lt_of_le lines (Terminal.length_le_filledRows (Nat.sub_pos_of_lt wide) _)

theorem helpRows_of_narrow (panel : Panel) (narrow : width ≤ 2) : panel.helpRows width = [] :=
  if_pos (Nat.sub_eq_zero_of_le narrow)

theorem hiddenRows_le_iff (panel scrolled : Panel) (session : scrolled.session = panel.session)
    (top : panel.helpRowsSkipped ≤ scrolled.helpRowsSkipped ∨ scrolled.helpRowsSkipped ≤ helpPage) :
    panel.hiddenRows width ≤ scrolled.hiddenRows width ↔
      width ≤ 2 ∨ panel.helpRowsSkipped ≤ scrolled.helpRowsSkipped := by
  have rows : scrolled.helpRows width = panel.helpRows width := by rw [helpRows, session]; rfl
  rw [hiddenRows, hiddenRows, rows]
  rcases Nat.lt_or_ge 2 width with wide | narrow
  · have many := panel.helpPage_lt_helpRows wide
    omega
  · rw [panel.helpRows_of_narrow narrow, List.length_nil]
    omega

theorem hiddenRows_le_handle_iff (shown : panel.helpShown = true) (down : 0 < event.rowsDown) :
    panel.hiddenRows width ≤ (panel.handle event).hiddenRows width ↔
      width ≤ 2 ∨ panel.helpRowsSkipped + event.rowsDown < Nat.pow 2 16 ∨
        Nat.pow 2 64 ≤ panel.helpScroll + event.rowsDown := by
  have handled := handle_of_rowsDown shown down
  have session : (panel.handle event).session = panel.session :=
    (congrArg Panel.session handled).trans rfl
  have skipped : (panel.handle event).helpRowsSkipped = _ := congrArg helpRowsSkipped handled
  obtain ⟨top, order⟩ := skipped_scrolledDown panel.helpScroll event.rowsDown_le
  rw [hiddenRows_le_iff panel _ session (by rw [skipped]; exact top), skipped]
  exact or_congr_right order

theorem hiddenRows_handle_le_iff (shown : panel.helpShown = true) (up : 0 < event.rowsUp) :
    (panel.handle event).hiddenRows width ≤ panel.hiddenRows width ↔
      width ≤ 2 ∨ event.rowsUp ≤ panel.helpRowsSkipped ∨ panel.helpScroll < Nat.pow 2 16 := by
  have handled := handle_of_rowsUp shown up
  have session : (panel.handle event).session = panel.session :=
    (congrArg Panel.session handled).trans rfl
  have skipped : (panel.handle event).helpRowsSkipped = _ := congrArg helpRowsSkipped handled
  obtain ⟨top, order⟩ := skipped_scrolledUp panel.helpScroll event.rowsUp_le
  rw [hiddenRows_le_iff _ panel session.symm (by rw [skipped]; exact top), skipped]
  exact or_congr_right order

/-- As long as fewer than `2 ^ 16` rows are scrolled, all of them are hidden. -/
theorem hiddenRows_run {events : List Event} (shown : panel.helpShown = true)
    (down : ∀ event ∈ events, 0 < event.rowsDown)
    (few : panel.helpScroll + rowsDownAll events < Nat.pow 2 16) (width : Nat) :
    (panel.run events).hiddenRows width =
      min (panel.helpScroll + rowsDownAll events) (panel.helpRows width).length := by
  have counted : panel.helpScroll + rowsDownAll events ≤ scrollLimit :=
    Nat.le_trans (Nat.le_of_lt few) (by decide)
  have skipped := Nat.mod_eq_of_lt few
  rw [run_of_rowsDown shown down counted, hiddenRows, helpRowsSkipped]
  dsimp only
  rw [skipped]
  rfl

/-- A frame of the help hides the rows that are left out.  An event that scrolls down hides no fewer
rows than before exactly if the count of scrolled rows passes no multiple of `2 ^ 16`, or is at its
end; an event that scrolls up hides no more rows exactly if the count passes none.  A screen too
narrow for any text hides nothing. -/
theorem helpScrolled_hiddenRows (panel : Panel) (shown : panel.helpShown = true) (event : Event)
    (scrolls : 0 < event.rowsDown ∨ 0 < event.rowsUp) (width height : Nat) :
    let scrolled := panel.handle event
    panel.HidesRows width height (panel.hiddenRows width) ∧
      scrolled.HidesRows width height (scrolled.hiddenRows width) ∧
      (0 < event.rowsDown →
        (panel.hiddenRows width ≤ scrolled.hiddenRows width ↔
          width ≤ 2 ∨ panel.helpRowsSkipped + event.rowsDown < Nat.pow 2 16 ∨
            Nat.pow 2 64 ≤ panel.helpScroll + event.rowsDown)) ∧
      (0 < event.rowsUp →
        (scrolled.hiddenRows width ≤ panel.hiddenRows width ↔
          width ≤ 2 ∨ event.rowsUp ≤ panel.helpRowsSkipped ∨
            panel.helpScroll < Nat.pow 2 16)) := by
  intro scrolled
  have stillShown : scrolled.helpShown = true := by
    rcases scrolls with down | up
    · exact (congrArg Panel.helpShown (handle_of_rowsDown shown down)).trans shown
    · exact (congrArg Panel.helpShown (handle_of_rowsUp shown up)).trans shown
  exact ⟨hidesRows shown width height, hidesRows stillShown width height,
    hiddenRows_le_handle_iff shown, hiddenRows_handle_le_iff shown⟩

end Frames

/-- A new panel with the help open, scrolled down by some pages. -/
def pagesDown (count : Nat) : Panel :=
  ((start (Session.start Calculator.standard)).handle (.key .none (.function 1))).run
    (List.replicate count (.key .none .pageDown))

theorem pagesDown_inUse (count : Nat) : InUse (pagesDown count) :=
  ((InUse.start Calculator.standard []).handle _).run _

theorem pagesDown_eq (count : Nat) (counted : count * helpPage ≤ scrollLimit) :
    pagesDown count =
      { start (Session.start Calculator.standard) with
        helpShown := true
        helpScroll := count * helpPage } := by
  have total : rowsDownAll (List.replicate count (.key .none .pageDown)) = count * helpPage :=
    rowsDownAll_replicate count _
  have scrolls : ∀ event ∈ List.replicate count (Event.key .none .pageDown),
      0 < event.rowsDown := by
    intro event member
    rw [List.eq_of_mem_replicate member]
    decide
  unfold pagesDown
  rw [run_of_rowsDown rfl scrolls (by rw [total]; exact (Nat.zero_add _).trans_le counted), total]
  exact congrArg (fun scroll => ({ start _ with helpShown := true, helpScroll := scroll } : Panel))
    (Nat.zero_add _)

/-- One more page hides one more page, as long as there is more. -/
theorem helpScrolled_hiddenRows_page :
    (pagesDown 3).helpShown = true ∧ 0 < (Event.key .none .pageDown).rowsDown ∧
      (pagesDown 3).hiddenRows 80 ≤ ((pagesDown 3).handle (.key .none .pageDown)).hiddenRows 80 := by
  have counted := pagesDown_eq 3 (by decide)
  have shown : (pagesDown 3).helpShown = true := by rw [counted]
  have few : (pagesDown 3).helpRowsSkipped + (Event.key .none .pageDown).rowsDown <
      Nat.pow 2 16 := by
    rw [counted]
    decide
  obtain ⟨_, _, down, _⟩ :=
    helpScrolled_hiddenRows (pagesDown 3) shown (.key .none .pageDown) (.inl (by decide)) 80 24
  exact ⟨shown, by decide, (down (by decide)).mpr (.inr (.inl few))⟩

/-- After 6553 pages one more page starts the help from the top again. -/
theorem helpScrolled_hiddenRows_wrapped :
    ¬ ∀ (panel : Panel) (event : Event) (width : Nat), InUse panel → panel.helpShown = true →
      (0 < event.rowsDown →
        panel.hiddenRows width ≤ (panel.handle event).hiddenRows width) ∧
      (0 < event.rowsUp →
        (panel.handle event).hiddenRows width ≤ panel.hiddenRows width) := by
  intro claim
  have counted := pagesDown_eq 6553 (by decide +kernel)
  have shown : (pagesDown 6553).helpShown = true := by rw [counted]
  have hidden := (claim (pagesDown 6553) (.key .none .pageDown) 80 (pagesDown_inUse _) shown).1
    (by decide)
  rw [hiddenRows_le_handle_iff shown (by decide), counted] at hidden
  rcases hidden with narrow | before | last
  · exact absurd narrow (by decide)
  · exact absurd before (by decide +kernel)
  · exact absurd last (by decide +kernel)

end Panel

end Reckoner
