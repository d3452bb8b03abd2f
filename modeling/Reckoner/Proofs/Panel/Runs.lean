import Reckoner.Panel.Frame
import Reckoner.Proofs.Panel.Editing
import Reckoner.Proofs.Session.Preview

/-!
# Runs of the panel

A panel is taken from one state to the next by events: keys, turns of the wheel, moves of the
cursor, and frames that are drawn.

`Panel.Valid` is what every event keeps: the cursor is inside the line, the selected entry is in the
history, and a help that is not shown is not scrolled.  A valid panel handles every event without
a look outside the line, a cut through a character or a negative difference: `Panel.handle?` is the
handler that would have no result then, and along every run it has the result of the handler of the
panel (`Panel.run_start_valid`).
-/

namespace Reckoner

namespace Panel

section Handlers

variable [Text.Widths]

inductive Event where
  | key (modifiers : Modifiers) (key : Key)
  | wheel (down : Bool)
  /-- Moves the cursor by one character, for the numbers `1` and `-1`. -/
  | move (direction : Int)
  | draw (width height : Nat)

def handle (panel : Panel) : Event → Panel
  | .key modifiers key => panel.key modifiers key
  | .wheel down => panel.wheel down
  | .move direction => panel.edit (·.move direction)
  | .draw width height => (panel.draw width height).1

def run (panel : Panel) : List Event → Panel
  | [] => panel
  | event :: events => (panel.handle event).run events

def edit? (panel : Panel) (change : InputLine → Option InputLine) : Option Panel := do
  let line ← change panel.line
  some { panel with line := line }

def previousEntry? (panel : Panel) : Option Panel := do
  let selected ←
    if 0 < panel.selected then Text.difference? panel.selected 1 else some panel.selected
  some (panel.select selected ((panel.session.history[selected]?).elim [] (·.input.toList)))

def characterKey? (panel : Panel) (modifiers : Modifiers) (character : Char) : Option Panel :=
  if modifiers.control || modifiers.alt then some (panel.characterKey modifiers character)
  else panel.edit? (·.insert? character)

def lineKey? (panel : Panel) (modifiers : Modifiers) : Key → Option Panel
  | .character character => panel.characterKey? modifiers character
  | .backspace => panel.edit? (·.backspace?)
  | .delete => panel.edit? (·.delete?)
  | .left =>
    panel.edit? fun line => if modifiers.control then line.wordLeft? else some line.left
  | .right =>
    panel.edit? fun line => if modifiers.control then line.wordRight? else some line.right
  | .up => panel.previousEntry?
  | key => some (panel.lineKey modifiers key)

def settle? (panel : Panel) (width height : Nat) : Option Panel :=
  if panel.helpShown || !fits width height then some panel
  else do
    let followed ← panel.edit? (·.follow? (lineWidth width))
    some { followed.settleHistory width height with
      listHeight := (historyArea width height).height }

/-- The handler of an event, with every index, every cut and every difference checked. -/
def handle? (panel : Panel) : Event → Option Panel
  | .key modifiers key =>
    if panel.helpShown then some (panel.helpKey key) else panel.lineKey? modifiers key
  | .wheel down => some (panel.wheel down)
  | .move direction => some (panel.edit (·.move direction))
  | .draw width height => panel.settle? width height

def run? (panel : Panel) : List Event → Option Panel
  | [] => some panel
  | event :: events => do (← panel.handle? event).run? events

end Handlers

/-- The cursor is inside the line, the selected entry in the history, and a help that is not shown
is not scrolled. -/
structure Valid (panel : Panel) : Prop where
  within : panel.line.Within
  selected : panel.selected ≤ panel.session.history.length - 1
  helpScroll : panel.helpShown = false → panel.helpScroll = 0

variable {panel : Panel} {session : Session}

theorem start_valid (session : Session) : Valid (start session) where
  within := Nat.le_refl 0
  selected := Nat.zero_le _
  helpScroll := fun _ => rfl

/-! ## One event -/

theorem Valid.edit (valid : Valid panel) (change : InputLine → InputLine)
    (within : (change panel.line).Within) : Valid (panel.edit change) where
  within := within
  selected := valid.selected
  helpScroll := valid.helpScroll

theorem Valid.clearLine (valid : Valid panel) : Valid panel.clearLine :=
  valid.edit (fun _ => .empty) (Nat.le_refl 0)

theorem Valid.select (valid : Valid panel) {selected : Nat}
    (inside : selected ≤ panel.session.history.length - 1) (characters : List Char) :
    Valid (panel.select selected characters) where
  within := Nat.le_refl _
  selected := inside
  helpScroll := valid.helpScroll

theorem Valid.openHelp (valid : Valid panel) : Valid panel.openHelp where
  within := valid.within
  selected := valid.selected
  helpScroll := fun _ => rfl

theorem Valid.leave (valid : Valid panel) : Valid { panel with leaving := true } where
  within := valid.within
  selected := valid.selected
  helpScroll := valid.helpScroll

/-- A new entry is selected; without a history the first one is, which is none. -/
theorem Valid.submit (valid : Valid panel) : Valid panel.submit := by
  unfold Panel.submit
  rcases panel.session.submit_cases panel.line.text with
    ⟨request, _, _, submitted⟩ | submitted | ⟨outcome, notNew, notCleared, submitted⟩
  · rw [submitted]
    exact ⟨Nat.le_refl 0, Nat.le_refl _, valid.helpScroll⟩
  · rw [submitted]
    exact ⟨Nat.le_refl 0, Nat.le_refl 0, valid.helpScroll⟩
  · rw [submitted]
    cases outcome with
    | ignored => exact valid
    | quit => exact valid.leave
    | help => exact valid.openHelp.clearLine
    | cleared => exact absurd rfl notCleared
    | evaluated => exact absurd rfl notNew

theorem Valid.helpKey (valid : Valid panel) (shown : panel.helpShown = true) (key : Key) :
    Valid (panel.helpKey key) := by
  have scrolled : ∀ scroll, Valid { panel with helpScroll := scroll } := by
    intro scroll
    refine ⟨valid.within, valid.selected, ?_⟩
    intro hidden
    exact absurd hidden (by simp [shown])
  have closed : Valid panel.closeHelp := ⟨valid.within, valid.selected, fun _ => rfl⟩
  unfold Panel.helpKey
  split
  · exact scrolled _
  · exact scrolled _
  · exact scrolled _
  · exact scrolled _
  · exact closed
  · exact closed
  · exact closed
  · exact valid

theorem Valid.characterKey (valid : Valid panel) (modifiers : Modifiers) (character : Char) :
    Valid (panel.characterKey modifiers character) := by
  unfold Panel.characterKey
  split
  · split
    · exact valid.clearLine
    · split
      · exact valid.leave
      · exact valid
  · split
    · exact valid
    · exact valid.edit _ (InputLine.Within.insert valid.within character)

theorem Valid.lineKey (valid : Valid panel) (modifiers : Modifiers) (key : Key) :
    Valid (panel.lineKey modifiers key) := by
  have inside := valid.selected
  cases key with
  | character character => exact valid.characterKey modifiers character
  | backspace => exact valid.edit _ valid.within.backspace
  | delete => exact valid.edit _ valid.within.delete
  | left =>
      unfold Panel.lineKey
      apply valid.edit
      split
      · exact InputLine.Within.wordLeft _
      · exact valid.within.left
  | right =>
      unfold Panel.lineKey
      apply valid.edit
      split
      · exact InputLine.Within.wordRight _
      · exact InputLine.Within.right _
  | home => exact valid.edit _ (Nat.zero_le _)
  | last => exact valid.edit _ (Nat.le_refl _)
  | up => exact valid.select (by omega) _
  | down =>
      apply valid.select
      split <;> omega
  | pageUp => exact valid.select (by omega) _
  | pageDown => exact valid.select (by omega) _
  | enter => exact valid.submit
  | escape =>
      unfold Panel.lineKey
      dsimp only
      split
      · exact valid.leave
      · exact valid.clearLine
  | function number =>
      match number with
      | 0 => exact valid
      | 1 => exact valid.openHelp
      | _ + 2 => exact valid
  | other => exact valid

theorem Valid.wheel (valid : Valid panel) (down : Bool) : Valid (panel.wheel down) := by
  unfold Panel.wheel
  dsimp only
  split
  · next shown =>
      refine ⟨valid.within, valid.selected, ?_⟩
      intro hidden
      exact absurd (shown.symm.trans hidden) nofun
  · exact ⟨valid.within, valid.selected, valid.helpScroll⟩

section Frames

variable [Text.Widths]

theorem Valid.settleHistory (valid : Valid panel) (width height : Nat) :
    Valid (panel.settleHistory width height) := by
  unfold Panel.settleHistory
  split
  · exact valid
  · exact ⟨valid.within, valid.selected, valid.helpScroll⟩

/-- A frame moves what is in sight, and nothing else. -/
theorem Valid.settle (valid : Valid panel) (width height : Nat) :
    Valid (panel.settle width height) := by
  unfold Panel.settle
  split
  · exact valid
  · have followed := valid.edit (·.follow (lineWidth width)) valid.within
    have settled := followed.settleHistory width height
    exact ⟨settled.within, settled.selected, settled.helpScroll⟩

theorem Valid.handle (valid : Valid panel) (event : Event) : Valid (panel.handle event) := by
  cases event with
  | key modifiers key =>
      change Valid (panel.key modifiers key)
      unfold Panel.key
      split
      · next shown => exact valid.helpKey shown key
      · exact valid.lineKey modifiers key
  | wheel down => exact valid.wheel down
  | move direction => exact valid.edit (·.move direction) (valid.within.move direction)
  | draw width height => exact valid.settle width height

end Frames

/-! ## Nothing fails -/

theorem edit?_eq (change : InputLine → InputLine) {change? : InputLine → Option InputLine}
    (same : change? panel.line = some (change panel.line)) :
    panel.edit? change? = some (panel.edit change) := by
  rw [edit?, same]
  rfl

theorem previousEntry?_eq (panel : Panel) : panel.previousEntry? = some panel.previousEntry := by
  unfold previousEntry?
  split
  · next later =>
      rw [Text.difference?_of_le later]
      rfl
  · next first =>
      have none : panel.selected - 1 = panel.selected := by omega
      unfold previousEntry
      rw [none]
      rfl

theorem characterKey?_eq (panel : Panel) (modifiers : Modifiers) (character : Char) :
    panel.characterKey? modifiers character = some (panel.characterKey modifiers character) := by
  unfold characterKey?
  split
  · rfl
  · next free =>
      have keys : modifiers.control = false ∧ modifiers.alt = false := by simpa using free
      have typed : panel.characterKey modifiers character = panel.edit (·.insert character) := by
        unfold characterKey
        rw [keys.1, keys.2]
        rfl
      rw [typed]
      exact edit?_eq (·.insert character) (InputLine.insert?_eq panel.line character)

theorem Valid.lineKey?_eq (valid : Valid panel) (modifiers : Modifiers) (key : Key) :
    panel.lineKey? modifiers key = some (panel.lineKey modifiers key) := by
  cases key with
  | character character => exact characterKey?_eq panel modifiers character
  | backspace => exact edit?_eq _ (InputLine.backspace?_eq panel.line)
  | delete => exact edit?_eq _ (InputLine.delete?_eq panel.line)
  | left =>
      unfold Panel.lineKey? Panel.lineKey
      apply edit?_eq
      cases modifiers.control with
      | true => exact InputLine.wordLeft?_eq valid.within
      | false => rfl
  | right =>
      unfold Panel.lineKey? Panel.lineKey
      apply edit?_eq
      cases modifiers.control with
      | true => exact InputLine.wordRight?_eq valid.within
      | false => rfl
  | up => exact previousEntry?_eq panel
  | home | last | down | pageUp | pageDown | enter | escape | function | other => rfl

variable [Text.Widths]

theorem settle?_eq (panel : Panel) (width height : Nat) :
    panel.settle? width height = some (panel.settle width height) := by
  unfold settle? settle
  split
  · rfl
  · rw [edit?_eq (·.follow (lineWidth width)) (InputLine.follow?_eq panel.line (lineWidth width))]
    rfl

/-- A valid panel handles every event without a failing check. -/
theorem Valid.handle?_eq (valid : Valid panel) (event : Event) :
    panel.handle? event = some (panel.handle event) := by
  cases event with
  | key modifiers key =>
      change (if panel.helpShown then some (panel.helpKey key) else panel.lineKey? modifiers key) =
        some (panel.key modifiers key)
      unfold Panel.key
      split
      · rfl
      · exact valid.lineKey?_eq modifiers key
  | wheel down => rfl
  | move direction => rfl
  | draw width height => exact settle?_eq panel width height

/-! ## Whole runs -/

theorem Valid.run (valid : Valid panel) (events : List Event) :
    Valid (panel.run events) ∧ panel.run? events = some (panel.run events) := by
  induction events generalizing panel with
  | nil => exact ⟨valid, rfl⟩
  | cons event events induction =>
      rw [run?, valid.handle?_eq event]
      exact induction (valid.handle event)

/-- A state to which events lead, from a new panel on a session that may have been in use. -/
def Reachable (panel : Panel) : Prop :=
  ∃ calculator calls events,
    (start ((Session.start calculator).run calls).2).run events = panel

theorem Reachable.valid (reachable : Reachable panel) : Valid panel := by
  obtain ⟨calculator, calls, events, rfl⟩ := reachable
  exact ((start_valid _).run events).1

/-- After every run of a new panel the cursor is inside the line, the first entry is selected if
there is none, and otherwise one of the history, and a help that is not shown is not scrolled.  No
event on the way asks for a character outside the line, cuts through a character or takes a negative
difference. -/
theorem run_start_valid (session : Session) (events : List Event) :
    let panel := (start session).run events
    panel.line.cursor ≤ panel.line.characters.length ∧
      (panel.session.history = [] → panel.selected = 0) ∧
      (panel.session.history ≠ [] → panel.selected < panel.session.history.length) ∧
      (panel.helpShown = false → panel.helpScroll = 0) ∧
      (start session).run? events = some panel := by
  intro panel
  obtain ⟨valid, checked⟩ := (start_valid session).run events
  have selected : panel.selected ≤ panel.session.history.length - 1 := valid.selected
  refine ⟨valid.within, ?_, ?_, valid.helpScroll, checked⟩
  · intro empty
    have length := congrArg List.length empty
    rw [List.length_nil] at length
    omega
  · intro nonempty
    have some := List.length_pos_iff.mpr nonempty
    omega

end Panel

end Reckoner
