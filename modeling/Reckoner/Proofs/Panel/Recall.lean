import Reckoner.Proofs.Panel.Runs
import Reckoner.Proofs.Session.Repetition

/-!
# Recalling an entry

The arrow and page keys select an entry and put its input into the line.  The entry key then submits
this input as a line, which repeats the entry if the input comes through as it is
(`Request.Verbatim`).  Only an entry that was asked for with the keyword can have another input: the
line `details quit` leaves the input `quit`, and recalling it and pressing the entry key leaves the
calculator.
-/

namespace Reckoner

namespace Panel

variable {panel : Panel}

/-! ## The session of a panel -/

theorem helpKey_session (panel : Panel) (key : Key) :
    (panel.helpKey key).session = panel.session := by
  unfold helpKey
  split <;> rfl

theorem submit_session (panel : Panel) :
    panel.submit.session = (panel.session.submit panel.line.text).2 := by
  unfold submit
  obtain ⟨outcome, session⟩ := panel.session.submit panel.line.text
  cases outcome <;> rfl

theorem characterKey_session (panel : Panel) (modifiers : Modifiers) (character : Char) :
    (panel.characterKey modifiers character).session = panel.session := by
  unfold characterKey
  split
  · split
    · rfl
    · split <;> rfl
  · split <;> rfl

theorem lineKey_session (panel : Panel) (modifiers : Modifiers) (key : Key) :
    (panel.lineKey modifiers key).session = panel.session ∨
      (panel.lineKey modifiers key).session = (panel.session.submit panel.line.text).2 := by
  cases key with
  | enter => exact .inr (submit_session panel)
  | character character => exact .inl (characterKey_session panel modifiers character)
  | escape =>
      left
      unfold lineKey
      dsimp only
      split <;> rfl
  | function number =>
      left
      match number with
      | 0 => rfl
      | 1 => rfl
      | _ + 2 => rfl
  | backspace | delete | left | right | up | down | home | last | pageUp | pageDown | other =>
      exact .inl rfl

section Runs

variable [Text.Widths]

theorem settle_session (panel : Panel) (width height : Nat) :
    (panel.settle width height).session = panel.session := by
  unfold settle settleHistory
  split
  · rfl
  · dsimp only
    split <;> rfl

/-- An event leaves the session as it is, or submits the line. -/
theorem handle_session (panel : Panel) (event : Event) :
    (panel.handle event).session = panel.session ∨
      (panel.handle event).session = (panel.session.submit panel.line.text).2 := by
  cases event with
  | key modifiers key =>
      change (panel.key modifiers key).session = _ ∨ (panel.key modifiers key).session = _
      unfold Panel.key
      split
      · exact .inl (helpKey_session panel key)
      · exact lineKey_session panel modifiers key
  | wheel down =>
      left
      change (panel.wheel down).session = panel.session
      unfold Panel.wheel
      dsimp only
      split <;> rfl
  | move direction => exact .inl rfl
  | draw width height => exact .inl (settle_session panel width height)

/-- The session of a run of the panel is the one of a run of calls. -/
theorem run_session (panel : Panel) (events : List Event) :
    ∃ calls, (panel.run events).session = (panel.session.run calls).2 := by
  induction events generalizing panel with
  | nil => exact ⟨[], rfl⟩
  | cons event events induction =>
      obtain ⟨calls, later⟩ := induction (panel.handle event)
      rcases handle_session panel event with same | submitted
      · rw [same] at later
        exact ⟨calls, later⟩
      · rw [submitted] at later
        exact ⟨.submit panel.line.text :: calls, later⟩

theorem Reachable.session_plain (reachable : Reachable panel) : panel.session.Plain := by
  obtain ⟨calculator, calls, events, rfl⟩ := reachable
  obtain ⟨further, same⟩ := run_session (start ((Session.start calculator).run calls).2) events
  have atStart : (Session.start calculator).Plain := nofun
  rw [same]
  exact (atStart.run calls).run further

/-- The input of an entry of the history is a trimmed text that is not empty. -/
theorem Reachable.input (reachable : Reachable panel) {index : Nat} {entry : Entry}
    (member : panel.session.history[index]? = some entry) :
    entry.input ≠ "" ∧ Text.Trimmed entry.input.toList := by
  obtain ⟨calculator, calls, events, rfl⟩ := reachable
  obtain ⟨further, same⟩ := run_session (start ((Session.start calculator).run calls).2) events
  have replayable := ((Session.start_replayable calculator).run calls).run further
  rw [same] at member
  have replays := replayable.replays index entry member
  exact ⟨replays.nonempty, replays.trimmed⟩

end Runs

/-! ## Recalling -/

/-- The line holds the input of the selected entry. -/
structure Recalls (panel : Panel) (entry : Entry) : Prop where
  selected : panel.session.history[panel.selected]? = some entry
  line : panel.line.text = entry.input

/-- Selecting an entry of the history recalls it, whatever the line would hold otherwise. -/
theorem exists_recalls {selected : Nat} (inside : selected < panel.session.history.length)
    (otherwise : List Char) :
    ∃ entry, Recalls (panel.select selected
      ((panel.session.history[selected]?).elim otherwise (·.input.toList))) entry := by
  have found := List.getElem?_eq_getElem inside
  rw [found]
  exact ⟨_, found, String.ofList_toList⟩

def recallKeys : List Key :=
  [.up, .down, .pageUp, .pageDown]

/-- Each of the keys recalls an entry, if there is one. -/
theorem Valid.lineKey_recalls (valid : Valid panel) (nonempty : panel.session.history ≠ [])
    (modifiers : Modifiers) {key : Key} (recalling : key ∈ recallKeys) :
    (panel.lineKey modifiers key).session = panel.session ∧
      (panel.lineKey modifiers key).helpShown = panel.helpShown ∧
      ∃ entry, Recalls (panel.lineKey modifiers key) entry := by
  have some := List.length_pos_iff.mpr nonempty
  have inside := valid.selected
  simp only [recallKeys, List.mem_cons, List.not_mem_nil, or_false] at recalling
  rcases recalling with rfl | rfl | rfl | rfl
  · exact ⟨rfl, rfl, exists_recalls (by omega) _⟩
  · refine ⟨rfl, rfl, exists_recalls ?_ _⟩
    split <;> omega
  · exact ⟨rfl, rfl, exists_recalls (by omega) _⟩
  · exact ⟨rfl, rfl, exists_recalls (by omega) _⟩

/-- With the help out of sight and a history, each of the arrow and page keys puts the input of the
selected entry into the line.  The entry key then adds an entry with the same input exactly if the
input comes through as it is, and otherwise the selected entry has been asked for with the
keyword. -/
theorem enter_recalled [Text.Widths] (panel : Panel) (reachable : Reachable panel)
    (hidden : panel.helpShown = false) (nonempty : panel.session.history ≠ [])
    (key : Key) (recalling : key ∈ recallKeys) (modifiers others : Modifiers) :
    let recalled := panel.key modifiers key
    ∃ entry, Recalls recalled entry ∧
      (((recalled.session.submit recalled.line.text).1 = .evaluated ∧
          ∃ again, (recalled.key others .enter).session.history =
              recalled.session.history ++ [again] ∧ again.input = entry.input) ↔
        Request.Verbatim entry.input.toList) ∧
      (¬ Request.Verbatim entry.input.toList → entry.detailed = true) := by
  intro recalled
  have typed : recalled = panel.lineKey modifiers key := if_neg (Bool.eq_false_iff.mp hidden)
  obtain ⟨session, stillHidden, entry, recalls⟩ :=
    reachable.valid.lineKey_recalls nonempty modifiers recalling
  rw [← typed] at session stillHidden recalls
  have entered : recalled.key others .enter = recalled.submit :=
    if_neg (Bool.eq_false_iff.mp (stillHidden.trans hidden))
  have member : panel.session.history[recalled.selected]? = some entry := by
    rw [← session]
    exact recalls.selected
  obtain ⟨written, trimmed⟩ := reachable.input member
  refine ⟨entry, recalls, ?_, ?_⟩
  · rw [entered, submit_session, recalls.line]
    exact Session.submit_again_iff trimmed written
  · intro changed
    by_contra undetailed
    apply changed
    apply reachable.session_plain entry (List.mem_of_getElem? member)
    exact Bool.eq_false_iff.mpr undetailed

/-- The events of typing a text. -/
def typing (text : String) : List Event :=
  text.toList.map fun character => .key .none (.character character)

/-- A new panel in which a line has been entered. -/
def entered (line : String) : Panel :=
  (start (Session.start Calculator.standard)).run (typing line ++ [.key .none .enter])

theorem entered_reachable (line : String) : Reachable (entered line) :=
  ⟨.standard, [], typing line ++ [.key .none .enter], rfl⟩

/-- The expression of `details 2 ^ 10` is evaluated again. -/
theorem enter_recalled_power :
    Reachable (entered "details 2 ^ 10") ∧ (entered "details 2 ^ 10").helpShown = false ∧
      (entered "details 2 ^ 10").session.history ≠ [] ∧
      let recalled := (entered "details 2 ^ 10").key .none .up
      recalled.line.text = "2 ^ 10" ∧
        (recalled.session.submit recalled.line.text).1 = .evaluated ∧
        ∃ again, (recalled.key .none .enter).session.history =
          recalled.session.history ++ [again] ∧ again.input = "2 ^ 10" := by
  have reachable := entered_reachable "details 2 ^ 10"
  have hidden : (entered "details 2 ^ 10").helpShown = false := by decide +kernel
  have nonempty : (entered "details 2 ^ 10").session.history ≠ [] := by
    apply List.length_pos_iff.mp
    decide +kernel
  have text : ((entered "details 2 ^ 10").key .none .up).line.text = "2 ^ 10" := by
    decide +kernel
  have verbatim : Request.Verbatim "2 ^ 10".toList := by
    constructor <;> decide +kernel
  obtain ⟨entry, recalls, repeats, _⟩ :=
    enter_recalled _ reachable hidden nonempty .up List.mem_cons_self .none .none
  rw [← text.symm.trans recalls.line] at repeats
  exact ⟨reachable, hidden, nonempty, text, repeats.mpr verbatim⟩

/-- The expression of `details quit` is a command word: recalled and entered it leaves the
calculator. -/
theorem enter_recalled_quit :
    ¬ ∀ (panel : Panel) (key : Key) (modifiers others : Modifiers),
      Reachable panel → panel.helpShown = false → panel.session.history ≠ [] →
        key ∈ recallKeys →
          let recalled := panel.key modifiers key
          ∃ entry, Recalls recalled entry ∧
            (recalled.session.submit recalled.line.text).1 = .evaluated ∧
            ∃ again, (recalled.key others .enter).session.history =
              recalled.session.history ++ [again] ∧ again.input = entry.input := by
  intro claim
  have hidden : (entered "details quit").helpShown = false := by decide +kernel
  have nonempty : (entered "details quit").session.history ≠ [] := by
    apply List.length_pos_iff.mp
    decide +kernel
  obtain ⟨entry, _, evaluated, _⟩ := claim (entered "details quit") .up .none .none
    (entered_reachable _) hidden nonempty List.mem_cons_self
  have quit : (((entered "details quit").key .none .up).session.submit
      ((entered "details quit").key .none .up).line.text).1 = .quit := by
    decide +kernel
  exact absurd (quit.symm.trans evaluated) nofun

example : (((entered "details quit").key .none .up).key .none .enter).leaving = true := by
  decide +kernel

end Panel

end Reckoner
