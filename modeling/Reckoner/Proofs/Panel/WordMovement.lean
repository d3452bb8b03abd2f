import Mathlib.Data.List.Sort
import Mathlib.Logic.Function.Iterate
import Mathlib.Order.Bounds.Basic
import Reckoner.Proofs.Panel.Editing

/-!
# Moving by words

A word starts where a character that is no blank has a blank in front of it, or nothing.  Moving by
a word takes the cursor to the next such place in its direction, or to that end of the line if there
is none (`Text.LastStart`, `Text.NextStart`).

So the places that are still ahead of the cursor are a list of which one move takes the first
(`Text.startsBefore_eq`, `Text.startsBehind_eq`), and moving on and on in one direction stops at
each of them in turn, and then at the end of the line (`InputLine.wordMoves`).
-/

namespace Reckoner

namespace Text

variable {accepts : Char → Bool} {characters : List Char} {place low high stop : Nat}

/-! ## Runs of characters -/

/-- All characters from one place up to another are accepted. -/
def Throughout (accepts : Char → Bool) (characters : List Char) (low high : Nat) : Prop :=
  ∀ place, low ≤ place → place < high → ∃ character ∈ characters[place]?, accepts character = true

/-- Walking to the left goes through accepted characters as far as it can. -/
theorem run_of_walkLeft? (walked : walkLeft? accepts characters high = some low) :
    low ≤ high ∧ Throughout accepts characters low high ∧
      ∀ previous, previous + 1 = low → ∃ character ∈ characters[previous]?,
        accepts character = false := by
  induction high with
  | zero =>
      obtain rfl := Option.some.inj walked
      exact ⟨Nat.le_refl _, fun _ _ below => absurd below (Nat.not_lt_zero _),
        fun _ same => absurd same (Nat.succ_ne_zero _)⟩
  | succ place induction =>
      rw [walkLeft?] at walked
      cases found : characters[place]? with
      | none =>
          rw [found] at walked
          cases walked
      | some character =>
          rw [found] at walked
          by_cases accepted : accepts character = true
          · obtain ⟨ordered, run, stops⟩ := induction ((if_pos accepted).symm.trans walked)
            refine ⟨Nat.le_succ_of_le ordered, ?_, stops⟩
            intro other above below
            rcases Nat.lt_succ_iff_lt_or_eq.mp below with inside | rfl
            · exact run other above inside
            · exact ⟨character, found, accepted⟩
          · obtain rfl := Option.some.inj ((if_neg accepted).symm.trans walked)
            refine ⟨Nat.le_refl _, fun _ above below => absurd below (Nat.not_lt.mpr above), ?_⟩
            intro previous same
            obtain rfl := Nat.succ.inj same
            exact ⟨character, found, Bool.eq_false_iff.mpr accepted⟩

/-- Walking to the right goes through accepted characters as far as it can. -/
theorem run_of_walkRight? (inside : low ≤ characters.length)
    (walked : walkRight? accepts characters low = some high) :
    low ≤ high ∧ high ≤ characters.length ∧ Throughout accepts characters low high ∧
      (high < characters.length → ∃ character ∈ characters[high]?, accepts character = false) := by
  induction remaining : characters.length - low generalizing low with
  | zero =>
      rw [walkRight?, if_neg (by omega)] at walked
      obtain rfl := Option.some.inj walked
      exact ⟨Nat.le_refl _, inside, fun _ above below => absurd below (Nat.not_lt.mpr above),
        fun more => by omega⟩
  | succ remaining induction =>
      have more : low < characters.length := by omega
      have found : characters[low]? = some characters[low] := List.getElem?_eq_getElem more
      rw [walkRight?, if_pos more, found] at walked
      by_cases accepted : accepts characters[low] = true
      · obtain ⟨ordered, within, run, stops⟩ :=
          induction more ((if_pos accepted).symm.trans walked) (by omega)
        refine ⟨Nat.le_of_succ_le ordered, within, ?_, stops⟩
        intro other above below
        rcases Nat.eq_or_lt_of_le above with rfl | behind
        · exact ⟨_, found, accepted⟩
        · exact run other behind below
      · obtain rfl := Option.some.inj ((if_neg accepted).symm.trans walked)
        exact ⟨Nat.le_refl _, inside, fun _ above below => absurd below (Nat.not_lt.mpr above),
          fun _ => ⟨_, found, Bool.eq_false_iff.mpr accepted⟩⟩

/-! ## Where words start -/

/-- A word starts at a place: the character there is no blank, and in front of it stands a blank or
nothing. -/
def startsWord (characters : List Char) (place : Nat) : Bool :=
  (characters[place]?).any (!isBlank ·) &&
    (place == 0 || (characters[place - 1]?).any isBlank)

/-- The places at which words start, from left to right. -/
def wordStarts (characters : List Char) : List Nat :=
  (List.range characters.length).filter (startsWord characters)

/-- The last word start in front of a place, or the start of the text if there is none. -/
def LastStart (characters : List Char) (place stop : Nat) : Prop :=
  IsGreatest {start | start < place ∧ startsWord characters start = true} stop ∨
    stop = 0 ∧ ∀ start < place, startsWord characters start = false

/-- The first word start behind a place, or the end of the text if there is none. -/
def NextStart (characters : List Char) (place stop : Nat) : Prop :=
  IsLeast {start | place < start ∧ startsWord characters start = true} stop ∨
    stop = characters.length ∧ ∀ start, place < start → startsWord characters start = false

theorem startsWord_iff :
    startsWord characters place = true ↔
      (∃ character ∈ characters[place]?, isBlank character = false) ∧
        ∀ previous, previous + 1 = place →
          ∃ character ∈ characters[previous]?, isBlank character = true := by
  rw [startsWord, Bool.and_eq_true, Bool.or_eq_true, Option.any_eq_true, Option.any_eq_true]
  cases place with
  | zero => simp
  | succ previous => simp

/-- In a run of blanks no word starts. -/
theorem not_startsWord_of_blank (run : Throughout isBlank characters low high) (above : low ≤ place)
    (below : place < high) : startsWord characters place = false := by
  obtain ⟨character, found, blank⟩ := run place above below
  refine Bool.eq_false_iff.mpr fun starts => ?_
  obtain ⟨⟨other, same, solid⟩, _⟩ := startsWord_iff.mp starts
  obtain rfl := Option.mem_unique found same
  exact Bool.false_ne_true (solid.symm.trans blank)

/-- Inside a word no other word starts. -/
theorem not_startsWord_of_solid (run : Throughout (!isBlank ·) characters low high)
    (above : low < place) (within : place ≤ high) : startsWord characters place = false := by
  obtain ⟨previous, rfl⟩ : ∃ previous, place = previous + 1 := ⟨place - 1, by omega⟩
  obtain ⟨character, found, solid⟩ := run previous (Nat.le_of_lt_succ above) within
  refine Bool.eq_false_iff.mpr fun starts => ?_
  obtain ⟨other, same, blank⟩ := (startsWord_iff.mp starts).2 previous rfl
  obtain rfl := Option.mem_unique found same
  simp [blank] at solid

theorem lt_length_of_startsWord (starts : startsWord characters place = true) :
    place < characters.length := by
  obtain ⟨⟨character, found, _⟩, _⟩ := startsWord_iff.mp starts
  exact (List.getElem?_eq_some_iff.mp found).1

/-- Over the blanks in front of a place, and then over a word, to the start of that word. -/
theorem lastStart_of_walks {middle : Nat}
    (blanks : walkLeft? isBlank characters place = some middle)
    (word : walkLeft? (!isBlank ·) characters middle = some stop) :
    LastStart characters place stop := by
  obtain ⟨inFront, gap, gapStops⟩ := run_of_walkLeft? blanks
  obtain ⟨ordered, run, stops⟩ := run_of_walkLeft? word
  have none : ∀ start, stop < start → start < place → startsWord characters start = false := by
    intro start above below
    by_cases inGap : middle ≤ start
    · exact not_startsWord_of_blank gap inGap below
    · exact not_startsWord_of_solid run above (by omega)
  by_cases moved : stop < middle
  · obtain ⟨character, found, solid⟩ := run stop (Nat.le_refl _) moved
    refine .inl ⟨⟨by omega, startsWord_iff.mpr ⟨⟨character, found, ?_⟩, ?_⟩⟩, ?_⟩
    · simpa using solid
    · intro previous same
      obtain ⟨other, foundOther, blank⟩ := stops previous same
      exact ⟨other, foundOther, by simpa using blank⟩
    · intro start ⟨below, starts⟩
      by_contra above
      rw [none start (Nat.lt_of_not_le above) below] at starts
      cases starts
  · -- there is no word at all in front of the blanks
    obtain rfl : stop = middle := by omega
    have atStart : stop = 0 := by
      by_contra nonzero
      obtain ⟨previous, same⟩ : ∃ previous, previous + 1 = stop := ⟨stop - 1, by omega⟩
      obtain ⟨character, found, solid⟩ := gapStops previous same
      obtain ⟨other, foundOther, blank⟩ := stops previous same
      obtain rfl := Option.mem_unique found foundOther
      rw [solid] at blank
      cases blank
    refine .inr ⟨atStart, fun start below => ?_⟩
    exact not_startsWord_of_blank gap (atStart ▸ Nat.zero_le _) below

/-- Over the rest of a word, and then over the blanks behind it, to the start of the next word. -/
theorem nextStart_of_walks {middle : Nat} (inside : place ≤ characters.length)
    (word : walkRight? (!isBlank ·) characters place = some middle)
    (blanks : walkRight? isBlank characters middle = some stop) :
    NextStart characters place stop := by
  obtain ⟨behind, within, run, runStops⟩ := run_of_walkRight? inside word
  obtain ⟨ordered, stopWithin, gap, stops⟩ := run_of_walkRight? within blanks
  have none : ∀ start, place < start → start < stop → startsWord characters start = false := by
    intro start above below
    by_cases inGap : middle ≤ start
    · exact not_startsWord_of_blank gap inGap below
    · exact not_startsWord_of_solid run above (by omega)
  by_cases more : stop < characters.length
  · obtain ⟨character, found, solid⟩ := stops more
    obtain ⟨other, foundOther, blank⟩ := runStops (by omega)
    -- the character at `middle` is a blank, so the walk over the blanks has moved
    have moved : middle < stop := by
      refine Nat.lt_of_le_of_ne ordered ?_
      rintro rfl
      obtain rfl := Option.mem_unique found foundOther
      rw [solid] at blank
      cases blank
    refine .inl ⟨⟨by omega, startsWord_iff.mpr ⟨⟨character, found, solid⟩, ?_⟩⟩, ?_⟩
    · rintro previous rfl
      exact gap previous (by omega) (Nat.lt_succ_self _)
    · intro start ⟨above, starts⟩
      by_contra below
      rw [none start above (Nat.lt_of_not_le below)] at starts
      cases starts
  · have atEnd : stop = characters.length := by omega
    refine .inr ⟨atEnd, fun start above => Bool.eq_false_iff.mpr fun starts => ?_⟩
    have below := lt_length_of_startsWord starts
    rw [none start above (atEnd ▸ below)] at starts
    cases starts

/-! ## The word starts that lie ahead -/

def startsBefore (characters : List Char) (place : Nat) : List Nat :=
  ((wordStarts characters).filter (· < place)).reverse

def startsBehind (characters : List Char) (place : Nat) : List Nat :=
  (wordStarts characters).filter (place < ·)

theorem mem_wordStarts : place ∈ wordStarts characters ↔ startsWord characters place = true := by
  rw [wordStarts, List.mem_filter, List.mem_range]
  exact ⟨And.right, fun starts => ⟨lt_length_of_startsWord starts, starts⟩⟩

theorem wordStarts_increasing (characters : List Char) :
    (wordStarts characters).Pairwise (· < ·) :=
  List.pairwise_lt_range.filter _

theorem startsBefore_decreasing (characters : List Char) (place : Nat) :
    (startsBefore characters place).Pairwise (· > ·) :=
  List.pairwise_reverse.mpr ((wordStarts_increasing characters).filter _)

theorem mem_startsBefore {start : Nat} :
    start ∈ startsBefore characters place ↔
      start < place ∧ startsWord characters start = true := by
  rw [startsBefore, List.mem_reverse, List.mem_filter, mem_wordStarts, decide_eq_true_iff, and_comm]

theorem mem_startsBehind {start : Nat} :
    start ∈ startsBehind characters place ↔
      place < start ∧ startsWord characters start = true := by
  rw [startsBehind, List.mem_filter, mem_wordStarts, decide_eq_true_iff, and_comm]

/-- The last word start in front of a place is the first on the way to the left. -/
theorem startsBefore_eq (last : LastStart characters place stop) :
    startsBefore characters place = [] ∧ stop = 0 ∨
      startsBefore characters place = stop :: startsBefore characters stop := by
  rcases last with ⟨⟨below, starts⟩, greatest⟩ | ⟨atStart, none⟩
  · right
    apply List.Pairwise.eq_of_mem_iff (startsBefore_decreasing characters place)
    · exact List.pairwise_cons.mpr
        ⟨fun start member => (mem_startsBefore.mp member).1, startsBefore_decreasing _ _⟩
    · intro start
      rw [List.mem_cons, mem_startsBefore, mem_startsBefore]
      constructor
      · intro ahead
        rcases Nat.eq_or_lt_of_le (greatest ahead) with same | inFront
        · exact .inl same
        · exact .inr ⟨inFront, ahead.2⟩
      · rintro (rfl | ⟨inFront, startsThere⟩)
        · exact ⟨below, starts⟩
        · exact ⟨Nat.lt_trans inFront below, startsThere⟩
  · left
    refine ⟨List.eq_nil_iff_forall_not_mem.mpr fun start member => ?_, atStart⟩
    obtain ⟨below, starts⟩ := mem_startsBefore.mp member
    rw [none start below] at starts
    cases starts

/-- The first word start behind a place is the first on the way to the right. -/
theorem startsBehind_eq (next : NextStart characters place stop) :
    startsBehind characters place = [] ∧ stop = characters.length ∨
      startsBehind characters place = stop :: startsBehind characters stop := by
  rcases next with ⟨⟨above, starts⟩, least⟩ | ⟨atEnd, none⟩
  · right
    apply List.Pairwise.eq_of_mem_iff ((wordStarts_increasing characters).filter _)
    · exact List.pairwise_cons.mpr ⟨fun start member => (mem_startsBehind.mp member).1,
        (wordStarts_increasing characters).filter _⟩
    · intro start
      rw [List.mem_cons, mem_startsBehind]
      change start ∈ startsBehind characters place ↔ _
      rw [mem_startsBehind]
      constructor
      · intro ahead
        rcases Nat.eq_or_lt_of_le (least ahead) with same | behind
        · exact .inl same.symm
        · exact .inr ⟨behind, ahead.2⟩
      · rintro (rfl | ⟨behind, startsThere⟩)
        · exact ⟨above, starts⟩
        · exact ⟨Nat.lt_trans above behind, startsThere⟩
  · left
    refine ⟨List.eq_nil_iff_forall_not_mem.mpr fun start member => ?_, atEnd⟩
    obtain ⟨above, starts⟩ := mem_startsBehind.mp member
    rw [none start above] at starts
    cases starts

end Text

namespace InputLine

variable {line : InputLine}

theorem lastStart_wordLeft (within : line.Within) :
    Text.LastStart line.characters line.cursor line.wordLeft.cursor := by
  have moved := wordLeft?_eq within
  rw [wordLeft?] at moved
  obtain ⟨middle, blanks, rest⟩ := Option.bind_eq_some_iff.mp moved
  obtain ⟨stop, word, same⟩ := Option.bind_eq_some_iff.mp rest
  rw [← Option.some.inj same]
  exact Text.lastStart_of_walks blanks word

theorem nextStart_wordRight (within : line.Within) :
    Text.NextStart line.characters line.cursor line.wordRight.cursor := by
  have moved := wordRight?_eq within
  rw [wordRight?] at moved
  obtain ⟨middle, word, rest⟩ := Option.bind_eq_some_iff.mp moved
  obtain ⟨stop, blanks, same⟩ := Option.bind_eq_some_iff.mp rest
  rw [← Option.some.inj same]
  exact Text.nextStart_of_walks within word blanks

/-- A way of moving the cursor on lines with the given characters: one move takes the first of the
places that lie ahead, or the last place if there is none. -/
structure Travels (move : InputLine → InputLine) (characters : List Char)
    (ahead : Nat → List Nat) (last : Nat) : Prop where
  keeps : ∀ line, move line = { line with cursor := (move line).cursor }
  within : ∀ line, (move line).Within
  next : ∀ line, line.characters = characters → line.Within →
    ahead line.cursor = [] ∧ (move line).cursor = last ∨
      ahead line.cursor = (move line).cursor :: ahead (move line).cursor
  arrived : ahead last = []

theorem travels_wordLeft (characters : List Char) :
    Travels wordLeft characters (Text.startsBefore characters) 0 where
  keeps _ := rfl
  within := Within.wordLeft
  next := by
    rintro line rfl within
    exact Text.startsBefore_eq (lastStart_wordLeft within)
  arrived := by
    refine List.eq_nil_iff_forall_not_mem.mpr fun start member => ?_
    exact Nat.not_lt_zero start (Text.mem_startsBefore.mp member).1

theorem travels_wordRight (characters : List Char) :
    Travels wordRight characters (Text.startsBehind characters) characters.length where
  keeps _ := rfl
  within := Within.wordRight
  next := by
    rintro line rfl within
    exact Text.startsBehind_eq (nextStart_wordRight within)
  arrived := by
    refine List.eq_nil_iff_forall_not_mem.mpr fun start member => ?_
    obtain ⟨above, starts⟩ := Text.mem_startsBehind.mp member
    exact Nat.lt_asymm above (Text.lt_length_of_startsWord starts)

/-- Moving on and on takes the places ahead one after the other. -/
theorem Travels.iterate {move : InputLine → InputLine} {ahead : Nat → List Nat} {last : Nat}
    (travels : Travels move line.characters ahead last) (within : line.Within) (count : Nat) :
    move^[count + 1] line = { line with cursor := (ahead line.cursor).getD count last } := by
  induction count generalizing line with
  | zero =>
      rw [Function.iterate_one, travels.keeps]
      rcases travels.next line rfl within with ⟨none, arrives⟩ | next
      · rw [none, arrives, List.getD_nil]
      · rw [next, List.getD_cons_zero]
  | succ count induction =>
      have characters : (move line).characters = line.characters := by rw [travels.keeps]
      have scroll : (move line).scroll = line.scroll := by rw [travels.keeps]
      have rest := induction (characters.symm ▸ travels) (travels.within line)
      rw [characters, scroll] at rest
      rw [Function.iterate_succ_apply, rest]
      rcases travels.next line rfl within with ⟨none, arrives⟩ | next
      · rw [none, arrives, travels.arrived, List.getD_nil, List.getD_nil]
      · rw [next, List.getD_cons_succ]

/-- Moving by a word changes nothing but the cursor, which goes to the last word start in front of
it, or the first behind it, or that end of the line if there is none.  Going on in one direction
stops at each word start on the way exactly once, and then stays at that end of the line. -/
theorem wordMoves (within : line.Within) :
    (line.wordLeft = { line with cursor := line.wordLeft.cursor } ∧
      Text.LastStart line.characters line.cursor line.wordLeft.cursor) ∧
    (line.wordRight = { line with cursor := line.wordRight.cursor } ∧
      Text.NextStart line.characters line.cursor line.wordRight.cursor) ∧
    ∀ count,
      wordLeft^[count + 1] line =
        { line with
          cursor := ((Text.wordStarts line.characters).filter (· < line.cursor)).reverse.getD
            count 0 } ∧
      wordRight^[count + 1] line =
        { line with
          cursor := ((Text.wordStarts line.characters).filter (line.cursor < ·)).getD
            count line.characters.length } :=
  ⟨⟨rfl, lastStart_wordLeft within⟩, ⟨rfl, nextStart_wordRight within⟩,
    fun count => ⟨(travels_wordLeft _).iterate within count,
      (travels_wordRight _).iterate within count⟩⟩

theorem wordMoves_between_blanks :
    (InputLine.mk "  a\t\tbc d ".toList 6 0).Within ∧
      (InputLine.mk "  a\t\tbc d ".toList 6 0).wordLeft.cursor = 5 ∧
      (InputLine.mk "  a\t\tbc d ".toList 6 0).wordRight.cursor = 8 ∧
      (wordLeft^[2] (InputLine.mk "  a\t\tbc d ".toList 6 0)).cursor = 2 ∧
      (wordLeft^[3] (InputLine.mk "  a\t\tbc d ".toList 6 0)).cursor = 0 ∧
      (wordRight^[2] (InputLine.mk "  a\t\tbc d ".toList 6 0)).cursor = 10 := by
  have within : (InputLine.mk "  a\t\tbc d ".toList 6 0).Within :=
    (by decide : 6 ≤ 10)
  obtain ⟨_, _, runs⟩ := wordMoves within
  exact ⟨within, congrArg cursor (runs 0).1, congrArg cursor (runs 0).2,
    congrArg cursor (runs 1).1, congrArg cursor (runs 2).1, congrArg cursor (runs 1).2⟩

end InputLine

end Reckoner
