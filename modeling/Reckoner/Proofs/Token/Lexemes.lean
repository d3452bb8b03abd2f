import Reckoner.Proofs.Number.Nearest
import Reckoner.Proofs.Token.Pieces

/-!
# The pieces of a text

`Token.Lexeme` says, apart from the reader, what a piece of a text is in front of the rest of it: a
name or a number is as long as it can be, and everything else is a single character.
`Token.Obstructs` says what a text cannot go on with, and which error that is.

Where a text goes on with something else than a blank, one of the two is there (`exists_lexeme`),
and one step of the reader finds the piece or the error.
-/

namespace Reckoner

/-- The decimal that a run of digits with at most one point writes. -/
def Decimal.ofRun (run : List Char) : Decimal where
  digits := valueOf (run.filter Char.isDigit)
  places := (run.dropWhile Char.isDigit).tail.length

theorem Decimal.ofRun_whole {digits : List Char}
    (inside : ∀ character ∈ digits, character.isDigit = true) :
    ofRun digits = ofDigits digits [] := by
  have dropped : digits.dropWhile Char.isDigit = [] := by
    rw [← List.append_nil digits, List.dropWhile_append_of_pos inside, List.dropWhile_nil]
  rw [ofRun, ofDigits, List.filter_eq_self.mpr inside, dropped, List.append_nil]
  rfl

theorem Decimal.ofRun_point {digits fraction : List Char}
    (inside : ∀ character ∈ digits, character.isDigit = true)
    (behind : ∀ character ∈ fraction, character.isDigit = true) :
    ofRun (digits ++ '.' :: fraction) = ofDigits digits fraction := by
  have point : Char.isDigit '.' ≠ true := by decide
  rw [ofRun, ofDigits, List.filter_append, List.filter_cons_of_neg point,
    List.filter_eq_self.mpr inside, List.filter_eq_self.mpr behind,
    List.dropWhile_append_of_pos inside, List.dropWhile_cons_of_neg point, List.tail_cons]

/-- Whether the token is a single character that is neither a name nor a number. -/
def TokenKind.isMark : TokenKind → Bool
  | .operator _ | .leftParenthesis | .rightParenthesis | .comma => true
  | .number _ | .identifier _ | .finish => false

namespace Token

/-- Whether a piece of a text can start with the character. -/
def startsPiece (character : Char) : Bool :=
  character == '(' || character == ')' || character == ',' || Operator.isSymbol character ||
    startsNumber character || startsName character

/-- In front of the rest the characters are one piece, as long as it can be, of this kind. -/
inductive Lexeme (rest : List Char) : List Char → TokenKind → Prop where
  | leftParenthesis : Lexeme rest ['('] .leftParenthesis
  | rightParenthesis : Lexeme rest [')'] .rightParenthesis
  | comma : Lexeme rest [','] .comma
  | operator (operator : Operator) : Lexeme rest [operator.symbol] (.operator operator.symbol)
  /-- Digits and points, among them a digit and not two points. -/
  | number {run : List Char} {value : Float} :
      (∀ character ∈ run, startsNumber character = true) →
      (∃ character ∈ run, character.isDigit = true) → run.count '.' ≤ 1 →
      (∀ character ∈ rest.head?, startsNumber character = false) →
      (Decimal.ofRun run).RoundsTo value → Lexeme rest run (.number value)
  | name {character : Char} {tail : List Char} :
      startsName character = true → (∀ other ∈ tail, continuesName other = true) →
      (∀ other ∈ rest.head?, continuesName other = false) →
      Lexeme rest (character :: tail)
        (.identifier (String.ofList (Text.lowerCharacters (character :: tail))))

/-- Neither a blank nor a piece stands at the start of the text, which has the given position. -/
inductive Obstructs (position : Nat) : List Char → LexError → Prop where
  | character {character : Char} {behind : List Char} :
      Text.isBlank character = false → startsPiece character = false →
      Obstructs position (character :: behind) (.invalidCharacter character position)
  /-- A point without digits. -/
  | point {behind : List Char} :
      (∀ character ∈ behind.head?, startsNumber character = false) →
      Obstructs position ('.' :: behind) (.malformedNumber "." position)
  /-- A second point in one number, up to which the number is reported. -/
  | secondPoint {digits fraction behind : List Char} :
      (∀ character ∈ digits, character.isDigit = true) →
      (∀ character ∈ fraction, character.isDigit = true) →
      Obstructs position (digits ++ '.' :: fraction ++ '.' :: behind)
        (.malformedNumber (String.ofList (digits ++ '.' :: fraction ++ ['.'])) position)

section Number

variable {run rest digits fraction behind : List Char}

/-- Digits and points are digits alone, or digits in front of a point. -/
theorem digits_or_point (inside : ∀ character ∈ run, startsNumber character = true) :
    (∀ character ∈ run, character.isDigit = true) ∨
      ∃ digits behind, run = digits ++ '.' :: behind ∧
        (∀ character ∈ digits, character.isDigit = true) ∧
        ∀ character ∈ behind, startsNumber character = true := by
  induction run with
  | nil => exact .inl (by simp)
  | cons character run induction =>
      obtain ⟨starts, others⟩ := List.forall_mem_cons.mp inside
      by_cases digit : character.isDigit = true
      · rcases induction others with all | ⟨digits, behind, rfl, digitsInside, behindInside⟩
        · exact .inl (List.forall_mem_cons.mpr ⟨digit, all⟩)
        · exact .inr ⟨character :: digits, behind, rfl,
            List.forall_mem_cons.mpr ⟨digit, digitsInside⟩, behindInside⟩
      · have point : character = '.' := by simpa [startsNumber, digit] using starts
        subst point
        exact .inr ⟨[], run, rfl, by simp, others⟩

theorem count_point (inside : ∀ character ∈ digits, character.isDigit = true) :
    digits.count '.' = 0 := by
  apply List.count_eq_zero.mpr
  intro member
  have digit := inside '.' member
  contradiction

theorem startsNumber_of_isDigit (inside : ∀ character ∈ digits, character.isDigit = true) :
    ∀ character ∈ digits, startsNumber character = true := by
  intro character member
  rw [startsNumber, inside character member, Bool.true_or]

/-- The number that a run writes is read if nothing goes on with it. -/
theorem readNumber_run (inside : ∀ character ∈ run, startsNumber character = true)
    (digit : ∃ character ∈ run, character.isDigit = true) (points : run.count '.' ≤ 1)
    (stop : ∀ character ∈ rest.head?, startsNumber character = false) :
    readNumber (run ++ rest) = .ok ((Decimal.ofRun run).toFloat false, run.length) := by
  rcases digits_or_point inside with whole | ⟨digits, fraction, rfl, digitsInside, numeral⟩
  · rw [Decimal.ofRun_whole whole]
    exact readNumber_whole whole stop
  · rw [List.count_append, List.count_cons_self, count_point digitsInside] at points
    have fractionInside : ∀ character ∈ fraction, character.isDigit = true := by
      rcases digits_or_point numeral with all | ⟨more, others, rfl, _, _⟩
      · exact all
      · rw [List.count_append, List.count_cons_self] at points
        omega
    have written : digits ≠ [] ∨ fraction ≠ [] := by
      by_contra nothing
      rw [not_or, not_not, not_not] at nothing
      rw [nothing.1, nothing.2] at digit
      obtain ⟨character, member, isDigit⟩ := digit
      rw [List.mem_singleton.mp member] at isDigit
      contradiction
    have length : digits.length + 1 + fraction.length =
        (digits ++ '.' :: fraction).length := by
      rw [List.length_append, List.length_cons]
      omega
    rw [Decimal.ofRun_point digitsInside fractionInside, ← length]
    exact readNumber_point digitsInside written fractionInside stop

theorem readNumber_lone (stop : ∀ character ∈ behind.head?, startsNumber character = false) :
    readNumber ('.' :: behind) = .error ['.'] := by
  cases behind with
  | nil => rfl
  | cons character behind =>
      obtain ⟨noDigit, noPoint⟩ := isDigit_false_of_startsNumber (stop character rfl)
      have none : ¬character.isDigit = true := by simp [noDigit]
      simp [readNumber, none, noPoint]

theorem readNumber_second (inside : ∀ character ∈ digits, character.isDigit = true)
    (fractionInside : ∀ character ∈ fraction, character.isDigit = true) :
    readNumber (digits ++ '.' :: fraction ++ '.' :: behind) =
      .error (digits ++ '.' :: fraction ++ ['.']) := by
  have point : Char.isDigit '.' ≠ true := by decide
  have taken : ∀ {digits behind : List Char}, (∀ character ∈ digits, character.isDigit = true) →
      (digits ++ '.' :: behind).takeWhile Char.isDigit = digits ∧
        (digits ++ '.' :: behind).dropWhile Char.isDigit = '.' :: behind :=
    fun inside => takeWhile_run inside (by simp)
  rw [List.append_assoc, List.cons_append, readNumber]
  simp only [taken inside, taken fractionInside]

end Number

section Character

variable {character : Char} {tail rest run text : List Char} {kind : TokenKind}
  {position : Nat} {error : LexError}

theorem readOne_of_not_startsPiece (nothing : startsPiece character = false) :
    readOne position character tail = .error (.invalidCharacter character position) := by
  simp only [startsPiece, Bool.or_eq_false_iff, beq_eq_false_iff_ne] at nothing
  obtain ⟨⟨⟨⟨⟨noLeft, noRight⟩, noComma⟩, noSymbol⟩, noNumber⟩, noName⟩ := nothing
  unfold readOne
  rw [if_neg noLeft, if_neg noRight, if_neg noComma, if_neg (by simp [noSymbol]),
    if_neg (by simp [noNumber]), if_neg (by simp [noName])]

/-- Where a piece stands, it is read, and no more than it. -/
theorem Lexeme.read (lexeme : Lexeme rest run kind) :
    ∃ character tail, run = character :: tail ∧ Text.isBlank character = false ∧
      ∀ position, readOne position character (tail ++ rest) = .ok (kind, tail.length + 1) := by
  cases lexeme with
  | leftParenthesis => exact ⟨_, _, rfl, by decide, fun _ => rfl⟩
  | rightParenthesis => exact ⟨_, _, rfl, by decide, fun _ => rfl⟩
  | comma => exact ⟨_, _, rfl, by decide, fun _ => rfl⟩
  | operator operator => cases operator <;> exact ⟨_, _, rfl, by decide, fun _ => rfl⟩
  | number inside digit points stop rounds =>
      have read := readNumber_run inside digit points stop
      obtain ⟨_, member, _⟩ := digit
      obtain ⟨character, tail, rfl⟩ := List.exists_cons_of_ne_nil (List.ne_nil_of_mem member)
      have starts := inside character List.mem_cons_self
      refine ⟨character, tail, rfl, (readOne_of_startsNumber starts 0 []).1, fun position => ?_⟩
      rw [List.cons_append] at read
      rw [(readOne_of_startsNumber starts position _).2, read, Decimal.roundsTo_iff.mp rounds]
      rfl
  | @name character tail starts inside stop =>
      have continues : ∀ other ∈ character :: tail, continuesName other = true :=
        List.forall_mem_cons.mpr ⟨continuesName_of_startsName starts, inside⟩
      refine ⟨character, tail, rfl, isBlank_of_startsName starts, fun position => ?_⟩
      rw [readOne_of_startsName starts, readName, ← List.cons_append,
        (takeWhile_run continues stop).1]
      rfl

theorem readOne_malformed {literal : List Char} (starts : startsNumber character = true)
    (read : readNumber (character :: tail) = .error literal) (position : Nat) :
    Text.isBlank character = false ∧ readOne position character tail =
      .error (.malformedNumber (String.ofList literal) position) := by
  have number := readOne_of_startsNumber starts position tail
  rw [read] at number
  exact number

/-- Where there is no piece, the error says so. -/
theorem Obstructs.read (obstructs : Obstructs position text error) :
    ∃ character tail, text = character :: tail ∧ Text.isBlank character = false ∧
      readOne position character tail = .error error := by
  cases obstructs with
  | character solid nothing => exact ⟨_, _, rfl, solid, readOne_of_not_startsPiece nothing⟩
  | point stop =>
      exact ⟨_, _, rfl, readOne_malformed (by decide) (readNumber_lone stop) position⟩
  | @secondPoint digits fraction behind inside fractionInside =>
      have read := @readNumber_second digits fraction behind inside fractionInside
      cases digits with
      | nil => exact ⟨_, _, rfl, readOne_malformed (by decide) read position⟩
      | cons character digits =>
          have starts := startsNumber_of_isDigit inside character List.mem_cons_self
          exact ⟨_, _, rfl, readOne_malformed starts read position⟩

/-- A text starts with as many characters as are accepted. -/
theorem exists_run (accepts : Char → Bool) (text : List Char) :
    ∃ run rest, text = run ++ rest ∧ (∀ character ∈ run, accepts character = true) ∧
      ∀ character ∈ rest.head?, accepts character = false := by
  refine ⟨text.takeWhile accepts, text.dropWhile accepts, List.takeWhile_append_dropWhile.symm,
    List.all_eq_true.mp List.all_takeWhile, ?_⟩
  intro character member
  have stopped := List.head?_dropWhile_not accepts text
  rw [Option.mem_def.mp member] at stopped
  simpa using stopped

/-- Digits and points, as many as there are, are a number or an obstacle. -/
theorem number_or_obstructs (inside : ∀ character ∈ run, startsNumber character = true)
    (nonempty : run ≠ []) (stop : ∀ character ∈ rest.head?, startsNumber character = false) :
    (∃ kind, Lexeme rest run kind) ∨
      ∀ position, ∃ error, Obstructs position (run ++ rest) error := by
  rcases digits_or_point inside with digits | ⟨digits, behind, rfl, digitsInside, numeral⟩
  · left
    obtain ⟨digit, member⟩ := List.exists_mem_of_ne_nil run nonempty
    refine ⟨_, .number inside ⟨digit, member, digits digit member⟩ ?_ stop
      (Decimal.roundsTo_iff.mpr rfl)⟩
    rw [count_point digits]
    exact Nat.zero_le 1
  · rcases digits_or_point numeral with fraction | ⟨fraction, more, rfl, fractionInside, _⟩
    · by_cases lone : digits = [] ∧ behind = []
      · right
        rw [lone.1, lone.2]
        exact fun position => ⟨_, .point stop⟩
      · left
        refine ⟨_, .number inside ?_ ?_ stop (Decimal.roundsTo_iff.mpr rfl)⟩
        · cases digits with
          | cons digit digits => exact ⟨digit, by simp, digitsInside digit (by simp)⟩
          | nil =>
              cases behind with
              | nil => exact absurd ⟨rfl, rfl⟩ lone
              | cons digit behind => exact ⟨digit, by simp, fraction digit (by simp)⟩
        · rw [List.count_append, List.count_cons_self, count_point digitsInside,
            count_point fraction]
    · right
      intro position
      have obstructs := @Obstructs.secondPoint position digits fraction (more ++ rest)
        digitsInside fractionInside
      rw [List.append_assoc, List.cons_append] at obstructs
      rw [List.append_assoc, List.cons_append, List.append_assoc, List.cons_append]
      exact ⟨_, obstructs⟩

/-- Where the text goes on with something else than a blank, a piece or an obstacle comes. -/
theorem exists_lexeme (tail : List Char) (solid : Text.isBlank character = false) :
    (∃ run rest kind, character :: tail = run ++ rest ∧ Lexeme rest run kind) ∨
      ∀ position, ∃ error, Obstructs position (character :: tail) error := by
  by_cases starts : startsPiece character = true
  · simp only [startsPiece, Bool.or_eq_true, beq_iff_eq] at starts
    rcases starts with ((((left | right) | comma) | symbol) | number) | name
    · exact .inl ⟨[character], tail, .leftParenthesis, rfl, left ▸ .leftParenthesis⟩
    · exact .inl ⟨[character], tail, .rightParenthesis, rfl, right ▸ .rightParenthesis⟩
    · exact .inl ⟨[character], tail, .comma, rfl, comma ▸ .comma⟩
    · obtain ⟨operator, found⟩ := Option.isSome_iff_exists.mp symbol
      rw [Operator.ofSymbol?_eq_some_iff.mp found]
      exact .inl ⟨[operator.symbol], tail, _, rfl, .operator operator⟩
    · obtain ⟨run, rest, whole, inside, stop⟩ := exists_run startsNumber (character :: tail)
      have nonempty : run ≠ [] := by
        rintro rfl
        cases whole
        exact absurd number (Bool.eq_false_iff.mp (stop character rfl))
      rw [whole]
      rcases number_or_obstructs inside nonempty stop with ⟨kind, lexeme⟩ | obstacle
      · exact .inl ⟨run, rest, kind, rfl, lexeme⟩
      · exact .inr obstacle
    · obtain ⟨run, rest, rfl, inside, stop⟩ := exists_run continuesName tail
      exact .inl ⟨character :: run, rest, _, rfl, .name name inside stop⟩
  · exact .inr fun position => ⟨_, .character solid (Bool.eq_false_iff.mpr starts)⟩

theorem Lexeme.ne_nil (lexeme : Lexeme rest run kind) : run ≠ [] := by
  obtain ⟨character, tail, rfl, _, _⟩ := lexeme.read
  exact List.cons_ne_nil character tail

theorem isBlank_of_continuesName (continues : continuesName character = true) :
    Text.isBlank character = false := by
  rw [continuesName, Bool.or_eq_true, Bool.or_eq_true, beq_iff_eq] at continues
  rcases continues with (letter | digit) | rfl
  · exact Text.isBlank_of_isLetter letter
  · exact isBlank_of_isDigit digit
  · decide

/-- A name has been lowered character by character, and it holds no blank. -/
theorem Lexeme.identifier {name : String} (lexeme : Lexeme rest run (.identifier name)) :
    name = String.ofList (Text.lowerCharacters run) ∧
      ∀ character ∈ run, Text.isBlank character = false := by
  cases lexeme with
  | name starts inside _ =>
      refine ⟨rfl, List.forall_mem_cons.mpr ⟨isBlank_of_startsName starts, ?_⟩⟩
      exact fun other member => isBlank_of_continuesName (inside other member)

theorem Lexeme.length_of_isMark (lexeme : Lexeme rest run kind) (mark : kind.isMark = true) :
    run.length = 1 := by
  cases lexeme with
  | number => contradiction
  | name => contradiction
  | leftParenthesis => rfl
  | rightParenthesis => rfl
  | comma => rfl
  | operator operator => rfl

/-- A piece that is no parenthesis holds none. -/
theorem Lexeme.plain (lexeme : Lexeme rest run kind) (noLeft : kind ≠ .leftParenthesis)
    (noRight : kind ≠ .rightParenthesis) :
    ∀ character ∈ run, character ≠ '(' ∧ character ≠ ')' := by
  have apart : ∀ {holds : Char → Bool}, holds '(' = false → holds ')' = false →
      ∀ character, holds character = true → character ≠ '(' ∧ character ≠ ')' := by
    intro holds left right character held
    constructor
    · rintro rfl
      exact absurd held (by simp [left])
    · rintro rfl
      exact absurd held (by simp [right])
  have ofName := @apart continuesName (by decide +kernel) (by decide +kernel)
  cases lexeme with
  | leftParenthesis => exact absurd rfl noLeft
  | rightParenthesis => exact absurd rfl noRight
  | comma => exact List.forall_mem_singleton.mpr (by decide)
  | operator operator => exact List.forall_mem_singleton.mpr (by cases operator <;> decide)
  | number inside _ _ _ _ =>
      exact fun character member =>
        @apart startsNumber (by decide) (by decide) character (inside character member)
  | name starts inside _ =>
      exact List.forall_mem_cons.mpr ⟨ofName _ (continuesName_of_startsName starts),
        fun other member => ofName other (inside other member)⟩

/-- What stands in a piece could also start one. -/
theorem Lexeme.startsPiece (lexeme : Lexeme rest run kind) :
    ∀ character ∈ run, startsPiece character = true := by
  have ofNumber : ∀ character, startsNumber character = true →
      Token.startsPiece character = true := by
    intro character starts
    simp [Token.startsPiece, starts]
  have ofName : ∀ character, continuesName character = true →
      Token.startsPiece character = true := by
    intro character continues
    rw [continuesName, Bool.or_eq_true, Bool.or_eq_true] at continues
    rcases continues with (letter | digit) | underscore
    · simp [Token.startsPiece, startsName, letter]
    · exact ofNumber character (by rw [startsNumber, digit, Bool.true_or])
    · simp [Token.startsPiece, startsName, underscore]
  cases lexeme with
  | leftParenthesis => exact List.forall_mem_singleton.mpr rfl
  | rightParenthesis => exact List.forall_mem_singleton.mpr rfl
  | comma => exact List.forall_mem_singleton.mpr rfl
  | operator operator => exact List.forall_mem_singleton.mpr (by cases operator <;> rfl)
  | number inside _ _ _ _ => exact fun character member => ofNumber character (inside _ member)
  | name starts inside _ =>
      exact List.forall_mem_cons.mpr
        ⟨ofName _ (continuesName_of_startsName starts), fun other member =>
          ofName other (inside other member)⟩

/-- A piece goes on no further if less follows it. -/
theorem Lexeme.shorten (lexeme : Lexeme (text ++ rest) run kind) : Lexeme text run kind := by
  have shorter : ∀ {continues : Char → Bool},
      (∀ character ∈ (text ++ rest).head?, continues character = false) →
        ∀ character ∈ text.head?, continues character = false := by
    intro continues stop
    cases text with
    | nil => exact fun character member => absurd member (by simp)
    | cons character text => exact stop
  cases lexeme with
  | leftParenthesis => exact .leftParenthesis
  | rightParenthesis => exact .rightParenthesis
  | comma => exact .comma
  | operator operator => exact .operator operator
  | number inside digit points stop rounds =>
      exact .number inside digit points (shorter stop) rounds
  | name starts inside stop => exact .name starts inside (shorter stop)

/-- A piece in front of the end of a text is a piece in front of what goes on with none. -/
theorem Lexeme.extend (lexeme : Lexeme text run kind)
    (noNumber : ∀ character ∈ rest.head?, startsNumber character = false)
    (noName : ∀ character ∈ rest.head?, continuesName character = false) :
    Lexeme (text ++ rest) run kind := by
  have longer : ∀ {continues : Char → Bool},
      (∀ character ∈ text.head?, continues character = false) →
        (∀ character ∈ rest.head?, continues character = false) →
          ∀ character ∈ (text ++ rest).head?, continues character = false := by
    intro continues stop behind
    cases text with
    | nil => exact behind
    | cons character text => exact stop
  cases lexeme with
  | leftParenthesis => exact .leftParenthesis
  | rightParenthesis => exact .rightParenthesis
  | comma => exact .comma
  | operator operator => exact .operator operator
  | number inside digit points stop rounds =>
      exact .number inside digit points (longer stop noNumber) rounds
  | name starts inside stop => exact .name starts inside (longer stop noName)

end Character

end Token

end Reckoner
