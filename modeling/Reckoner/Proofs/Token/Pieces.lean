import Reckoner.Proofs.Number.ReadBack
import Reckoner.Proofs.Text.Lowering

/-!
# Texts made of pieces

A text that is put together from pieces is read piece by piece, as long as each piece ends where
the next begins: a number is not followed by a digit or a point, a name not by a character that
goes on with it.  `Lexes` keeps the text that follows as a parameter and forgets the positions of
the tokens, so pieces are composed without any arithmetic.

A name is a text that is read back unchanged as one name.  Such a text has nothing around the run
of characters that is read, as lowering makes no text longer that can be read back unchanged.
-/

namespace Reckoner

namespace Text

/-- No blank is a letter. -/
theorem blankRanges_letterless : ∀ blank ∈ blankRanges, letterRanges.all (fun range =>
    Nat.blt range.2 blank.1 || Nat.blt blank.2 range.1) = true := by
  decide +kernel

theorem isLetter_cases {character : Char} (letter : isLetter character = true) :
    65 ≤ character.toNat ∧ character.toNat ≤ 90 ∨ 97 ≤ character.toNat ∧ character.toNat ≤ 122 ∨
      letterRanges.contains character.toNat = true := by
  rw [isLetter, Bool.or_eq_true, isAlpha_iff, or_assoc] at letter
  exact letter

theorem isBlank_of_isLetter {character : Char} (letter : isLetter character = true) :
    isBlank character = false := by
  rw [isBlank, Ranges.contains, List.any_eq_false]
  intro blank blankMember
  rw [Bool.and_eq_true, decide_eq_true_eq, decide_eq_true_eq]
  rcases isLetter_cases letter with upper | lower | other
  · have bounds : ∀ blank ∈ blankRanges, blank.2 < 65 ∨ 122 < blank.1 := by decide
    have outside := bounds blank blankMember
    omega
  · have bounds : ∀ blank ∈ blankRanges, blank.2 < 65 ∨ 122 < blank.1 := by decide
    have outside := bounds blank blankMember
    omega
  · obtain ⟨range, member, inside⟩ := List.any_eq_true.mp other
    rw [Bool.and_eq_true, decide_eq_true_eq, decide_eq_true_eq] at inside
    have apart := List.all_eq_true.mp (blankRanges_letterless blank blankMember) range member
    rw [Bool.or_eq_true, Nat.blt_eq, Nat.blt_eq] at apart
    omega

end Text

namespace Token

variable {first second rest tail : List Char} {kinds laterKinds : List TokenKind}
  {character : Char} {kind : TokenKind}

/-- In front of the given rest exactly these characters are read, as tokens of these kinds. -/
def Lexes (characters : List Char) (kinds : List TokenKind) (rest : List Char) : Prop :=
  ∀ position finish, ∃ tokens behind behindFinish,
    tokens.map Token.kind = kinds ∧
      readFrom 0 position finish (characters ++ rest) =
        (readFrom 0 behind behindFinish rest).map (tokens ++ ·)

theorem lexes_nil (rest : List Char) : Lexes [] [] rest := by
  intro position finish
  refine ⟨[], position, finish, rfl, ?_⟩
  rw [List.nil_append]
  cases readFrom 0 position finish rest <;> rfl

theorem Lexes.append (firstLexes : Lexes first kinds (second ++ rest))
    (secondLexes : Lexes second laterKinds rest) :
    Lexes (first ++ second) (kinds ++ laterKinds) rest := by
  intro position finish
  obtain ⟨tokens, middle, middleFinish, tokensEq, run⟩ := firstLexes position finish
  obtain ⟨later, behind, behindFinish, laterEq, laterRun⟩ := secondLexes middle middleFinish
  refine ⟨tokens ++ later, behind, behindFinish, ?_, ?_⟩
  · rw [List.map_append, tokensEq, laterEq]
  · rw [List.append_assoc, run, laterRun]
    cases readFrom 0 behind behindFinish rest with
    | error error => rfl
    | ok others => exact congrArg Except.ok (List.append_assoc tokens later others).symm

/-- A text that is read as these tokens up to its end is read as them and the end of the input. -/
theorem Lexes.readAll_eq (lexes : Lexes first kinds []) :
    ∃ tokens position, readAll (String.ofList first) = .ok (tokens ++ [⟨.finish, position⟩]) ∧
      tokens.map Token.kind = kinds := by
  obtain ⟨tokens, behind, position, kindsEq, run⟩ := lexes 0 0
  refine ⟨tokens, position, ?_, kindsEq⟩
  rw [List.append_nil] at run
  rw [readAll, readAllCharacters, String.toList_ofList, run]
  rfl

theorem lexes_blank (blank : Text.isBlank character = true) (rest : List Char) :
    Lexes [character] [] rest := by
  intro position finish
  refine ⟨[], position + 1, position + 1, rfl, ?_⟩
  rw [List.singleton_append, readFrom]
  simp only [blank, if_true]
  cases readFrom 0 (position + 1) (position + 1) rest <;> rfl

theorem lexes_space (rest : List Char) : Lexes [' '] [] rest :=
  lexes_blank (by decide) rest

theorem lexes_token (solid : Text.isBlank character = false)
    (read : ∀ position, readOne position character (tail ++ rest) = .ok (kind, tail.length + 1)) :
    Lexes (character :: tail) [kind] rest := by
  intro position finish
  refine ⟨[⟨kind, position⟩], position + 1 + tail.length, position + 1, rfl, ?_⟩
  have enough : tail.length ≤ (tail ++ rest).length := by simp
  rw [List.cons_append, readFrom]
  simp only [solid, Bool.false_eq_true, if_false, read, Nat.add_sub_cancel]
  rw [readFrom_skip tail.length _ _ _ enough, List.drop_left]
  cases readFrom 0 (position + 1 + tail.length) (position + 1) rest <;> rfl

theorem lexes_leftParenthesis (rest : List Char) : Lexes ['('] [.leftParenthesis] rest :=
  lexes_token (by decide) fun _ => rfl

theorem lexes_rightParenthesis (rest : List Char) : Lexes [')'] [.rightParenthesis] rest :=
  lexes_token (by decide) fun _ => rfl

theorem lexes_comma (rest : List Char) : Lexes [','] [.comma] rest :=
  lexes_token (by decide) fun _ => rfl

theorem lexes_operator (operator : Operator) (rest : List Char) :
    Lexes [operator.symbol] [.operator operator.symbol] rest := by
  refine lexes_token ?_ fun position => ?_
  · cases operator <;> decide
  · cases operator <;> rfl

theorem isBlank_of_isDigit (digit : character.isDigit = true) :
    Text.isBlank character = false := by
  have bounds : 48 ≤ character.toNat ∧ character.toNat ≤ 57 := by
    simpa [Char.isDigit, UInt32.le_iff_toNat_le] using digit
  simp [Text.isBlank, Text.blankRanges, Text.Ranges.contains]
  omega

/-- A digit or a point leads to a number, or to a malformed one. -/
theorem readOne_of_startsNumber (starts : startsNumber character = true) (position : Nat)
    (tail : List Char) :
    Text.isBlank character = false ∧
      readOne position character tail =
        match readNumber (character :: tail) with
        | .ok (value, count) => .ok (.number value, count)
        | .error literal => .error (.malformedNumber (String.ofList literal) position) := by
  by_cases digit : character.isDigit = true
  · refine ⟨isBlank_of_isDigit digit, ?_⟩
    have different : ∀ other : Char, other.isDigit = false → character ≠ other := by
      rintro other noDigit rfl
      rw [noDigit] at digit
      contradiction
    have noSymbol : ¬Operator.isSymbol character = true := by
      intro symbol
      obtain ⟨operator, found⟩ := Option.isSome_iff_exists.mp symbol
      rw [Operator.ofSymbol?_eq_some_iff.mp found] at digit
      cases operator <;> contradiction
    exact (if_neg (different _ rfl)).trans ((if_neg (different _ rfl)).trans
      ((if_neg (different _ rfl)).trans ((if_neg noSymbol).trans (if_pos starts))))
  · have point : character = '.' := by simpa [startsNumber, digit] using starts
    subst point
    exact ⟨by decide, rfl⟩

/-- Where a digit comes, a number is read. -/
theorem readOne_of_isDigit (digit : character.isDigit = true) {value : Float} {count : Nat}
    (read : readNumber (character :: tail) = .ok (value, count)) (position : Nat) :
    readOne position character tail = .ok (.number value, count) := by
  have starts : startsNumber character = true := by rw [startsNumber, digit, Bool.true_or]
  rw [(readOne_of_startsNumber starts position tail).2, read]

/-- A decimal starts with a digit. -/
theorem characters_head (decimal : Decimal) :
    ∃ character tail, decimal.characters = character :: tail ∧ character.isDigit = true := by
  have whole : ∀ value behind, ∃ character tail,
      Nat.toDigits 10 value ++ behind = character :: tail ∧ character.isDigit = true := by
    intro value behind
    obtain ⟨character, tail, digits⟩ := List.exists_cons_of_ne_nil
      (Nat.toDigits_ne_nil : Nat.toDigits 10 value ≠ [])
    refine ⟨character, tail ++ behind, by rw [digits, List.cons_append], ?_⟩
    exact Decimal.isDigit_of_mem_toDigits (digits ▸ List.mem_cons_self)
  unfold Decimal.characters
  dsimp only
  split
  · obtain ⟨character, tail, digits, digit⟩ := whole (decimal.digits / Nat.pow 10 decimal.places) []
    exact ⟨character, tail, (List.append_nil _).symm.trans digits, digit⟩
  · exact whole _ _

theorem lexes_decimal (decimal : Decimal)
    (stop : ∀ character ∈ rest.head?, startsNumber character = false) :
    Lexes decimal.characters [.number (decimal.toFloat false)] rest := by
  obtain ⟨character, tail, digits, digit⟩ := characters_head decimal
  have read := readNumber_characters decimal stop
  rw [digits] at read ⊢
  refine lexes_token (isBlank_of_isDigit digit) fun position => ?_
  exact readOne_of_isDigit digit read position

theorem isBlank_of_startsName (starts : startsName character = true) :
    Text.isBlank character = false := by
  rw [startsName, Bool.or_eq_true, beq_iff_eq] at starts
  rcases starts with letter | rfl
  · exact Text.isBlank_of_isLetter letter
  · decide

theorem isDigit_of_startsName (starts : startsName character = true) :
    character.isDigit = false := by
  by_contra digit
  have bounds : 48 ≤ character.toNat ∧ character.toNat ≤ 57 := by
    simpa [Char.isDigit, UInt32.le_iff_toNat_le] using digit
  rw [startsName, Bool.or_eq_true, beq_iff_eq] at starts
  rcases starts with letter | rfl
  · rcases Text.isLetter_cases letter with upper | lower | other
    · omega
    · omega
    · have high := (Text.isValidChar_of_letter other).1
      omega
  · contradiction

theorem continuesName_of_startsName (starts : startsName character = true) :
    continuesName character = true := by
  rw [startsName, Bool.or_eq_true] at starts
  rw [continuesName, Bool.or_eq_true, Bool.or_eq_true]
  exact starts.imp_left .inl

/-- Where a letter or an underscore comes, a name is read. -/
theorem readOne_of_startsName (starts : startsName character = true) (position : Nat) :
    readOne position character tail =
      .ok (.identifier (readName (character :: tail)).1, (readName (character :: tail)).2) := by
  have different : ∀ other : Char, startsName other = false → character ≠ other := by
    rintro other noName rfl
    rw [noName] at starts
    contradiction
  have noSymbol : ¬Operator.isSymbol character = true := by
    intro symbol
    obtain ⟨operator, found⟩ := Option.isSome_iff_exists.mp symbol
    refine different operator.symbol ?_ (Operator.ofSymbol?_eq_some_iff.mp found)
    cases operator <;> decide +kernel
  have noNumber : ¬startsNumber character = true := by
    have point := different '.' (by decide +kernel)
    simp [startsNumber, isDigit_of_startsName starts, point]
  unfold readOne
  rw [if_neg (different _ (by decide +kernel)), if_neg (different _ (by decide +kernel)),
    if_neg (different _ (by decide +kernel)), if_neg noSymbol, if_neg noNumber, if_pos starts]

/-- The text is read back unchanged, as one name. -/
def IsName (name : String) : Prop :=
  ∃ tokens, readAll name = .ok tokens ∧ tokens.map Token.kind = [.identifier name, .finish]

/-- Which token starts with a character that starts a name depends on the character alone. -/
theorem readOne_identifier {position count : Nat} {name : String}
    (read : readOne position character tail = .ok (.identifier name, count)) :
    name = (readName (character :: tail)).1 ∧ ∀ position rest,
      readOne position character rest =
        .ok (.identifier (readName (character :: rest)).1, (readName (character :: rest)).2) := by
  unfold readOne at read ⊢
  split at read
  · cases read
  · next noLeft =>
      split at read
      · cases read
      · next noRight =>
          split at read
          · cases read
          · next noComma =>
              split at read
              · cases read
              · next noSymbol =>
                  split at read
                  · split at read <;> cases read
                  · next noNumber =>
                      split at read
                      · next starts =>
                          cases read
                          refine ⟨rfl, fun position rest => ?_⟩
                          rw [if_neg noLeft, if_neg noRight, if_neg noComma, if_neg noSymbol,
                            if_neg noNumber, if_pos starts]
                      · cases read

/-- Blanks aside, the first token starts with the first character. -/
theorem readFrom_identifier {characters : List Char} {position finish : Nat} {tokens : List Token}
    {name : String} (read : readFrom 0 position finish characters = .ok tokens)
    (kindsEq : tokens.map Token.kind = [.identifier name, .finish]) :
    ∃ before character tail, characters = before ++ character :: tail ∧
      Text.isBlank character = false ∧
      ∃ place count, readOne place character tail = .ok (.identifier name, count) := by
  induction characters generalizing position finish with
  | nil =>
      cases read
      cases kindsEq
  | cons character rest induction =>
      rw [readFrom] at read
      split at read
      · obtain ⟨before, first, tail, rfl, found⟩ := induction read
        exact ⟨character :: before, first, tail, rfl, found⟩
      · next solid =>
          split at read
          · cases read
          · next kind count readOneEq =>
              split at read
              · cases read
              · next others othersEq =>
                  cases read
                  have kindEq : kind = .identifier name := (List.cons.inj kindsEq).1
                  rw [kindEq] at readOneEq
                  exact ⟨[], character, rest, rfl, Bool.eq_false_iff.mpr solid, position, count,
                    readOneEq⟩

/-- A name is one run of characters, whose lower case it is. -/
theorem IsName.run {name : String} (isName : IsName name) :
    ∃ character tail, name.toList = character :: tail ∧ Text.isBlank character = false ∧
      (∀ inside ∈ character :: tail, continuesName inside = true) ∧
      Text.lowerCharacters (character :: tail) = character :: tail ∧
      ∀ position rest, readOne position character rest =
        .ok (.identifier (readName (character :: rest)).1, (readName (character :: rest)).2) := by
  obtain ⟨tokens, read, kindsEq⟩ := isName
  obtain ⟨before, character, tail, whole, solid, place, count, readOneEq⟩ :=
    readFrom_identifier read kindsEq
  obtain ⟨nameEq, always⟩ := readOne_identifier readOneEq
  have split : (character :: tail).takeWhile continuesName ++
      (character :: tail).dropWhile continuesName = character :: tail :=
    List.takeWhile_append_dropWhile
  have lowered : Text.lowerCharacters ((character :: tail).takeWhile continuesName) =
      name.toList := by
    rw [nameEq]
    exact String.toList_ofList.symm
  have around : Text.lowerCharacters ((character :: tail).takeWhile continuesName) =
      before ++ ((character :: tail).takeWhile continuesName ++
        (character :: tail).dropWhile continuesName) := by
    rw [split]
    exact lowered.trans whole
  obtain ⟨beforeNil, behindNil⟩ := Text.lowerCharacters_around around
  rw [behindNil, List.append_nil] at split
  rw [beforeNil, List.nil_append] at whole
  have inside : ((character :: tail).takeWhile continuesName).all continuesName = true :=
    List.all_takeWhile
  rw [split] at lowered inside
  exact ⟨character, tail, whole, solid, List.all_eq_true.mp inside, lowered.trans whole, always⟩

/-- A name is read where nothing goes on with it. -/
theorem IsName.lexes {name : String} (isName : IsName name)
    (stop : ∀ character ∈ rest.head?, continuesName character = false) :
    Lexes name.toList [.identifier name] rest := by
  obtain ⟨character, tail, whole, solid, inside, lowered, always⟩ := isName.run
  have taken := (takeWhile_run inside stop).1
  have readEq : readName (character :: (tail ++ rest)) = (name, tail.length + 1) := by
    rw [readName, ← List.cons_append, taken, lowered, ← whole, String.ofList_toList, whole]
    rfl
  rw [whole]
  refine lexes_token solid fun position => ?_
  rw [always, readEq]

/-- The lower case of a run of characters that make a name is a name. -/
theorem isName_of_run (starts : startsName character = true)
    (inside : ∀ other ∈ character :: tail, continuesName other = true)
    (plain : 'İ' ∉ character :: tail) :
    IsName (String.ofList (Text.lowerCharacters (character :: tail))) := by
  have dotless : character ≠ 'İ' := fun same => plain (same ▸ List.mem_cons_self)
  obtain ⟨small, lower, _, kept⟩ := Text.lowerCharacter_eq_singleton dotless
  have whole : Text.lowerCharacters (character :: tail) = small :: Text.lowerCharacters tail := by
    rw [Text.lowerCharacters, List.flatMap_cons, lower]
    rfl
  have smallStarts : startsName small = true := by
    rcases kept with rfl | letter
    · exact starts
    · rw [startsName, letter, Bool.true_or]
  have smallInside : ∀ other ∈ small :: Text.lowerCharacters tail, continuesName other = true := by
    intro other member
    rw [← whole] at member
    rcases Text.of_mem_lowerCharacters plain member with same | letter
    · exact inside other same
    · rw [continuesName, letter, Bool.true_or, Bool.true_or]
  have fixed := Text.lowerCharacters_lowerCharacters plain
  rw [whole] at fixed ⊢
  have taken : (small :: Text.lowerCharacters tail ++ []).takeWhile continuesName =
      small :: Text.lowerCharacters tail := (takeWhile_run smallInside (by simp)).1
  have lexes : Lexes (small :: Text.lowerCharacters tail)
      [.identifier (String.ofList (small :: Text.lowerCharacters tail))] [] := by
    refine lexes_token (isBlank_of_startsName smallStarts) fun position => ?_
    rw [readOne_of_startsName smallStarts, readName, ← List.cons_append, taken, fixed]
    rfl
  obtain ⟨tokens, position, read, kindsEq⟩ := lexes.readAll_eq
  exact ⟨_, read, by rw [List.map_append, kindsEq]; rfl⟩

end Token

end Reckoner
