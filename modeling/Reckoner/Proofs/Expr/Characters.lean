import Reckoner.Number.Places
import Reckoner.Proofs.Calculator
import Reckoner.Proofs.Expr.Steps
import Reckoner.Proofs.Text.Columns
import Reckoner.Proofs.Text.Words
import Reckoner.Proofs.Token.Lexemes

/-!
# What a text of the calculator is made of

A number is written in digits and a few other signs (`Number.isFigure`), of one column each.  A name
that was read consists of name characters, but for the dot that a lowered `İ` leaves behind
(`Token.IsLowered`).  What all these characters and the marks between them have in common holds of
every character in the text of an expression that was read (`Expr.Permits`).  So the text is spaced:
there are no blanks in it but spaces (`Text.Spaced`), and it fits on one line.  No character in it
shares the columns of another one (`Text.Unjoined`).  The text is never blank.
-/

namespace Reckoner

namespace Text

/-- There are no blanks but spaces. -/
def Spaced (characters : List Char) : Prop :=
  ∀ character ∈ characters, isBlank character = true → character = ' '

variable {characters other : List Char} {character : Char}

theorem Spaced.nil : Spaced [] :=
  List.forall_mem_nil _

theorem Spaced.of_solid (solid : ∀ character ∈ characters, isBlank character = false) :
    Spaced characters := by
  intro character member blank
  rw [solid character member] at blank
  contradiction

theorem Spaced.append (spaced : Spaced characters) (otherSpaced : Spaced other) :
    Spaced (characters ++ other) :=
  List.forall_mem_append.mpr ⟨spaced, otherSpaced⟩

theorem Spaced.cons (solid : isBlank character = false) (spaced : Spaced characters) :
    Spaced (character :: characters) :=
  .append (.of_solid (List.forall_mem_singleton.mpr solid)) spaced

theorem Spaced.space (spaced : Spaced characters) : Spaced (' ' :: characters) :=
  List.forall_mem_cons.mpr ⟨fun _ => rfl, spaced⟩

theorem Spaced.not_mem (spaced : Spaced characters) : '\n' ∉ characters :=
  fun member => absurd (spaced '\n' member (by decide)) (by decide)

end Text

/-! ## Numbers -/

namespace Number

/-- Whether the text of a number may hold the character. -/
def isFigure (character : Char) : Bool :=
  character.isDigit || ['-', '.', 'e', 'i', 'n', 'f', 'N', 'a'].contains character

theorem isFigure_of_isDigit {character : Char} (digit : character.isDigit = true) :
    isFigure character = true := by
  rw [isFigure, digit, Bool.true_or]

theorem isBlank_of_isFigure {character : Char} (figure : isFigure character = true) :
    Text.isBlank character = false := by
  rw [isFigure, Bool.or_eq_true] at figure
  rcases figure with digit | sign
  · exact Token.isBlank_of_isDigit digit
  · have signs : ['-', '.', 'e', 'i', 'n', 'f', 'N', 'a'].all (!Text.isBlank ·) = true := by decide
    simpa using List.all_eq_true.mp signs character (List.contains_iff_mem.mp sign)

theorem isPrintable_of_isFigure {character : Char} (figure : isFigure character = true) :
    Text.isPrintable character = true := by
  rw [isFigure, Bool.or_eq_true] at figure
  rcases figure with digit | sign
  · have bounds : 48 ≤ character.toNat ∧ character.toNat ≤ 57 := by
      simpa [Char.isDigit, UInt32.le_iff_toNat_le] using digit
    rw [Text.isPrintable, Bool.and_eq_true, decide_eq_true_eq, decide_eq_true_eq]
    omega
  · have signs : ['-', '.', 'e', 'i', 'n', 'f', 'N', 'a'].all Text.isPrintable = true := by decide
    exact List.all_eq_true.mp signs character (List.contains_iff_mem.mp sign)

theorem isFigure_signCharacters (value : Float) :
    ∀ character ∈ signCharacters value, isFigure character = true := by
  intro character member
  unfold signCharacters at member
  split at member
  · rw [List.mem_singleton.mp member]
    decide
  · cases member

theorem isFigure_decimal (decimal : Decimal) :
    ∀ character ∈ decimal.characters, isFigure character = true := by
  intro character member
  unfold Decimal.characters at member
  dsimp only at member
  split at member
  · exact isFigure_of_isDigit (Decimal.isDigit_of_mem_toDigits member)
  · rw [List.mem_append, List.mem_cons] at member
    rcases member with whole | rfl | fraction
    · exact isFigure_of_isDigit (Decimal.isDigit_of_mem_toDigits whole)
    · decide
    · exact isFigure_of_isDigit (Decimal.isDigit_of_mem_padded fraction)

theorem isFigure_characters (value : Float) :
    ∀ character ∈ characters value, isFigure character = true := by
  have name : ∀ word : List Char, word.all isFigure = true →
      ∀ character ∈ word, isFigure character = true := fun _ => List.all_eq_true.mp
  unfold characters
  split
  · exact name _ (by decide)
  · split
    · exact List.forall_mem_append.mpr ⟨isFigure_signCharacters value, name _ (by decide)⟩
    · exact List.forall_mem_append.mpr ⟨isFigure_signCharacters value, isFigure_decimal _⟩

theorem isFigure_wholeCharacters (value : Int) :
    ∀ character ∈ wholeCharacters value, isFigure character = true := by
  have digits : ∀ character ∈ Nat.toDigits 10 value.natAbs, isFigure character = true :=
    fun character member => isFigure_of_isDigit (Decimal.isDigit_of_mem_toDigits member)
  unfold wholeCharacters
  split
  · exact List.forall_mem_cons.mpr ⟨by decide, digits⟩
  · exact digits

theorem dropTrailing_subset (character : Char) (characters : List Char) :
    dropTrailing character characters ⊆ characters := by
  intro other member
  rw [dropTrailing, List.mem_reverse] at member
  exact List.mem_reverse.mp ((List.dropWhile_suffix _).subset member)

theorem isFigure_scientific (places : Nat) (value : Float) :
    ∀ character ∈ scientificCharacters places value, isFigure character = true := by
  unfold scientificCharacters
  refine List.forall_mem_append.mpr ⟨List.forall_mem_append.mpr ⟨?_, ?_⟩,
    List.forall_mem_cons.mpr ⟨by decide, ?_⟩⟩
  · exact isFigure_signCharacters value
  · exact isFigure_decimal _
  · exact isFigure_wholeCharacters _

theorem isFigure_fixed (places : Nat) (value : Float) :
    ∀ character ∈ fixedCharacters places value, isFigure character = true :=
  List.forall_mem_append.mpr ⟨isFigure_signCharacters value, isFigure_decimal _⟩

theorem isFigure_resultText (value : Float) :
    ∀ character ∈ (resultText value).toList, isFigure character = true := by
  rw [resultText, String.toList_ofList, ResultFormat.characters]
  split
  · exact isFigure_characters value
  · split
    · exact isFigure_scientific resultFormat.places value
    · intro character member
      have inside := dropTrailing_subset _ _ (dropTrailing_subset _ _ member)
      exact isFigure_fixed resultFormat.places value character inside

theorem characters_ne_nil (value : Float) : characters value ≠ [] := by
  unfold characters
  split
  · exact List.cons_ne_nil _ _
  · split
    · exact List.append_ne_nil_of_right_ne_nil _ (List.cons_ne_nil _ _)
    · apply List.append_ne_nil_of_right_ne_nil
      unfold Decimal.characters
      dsimp only
      split
      · exact Nat.toDigits_ne_nil
      · exact List.append_ne_nil_of_right_ne_nil _ (List.cons_ne_nil _ _)

theorem spaced_characters (value : Float) : Text.Spaced (characters value) :=
  .of_solid fun character member => isBlank_of_isFigure (isFigure_characters value character member)

theorem spaced_resultText (value : Float) : Text.Spaced (resultText value).toList :=
  .of_solid fun character member => isBlank_of_isFigure (isFigure_resultText value character member)

theorem single_resultText [Text.ScreenWidths] (value : Float) :
    Text.Single (resultText value).toList :=
  fun character member =>
    Text.columns_printable (isPrintable_of_isFigure (isFigure_resultText value character member))

end Number

/-! ## Names -/

namespace Token

variable {character : Char} {run text : List Char} {name : String} {kinds : List TokenKind}

/-- A name as it is read: name characters, and the dot that a lowered `İ` leaves behind. -/
structure IsLowered (name : List Char) : Prop where
  nonempty : name ≠ []
  inside : ∀ character ∈ name, continuesName character = true ∨ character = '\u0307'

theorem continuesName_of_isLetter (letter : Text.isLetter character = true) :
    continuesName character = true := by
  rw [continuesName, letter, Bool.true_or, Bool.true_or]

theorem continuesName_of_mem_lowerCharacter (continues : continuesName character = true) :
    ∀ small ∈ Text.lowerCharacter character, continuesName small = true ∨ small = '\u0307' := by
  by_cases dotted : character = 'İ'
  · subst dotted
    have lower : Text.lowerCharacter 'İ' = ['i', '\u0307'] := by decide
    rw [lower]
    exact List.forall_mem_cons.mpr ⟨.inl (by decide), List.forall_mem_singleton.mpr (.inr rfl)⟩
  · obtain ⟨small, lower, _, kept⟩ := Text.lowerCharacter_eq_singleton dotted
    rw [lower, List.forall_mem_singleton]
    rcases kept with rfl | letter
    · exact .inl continues
    · exact .inl (continuesName_of_isLetter letter)

theorem Lexeme.isLowered {rest : List Char} (lexeme : Lexeme rest run (.identifier name)) :
    IsLowered name.toList := by
  cases lexeme with
  | @name character tail starts inside =>
      have continues : ∀ other ∈ character :: tail, continuesName other = true :=
        List.forall_mem_cons.mpr ⟨continuesName_of_startsName starts, inside⟩
      rw [String.toList_ofList]
      constructor
      · rw [Text.lowerCharacters, List.flatMap_cons]
        apply List.append_ne_nil_of_left_ne_nil
        unfold Text.lowerCharacter
        split
        · exact List.cons_ne_nil _ _
        · split <;> exact List.cons_ne_nil _ _
      · intro small member
        obtain ⟨other, otherMember, lowered⟩ := List.mem_flatMap.mp member
        exact continuesName_of_mem_lowerCharacter (continues other otherMember) small lowered

theorem Scans.isLowered {position : Nat} {tokens : List Token}
    (scans : Scans [] position text tokens) (member : .identifier name ∈ tokens.map Token.kind) :
    IsLowered name.toList := by
  induction scans with
  | done => cases member
  | blank _ _ induction => exact induction member
  | piece lexeme _ induction =>
      rcases List.mem_cons.mp member with rfl | behind
      · exact lexeme.isLowered
      · exact induction behind

theorem IsLowered.isWord {name : List Char} (isLowered : IsLowered name) : Text.IsWord name := by
  refine ⟨isLowered.nonempty, fun character member => ?_⟩
  rcases isLowered.inside character member with continues | rfl
  · exact isBlank_of_continuesName continues
  · decide

theorem IsLowered.unjoined {name : List Char} (isLowered : IsLowered name) : Text.Unjoined name := by
  intro character member
  constructor <;> rintro rfl <;> rcases isLowered.inside _ member with continues | dot
  · exact absurd continues (by decide +kernel)
  · exact absurd dot (by decide)
  · exact absurd continues (by decide +kernel)
  · exact absurd dot (by decide)

end Token

namespace Calculator

variable {calculator : Calculator} {text : String} {tree : Expr}

theorem isLowered_of_read (read : calculator.read text = .ok tree) :
    ∀ name ∈ tree.names, Token.IsLowered name.toList := by
  obtain ⟨front, levels, scans, sum⟩ := scans_of_read read
  intro name member
  exact scans.isLowered (sum.mem_names.mp member)

/-- The names of a tree that was read are words. -/
theorem isWord_of_read (read : calculator.read text = .ok tree) :
    ∀ name ∈ tree.names, Text.IsWord name.toList :=
  fun name member => (isLowered_of_read read name member).isWord

end Calculator

/-! ## Expressions and their steps -/

namespace Expr

variable {tree : Expr}

theorem isBlank_symbol (operator : Operator) : Text.isBlank operator.symbol = false := by
  cases operator <;> decide

/-- The characters that stand in a tree beside its names. -/
structure Permits (allowed : Char → Prop) : Prop where
  figure : ∀ character, Number.isFigure character = true → allowed character
  symbol : ∀ operator : Operator, allowed operator.symbol
  mark : ∀ character ∈ ['-', '(', ')', ',', ' '], allowed character

variable {allowed : Char → Prop}

theorem Permits.enclose (permits : Permits allowed) (enclosed : Bool) {characters : List Char}
    (inside : ∀ character ∈ characters, allowed character) :
    ∀ character ∈ Expr.enclose enclosed characters, allowed character := by
  cases enclosed with
  | false => exact inside
  | true =>
      exact List.forall_mem_append.mpr
        ⟨List.forall_mem_cons.mpr ⟨permits.mark '(' (by decide), inside⟩,
          List.forall_mem_singleton.mpr (permits.mark ')' (by decide))⟩

mutual

theorem Permits.characters (permits : Permits allowed) (tree : Expr)
    (names : ∀ name ∈ tree.names, ∀ character ∈ name.toList, allowed character) :
    ∀ character ∈ tree.characters, allowed character := by
  match tree with
  | .literal value =>
      exact fun character member =>
        permits.figure character (Number.isFigure_characters value character member)
  | .constant name => exact names name List.mem_cons_self
  | .negate operand =>
      exact List.forall_mem_cons.mpr ⟨permits.mark '-' (by decide),
        permits.enclose _ (permits.characters operand names)⟩
  | .binary operator left right =>
      obtain ⟨leftNames, rightNames⟩ := List.forall_mem_append.mp names
      have leftInside := permits.enclose (operator.enclosesLeft left.level)
        (permits.characters left leftNames)
      have rightInside := permits.enclose (operator.enclosesRight right.level)
        (permits.characters right rightNames)
      have space := permits.mark ' ' (by decide)
      refine List.forall_mem_append.mpr ⟨leftInside, ?_⟩
      exact List.forall_mem_cons.mpr ⟨space, List.forall_mem_cons.mpr
        ⟨permits.symbol operator, List.forall_mem_cons.mpr ⟨space, rightInside⟩⟩⟩
  | .call function arguments =>
      obtain ⟨function, argumentNames⟩ := List.forall_mem_cons.mp names
      have inside := permits.argumentCharacters arguments argumentNames
      refine List.forall_mem_append.mpr ⟨List.forall_mem_append.mpr ⟨function, ?_⟩, ?_⟩
      · exact List.forall_mem_cons.mpr ⟨permits.mark '(' (by decide), inside⟩
      · exact List.forall_mem_singleton.mpr (permits.mark ')' (by decide))

theorem Permits.argumentCharacters (permits : Permits allowed) (arguments : List Expr)
    (names : ∀ name ∈ namesAll arguments, ∀ character ∈ name.toList, allowed character) :
    ∀ character ∈ Expr.argumentCharacters arguments, allowed character := by
  match arguments with
  | [] => exact nofun
  | [argument] =>
      refine permits.characters argument fun name member => names name ?_
      rwa [namesAll, namesAll, List.append_nil]
  | argument :: next :: others =>
      obtain ⟨first, rest⟩ := List.forall_mem_append.mp names
      have behind := permits.argumentCharacters (next :: others) rest
      refine List.forall_mem_append.mpr ⟨permits.characters argument first, ?_⟩
      exact List.forall_mem_cons.mpr ⟨permits.mark ',' (by decide),
        List.forall_mem_cons.mpr ⟨permits.mark ' ' (by decide), behind⟩⟩

end

theorem permits_spaced :
    Permits fun character => Text.isBlank character = true → character = ' ' where
  figure character figure blank := by
    rw [Number.isBlank_of_isFigure figure] at blank
    contradiction
  symbol operator blank := by
    rw [isBlank_symbol] at blank
    contradiction
  mark character member := by
    simp only [List.mem_cons, List.not_mem_nil, or_false] at member
    rcases member with rfl | rfl | rfl | rfl | rfl <;> decide

theorem spaced_characters (tree : Expr) (words : ∀ name ∈ tree.names, Text.IsWord name.toList) :
    Text.Spaced tree.characters :=
  permits_spaced.characters tree fun name member => Text.Spaced.of_solid (words name member).solid

theorem permits_unjoined :
    Permits fun character => character ≠ '\n' ∧ character ≠ '\u200D' where
  figure character figure := by
    constructor <;> rintro rfl <;> exact absurd figure (by decide)
  symbol operator := by cases operator <;> decide
  mark character member := by
    simp only [List.mem_cons, List.not_mem_nil, or_false] at member
    rcases member with rfl | rfl | rfl | rfl | rfl <;> decide

theorem unjoined_characters (tree : Expr)
    (names : ∀ name ∈ tree.names, Token.IsLowered name.toList) :
    Text.Unjoined tree.characters :=
  permits_unjoined.characters tree fun name member => (names name member).unjoined

/-- The text of an expression is not blank. -/
theorem exists_solid (tree : Expr) (words : ∀ name ∈ tree.names, Text.IsWord name.toList) :
    ∃ character ∈ tree.characters, Text.isBlank character = false := by
  cases tree with
  | literal value =>
      obtain ⟨character, member⟩ := List.exists_mem_of_ne_nil _ (Number.characters_ne_nil value)
      exact ⟨character, member, Number.isBlank_of_isFigure
        (Number.isFigure_characters value character member)⟩
  | constant name =>
      have word := words name List.mem_cons_self
      obtain ⟨character, member⟩ := List.exists_mem_of_ne_nil _ word.nonempty
      exact ⟨character, member, word.solid character member⟩
  | negate operand => exact ⟨'-', List.mem_cons_self, by decide⟩
  | binary operator left right =>
      refine ⟨operator.symbol, ?_, isBlank_symbol operator⟩
      simp [characters]
  | call function arguments =>
      refine ⟨'(', ?_, by decide⟩
      simp [characters]

mutual

theorem names_subset_of_mem_operations (tree : Expr) {form : Expr}
    (member : form ∈ tree.operations) : form.names ⊆ tree.names := by
  match tree with
  | .literal value => cases member
  | .constant name =>
      rw [List.mem_singleton.mp member]
      exact List.Subset.refl _
  | .negate operand =>
      rcases List.mem_append.mp member with inside | last
      · exact names_subset_of_mem_operations operand inside
      · rw [List.mem_singleton.mp last]
        exact List.Subset.refl _
  | .binary operator left right =>
      rcases List.mem_append.mp member with inside | last
      · rcases List.mem_append.mp inside with leftInside | rightInside
        · exact List.subset_append_of_subset_left _
            (names_subset_of_mem_operations left leftInside)
        · exact List.subset_append_of_subset_right _
            (names_subset_of_mem_operations right rightInside)
      · rw [List.mem_singleton.mp last]
        exact List.Subset.refl _
  | .call function arguments =>
      rcases List.mem_append.mp member with inside | last
      · exact List.subset_cons_of_subset _ (names_subset_of_mem_operationsAll arguments inside)
      · rw [List.mem_singleton.mp last]
        exact List.Subset.refl _

theorem names_subset_of_mem_operationsAll (arguments : List Expr) {form : Expr}
    (member : form ∈ operationsAll arguments) : form.names ⊆ namesAll arguments := by
  match arguments with
  | [] => cases member
  | argument :: rest =>
      rcases List.mem_append.mp member with first | behind
      · exact List.subset_append_of_subset_left _ (names_subset_of_mem_operations argument first)
      · exact List.subset_append_of_subset_right _
          (names_subset_of_mem_operationsAll rest behind)

end

theorem spaced_intercalate (values : List Float) :
    Text.Spaced ([',', ' '].intercalate (values.map Number.characters)) := by
  induction values with
  | nil => exact .nil
  | cons value rest induction =>
      cases rest with
      | nil =>
          rw [List.map_singleton, List.intercalate_singleton]
          exact Number.spaced_characters value
      | cons next others =>
          rw [List.map_cons, List.map_cons, List.intercalate_cons_cons]
          exact ((Number.spaced_characters value).append
            (.cons (by decide) (.space .nil))).append induction

theorem Adds.spaced {environment : Environment} {form : Expr} {step : Step}
    (adds : Adds environment form step) (words : ∀ name ∈ form.names, Text.IsWord name.toList) :
    Text.Spaced step.operation.toList := by
  cases adds with
  | constant => exact .of_solid (words _ List.mem_cons_self).solid
  | negate =>
      rw [String.toList_ofList]
      exact .cons (by decide) (Number.spaced_characters _)
  | @binary operator =>
      rw [String.toList_ofList]
      exact (Number.spaced_characters _).append
        (.space (.cons (isBlank_symbol operator) (Number.spaced_characters _).space))
  | call =>
      rw [String.toList_ofList]
      exact .append (.append (.of_solid (words _ List.mem_cons_self).solid)
        (.cons (by decide) (spaced_intercalate _))) (.cons (by decide) .nil)

theorem spaced_of_adds {environment : Environment} {forms : List Expr} {steps : List Step}
    (added : List.Forall₂ (Adds environment) forms steps)
    (words : ∀ form ∈ forms, ∀ name ∈ form.names, Text.IsWord name.toList) :
    ∀ step ∈ steps, Text.Spaced step.operation.toList := by
  induction added with
  | nil => simp
  | cons adds _ induction =>
      obtain ⟨first, rest⟩ := List.forall_mem_cons.mp words
      exact List.forall_mem_cons.mpr ⟨adds.spaced first, induction rest⟩

/-- The operations of an evaluation that has a value are written on one line each. -/
theorem spaced_of_outcome {environment : Environment} {value : Float} {steps : List Step}
    (words : ∀ name ∈ tree.names, Text.IsWord name.toList)
    (outcome : tree.outcome environment = (.ok value, steps)) :
    ∀ step ∈ steps, Text.Spaced step.operation.toList := by
  have explained := @outcome_explained environment tree
  rw [outcome] at explained
  refine spaced_of_adds explained.1 fun form member name inside => words name ?_
  exact names_subset_of_mem_operations tree member inside

end Expr

end Reckoner
