import Reckoner.Expr.Writing
import Reckoner.Proofs.Expr.Acceptance
import Reckoner.Proofs.Expr.Normal
import Reckoner.Proofs.Token.Pieces

/-!
# What is written is read back

The text of an expression is read as the tokens `Expr.kinds`, and from these the grammar derives
the expression, with a negation for the sign of every literal.  The levels of the writer meet the
forms of the grammar in `Grammar.At`: a part is enclosed exactly where its own form is looser than
the form that has to stand there.
-/

namespace Reckoner

namespace Grammar

variable {kinds : List TokenKind} {tree : Expr} {levels : Nat} {level wanted : Level}

/-- The kinds of tokens make the tree in the form of the given level. -/
def At (level : Level) (kinds : List TokenKind) (tree : Expr) : Prop :=
  ∃ levels, match level with
    | .sum => Sum kinds tree levels
    | .product => Product kinds tree levels
    | .negation => Signed kinds tree levels
    | .power => Power kinds tree levels
    | .atom => Primary kinds tree levels

/-- The same with the number of levels, which is that of the sum that such a form is by itself. -/
def Nests (level : Level) (kinds : List TokenKind) (tree : Expr) (levels : Nat) : Prop :=
  match level with
  | .sum => Sum kinds tree levels
  | .product => Product kinds tree levels
  | .negation => Signed kinds tree levels
  | .power => ∃ inner, Power kinds tree inner ∧ levels = inner + 1
  | .atom => ∃ inner, Primary kinds tree inner ∧ levels = inner + 1

theorem at_iff_nests : At level kinds tree ↔ ∃ levels, Nests level kinds tree levels := by
  cases level with
  | sum => exact Iff.rfl
  | product => exact Iff.rfl
  | negation => exact Iff.rfl
  | power =>
      constructor
      · rintro ⟨levels, derivation⟩
        exact ⟨levels + 1, levels, derivation, rfl⟩
      · rintro ⟨_, levels, derivation, rfl⟩
        exact ⟨levels, derivation⟩
  | atom =>
      constructor
      · rintro ⟨levels, derivation⟩
        exact ⟨levels + 1, levels, derivation, rfl⟩
      · rintro ⟨_, levels, derivation, rfl⟩
        exact ⟨levels, derivation⟩

theorem Nests.toPower (order : .power ≤ level) (form : Nests level kinds tree levels) :
    Nests .power kinds tree levels := by
  have tighter : level = .power ∨ level = .atom := by
    revert order
    cases level <;> decide
  rcases tighter with rfl | rfl
  · exact form
  · obtain ⟨inner, derivation, levelsEq⟩ := form
    exact ⟨inner, .primary derivation, levelsEq⟩

theorem Nests.toNegation (order : .negation ≤ level) (form : Nests level kinds tree levels) :
    Nests .negation kinds tree levels := by
  have tighter : level = .negation ∨ .power ≤ level := by
    revert order
    cases level <;> decide
  rcases tighter with rfl | tighter
  · exact form
  · obtain ⟨inner, derivation, rfl⟩ := form.toPower tighter
    exact .power derivation

theorem Nests.toProduct (order : .product ≤ level) (form : Nests level kinds tree levels) :
    Nests .product kinds tree levels := by
  have tighter : level = .product ∨ .negation ≤ level := by
    revert order
    cases level <;> decide
  rcases tighter with rfl | tighter
  · exact form
  · exact .signed (form.toNegation tighter)

theorem Nests.toSum (form : Nests level kinds tree levels) : Sum kinds tree levels := by
  have tighter : level = .sum ∨ .product ≤ level := by
    cases level <;> decide
  rcases tighter with rfl | tighter
  · exact form
  · exact .product (form.toProduct tighter)

/-- A form can stand wherever a looser one can. -/
theorem Nests.loosen (order : wanted ≤ level) (form : Nests level kinds tree levels) :
    Nests wanted kinds tree levels := by
  cases wanted with
  | sum => exact form.toSum
  | product => exact form.toProduct order
  | negation => exact form.toNegation order
  | power => exact form.toPower order
  | atom =>
      have same : level = .atom := by
        revert order
        cases level <;> decide
      exact same ▸ form

theorem At.loosen (order : wanted ≤ level) (form : At level kinds tree) :
    At wanted kinds tree := by
  obtain ⟨levels, nests⟩ := at_iff_nests.mp form
  exact at_iff_nests.mpr ⟨levels, nests.loosen order⟩

theorem At.toSum (form : At level kinds tree) : At .sum kinds tree := by
  obtain ⟨levels, nests⟩ := at_iff_nests.mp form
  exact ⟨levels, nests.toSum⟩

end Grammar

namespace Operator

/-- The loosest form that a left operand may have without parentheses. -/
def leftLevel : Operator → Level
  | .power => .atom
  | operator => operator.level

/-- The loosest form that a right operand may have without parentheses. -/
def rightLevel (operator : Operator) : Level :=
  match operator.level with
  | .sum => .product
  | _ => .negation

/-- The level that a power keeps open while its exponent is read. -/
def opened : Operator → Nat
  | .power => 1
  | _ => 0

theorem enclosesLeft_eq (operator : Operator) (level : Level) :
    operator.enclosesLeft level = decide (level < operator.leftLevel) := by
  cases operator <;> rfl

theorem enclosesRight_eq (operator : Operator) (level : Level) :
    operator.enclosesRight level = decide (level < operator.rightLevel) := by
  cases operator <;> cases level <;> rfl

end Operator

namespace Grammar

variable {leftKinds rightKinds : List TokenKind} {left right : Expr} {leftLevels rightLevels : Nat}

/-- An operator joins operands of the forms that the grammar asks for. -/
theorem Nests.binary (operator : Operator)
    (leftForm : Nests operator.leftLevel leftKinds left leftLevels)
    (rightForm : Nests operator.rightLevel rightKinds right rightLevels) :
    Nests operator.level (leftKinds ++ .operator operator.symbol :: rightKinds)
      (.binary operator left right) (max leftLevels (rightLevels + operator.opened)) := by
  cases operator with
  | add => exact .join .add rfl leftForm rightForm
  | subtract => exact .join .subtract rfl leftForm rightForm
  | multiply => exact .join .multiply rfl leftForm rightForm
  | divide => exact .join .divide rfl leftForm rightForm
  | remainder => exact .join .remainder rfl leftForm rightForm
  | power =>
      obtain ⟨inner, base, rfl⟩ := leftForm
      exact ⟨_, .raise base rightForm, Nat.add_max_add_right inner rightLevels 1⟩

theorem At.binary (operator : Operator) (leftForm : At operator.leftLevel leftKinds left)
    (rightForm : At operator.rightLevel rightKinds right) :
    At operator.level (leftKinds ++ .operator operator.symbol :: rightKinds)
      (.binary operator left right) := by
  obtain ⟨leftLevels, leftNests⟩ := at_iff_nests.mp leftForm
  obtain ⟨rightLevels, rightNests⟩ := at_iff_nests.mp rightForm
  exact at_iff_nests.mpr ⟨_, leftNests.binary operator rightNests⟩

end Grammar

namespace Expr

/-- The kinds of tokens, in parentheses if asked for. -/
def encloseKinds (enclosed : Bool) (kinds : List TokenKind) : List TokenKind :=
  if enclosed then .leftParenthesis :: (kinds ++ [.rightParenthesis]) else kinds

mutual

/-- The tokens as which the text of an expression is read. -/
def kinds : Expr → List TokenKind
  | .literal value =>
    if Number.isNegative value then [.operator '-', .number (-value)] else [.number value]
  | .constant name => [.identifier name]
  | .negate operand => .operator '-' :: encloseKinds (operand.level < .negation) operand.kinds
  | .binary operator left right =>
    encloseKinds (operator.enclosesLeft left.level) left.kinds ++ .operator operator.symbol ::
      encloseKinds (operator.enclosesRight right.level) right.kinds
  | .call function arguments =>
    .identifier function :: .leftParenthesis :: (argumentKinds arguments ++ [.rightParenthesis])

def argumentKinds : List Expr → List TokenKind
  | [] => []
  | [argument] => argument.kinds
  | argument :: rest => argument.kinds ++ .comma :: argumentKinds rest

end

/-- The pairs of parentheses around a form of one level where another level is wanted. -/
def pairs (level wanted : Level) : Nat :=
  if level < wanted then 1 else 0

section Enclosed

variable {kinds : List TokenKind} {tree : Expr} {level : Level}

/-- In parentheses every expression can stand wherever an atom can, with one more level. -/
theorem nests_enclosed {levels : Nat} (wanted : Level)
    (form : Grammar.Nests level kinds tree levels) :
    Grammar.Nests wanted (encloseKinds (level < wanted) kinds) tree
      (levels + pairs level wanted) := by
  by_cases loose : level < wanted
  · have group : Grammar.Nests .atom (.leftParenthesis :: (kinds ++ [.rightParenthesis])) tree
        (levels + 1) := ⟨levels, .group form.toSum, rfl⟩
    rw [encloseKinds, if_pos (decide_eq_true loose), pairs, if_pos loose]
    exact group.loosen (by cases wanted <;> decide)
  · rw [encloseKinds, if_neg (by simpa using loose), pairs, if_neg loose]
    exact form.loosen (Nat.not_lt.mp loose)

theorem at_enclosed (wanted : Level) (form : Grammar.At level kinds tree) :
    Grammar.At wanted (encloseKinds (level < wanted) kinds) tree := by
  obtain ⟨levels, nests⟩ := Grammar.at_iff_nests.mp form
  exact Grammar.at_iff_nests.mpr ⟨_, nests_enclosed wanted nests⟩

end Enclosed

mutual

/-- The grammar derives the expression from the tokens of its text. -/
theorem at_kinds (tree : Expr) : Grammar.At tree.level tree.kinds tree.normal := by
  match tree with
  | .literal value =>
      rw [level, kinds, normal]
      split
      · exact ⟨_, .minus (.power (.primary (.number (-value))))⟩
      · exact ⟨_, .number value⟩
  | .constant name => exact ⟨_, .constant name⟩
  | .negate operand =>
      obtain ⟨levels, derivation⟩ := at_enclosed .negation (at_kinds operand)
      exact ⟨_, .minus derivation⟩
  | .binary operator left right =>
      have leftForm := at_enclosed operator.leftLevel (at_kinds left)
      have rightForm := at_enclosed operator.rightLevel (at_kinds right)
      rw [kinds, operator.enclosesLeft_eq, operator.enclosesRight_eq]
      exact leftForm.binary operator rightForm
  | .call function [] => exact ⟨0, .call function .none⟩
  | .call function (argument :: rest) =>
      obtain ⟨levels, series⟩ := argumentKinds_series (argument :: rest) (by simp)
      exact ⟨levels, .call function (.some series)⟩

theorem argumentKinds_series (arguments : List Expr) (nonempty : arguments ≠ []) :
    ∃ levels, Grammar.Series (argumentKinds arguments) (normalAll arguments) levels := by
  match arguments with
  | [] => contradiction
  | [argument] =>
      obtain ⟨levels, derivation⟩ := (at_kinds argument).toSum
      exact ⟨levels, .last derivation⟩
  | argument :: next :: rest =>
      obtain ⟨levels, derivation⟩ := (at_kinds argument).toSum
      obtain ⟨restLevels, series⟩ := argumentKinds_series (next :: rest) (by simp)
      exact ⟨_, .next derivation series⟩

end

/-- The end of the input is not among the tokens of a text. -/
theorem finish_not_mem_encloseKinds {kinds : List TokenKind} {enclosed : Bool}
    (inside : .finish ∉ kinds) : .finish ∉ encloseKinds enclosed kinds := by
  cases enclosed <;> simp [encloseKinds, inside]

mutual

theorem finish_not_mem_kinds (tree : Expr) : .finish ∉ tree.kinds := by
  match tree with
  | .literal value =>
      rw [kinds]
      split <;> simp
  | .constant name => simp [kinds]
  | .negate operand =>
      simp [kinds, finish_not_mem_encloseKinds (finish_not_mem_kinds operand)]
  | .binary operator left right =>
      simp [kinds, finish_not_mem_encloseKinds (finish_not_mem_kinds left),
        finish_not_mem_encloseKinds (finish_not_mem_kinds right)]
  | .call function arguments => simp [kinds, finish_not_mem_argumentKinds arguments]

theorem finish_not_mem_argumentKinds (arguments : List Expr) :
    .finish ∉ argumentKinds arguments := by
  match arguments with
  | [] => simp [argumentKinds]
  | [argument] =>
      rw [argumentKinds]
      exact finish_not_mem_kinds argument
  | argument :: next :: rest =>
      simp [argumentKinds, finish_not_mem_kinds argument,
        finish_not_mem_argumentKinds (next :: rest)]

end

/-- What follows neither goes on with a number nor with a name. -/
def Closed (rest : List Char) : Prop :=
  ∀ character ∈ rest.head?, character = ' ' ∨ character = ')' ∨ character = ','

theorem Closed.number {rest : List Char} (closed : Closed rest) :
    ∀ character ∈ rest.head?, Token.startsNumber character = false := by
  intro character member
  rcases closed character member with rfl | rfl | rfl <;> decide

theorem Closed.name {rest : List Char} (closed : Closed rest) :
    ∀ character ∈ rest.head?, Token.continuesName character = false := by
  intro character member
  rcases closed character member with rfl | rfl | rfl <;> decide +kernel

theorem closed_nil : Closed [] := by
  simp [Closed]

theorem closed_cons {character : Char} {rest : List Char}
    (closes : character = ' ' ∨ character = ')' ∨ character = ',') :
    Closed (character :: rest) := by
  intro first member
  cases member
  exact closes

/-- The parenthesis of a call does not go on with the name of the function. -/
theorem opensCall (rest : List Char) :
    ∀ character ∈ ('(' :: rest).head?, Token.continuesName character = false := by
  intro character member
  cases member
  decide +kernel

open Token (Lexes)

theorem lexes_enclosed {characters rest : List Char} {kinds : List TokenKind} (enclosed : Bool)
    (lexes : ∀ rest, Closed rest → Lexes characters kinds rest) (closed : Closed rest) :
    Lexes (enclose enclosed characters) (encloseKinds enclosed kinds) rest := by
  cases enclosed with
  | false => exact lexes rest closed
  | true =>
      have inside := lexes (')' :: rest) (closed_cons (by simp))
      have closing := inside.append (Token.lexes_rightParenthesis rest)
      exact (Token.lexes_leftParenthesis _).append closing

theorem lexes_literal {value : Float} {rest : List Char} (isFinite : value.isFinite = true)
    (closed : Closed rest) :
    Lexes (Number.characters value) (literal value).kinds rest := by
  have digits := Token.lexes_decimal (Number.shortest value) closed.number
  rw [Number.toFloat_shortest isFinite] at digits
  rw [Number.characters_of_isFinite isFinite, Number.signCharacters, kinds]
  split
  · next negative =>
      rw [Number.ofMagnitudeBits_of_negative isFinite negative] at digits
      exact (Token.lexes_operator .subtract _).append digits
  · next nonnegative =>
      have whole := Number.ofMagnitudeBits_magnitudeBits isFinite
      rw [Bool.eq_false_iff.mpr nonnegative] at whole
      rw [whole] at digits
      exact digits

mutual

/-- The text of an expression is read as its tokens. -/
theorem lexes_characters (tree : Expr)
    (isFinite : ∀ value ∈ tree.literals, value.isFinite = true)
    (isName : ∀ name ∈ tree.names, Token.IsName name) (rest : List Char) (closed : Closed rest) :
    Lexes tree.characters tree.kinds rest := by
  match tree with
  | .literal value => exact lexes_literal (isFinite value List.mem_cons_self) closed
  | .constant name => exact (isName name List.mem_cons_self).lexes closed.name
  | .negate operand =>
      rw [literals] at isFinite
      rw [names] at isName
      have inside := lexes_enclosed (operand.level < .negation)
        (lexes_characters operand isFinite isName) closed
      exact (Token.lexes_operator .subtract _).append inside
  | .binary operator left right =>
      rw [literals] at isFinite
      rw [names] at isName
      have leftLexes := lexes_characters left
        (fun value member => isFinite value (List.mem_append_left _ member))
        (fun name member => isName name (List.mem_append_left _ member))
      have rightLexes := lexes_characters right
        (fun value member => isFinite value (List.mem_append_right _ member))
        (fun name member => isName name (List.mem_append_right _ member))
      have rightPart := (Token.lexes_space _).append
        (lexes_enclosed (operator.enclosesRight right.level) rightLexes closed)
      have behindLeft := (Token.lexes_space _).append
        ((Token.lexes_operator operator _).append rightPart)
      exact (lexes_enclosed _ leftLexes (closed_cons (by simp))).append behindLeft
  | .call function arguments =>
      rw [literals] at isFinite
      rw [names] at isName
      have argumentsLexes := lexes_argumentCharacters arguments isFinite
        (fun name member => isName name (List.mem_cons_of_mem _ member))
        (')' :: rest) (closed_cons (by simp))
      have opened := (Token.lexes_leftParenthesis _).append
        (argumentsLexes.append (Token.lexes_rightParenthesis rest))
      have functionLexes := (isName function List.mem_cons_self).lexes
        (opensCall ((argumentCharacters arguments ++ [')']) ++ rest))
      rw [characters, List.append_assoc]
      exact functionLexes.append opened

theorem lexes_argumentCharacters (arguments : List Expr)
    (isFinite : ∀ value ∈ literalsAll arguments, value.isFinite = true)
    (isName : ∀ name ∈ namesAll arguments, Token.IsName name) (rest : List Char)
    (closed : Closed rest) :
    Lexes (argumentCharacters arguments) (argumentKinds arguments) rest := by
  match arguments with
  | [] => exact Token.lexes_nil rest
  | [argument] =>
      rw [literalsAll] at isFinite
      rw [namesAll] at isName
      exact lexes_characters argument
        (fun value member => isFinite value (List.mem_append_left _ member))
        (fun name member => isName name (List.mem_append_left _ member)) rest closed
  | argument :: next :: others =>
      rw [literalsAll] at isFinite
      rw [namesAll] at isName
      have argumentLexes := lexes_characters argument
        (fun value member => isFinite value (List.mem_append_left _ member))
        (fun name member => isName name (List.mem_append_left _ member))
      have othersLexes := lexes_argumentCharacters (next :: others)
        (fun value member => isFinite value (List.mem_append_right _ member))
        (fun name member => isName name (List.mem_append_right _ member)) rest closed
      have behind := (Token.lexes_comma _).append ((Token.lexes_space _).append othersLexes)
      exact (argumentLexes _ (closed_cons (by simp))).append behind

end

/-- The text of an expression is read as its tokens and the end of the input. -/
theorem readAll_text {tree : Expr} (isFinite : ∀ value ∈ tree.literals, value.isFinite = true)
    (isName : ∀ name ∈ tree.names, Token.IsName name) :
    ∃ tokens, Token.readAll tree.text = .ok tokens ∧
      tokens.map Token.kind = tree.kinds ++ [.finish] ∧
      Token.significant tokens = tree.kinds := by
  obtain ⟨tokens, position, read, kindsEq⟩ :=
    (lexes_characters tree isFinite isName [] closed_nil).readAll_eq
  have inside : ∀ token ∈ tokens, token.kind ≠ .finish := by
    rintro token member finish
    apply finish_not_mem_kinds tree
    rw [← kindsEq, ← finish]
    exact List.mem_map_of_mem member
  rw [text]
  refine ⟨tokens ++ [⟨.finish, position⟩], read, ?_, ?_⟩
  · rw [List.map_append, kindsEq]
    rfl
  · rw [Token.significant_closed position inside, kindsEq]

/-- Writing an expression and reading its text gives the expression back, up to the signs of its
literals: the text is divided into tokens, and under limits that allow for all of them, the end
not counted, these make the expression with a negation for the sign of every literal.  Without
such signs that is the expression itself, and in any case it has the same value, or lacks one for
the same reason, in every environment. -/
theorem ofTokens_text {tree : Expr} (isFinite : ∀ value ∈ tree.literals, value.isFinite = true)
    (isName : ∀ name ∈ tree.names, Token.IsName name) :
    (∃ tokens, Token.readAll tree.text = .ok tokens ∧
        ∀ limits : Limits, tokens.length ≤ limits.depth + 1 → tokens.length ≤ limits.height + 1 →
          ofTokens limits tokens = .ok tree.normal) ∧
      ((∀ value ∈ tree.literals, Number.isNegative value = false) → tree.normal = tree) ∧
      ∀ environment, tree.normal.evaluate environment = tree.evaluate environment := by
  obtain ⟨tokens, read, kindsEq, significantEq⟩ := readAll_text isFinite isName
  refine ⟨⟨tokens, read, ?_⟩, normal_eq_self tree, fun environment =>
    evaluate_normal environment isFinite⟩
  intro limits depth height
  have length := congrArg List.length kindsEq
  rw [List.length_map, List.length_append, List.length_singleton] at length
  obtain ⟨levels, sum⟩ := (at_kinds tree).toSum
  have bounds := sum.bounds
  have checked := tree.normal.checkedHeight_le
  refine ofTokens_of_sum (significantEq.symm ▸ sum) ?_ ?_
  · omega
  · omega

/-- A base below zero is written in parentheses and comes back as a negation. -/
theorem ofTokens_text_negative_base :
    let tree : Expr := .binary .power (.literal (-2)) (.negate (.constant "x"))
    (∀ value ∈ tree.literals, value.isFinite = true) ∧
      (∀ name ∈ tree.names, Token.IsName name) ∧
      ∃ tokens, Token.readAll tree.text = .ok tokens ∧
        ofTokens ⟨tokens.length, tokens.length⟩ tokens =
          .ok (.binary .power (.negate (.literal 2)) (.negate (.constant "x"))) := by
  intro tree
  have isFinite : ∀ value ∈ tree.literals, value.isFinite = true := by
    intro value member
    rw [List.mem_singleton.mp member]
    decide
  have isName : ∀ name ∈ tree.names, Token.IsName name := by
    intro name member
    rw [List.mem_singleton.mp member]
    exact ⟨_, rfl, rfl⟩
  obtain ⟨tokens, read, built⟩ := (ofTokens_text isFinite isName).1
  exact ⟨isFinite, isName, tokens, read, built _ (Nat.le_succ _) (Nat.le_succ _)⟩

end Expr

end Reckoner
