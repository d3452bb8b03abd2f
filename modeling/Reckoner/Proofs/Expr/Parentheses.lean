import Reckoner.Proofs.Expr.RoundTrip

/-!
# No parentheses without need

Of all the ways to write an expression, its own text is the shortest, has the fewest parentheses
and needs the fewest open levels.

Two derivations of one tree are compared, that of the tokens of its text and any other.  The
comparison goes by induction on the other derivation.  A form that is too loose for its place is
enclosed in the text, and by the grammar the other derivation has a group there as well; everything
else that the other derivation may add, more groups and more signs `+`, only makes it longer.
-/

namespace Reckoner

namespace Expr

section Enclosed

variable {kinds : List TokenKind} (level wanted : Level)

theorem length_encloseKinds :
    (encloseKinds (level < wanted) kinds).length = kinds.length + 2 * pairs level wanted := by
  by_cases loose : level < wanted
  · simp [encloseKinds, pairs, loose]
  · simp [encloseKinds, pairs, loose]

theorem count_encloseKinds :
    (encloseKinds (level < wanted) kinds).count .leftParenthesis =
      kinds.count .leftParenthesis + pairs level wanted := by
  by_cases loose : level < wanted
  · simp [encloseKinds, pairs, loose]
  · simp [encloseKinds, pairs, loose]

theorem pairs_le_one : pairs level wanted ≤ 1 := by
  unfold pairs
  split <;> omega

theorem pairs_of_le {level wanted : Level} (order : wanted ≤ level) : pairs level wanted = 0 :=
  if_neg (Nat.not_lt.mpr order)

@[simp] theorem pairs_sum : pairs level .sum = 0 :=
  pairs_of_le (by cases level <;> decide)

/-- Where a looser form will do, no more parentheses are needed. -/
theorem pairs_mono {looser : Level} (order : looser ≤ wanted) :
    pairs level looser ≤ pairs level wanted := by
  by_cases loose : level < looser
  · have alsoLoose : level < wanted := Nat.lt_of_lt_of_le loose order
    have one : pairs level looser = 1 := if_pos loose
    have alsoOne : pairs level wanted = 1 := if_pos alsoLoose
    omega
  · rw [pairs, if_neg loose]
    exact Nat.zero_le _

end Enclosed

theorem argumentKinds_cons {argument : Expr} {rest : List Expr} (nonempty : rest ≠ []) :
    argumentKinds (argument :: rest) = argument.kinds ++ .comma :: argumentKinds rest := by
  cases rest with
  | nil => contradiction
  | cons next others => rfl

end Expr

namespace Grammar

open Reckoner.Expr (pairs encloseKinds argumentKinds)

/-- The text of the tree, in parentheses if it has to be in the form of the wanted level, is
nested in no more than the given levels, and has no more tokens and opening parentheses than
`kinds`. -/
structure Covers (wanted : Level) (kinds : List TokenKind) (levels : Nat) (tree : Expr)
    (least : Nat) : Prop where
  nests : Nests tree.level tree.kinds tree least
  levels_le : least + pairs tree.level wanted ≤ levels
  length_le : tree.kinds.length + 2 * pairs tree.level wanted ≤ kinds.length
  count_le : tree.kinds.count .leftParenthesis + pairs tree.level wanted ≤
    kinds.count .leftParenthesis

section Covers

variable {kinds leftKinds rightKinds : List TokenKind} {tree left right operand : Expr}
  {levels leftLevels rightLevels least leftLeast rightLeast : Nat} {wanted looser : Level}

theorem Covers.loosen (covers : Covers wanted kinds levels tree least) (order : looser ≤ wanted) :
    Covers looser kinds levels tree least := by
  have fewer := Expr.pairs_mono tree.level wanted order
  obtain ⟨nests, levelsLe, lengthLe, countLe⟩ := covers
  constructor
  · exact nests
  · omega
  · omega
  · omega

/-- As a sum the tree needs no parentheses. -/
theorem Covers.sum (covers : Covers .sum kinds levels tree least) :
    Sum tree.kinds tree least ∧ least ≤ levels ∧ tree.kinds.length ≤ kinds.length ∧
      tree.kinds.count .leftParenthesis ≤ kinds.count .leftParenthesis := by
  obtain ⟨nests, levelsLe, lengthLe, countLe⟩ := covers
  rw [Expr.pairs_sum] at levelsLe lengthLe countLe
  exact ⟨nests.toSum, levelsLe, lengthLe, countLe⟩

/-- An atom needs no parentheses. -/
theorem Covers.of_atom (atom : tree.level = .atom) (derivation : Primary tree.kinds tree least)
    (levelsLe : least ≤ levels) (lengthLe : tree.kinds.length ≤ kinds.length)
    (countLe : tree.kinds.count .leftParenthesis ≤ kinds.count .leftParenthesis) :
    Covers .atom kinds (levels + 1) tree (least + 1) := by
  have own : pairs tree.level .atom = 0 := Expr.pairs_of_le (atom ▸ Nat.le_refl _)
  constructor
  · rw [atom]
    exact ⟨least, derivation, rfl⟩
  · omega
  · omega
  · omega

/-- The group that the grammar asks for is one of those that the text can do with. -/
theorem Covers.group (covers : Covers .sum kinds levels tree least) :
    Covers .atom (.leftParenthesis :: (kinds ++ [.rightParenthesis])) (levels + 1) tree least := by
  have most := Expr.pairs_le_one tree.level .atom
  obtain ⟨nests, levelsLe, lengthLe, countLe⟩ := covers
  constructor
  · exact nests
  · omega
  · simp
    omega
  · simp
    omega

theorem Covers.plus (covers : Covers .negation kinds levels tree least) :
    Covers .negation (.operator '+' :: kinds) (levels + 1) tree least := by
  obtain ⟨nests, levelsLe, lengthLe, countLe⟩ := covers
  constructor
  · exact nests
  · omega
  · rw [List.length_cons]
    omega
  · rw [List.count_cons_of_ne (by simp)]
    exact countLe

theorem Covers.minus (covers : Covers .negation kinds levels operand least) :
    Covers .negation (.operator '-' :: kinds) (levels + 1) (.negate operand)
      (least + pairs operand.level .negation + 1) := by
  obtain ⟨nests, levelsLe, lengthLe, countLe⟩ := covers
  have own : pairs (Expr.negate operand).level .negation = 0 := Expr.pairs_of_le (Nat.le_refl _)
  constructor
  · exact .minus (Expr.nests_enclosed .negation nests)
  · omega
  · rw [Expr.kinds, List.length_cons, Expr.length_encloseKinds, List.length_cons]
    omega
  · rw [Expr.kinds, List.count_cons_of_ne (by simp), Expr.count_encloseKinds,
      List.count_cons_of_ne (by simp)]
    omega

theorem Series.ne_nil {kinds : List TokenKind} {arguments : List Expr} {levels : Nat}
    (series : Series kinds arguments levels) : arguments ≠ [] := by
  cases series with
  | last _ => exact List.cons_ne_nil _ _
  | next _ _ => exact List.cons_ne_nil _ _

theorem count_comma :
    (.comma :: kinds : List TokenKind).count .leftParenthesis = kinds.count .leftParenthesis :=
  List.count_cons_of_ne (by simp)

theorem count_operator (symbol : Char) :
    (.operator symbol :: kinds : List TokenKind).count .leftParenthesis =
      kinds.count .leftParenthesis :=
  List.count_cons_of_ne (by simp)

theorem Covers.binary (operator : Operator)
    (leftCovers : Covers operator.leftLevel leftKinds leftLevels left leftLeast)
    (rightCovers : Covers operator.rightLevel rightKinds rightLevels right rightLeast) :
    Covers operator.level (leftKinds ++ .operator operator.symbol :: rightKinds)
      (max leftLevels (rightLevels + operator.opened)) (.binary operator left right)
      (max (leftLeast + pairs left.level operator.leftLevel)
        (rightLeast + pairs right.level operator.rightLevel + operator.opened)) := by
  obtain ⟨leftNests, leftLevelsLe, leftLengthLe, leftCountLe⟩ := leftCovers
  obtain ⟨rightNests, rightLevelsLe, rightLengthLe, rightCountLe⟩ := rightCovers
  have own : pairs (Expr.binary operator left right).level operator.level = 0 :=
    Expr.pairs_of_le (Nat.le_refl _)
  have written : (Expr.binary operator left right).kinds =
      encloseKinds (left.level < operator.leftLevel) left.kinds ++ .operator operator.symbol ::
        encloseKinds (right.level < operator.rightLevel) right.kinds := by
    rw [Expr.kinds, operator.enclosesLeft_eq, operator.enclosesRight_eq]
  constructor
  · rw [written]
    exact (Expr.nests_enclosed _ leftNests).binary operator (Expr.nests_enclosed _ rightNests)
  · omega
  · rw [written]
    simp only [List.length_append, List.length_cons, Expr.length_encloseKinds]
    omega
  · rw [written]
    simp only [List.count_append, count_operator, Expr.count_encloseKinds]
    omega

end Covers

mutual

theorem Sum.covers {kinds : List TokenKind} {tree : Expr} {levels : Nat}
    (sum : Sum kinds tree levels)
    (plain : ∀ value ∈ tree.literals, Number.isNegative value = false) :
    ∃ least, Covers .sum kinds levels tree least := by
  match sum with
  | .product product =>
      obtain ⟨least, covers⟩ := product.covers plain
      exact ⟨least, covers.loosen (by decide)⟩
  | .join operator isSum left right =>
      obtain ⟨leftPlain, rightPlain⟩ := List.forall_mem_append.mp plain
      obtain ⟨leftLeast, leftCovers⟩ := left.covers leftPlain
      obtain ⟨rightLeast, rightCovers⟩ := right.covers rightPlain
      cases operator with
      | add => exact ⟨_, .binary .add leftCovers rightCovers⟩
      | subtract => exact ⟨_, .binary .subtract leftCovers rightCovers⟩
      | multiply | divide | remainder | power => cases isSum

theorem Product.covers {kinds : List TokenKind} {tree : Expr} {levels : Nat}
    (product : Product kinds tree levels)
    (plain : ∀ value ∈ tree.literals, Number.isNegative value = false) :
    ∃ least, Covers .product kinds levels tree least := by
  match product with
  | .signed signed =>
      obtain ⟨least, covers⟩ := signed.covers plain
      exact ⟨least, covers.loosen (by decide)⟩
  | .join operator isProduct left right =>
      obtain ⟨leftPlain, rightPlain⟩ := List.forall_mem_append.mp plain
      obtain ⟨leftLeast, leftCovers⟩ := left.covers leftPlain
      obtain ⟨rightLeast, rightCovers⟩ := right.covers rightPlain
      cases operator with
      | multiply => exact ⟨_, .binary .multiply leftCovers rightCovers⟩
      | divide => exact ⟨_, .binary .divide leftCovers rightCovers⟩
      | remainder => exact ⟨_, .binary .remainder leftCovers rightCovers⟩
      | add | subtract | power => cases isProduct

theorem Signed.covers {kinds : List TokenKind} {tree : Expr} {levels : Nat}
    (signed : Signed kinds tree levels)
    (plain : ∀ value ∈ tree.literals, Number.isNegative value = false) :
    ∃ least, Covers .negation kinds levels tree least := by
  match signed with
  | .minus operand =>
      obtain ⟨least, covers⟩ := operand.covers plain
      exact ⟨_, covers.minus⟩
  | .plus operand =>
      obtain ⟨least, covers⟩ := operand.covers plain
      exact ⟨least, covers.plus⟩
  | .power power =>
      obtain ⟨least, covers⟩ := power.covers plain
      exact ⟨least, covers.loosen (by decide)⟩

theorem Power.covers {kinds : List TokenKind} {tree : Expr} {levels : Nat}
    (power : Power kinds tree levels)
    (plain : ∀ value ∈ tree.literals, Number.isNegative value = false) :
    ∃ least, Covers .power kinds (levels + 1) tree least := by
  match power with
  | .primary primary =>
      obtain ⟨least, covers⟩ := primary.covers plain
      exact ⟨least, covers.loosen (by decide)⟩
  | .raise base exponent =>
      obtain ⟨basePlain, exponentPlain⟩ := List.forall_mem_append.mp plain
      obtain ⟨baseLeast, baseCovers⟩ := base.covers basePlain
      obtain ⟨exponentLeast, exponentCovers⟩ := exponent.covers exponentPlain
      rw [← Nat.add_max_add_right]
      exact ⟨_, .binary .power baseCovers exponentCovers⟩

theorem Primary.covers {kinds : List TokenKind} {tree : Expr} {levels : Nat}
    (primary : Primary kinds tree levels)
    (plain : ∀ value ∈ tree.literals, Number.isNegative value = false) :
    ∃ least, Covers .atom kinds (levels + 1) tree least := by
  match primary with
  | .number value =>
      have nonnegative := plain value List.mem_cons_self
      have atom : (Expr.literal value).level = .atom := by simp [Expr.level, nonnegative]
      have written : (Expr.literal value).kinds = [.number value] := by
        simp [Expr.kinds, nonnegative]
      refine ⟨1, .of_atom atom (written ▸ .number value) (Nat.le_refl 0) ?_ ?_⟩
      · exact Nat.le_of_eq (congrArg List.length written)
      · exact Nat.le_of_eq (congrArg (List.count .leftParenthesis) written)
  | .constant name =>
      exact ⟨1, .of_atom rfl (.constant name) (Nat.le_refl 0) (Nat.le_refl _) (Nat.le_refl _)⟩
  | .call function arguments =>
      rw [Expr.literals] at plain
      obtain ⟨least, derivation, levelsLe, lengthLe, countLe⟩ := arguments.covers plain
      refine ⟨least + 1, .of_atom rfl (.call function derivation) levelsLe ?_ ?_⟩
      · simpa [Expr.kinds] using lengthLe
      · simpa [Expr.kinds] using countLe
  | .group sum =>
      obtain ⟨least, covers⟩ := sum.covers plain
      exact ⟨least, covers.group⟩

theorem Arguments.covers {kinds : List TokenKind} {arguments : List Expr} {levels : Nat}
    (derivation : Arguments kinds arguments levels)
    (plain : ∀ value ∈ Expr.literalsAll arguments, Number.isNegative value = false) :
    ∃ least, Arguments (argumentKinds arguments) arguments least ∧ least ≤ levels ∧
      (argumentKinds arguments).length ≤ kinds.length ∧
      (argumentKinds arguments).count .leftParenthesis ≤ kinds.count .leftParenthesis := by
  match derivation with
  | .none => exact ⟨0, .none, Nat.le_refl 0, Nat.le_refl _, Nat.le_refl _⟩
  | .some series =>
      obtain ⟨least, derivation, bounds⟩ := series.covers plain
      exact ⟨least, .some derivation, bounds⟩

theorem Series.covers {kinds : List TokenKind} {arguments : List Expr} {levels : Nat}
    (series : Series kinds arguments levels)
    (plain : ∀ value ∈ Expr.literalsAll arguments, Number.isNegative value = false) :
    ∃ least, Series (argumentKinds arguments) arguments least ∧ least ≤ levels ∧
      (argumentKinds arguments).length ≤ kinds.length ∧
      (argumentKinds arguments).count .leftParenthesis ≤ kinds.count .leftParenthesis := by
  match series with
  | .last sum =>
      obtain ⟨least, covers⟩ := sum.covers (List.forall_mem_append.mp plain).1
      obtain ⟨sum, bounds⟩ := covers.sum
      exact ⟨least, .last sum, bounds⟩
  | .next first rest =>
      obtain ⟨firstPlain, restPlain⟩ := List.forall_mem_append.mp plain
      obtain ⟨firstLeast, firstCovers⟩ := first.covers firstPlain
      obtain ⟨restLeast, restSeries, restLevels, restLength, restCount⟩ := rest.covers restPlain
      obtain ⟨firstSum, firstLevels, firstLength, firstCount⟩ := firstCovers.sum
      rw [Expr.argumentKinds_cons rest.ne_nil]
      refine ⟨_, .next firstSum restSeries, ?_, ?_, ?_⟩
      · omega
      · simp only [List.length_append, List.length_cons]
        omega
      · simp only [List.count_append, count_comma]
        omega

end

end Grammar

namespace Token

theorem length_significant_le (tokens : List Token) :
    (significant tokens).length ≤ tokens.length := by
  rw [significant, List.length_map]
  exact (List.takeWhile_sublist _).length_le

/-- Where there is an end, it is not among the tokens in front of it. -/
theorem length_significant_lt {tokens : List Token}
    (closed : ∃ token ∈ tokens, token.kind = .finish) :
    (significant tokens).length < tokens.length := by
  obtain ⟨token, member, finish⟩ := closed
  apply Nat.lt_of_le_of_ne (length_significant_le tokens)
  intro same
  rw [significant, List.length_map] at same
  have whole := (List.takeWhile_prefix fun token : Token => !token.isFinish).eq_of_length same
  rw [← whole] at member
  have kept := List.all_eq_true.mp List.all_takeWhile token member
  rw [isFinish_iff.mpr finish] at kept
  contradiction

theorem count_significant_le (tokens : List Token) :
    (significant tokens).count .leftParenthesis ≤
      (tokens.map Token.kind).count .leftParenthesis :=
  ((List.takeWhile_sublist _).map Token.kind).count_le _

end Token

namespace Expr

variable {limits : Limits} {tokens : List Token} {tree : Expr}

/-- Whatever tokens make a tree, its text needs no more levels, tokens and parentheses. -/
theorem exists_sum_kinds (plain : ∀ value ∈ tree.literals, Number.isNegative value = false)
    (built : ofTokens limits tokens = .ok tree) :
    ∃ levels, Grammar.Sum tree.kinds tree levels ∧ levels ≤ limits.depth ∧
      tree.kinds.length ≤ (Token.significant tokens).length ∧
      tree.kinds.count .leftParenthesis ≤
        (Token.significant tokens).count .leftParenthesis := by
  obtain ⟨levels, sum, depth, _⟩ := sum_of_ofTokens built
  obtain ⟨least, covers⟩ := sum.covers plain
  obtain ⟨derivation, levelsLe, bounds⟩ := covers.sum
  exact ⟨least, derivation, Nat.le_trans levelsLe depth, bounds⟩

/-- The text of a tree without signs on its literals is divided into tokens, which are the least
that make this tree.  No tokens from which it can be built are fewer, the end not counted where it
is missing, or have fewer opening parentheses.  The tokens of the text make the tree under the same
limits, and no longer do so under any limits when a pair of parentheses is taken out. -/
theorem ofTokens_text_shortest (isFinite : ∀ value ∈ tree.literals, value.isFinite = true)
    (plain : ∀ value ∈ tree.literals, Number.isNegative value = false)
    (isName : ∀ name ∈ tree.names, Token.IsName name)
    (built : ofTokens limits tokens = .ok tree) :
    ∃ written, Token.readAll tree.text = .ok written ∧ ofTokens limits written = .ok tree ∧
      written.length ≤ tokens.length + 1 ∧
      ((∃ token ∈ tokens, token.kind = .finish) → written.length ≤ tokens.length) ∧
      (written.map Token.kind).count .leftParenthesis ≤
        (tokens.map Token.kind).count .leftParenthesis ∧
      ∀ before inside behind opening closing,
        written = before ++ ⟨.leftParenthesis, opening⟩ ::
          (inside ++ ⟨.rightParenthesis, closing⟩ :: behind) →
        ∀ others, ofTokens others (before ++ (inside ++ behind)) ≠ .ok tree := by
  obtain ⟨written, read, kindsEq, significantEq⟩ := readAll_text isFinite isName
  obtain ⟨levels, sum, depth, lengthLe, countLe⟩ := exists_sum_kinds plain built
  have length := congrArg List.length kindsEq
  rw [List.length_map, List.length_append, List.length_singleton] at length
  refine ⟨written, read, ?_, ?_, ?_, ?_, ?_⟩
  · obtain ⟨_, _, _, height⟩ := sum_of_ofTokens built
    exact ofTokens_of_sum (significantEq.symm ▸ sum) depth height
  · have all := Token.length_significant_le tokens
    omega
  · intro closed
    have fewer := Token.length_significant_lt closed
    omega
  · have all := Token.count_significant_le tokens
    rw [kindsEq, List.count_append, List.count_singleton]
    exact Nat.le_trans countLe all
  · intro before between behind opening closing split others short
    -- two tokens are missing, more than the end that need not be counted
    obtain ⟨_, _, _, shortLe, _⟩ := exists_sum_kinds plain short
    have all := Token.length_significant_le (before ++ (between ++ behind))
    rw [split] at length
    simp only [List.length_append, List.length_cons] at length all
    omega

/-- The text of `(1 + 2) * (x)` keeps the parentheses around the sum. -/
theorem ofTokens_text_product_of_sum :
    let tokens : List Token := [⟨.leftParenthesis, 0⟩, ⟨.number 1, 1⟩, ⟨.operator '+', 2⟩,
      ⟨.number 2, 3⟩, ⟨.rightParenthesis, 4⟩, ⟨.operator '*', 5⟩, ⟨.leftParenthesis, 6⟩,
      ⟨.identifier "x", 7⟩, ⟨.rightParenthesis, 8⟩, ⟨.finish, 9⟩]
    let tree : Expr :=
      .binary .multiply (.binary .add (.literal 1) (.literal 2)) (.constant "x")
    (∀ value ∈ tree.literals, value.isFinite = true) ∧
      (∀ value ∈ tree.literals, Number.isNegative value = false) ∧
      (∀ name ∈ tree.names, Token.IsName name) ∧ ofTokens ⟨2, 3⟩ tokens = .ok tree ∧
      ∃ written, Token.readAll tree.text = .ok written ∧ ofTokens ⟨2, 3⟩ written = .ok tree ∧
        written.length ≤ tokens.length := by
  intro tokens tree
  have isFinite : ∀ value ∈ tree.literals, value.isFinite = true := by
    intro value member
    rcases List.mem_pair.mp member with rfl | rfl <;> decide
  have plain : ∀ value ∈ tree.literals, Number.isNegative value = false := by
    intro value member
    rcases List.mem_pair.mp member with rfl | rfl <;> decide
  have isName : ∀ name ∈ tree.names, Token.IsName name := by
    intro name member
    rw [List.mem_singleton.mp member]
    exact ⟨_, rfl, rfl⟩
  have one : Grammar.Product [.number 1] (.literal 1) 1 :=
    .signed (.power (.primary (.number 1)))
  have two : Grammar.Product [.number 2] (.literal 2) 1 :=
    .signed (.power (.primary (.number 2)))
  have name : Grammar.Product [.identifier "x"] (.constant "x") 1 :=
    .signed (.power (.primary (.constant "x")))
  have product : Grammar.Sum (Token.significant tokens) tree 2 :=
    .product (.join .multiply rfl (.signed (.power (.primary
      (.group (.join .add rfl (.product one) two))))) (.power (.primary (.group (.product name)))))
  have built : ofTokens ⟨2, 3⟩ tokens = .ok tree :=
    ofTokens_of_sum product (by decide) (by decide)
  obtain ⟨written, read, rebuilt, _, shorter, _⟩ :=
    ofTokens_text_shortest isFinite plain isName built
  exact ⟨isFinite, plain, isName, built, written, read, rebuilt,
    shorter ⟨⟨.finish, 9⟩, by simp [tokens], rfl⟩⟩

/-- Where the end is missing it must not be counted: the text of a number has the number and the
end for its tokens, and the number alone makes the same tree. -/
theorem ofTokens_text_of_unclosed :
    ¬ ∀ (limits : Limits) (tokens : List Token) (tree : Expr),
      (∀ value ∈ tree.literals, value.isFinite = true) →
      (∀ value ∈ tree.literals, Number.isNegative value = false) →
      (∀ name ∈ tree.names, Token.IsName name) → ofTokens limits tokens = .ok tree →
      ∃ written, Token.readAll tree.text = .ok written ∧ written.length ≤ tokens.length := by
  intro claim
  have isFinite : ∀ value ∈ (Expr.literal 1).literals, value.isFinite = true := by
    intro value member
    rw [List.mem_singleton.mp member]
    decide
  have plain : ∀ value ∈ (Expr.literal 1).literals, Number.isNegative value = false := by
    intro value member
    rw [List.mem_singleton.mp member]
    decide
  obtain ⟨written, read, short⟩ := claim ⟨1, 1⟩ [⟨.number 1, 0⟩] (.literal 1) isFinite plain
    nofun rfl
  obtain ⟨tokens, tokensRead, kindsEq, _⟩ := readAll_text isFinite nofun
  have same : tokens = written := Except.ok.inj (tokensRead.symm.trans read)
  have kindsOne : (Expr.literal 1).kinds = [.number 1] := by
    simp [kinds, plain 1 List.mem_cons_self]
  have length := congrArg List.length kindsEq
  rw [List.length_map, kindsOne, same] at length
  simp [length] at short

end Expr

end Reckoner
