import Reckoner.Proofs.Expr.Acceptance

/-!
# What the limits change

A reader under strict limits does what it does under generous ones, unless one of the strict limits
stops it.  `Limited` says so of two readers; it is kept by sequences of readers, and so it goes from
the two places where a limit is looked at, `checkHeight` and `nested`, to the whole expression.

The specification of the readers bounds the other side: limits above the number of tokens stop
nothing, so what is read under them is what the tokens mean.
-/

namespace Reckoner

namespace Reader

variable {α β : Type} {strict generous : Limits}

/-- The first reader does what the second does, unless one of the strict limits stops it. -/
def Limited (strict : Limits) (reader free : Reader α) : Prop :=
  ∀ state, reader state = free state ∨
    ∃ limit final, reader state = .error (.tooDeep limit) final ∧
      (limit = strict.depth ∨ limit = strict.height)

theorem Limited.refl (reader : Reader α) : Limited strict reader reader :=
  fun _ => .inl rfl

theorem Limited.stopped {free : Reader α} {limit : Nat}
    (own : limit = strict.depth ∨ limit = strict.height) :
    Limited strict (throw (.tooDeep limit)) free :=
  fun state => .inr ⟨limit, state, rfl, own⟩

/-- A sequence is stopped where its first reader is, or where its second is. -/
theorem Limited.bind {first firstFree : Reader α} {next nextFree : α → Reader β}
    (firstLimited : Limited strict first firstFree)
    (nextLimited : ∀ value, Limited strict (next value) (nextFree value)) :
    Limited strict (first >>= next) (firstFree >>= nextFree) := by
  intro state
  change EStateM.bind first next state = EStateM.bind firstFree nextFree state ∨
    ∃ limit final, EStateM.bind first next state = .error (.tooDeep limit) final ∧ _
  unfold EStateM.bind
  rcases firstLimited state with same | ⟨limit, final, stopped, own⟩
  · rw [same]
    cases firstFree state with
    | ok value middle => exact nextLimited value middle
    | error error final => exact .inl rfl
  · rw [stopped]
    exact .inr ⟨limit, final, rfl, own⟩

theorem Limited.after (first : Reader α) {next nextFree : α → Reader β}
    (nextLimited : ∀ value, Limited strict (next value) (nextFree value)) :
    Limited strict (first >>= next) (first >>= nextFree) :=
  (Limited.refl first).bind nextLimited

theorem Limited.ite {condition : Prop} [Decidable condition]
    {reader free other otherFree : Reader α} (limited : Limited strict reader free)
    (otherLimited : Limited strict other otherFree) :
    Limited strict (if condition then reader else other)
      (if condition then free else otherFree) := by
  split
  · exact limited
  · exact otherLimited

section Forms

variable {finish : Nat} (height : strict.height ≤ generous.height)
include height

theorem checkHeight_limited (node : Measured) :
    Limited strict (checkHeight ⟨strict, finish⟩ node) (checkHeight ⟨generous, finish⟩ node) := by
  unfold checkHeight
  dsimp only
  split
  · exact .stopped (.inr rfl)
  · next low =>
      rw [if_neg (by omega)]
      exact .refl _

theorem chainFrom_limited {symbols : List Char} {operand free : Reader Measured}
    (limited : Limited strict operand free) (steps : Nat) (left : Measured) :
    Limited strict (chainFrom ⟨strict, finish⟩ symbols operand steps left)
      (chainFrom ⟨generous, finish⟩ symbols free steps left) := by
  induction steps generalizing left with
  | zero => exact .refl _
  | succ steps induction =>
      refine .after (readOperator ⟨strict, finish⟩ symbols) ?_
      intro read
      cases read with
      | none => exact .refl _
      | some operator =>
          refine limited.bind fun right => ?_
          exact (checkHeight_limited height _).bind fun joined => induction joined

theorem chain_limited {symbols : List Char} {operand free : Reader Measured}
    (limited : Limited strict operand free) :
    Limited strict (chain ⟨strict, finish⟩ symbols operand)
      (chain ⟨generous, finish⟩ symbols free) := by
  refine limited.bind fun first => ?_
  exact .after get fun state => chainFrom_limited height limited _ first

variable {signed free : Reader Measured} (limited : Limited strict signed free)
include limited

theorem sum_limited :
    Limited strict (sum ⟨strict, finish⟩ signed) (sum ⟨generous, finish⟩ free) :=
  chain_limited height (chain_limited height limited)

theorem argumentsFrom_limited (steps : Nat) (read : List Measured) :
    Limited strict (argumentsFrom ⟨strict, finish⟩ signed steps read)
      (argumentsFrom ⟨generous, finish⟩ free steps read) := by
  induction steps generalizing read with
  | zero => exact .refl _
  | succ steps induction =>
      refine (sum_limited height limited).bind fun argument => ?_
      refine .after (peek ⟨strict, finish⟩) fun token => .ite ?_ ?_
      · exact .after (advance ⟨strict, finish⟩) fun _ => induction _
      · exact .refl _

theorem arguments_limited :
    Limited strict (arguments ⟨strict, finish⟩ signed) (arguments ⟨generous, finish⟩ free) := by
  refine .after (peek ⟨strict, finish⟩) fun token => .ite (.refl _) ?_
  exact .after get fun state => argumentsFrom_limited height limited _ []

theorem primary_limited :
    Limited strict (primary ⟨strict, finish⟩ signed) (primary ⟨generous, finish⟩ free) := by
  refine .after (advance ⟨strict, finish⟩) fun token => ?_
  split
  · exact .refl _
  · refine .after (peek ⟨strict, finish⟩) fun next => .ite ?_ (.refl _)
    refine .after (advance ⟨strict, finish⟩) fun opening => ?_
    refine .after (openGroup opening.position) fun _ => ?_
    exact (arguments_limited height limited).bind fun nodes => checkHeight_limited height _
  · refine .after (openGroup token.position) fun _ => ?_
    refine .after (peek ⟨strict, finish⟩) fun next => .ite (.refl _) ?_
    exact (sum_limited height limited).bind fun inner => .refl _
  · exact .refl _
  · exact .refl _
  · exact .refl _

theorem power_limited :
    Limited strict (power ⟨strict, finish⟩ signed) (power ⟨generous, finish⟩ free) := by
  refine (primary_limited height limited).bind fun base => ?_
  refine .after (peek ⟨strict, finish⟩) fun next => .ite ?_ (.refl _)
  refine .after (advance ⟨strict, finish⟩) fun _ => ?_
  exact limited.bind fun exponent => checkHeight_limited height _

end Forms

/-- Where the generous limit refuses another level, the strict one has refused it already. -/
theorem nested_limited {finish : Nat} (depth : strict.depth ≤ generous.depth)
    {reader free : Reader α} (limited : Limited strict reader free) :
    Limited strict (nested ⟨strict, finish⟩ reader) (nested ⟨generous, finish⟩ free) := by
  intro state
  unfold nested
  dsimp only
  by_cases full : strict.depth ≤ state.nesting
  · rw [if_pos full]
    exact .inr ⟨strict.depth, state, rfl, .inl rfl⟩
  · rw [if_neg full]
    by_cases generousFull : generous.depth ≤ state.nesting
    · omega
    · rw [if_neg generousFull]
      rcases limited _ with same | ⟨limit, final, stopped, own⟩
      · exact .inl (by rw [same])
      · rw [stopped]
        exact .inr ⟨limit, _, rfl, own⟩

theorem signed_limited {finish : Nat} (depth : strict.depth ≤ generous.depth)
    (height : strict.height ≤ generous.height) {calls generousCalls : Nat}
    (order : calls ≤ generousCalls) :
    Limited strict (signed ⟨strict, finish⟩ calls) (signed ⟨generous, finish⟩ generousCalls) := by
  induction calls generalizing generousCalls with
  | zero => exact .stopped (.inl rfl)
  | succ calls induction =>
      cases generousCalls with
      | zero => omega
      | succ generousCalls =>
          have operand := induction (Nat.le_of_succ_le_succ order)
          refine nested_limited depth (.after (peek ⟨strict, finish⟩) fun token => ?_)
          split
          · refine .after (advance ⟨strict, finish⟩) fun _ => ?_
            exact operand.bind fun node => checkHeight_limited height _
          · exact .after (advance ⟨strict, finish⟩) fun _ => operand
          · exact power_limited height operand

theorem whole_limited {finish : Nat} (depth : strict.depth ≤ generous.depth)
    (height : strict.height ≤ generous.height) :
    Limited strict (whole ⟨strict, finish⟩) (whole ⟨generous, finish⟩) := by
  refine .after (peek ⟨strict, finish⟩) fun first => .ite (.refl _) ?_
  refine (sum_limited height (signed_limited depth height depth)).bind fun node => ?_
  exact .refl _

end Reader

namespace Expr

variable {limits strict generous wide : Limits} {tokens : List Token} {tree : Expr}

theorem reading_limited (depth : strict.depth ≤ generous.depth)
    (height : strict.height ≤ generous.height) :
    reading strict tokens = reading generous tokens ∨
      ∃ limit final, reading strict tokens = .error (.tooDeep limit) final ∧
        (limit = strict.depth ∨ limit = strict.height) :=
  Reader.whole_limited depth height (.ofTokens tokens)

theorem ofTokens_limited (depth : strict.depth ≤ generous.depth)
    (height : strict.height ≤ generous.height) :
    ofTokens strict tokens = ofTokens generous tokens ∨
      ∃ limit, ofTokens strict tokens = .error (.tooDeep limit) ∧
        (limit = strict.depth ∨ limit = strict.height) := by
  unfold ofTokens
  rcases @reading_limited strict generous tokens depth height with
    same | ⟨limit, final, stopped, own⟩
  · rw [same]
    exact .inl rfl
  · rw [stopped]
    exact .inr ⟨limit, rfl, own⟩

/-- Limits that allow for every token and for the end stop nothing. -/
theorem ofTokens_ne_tooDeep (depth : (Token.significant tokens).length < wide.depth)
    (height : (Token.significant tokens).length < wide.height) (limit : Nat) :
    ofTokens wide tokens ≠ .error (.tooDeep limit) := by
  intro stopped
  obtain ⟨final, run⟩ := ofTokens_eq_error_iff_reading.mp stopped
  have cause := (failed_of_reading run).cause limit rfl
  rw [Token.significant, List.length_map] at depth height
  simp only [Reader.Context.ofTokens, Reader.State.ofTokens] at cause
  omega

/-- All limits that allow for every token agree. -/
theorem ofTokens_eq_of_wide {other : Limits}
    (depth : (Token.significant tokens).length < wide.depth)
    (height : (Token.significant tokens).length < wide.height)
    (depthLe : wide.depth ≤ other.depth) (heightLe : wide.height ≤ other.height) :
    ofTokens wide tokens = ofTokens other tokens := by
  rcases ofTokens_limited depthLe heightLe with same | ⟨limit, stopped, _⟩
  · exact same
  · exact absurd stopped (ofTokens_ne_tooDeep depth height limit)

/-- Under any limits the outcome is the one that wide limits give, or a limit was the reason. -/
theorem ofTokens_eq_or_tooDeep (depth : (Token.significant tokens).length < wide.depth)
    (height : (Token.significant tokens).length < wide.height) :
    ofTokens limits tokens = ofTokens wide tokens ∨
      ∃ limit, ofTokens limits tokens = .error (.tooDeep limit) ∧
        (limit = limits.depth ∨ limit = limits.height) := by
  let both : Limits := ⟨max limits.depth wide.depth, max limits.height wide.height⟩
  have wideSame : ofTokens wide tokens = ofTokens both tokens :=
    ofTokens_eq_of_wide depth height (Nat.le_max_right _ _) (Nat.le_max_right _ _)
  rw [wideSame]
  exact ofTokens_limited (Nat.le_max_left _ _) (Nat.le_max_left _ _)

/-- However the reading ends, all levels are closed, and never were more open than allowed. -/
theorem reading_levels (limits : Limits) (tokens : List Token) :
    match reading limits tokens with
    | .ok _ final | .error _ final => final.nesting = 0 ∧ final.deepest ≤ limits.depth := by
  cases run : reading limits tokens with
  | ok tree final =>
      have read := readWhole_of_reading run
      exact ⟨read.nesting, read.within.deepest_le⟩
  | error error final =>
      have failed := failed_of_reading run
      exact ⟨failed.nesting, failed.within.deepest_le⟩

/-- The height that is counted while reading is the height of the tree. -/
theorem sum_height {node : Measured} {final : Reader.State}
    (run : (Reader.sum (.ofTokens limits tokens)
      (Reader.signed (.ofTokens limits tokens) limits.depth)).run (.ofTokens tokens) =
        .ok node final) :
    node.height = node.expression.height := by
  have ends := Reader.sum_reads (Reader.signed_reads (.ofTokens limits tokens) limits.depth)
    _ (Reader.State.within_ofTokens limits tokens)
  exact ((Reader.ends_iff_of_eq_ok run).mp ends).height_eq

/-- What the limits do to an outcome, where `wide` are limits above the number of tokens in front
of the end.  The outcome is that under the wide limits, or a limit that was passed; an outcome
that no limit has caused stays under larger limits.  A tree is found exactly if the levels of its
only derivation and its height are within the limits.  Every tree found is within the limit for
the height, which is counted rightly, and never are more levels open than the limit for the depth
allows. -/
theorem ofTokens_limits (positive : 0 < limits.height)
    (depth : (Token.significant tokens).length < wide.depth)
    (height : (Token.significant tokens).length < wide.height) :
    (∀ limit, ofTokens wide tokens ≠ .error (.tooDeep limit)) ∧
      (ofTokens limits tokens = ofTokens wide tokens ∨
        ∃ limit, ofTokens limits tokens = .error (.tooDeep limit) ∧
          (limit = limits.depth ∨ limit = limits.height)) ∧
      (∀ larger : Limits, limits.depth ≤ larger.depth → limits.height ≤ larger.height →
        (∀ limit, ofTokens limits tokens ≠ .error (.tooDeep limit)) →
          ofTokens larger tokens = ofTokens limits tokens) ∧
      (∀ tree, ofTokens wide tokens = .ok tree →
        ∃ levels, Grammar.Sum (Token.significant tokens) tree levels ∧
          (∀ other, Grammar.Sum (Token.significant tokens) tree other → other = levels) ∧
          (ofTokens limits tokens = .ok tree ↔
            levels ≤ limits.depth ∧ tree.height ≤ limits.height)) ∧
      (∀ tree, ofTokens limits tokens = .ok tree → tree.height ≤ limits.height) ∧
      (∀ node final, (Reader.sum (.ofTokens limits tokens)
          (Reader.signed (.ofTokens limits tokens) limits.depth)).run (.ofTokens tokens) =
            .ok node final → node.height = node.expression.height) ∧
      (match reading limits tokens with
        | .ok _ final | .error _ final =>
          final.nesting = 0 ∧ final.deepest ≤ limits.depth) := by
  refine ⟨ofTokens_ne_tooDeep depth height, ofTokens_eq_or_tooDeep depth height, ?_, ?_, ?_, ?_,
    reading_levels limits tokens⟩
  · intro larger depthLe heightLe free
    rcases ofTokens_limited depthLe heightLe with same | ⟨limit, stopped, _⟩
    · exact same.symm
    · exact absurd stopped (free limit)
  · intro tree built
    obtain ⟨levels, sum, _⟩ := sum_of_ofTokens built
    refine ⟨levels, sum, fun other otherSum => (otherSum.unique sum).2, ?_⟩
    rw [ofTokens_eq_ok_iff positive]
    constructor
    · rintro ⟨other, otherSum, otherLe⟩
      rw [(sum.unique otherSum).2]
      exact otherLe
    · exact fun within => ⟨levels, sum, within⟩
  · intro tree built
    obtain ⟨_, _, _, low⟩ := (ofTokens_eq_ok_iff positive).mp built
    exact low
  · intro node final run
    exact sum_height run

/-- A tower of two powers needs three open levels, and its tree is three high. -/
theorem ofTokens_tower :
    let tokens : List Token := [⟨.number 2, 0⟩, ⟨.operator '^', 1⟩, ⟨.number 3, 2⟩,
      ⟨.operator '^', 3⟩, ⟨.number 2, 4⟩, ⟨.finish, 5⟩]
    let tree : Expr :=
      .binary .power (.literal 2) (.binary .power (.literal 3) (.literal 2))
    0 < (Limits.mk 3 3).height ∧ (Token.significant tokens).length < 6 ∧
      ofTokens ⟨6, 6⟩ tokens = .ok tree ∧ ofTokens ⟨3, 3⟩ tokens = .ok tree ∧
      ofTokens ⟨2, 3⟩ tokens = .error (.tooDeep 2) ∧
      ofTokens ⟨3, 2⟩ tokens = .error (.tooDeep 2) := by
  intro tokens tree
  have few : (Token.significant tokens).length < 6 := by decide
  have free : ∀ limit, ofTokens ⟨3, 3⟩ tokens ≠ .error (.tooDeep limit) := by
    intro limit
    exact nofun
  have larger := (@ofTokens_limits ⟨3, 3⟩ ⟨6, 6⟩ tokens (by decide) few few).2.2.1
  refine ⟨by decide, few, ?_, rfl, rfl, rfl⟩
  exact larger ⟨6, 6⟩ (by decide) (by decide) free

/-- The end counts also where its token is missing: as many levels as there are tokens do not
always suffice without it. -/
theorem ofTokens_unclosed_group :
    ¬ ∀ (limits : Limits) (tokens : List Token), 0 < limits.depth → 0 < limits.height →
      ofTokens limits tokens =
          ofTokens ⟨max 1 tokens.length, max 1 tokens.length⟩ tokens ∨
        ∃ limit, ofTokens limits tokens = .error (.tooDeep limit) ∧
          (limit = limits.depth ∨ limit = limits.height) := by
  intro claim
  have unmatched : ofTokens ⟨2, 2⟩ [⟨.leftParenthesis, 0⟩] =
      .error (.unmatchedParenthesis 0) := rfl
  have stopped : ofTokens ⟨1, 1⟩ [⟨.leftParenthesis, 0⟩] = .error (.tooDeep 1) := rfl
  rcases claim ⟨2, 2⟩ [⟨.leftParenthesis, 0⟩] (by decide) (by decide) with
    same | ⟨limit, tooDeep, _⟩
  · have wide : ofTokens ⟨2, 2⟩ [⟨.leftParenthesis, 0⟩] = .error (.tooDeep 1) :=
      same.trans stopped
    rw [unmatched] at wide
    cases wide
  · rw [unmatched] at tooDeep
    cases tooDeep

end Expr

end Reckoner
