import Reckoner.Calculator
import Reckoner.Proofs.Expr.Places
import Reckoner.Proofs.Token.Spacing

/-!
# Spacing

How the words of a text are spaced changes no tree, no value and no step, and an error only in its
position.  The tokens of two texts with the same words have the same kinds
(`Token.unplaced_readAll_eq`), tokens of the same kinds make the same tree
(`Expr.ofTokens_unplaced`), and the value and the steps come from the tree.
-/

namespace Reckoner

/-- The error without its position. -/
def CalcError.unplaced : CalcError → CalcError
  | .lex error => .lex error.unplaced
  | .parse error => .parse error.unplaced
  | .eval error => .eval error

namespace Token

/-- Without positions two readings agree: both fail in the same way, or the tokens are of the same
kinds. -/
theorem alike_of_unplaced_eq {read other : Except LexError (List Token)}
    (same : unplaced read = unplaced other) :
    (∃ error otherError, read = .error error ∧ other = .error otherError ∧
        error.unplaced = otherError.unplaced) ∨
      ∃ tokens otherTokens, read = .ok tokens ∧ other = .ok otherTokens ∧
        tokens.map Token.kind = otherTokens.map Token.kind := by
  cases read with
  | error error =>
      cases other with
      | error otherError => exact .inl ⟨error, otherError, rfl, rfl, Except.error.inj same⟩
      | ok otherTokens => cases same
  | ok tokens =>
      cases other with
      | error otherError => cases same
      | ok otherTokens => exact .inr ⟨tokens, otherTokens, rfl, rfl, Except.ok.inj same⟩

end Token

namespace Calculator

/-- Nothing that the calculator makes of the one text differs from what it makes of the other, but
for the positions of tokens and of errors. -/
structure ReadsAlike (calculator : Calculator) (text other : String) : Prop where
  tokens : Token.unplaced (Token.readAll text) = Token.unplaced (Token.readAll other)
  tree : (calculator.read text).mapError CalcError.unplaced =
    (calculator.read other).mapError CalcError.unplaced
  value (trace : Trace) : (calculator.evaluateTraced trace text).1.mapError CalcError.unplaced =
    (calculator.evaluateTraced trace other).1.mapError CalcError.unplaced
  steps (trace : Trace) : (calculator.evaluateTraced trace text).2 =
    (calculator.evaluateTraced trace other).2

variable {calculator : Calculator} {text other : String}

theorem read_unplaced
    (same : Token.unplaced (Token.readAll text) = Token.unplaced (Token.readAll other)) :
    (calculator.read text).mapError CalcError.unplaced =
      (calculator.read other).mapError CalcError.unplaced := by
  unfold read
  rcases Token.alike_of_unplaced_eq same with
    ⟨error, otherError, failure, otherFailure, sameError⟩ |
    ⟨tokens, otherTokens, success, otherSuccess, kinds⟩
  · simp only [failure, otherFailure]
    exact congrArg (fun error => Except.error (CalcError.lex error)) sameError
  · simp only [success, otherSuccess]
    rcases mapError_eq_cases (Expr.ofTokens_unplaced calculator.limits kinds) with
      ⟨error, otherError, failure, otherFailure, sameError⟩ | ⟨expression, tree, otherTree⟩
    · simp only [failure, otherFailure]
      exact congrArg (fun error => Except.error (CalcError.parse error)) sameError
    · simp only [tree, otherTree]

/-- The value and the steps come from what is read. -/
theorem evaluateTraced_unplaced (trace : Trace)
    (same : (calculator.read text).mapError CalcError.unplaced =
      (calculator.read other).mapError CalcError.unplaced) :
    (calculator.evaluateTraced trace text).1.mapError CalcError.unplaced =
        (calculator.evaluateTraced trace other).1.mapError CalcError.unplaced ∧
      (calculator.evaluateTraced trace text).2 = (calculator.evaluateTraced trace other).2 := by
  unfold evaluateTraced
  rcases mapError_eq_cases same with
    ⟨error, otherError, failure, otherFailure, sameError⟩ | ⟨expression, tree, otherTree⟩
  · rw [failure, otherFailure]
    exact ⟨congrArg Except.error sameError, rfl⟩
  · rw [tree, otherTree]
    exact ⟨rfl, rfl⟩

theorem readsAlike_of_tokens
    (same : Token.unplaced (Token.readAll text) = Token.unplaced (Token.readAll other)) :
    calculator.ReadsAlike text other where
  tokens := same
  tree := read_unplaced same
  value trace := (evaluateTraced_unplaced trace (read_unplaced same)).1
  steps trace := (evaluateTraced_unplaced trace (read_unplaced same)).2

theorem readsAlike_of_words (same : Text.words text.toList = Text.words other.toList) :
    calculator.ReadsAlike text other :=
  readsAlike_of_tokens (Token.unplaced_readAll_eq same)

/-- Two texts with the same words are read alike; so a text is read as it is trimmed, and as its
words are with single spaces. -/
theorem readsAlike (calculator : Calculator) :
    (∀ text other : String, Text.words text.toList = Text.words other.toList →
        calculator.ReadsAlike text other) ∧
      ∀ text : String, calculator.ReadsAlike text (String.ofList (Text.trim text.toList)) ∧
        calculator.ReadsAlike text
          (String.ofList (Text.unwords (Text.words text.toList))) := by
  refine ⟨fun text other same => readsAlike_of_words same, fun text => ⟨?_, ?_⟩⟩
  · apply readsAlike_of_words
    rw [String.toList_ofList, Text.words_trim]
  · apply readsAlike_of_words
    rw [String.toList_ofList, Text.words_unwords]

/-- A text that is no expression, with a tabulator and with a space in front of the operator. -/
theorem readsAlike_tabulator :
    Text.words " 1\t+ )".toList = Text.words "1 + )".toList ∧
      standard.ReadsAlike " 1\t+ )" "1 + )" :=
  have same : Text.words " 1\t+ )".toList = Text.words "1 + )".toList := by decide +kernel
  ⟨same, (readsAlike standard).1 _ _ same⟩

end Calculator

end Reckoner
