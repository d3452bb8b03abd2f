import Reckoner.Proofs.Calculator.Spacing
import Reckoner.Proofs.Session.Entries
import Reckoner.Proofs.Text.Tidy

/-!
# The canonical form is canonical

The canonical form of a text is tidy, or empty, so joining its words gives it back.  That is what
its own canonical form is where it is not read.  Where it is read, what is written for its
expression is the same text again, also where the expression is another one: a literal that is too
large for a finite double has become the name `inf`.  A text that is not read keeps its words, and
with the same words it is not read the second time either.
-/

namespace Reckoner

namespace Expr

open Text (Tidy isWord_singleton)

theorem tidy_enclose {characters : List Char} (tidy : Tidy characters) (enclosed : Bool) :
    Tidy (enclose enclosed characters) := by
  cases enclosed with
  | false => exact tidy
  | true =>
      exact (tidy.behind (isWord_singleton (by decide))).append
        (.word (isWord_singleton (by decide)))

mutual

/-- The text of an expression is tidy. -/
theorem tidy_characters (tree : Expr) (words : ∀ name ∈ tree.names, Text.IsWord name.toList) :
    Tidy tree.characters := by
  match tree with
  | .literal value =>
      refine .word ⟨Number.characters_ne_nil value, fun character member => ?_⟩
      exact Number.isBlank_of_isFigure (Number.isFigure_characters value character member)
  | .constant name => exact .word (words name List.mem_cons_self)
  | .negate operand =>
      exact (tidy_enclose (tidy_characters operand words) _).behind (isWord_singleton (by decide))
  | .binary operator left right =>
      obtain ⟨leftWords, rightWords⟩ := List.forall_mem_append.mp words
      have leftTidy := tidy_enclose (tidy_characters left leftWords)
      have rightTidy := tidy_enclose (tidy_characters right rightWords)
      exact (leftTidy _).space (.next (isWord_singleton (isBlank_symbol operator)) (rightTidy _))
  | .call function [] =>
      have name := words function List.mem_cons_self
      exact .word ((name.append (isWord_singleton (by decide))).append
        (isWord_singleton (by decide)))
  | .call function (argument :: rest) =>
      obtain ⟨name, argumentWords⟩ := List.forall_mem_cons.mp words
      have inside := tidy_argumentCharacters (argument :: rest) argumentWords (List.cons_ne_nil _ _)
      have opened := (inside.behind (isWord_singleton (by decide : Text.isBlank '(' = false)))
      exact (opened.behind name).append (.word (isWord_singleton (by decide)))

theorem tidy_argumentCharacters (arguments : List Expr)
    (words : ∀ name ∈ namesAll arguments, Text.IsWord name.toList) (nonempty : arguments ≠ []) :
    Tidy (argumentCharacters arguments) := by
  match arguments with
  | [] => exact absurd rfl nonempty
  | [argument] => exact tidy_characters argument (List.forall_mem_append.mp words).1
  | argument :: next :: others =>
      obtain ⟨first, rest⟩ := List.forall_mem_append.mp words
      have behind := tidy_argumentCharacters (next :: others) rest (List.cons_ne_nil _ _)
      exact (tidy_characters argument first).append
        (.next (isWord_singleton (by decide : Text.isBlank ',' = false)) behind)

end

end Expr

namespace Session

variable {session : Session} {text : String} {tree : Expr}

theorem pretty_of_error {error : CalcError} (failure : session.calculator.read text = .error error) :
    session.pretty text = String.ofList (Text.unwords (Text.words text.toList)) := by
  rw [pretty, failure]

theorem tidy_pretty_or_empty (session : Session) (text : String) :
    Text.Tidy (session.pretty text).toList ∨ (session.pretty text).toList = [] := by
  cases read : session.calculator.read text with
  | ok tree =>
      rw [pretty_of_read read, Expr.text, String.toList_ofList]
      exact .inl (tree.tidy_characters (Calculator.isWord_of_read read))
  | error error =>
      rw [pretty_of_error read, String.toList_ofList]
      by_cases blank : Text.words text.toList = []
      · rw [blank]
        exact .inr rfl
      · exact .inl (Text.tidy_unwords blank (Text.words_isWord _))

theorem unwords_words_pretty (session : Session) (text : String) :
    Text.unwords (Text.words (session.pretty text).toList) = (session.pretty text).toList := by
  rcases tidy_pretty_or_empty session text with tidy | empty
  · exact tidy.unwords_words
  · rw [empty]
    rfl

/-- Where the canonical form is read, it is what is written for its expression. -/
theorem text_of_read_pretty (again : session.calculator.read (session.pretty text) = .ok tree) :
    tree.text = session.pretty text := by
  cases read : session.calculator.read text with
  | ok first =>
      rw [pretty_of_read read] at again ⊢
      have plain := Calculator.not_mem_of_read_text read again
      rw [Calculator.eq_spelled_of_read_text read again plain,
        Calculator.text_spelled_of_read read]
  | error error =>
      have sameWords : Text.words text.toList = Text.words (session.pretty text).toList := by
        rw [pretty_of_error read, String.toList_ofList, Text.words_unwords]
      have alike := (@Calculator.readsAlike_of_words session.calculator _ _ sameWords).tree
      rw [read, again] at alike
      cases alike

/-- The canonical form of every text is its own canonical form.  No blank stands at either end of
it, and no two blanks follow one another in it. -/
theorem pretty_pretty (session : Session) (text : String) :
    session.pretty (session.pretty text) = session.pretty text ∧
      Text.Trimmed (session.pretty text).toList ∧
      Text.Unrepeated (session.pretty text).toList := by
  constructor
  · cases again : session.calculator.read (session.pretty text) with
    | ok tree =>
        rw [pretty_of_read again]
        exact text_of_read_pretty again
    | error error =>
        rw [pretty_of_error again, unwords_words_pretty, String.ofList_toList]
  · rcases tidy_pretty_or_empty session text with tidy | empty
    · exact ⟨tidy.trimmed, tidy.unrepeated⟩
    · rw [empty]
      exact ⟨⟨nofun, nofun⟩, .nil⟩

end Session

end Reckoner
