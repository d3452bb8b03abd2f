import Reckoner.Proofs.Text.Lowering
import Reckoner.Proofs.Text.Trimming
import Reckoner.Request

/-!
# Requests are trimmed

A line is trimmed before it is carried out, and what is left of it behind the keyword is trimmed
again.  Trimming leaves nothing only where there is nothing but blanks, so a line that is not
empty asks for an expression that is not empty.
-/

namespace Reckoner

namespace Text

/-- The blank that ends or starts the keyword has no other case. -/
theorem eq_space_of_toLower_eq {character : Char} (lower : character.toLower = ' ') :
    character = ' ' := by
  have code := congrArg Char.toNat lower
  have space : ' '.toNat = 32 := rfl
  rw [toNat_toLower] at code
  apply Char.toNat_inj.mp
  split at code <;> omega

end Text

namespace Request

variable {line : List Char}

theorem ofLine_trimmed (trimmed : Text.Trimmed line) : Text.Trimmed (ofLine line).expression := by
  unfold ofLine
  dsimp only
  split
  · exact Text.trimmed_trim _
  · split
    · exact Text.trimmed_trim _
    · exact trimmed

/-- Behind the keyword there is the last character of the line, which is no blank. -/
theorem behind_keyword_ne_nil (trimmed : Text.Trimmed line) {last : Char}
    (lastEq : line.getLast? = some last)
    (same : Text.equalIgnoringAsciiCase (line.take 8) (keyword ++ [' ']) = true) :
    Text.trim (line.drop 8) ≠ [] := by
  have notBlank := trimmed.last last lastEq
  have lowered : (line.take 8).map Char.toLower = keyword ++ [' '] := by
    simpa [Text.equalIgnoringAsciiCase, keyword] using same
  by_cases short : line.length ≤ 8
  · rw [List.take_of_length_le short] at lowered
    have final := congrArg List.getLast? lowered
    rw [List.getLast?_map, lastEq, List.getLast?_concat, Option.map_some, Option.some.injEq]
      at final
    rw [Text.eq_space_of_toLower_eq final] at notBlank
    contradiction
  · refine Text.trim_ne_nil (List.mem_of_getLast? ?_) notBlank
    rw [List.getLast?_drop, if_neg short]
    exact lastEq

/-- In front of the keyword there is the first character of the line, which is no blank. -/
theorem before_keyword_ne_nil (trimmed : Text.Trimmed line) {first : Char}
    (firstEq : line.head? = some first)
    (same : Text.equalIgnoringAsciiCase (line.drop (line.length - 8)) (' ' :: keyword) = true) :
    Text.trim (line.take (line.length - 8)) ≠ [] := by
  have notBlank := trimmed.head first firstEq
  have lowered : (line.drop (line.length - 8)).map Char.toLower = ' ' :: keyword := by
    simpa [Text.equalIgnoringAsciiCase, keyword] using same
  by_cases short : line.length - 8 = 0
  · rw [short, List.drop_zero] at lowered
    have start := congrArg List.head? lowered
    rw [List.head?_map, firstEq, List.head?_cons, Option.map_some, Option.some.injEq] at start
    rw [Text.eq_space_of_toLower_eq start] at notBlank
    contradiction
  · refine Text.trim_ne_nil (List.mem_of_head? ?_) notBlank
    rw [List.head?_take, if_neg short]
    exact firstEq

theorem ofLine_ne_nil (trimmed : Text.Trimmed line) (nonempty : line ≠ []) :
    (ofLine line).expression ≠ [] := by
  unfold ofLine
  dsimp only
  split
  · next same =>
      exact behind_keyword_ne_nil trimmed (List.getLast?_eq_some_getLast nonempty) same
  · split
    · next same =>
        exact before_keyword_ne_nil trimmed (List.head?_eq_some_head nonempty) same.2
    · exact nonempty

end Request

end Reckoner
