import Reckoner.Calculator
import Reckoner.Proofs.Expr.Leaves
import Reckoner.Proofs.Expr.Parentheses
import Reckoner.Proofs.Token.Contents

/-!
# Reading once more what was read

A text that a calculator reads is rewritten as the text of its tree, with the least number of
parentheses, so the limits that allowed for the first text allow for the second.  The second text
is read as the same tree, with two exceptions.  A number that is too large for a finite double is
written `inf`, and this is a name.  And the capital `İ` is lowered to an `i` with a dot of its own,
which no token may hold.
-/

namespace Reckoner

namespace Calculator

variable {calculator : Calculator} {text : String} {tree : Expr}

theorem read_eq_ok_iff :
    calculator.read text = .ok tree ↔
      ∃ tokens, Token.readAll text = .ok tokens ∧
        Expr.ofTokens calculator.limits tokens = .ok tree := by
  unfold read
  cases Token.readAll text with
  | error error => simp
  | ok tokens =>
      cases built : Expr.ofTokens calculator.limits tokens with
      | error error => simp [built]
      | ok other => simp [built]

/-- Reading depends on the depth of a calculator, not on its environment. -/
theorem read_eq_of_depth {other : Calculator} (depth : calculator.depth = other.depth)
    (text : String) : calculator.read text = other.read text := by
  unfold read limits
  rw [depth]

/-- A tree that is read comes from a division of the text into tokens, and its numbers and names
are among these. -/
theorem scans_of_read (read : calculator.read text = .ok tree) :
    ∃ front levels, Token.Scans [] 0 text.toList front ∧
      Grammar.Sum (front.map Token.kind) tree levels := by
  obtain ⟨tokens, readTokens, built⟩ := read_eq_ok_iff.mp read
  obtain ⟨front, place, rfl, scans, _⟩ := Token.scans_of_readAll readTokens
  obtain ⟨levels, sum, _⟩ := Expr.sum_of_ofTokens built
  rw [Token.significant_closed place scans.kind_ne_finish] at sum
  exact ⟨front, levels, scans, sum⟩

theorem unsigned_of_read (read : calculator.read text = .ok tree) :
    ∀ value ∈ tree.literals, Number.Unsigned value := by
  obtain ⟨front, levels, scans, sum⟩ := scans_of_read read
  intro value member
  exact scans.unsigned value (sum.mem_literals.mp member)

theorem isName_of_read (read : calculator.read text = .ok tree) (plain : 'İ' ∉ text.toList) :
    ∀ name ∈ tree.names, Token.IsName name := by
  obtain ⟨front, levels, scans, sum⟩ := scans_of_read read
  intro name member
  exact scans.isName plain name (sum.mem_names.mp member)

/-- With finite literals and without `İ` the text of the tree is read as the tree. -/
theorem read_text (read : calculator.read text = .ok tree)
    (finite : ∀ value ∈ tree.literals, value.isFinite = true) (plain : 'İ' ∉ text.toList) :
    calculator.read tree.text = .ok tree := by
  have nonnegative : ∀ value ∈ tree.literals, Number.isNegative value = false :=
    fun value member => (unsigned_of_read read value member).nonnegative
  obtain ⟨tokens, _, built⟩ := read_eq_ok_iff.mp read
  obtain ⟨levels, sum, depth, _⟩ := Expr.exists_sum_kinds nonnegative built
  obtain ⟨_, _, _, height⟩ := Expr.sum_of_ofTokens built
  obtain ⟨written, readWritten, _, significantEq⟩ :=
    Expr.readAll_text finite (isName_of_read read plain)
  exact read_eq_ok_iff.mpr ⟨written, readWritten,
    Expr.ofTokens_of_sum (significantEq.symm ▸ sum) depth height⟩

theorem text_spelled_of_read (read : calculator.read text = .ok tree) :
    tree.spelled.text = tree.text :=
  congrArg String.ofList (Expr.characters_spelled tree (unsigned_of_read read))

/-- Where the text of the tree is read, it is read as the tree with names for infinite literals. -/
theorem eq_spelled_of_read_text {other : Expr} (read : calculator.read text = .ok tree)
    (again : calculator.read tree.text = .ok other) (plain : 'İ' ∉ text.toList) :
    other = tree.spelled := by
  have unsigned := unsigned_of_read read
  have finite : ∀ value ∈ tree.spelled.literals, value.isFinite = true :=
    fun value member => (Expr.of_mem_literals_spelled tree member).2
  have nonnegative : ∀ value ∈ tree.spelled.literals, Number.isNegative value = false :=
    fun value member => (unsigned value (Expr.of_mem_literals_spelled tree member).1).nonnegative
  have isName : ∀ name ∈ tree.spelled.names, Token.IsName name := by
    intro name member
    rcases Expr.of_mem_names_spelled tree member with inside | rfl
    · exact isName_of_read read plain name inside
    · exact ⟨_, rfl, rfl⟩
  obtain ⟨written, readWritten, _, significantEq⟩ := Expr.readAll_text finite isName
  obtain ⟨tokens, readTokens, built⟩ := read_eq_ok_iff.mp again
  have sameTokens : tokens = written := by
    rw [text_spelled_of_read read, readTokens] at readWritten
    exact Except.ok.inj readWritten
  obtain ⟨levels, sum, _⟩ := Expr.sum_of_ofTokens built
  rw [sameTokens, significantEq] at sum
  obtain ⟨_, spelledSum⟩ := (Expr.at_kinds tree.spelled).toSum
  rw [Expr.normal_eq_self _ nonnegative] at spelledSum
  exact (sum.unique spelledSum).1

/-- With an infinite literal the text of the tree writes another tree. -/
theorem isFinite_of_read_text (read : calculator.read text = .ok tree)
    (again : calculator.read tree.text = .ok tree) (plain : 'İ' ∉ text.toList) :
    ∀ value ∈ tree.literals, value.isFinite = true := by
  intro value member
  rw [eq_spelled_of_read_text read again plain] at member
  exact (Expr.of_mem_literals_spelled tree member).2

/-- The dot of a capital `İ` would have to be read. -/
theorem not_mem_of_read_text {other : Expr} (read : calculator.read text = .ok tree)
    (again : calculator.read tree.text = .ok other) : 'İ' ∉ text.toList := by
  intro dotted
  obtain ⟨front, levels, scans, sum⟩ := scans_of_read read
  obtain ⟨name, member, dot⟩ := scans.dot_mem_name dotted
  obtain ⟨_, _, written, _⟩ := scans_of_read again
  apply written.dot_not_mem
  rw [Expr.text, String.toList_ofList]
  exact tree.mem_characters_of_mem_names (sum.mem_names.mpr member) dot

/-- Texts that are read alike have the same value and the same steps in every environment. -/
theorem evaluateTraced_congr {other : String} (same : calculator.read text = calculator.read other)
    (environment : Environment) (trace : Trace) :
    { calculator with environment := environment }.evaluateTraced trace text =
      { calculator with environment := environment }.evaluateTraced trace other := by
  have unaffected : ∀ line, { calculator with environment := environment }.read line =
      calculator.read line := fun line => rfl
  unfold evaluateTraced
  rw [unaffected, unaffected, same]

/-- The text of a tree that was read is read as the same tree exactly if no literal is infinite and
the first text has no capital `İ`.  Then both texts have the same value, or lack one for the same
reason, with the same steps, in every environment. -/
theorem read_text_iff (read : calculator.read text = .ok tree) :
    (calculator.read tree.text = .ok tree ↔
        (∀ value ∈ tree.literals, value.isFinite = true) ∧ 'İ' ∉ text.toList) ∧
      ((∀ value ∈ tree.literals, value.isFinite = true) → 'İ' ∉ text.toList →
        ∀ environment trace,
          { calculator with environment := environment }.evaluateTraced trace tree.text =
            { calculator with environment := environment }.evaluateTraced trace text) := by
  constructor
  · constructor
    · intro again
      have plain := not_mem_of_read_text read again
      exact ⟨isFinite_of_read_text read again plain, plain⟩
    · rintro ⟨finite, plain⟩
      exact read_text read finite plain
  · intro finite plain
    exact evaluateTraced_congr ((read_text read finite plain).trans read.symm)

/-- The sign in front of a name is not written again, and the name alone is read as before. -/
theorem read_text_of_sign :
    let tree : Expr := .constant "x"
    standard.read "+X" = .ok tree ∧ standard.read tree.text = .ok tree := by
  intro tree
  have read : standard.read "+X" = .ok tree :=
    read_eq_ok_iff.mpr ⟨[⟨.operator '+', 0⟩, ⟨.identifier "x", 1⟩, ⟨.finish, 2⟩], rfl, rfl⟩
  have finite : ∀ value ∈ tree.literals, value.isFinite = true := nofun
  exact ⟨read, (read_text_iff read).1.mpr ⟨finite, by decide⟩⟩

/-- The name `İ` is read, but what is written for it is not. -/
theorem read_text_of_dotted :
    ¬ ∀ (calculator : Calculator) (text : String) (tree : Expr),
      calculator.read text = .ok tree → calculator.read tree.text = .ok tree := by
  intro claim
  have read : standard.read "İ" = .ok (.constant "i\u0307") :=
    read_eq_ok_iff.mpr ⟨[⟨.identifier "i\u0307", 0⟩, ⟨.finish, 1⟩], rfl, rfl⟩
  have plain := not_mem_of_read_text read (claim _ _ _ read)
  exact plain (by decide)

end Calculator

end Reckoner
