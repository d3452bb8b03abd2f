import Reckoner.Proofs.Calculator
import Reckoner.Proofs.Environment.Calls
import Reckoner.Proofs.Text.FinalSigma
import Reckoner.Proofs.Token.Scanning

/-!
# Names in any letter case

A text that is read as one name is bound in an environment under the lower case of the whole text,
and looked up under the lower case of its characters.  The two are the same, and then the text
stands for what it was bound to, exactly if there are no blanks around the name and no capital
sigma ends a word in it.  Otherwise the binding has no influence on the text.
-/

namespace Reckoner

/-- What a call under a name comes to, once the arguments have been evaluated. -/
def Overload.called (overload : Overload) (name : String) :
    Except EvalError (List Float) → Except EvalError Float
  | .error error => .error error
  | .ok values =>
    match overload.apply values with
    | .error refusal => .error (.domain name refusal)
    | .ok result => Expr.finite result

theorem Expr.evaluateTraced_call {environment : Environment} {trace : Trace} {name : String}
    {arguments : List Expr} {found : Overload}
    (same : overload environment name arguments.length = .ok found) :
    (evaluateTraced environment trace (.call name arguments)).1 =
      found.called name (evaluateAll environment trace arguments).1 := by
  rw [evaluateTraced, same]
  dsimp only
  split
  · next run => rw [run]; rfl
  · next values _ run =>
      rw [run, Overload.called]
      cases found.apply values <;> rfl

namespace Token

variable {text name : String} {position place : Nat}

theorem scans_of_name
    (read : readAll text = .ok [⟨.identifier name, position⟩, ⟨.finish, place⟩]) :
    Scans [] 0 text.toList [⟨.identifier name, position⟩] := by
  obtain ⟨front, finish, same, scans, _⟩ := scans_of_readAll read
  have whole : [⟨.identifier name, position⟩] ++ [⟨.finish, place⟩] =
      front ++ [⟨.finish, finish⟩] := same
  rwa [(List.append_inj' whole rfl).1]

/-- A text that is read as one name is that name, with blanks around it. -/
theorem exists_name
    (read : readAll text = .ok [⟨.identifier name, position⟩, ⟨.finish, place⟩]) :
    ∃ before run behind, text.toList = before ++ (run ++ behind) ∧
      name = String.ofList (Text.lowerCharacters run) ∧
      (∀ character ∈ before ++ behind, Text.isBlank character = true) ∧
      ∀ character ∈ run, Text.isBlank character = false := by
  have scans : Scans [] 0 text.toList ([] ++ ⟨.identifier name, position⟩ :: []) :=
    scans_of_name read
  obtain ⟨before, run, behind, whole, _, lexeme, scansBefore, scansBehind⟩ := scans.split
  obtain ⟨blanks, wholeAgain, blank⟩ := scansBefore.blanks
  obtain ⟨later, rest, laterBlank⟩ := scansBehind.blanks
  rw [whole] at wholeAgain
  rw [List.append_nil] at rest
  cases List.append_cancel_right wholeAgain
  cases rest
  obtain ⟨nameEq, solid⟩ := lexeme.identifier
  exact ⟨before, run, behind, whole, nameEq, List.forall_mem_append.mpr ⟨blank, laterBlank⟩, solid⟩

end Token

namespace Environment

variable {environment : Environment} {text name : String}

/-- A text that is read as one name is bound under this name exactly if there are no blanks in the
text and no capital sigma ends a word. -/
theorem key_eq_iff {position place : Nat}
    (read : Token.readAll text = .ok [⟨.identifier name, position⟩, ⟨.finish, place⟩]) :
    key text = name ↔
      (∀ character ∈ text.toList, Text.isBlank character = false) ∧
        ¬ Text.HasFinalSigma text.toList := by
  obtain ⟨before, run, behind, whole, nameEq, blank, solid⟩ := Token.exists_name read
  have lowered : key text = name ↔
      Text.lowerText (before ++ (run ++ behind)) = Text.lowerCharacters run := by
    rw [key, nameEq, whole, String.ofList_inj]
  rw [lowered, whole]
  constructor
  · intro same
    have lengths := congrArg List.length same
    have beforeLe := Text.length_le_lowerCharacters before
    have behindLe := Text.length_le_lowerCharacters behind
    rw [Text.lowerText, Text.length_lowerTextFrom, Text.lowerCharacters_append,
      Text.lowerCharacters_append, List.length_append, List.length_append] at lengths
    cases List.eq_nil_of_length_eq_zero (show before.length = 0 by omega)
    cases List.eq_nil_of_length_eq_zero (show behind.length = 0 by omega)
    rw [List.nil_append, List.append_nil] at same ⊢
    exact ⟨solid, Text.lowerText_eq_lowerCharacters_iff.mp same⟩
  · rintro ⟨noBlank, plain⟩
    have empty : before ++ behind = [] := by
      refine List.eq_nil_iff_forall_not_mem.mpr fun character member => ?_
      have inside : character ∈ before ++ (run ++ behind) := by
        rcases List.mem_append.mp member with front | rear
        · exact List.mem_append_left _ front
        · exact List.mem_append_right _ (List.mem_append_right _ rear)
      exact absurd (blank character member) (Bool.eq_false_iff.mp (noBlank character inside))
    obtain ⟨rfl, rfl⟩ := List.append_eq_nil_iff.mp empty
    rw [List.nil_append, List.append_nil] at plain ⊢
    exact Text.lowerText_eq_lowerCharacters_iff.mpr plain

end Environment

namespace Calculator

variable {calculator : Calculator} {text inner name : String} {position place levels : Nat}
  {tokens : List Token} {trees : List Expr} {overload : Overload}

theorem read_name
    (read : Token.readAll text = .ok [⟨.identifier name, position⟩, ⟨.finish, place⟩])
    (calculator : Calculator) : calculator.read text = .ok (.constant name) := by
  have sum : Grammar.Sum [.identifier name] (.constant name) 1 :=
    .product (.signed (.power (.primary (.constant name))))
  refine read_eq_ok_iff.mpr ⟨_, read, Expr.ofTokens_of_sum sum ?_ (Nat.zero_le _)⟩
  exact Nat.le_max_left 1 calculator.depth

/-- At a parenthesis every number and every name ends. -/
theorem ends_of_parenthesis {parenthesis : Char} {rest : List Char}
    (among : parenthesis = '(' ∨ parenthesis = ')') :
    (∀ character ∈ (parenthesis :: rest).head?, Token.startsNumber character = false) ∧
      ∀ character ∈ (parenthesis :: rest).head?, Token.continuesName character = false := by
  constructor
  · rintro _ ⟨⟩
    rcases among with rfl | rfl <;> decide
  · rintro _ ⟨⟩
    rcases among with rfl | rfl <;> decide +kernel

/-- A name and its arguments in parentheses are read as a call. -/
theorem read_call
    (read : Token.readAll text = .ok [⟨.identifier name, position⟩, ⟨.finish, place⟩])
    (readInner : Token.readAll inner = .ok tokens)
    (arguments : Grammar.Arguments (Token.significant tokens) trees levels)
    (depth : levels < calculator.limits.depth)
    (height : (Expr.call name trees).height ≤ calculator.limits.height) :
    calculator.read (text ++ "(" ++ inner ++ ")") = .ok (.call name trees) := by
  obtain ⟨front, innerPlace, rfl, scansInner, _⟩ := Token.scans_of_readAll readInner
  rw [Token.significant_closed innerPlace scansInner.kind_ne_finish] at arguments
  obtain ⟨numberOpens, nameOpens⟩ :=
    @ends_of_parenthesis '(' (inner.toList ++ [')']) (.inl rfl)
  obtain ⟨numberCloses, nameCloses⟩ := @ends_of_parenthesis ')' [] (.inr rfl)
  have closing : Token.Lexes (inner.toList ++ [')']) _ [] :=
    Token.Lexes.append (scansInner.lexes numberCloses nameCloses)
      (Token.lexes_rightParenthesis [])
  have lexes : Token.Lexes (text.toList ++ '(' :: (inner.toList ++ [')'])) _ [] :=
    Token.Lexes.append ((Token.scans_of_name read).lexes numberOpens nameOpens)
      (Token.Lexes.append (Token.lexes_leftParenthesis _) closing)
  obtain ⟨written, finish, readWritten, kinds⟩ := lexes.readAll_eq
  have whole : text ++ "(" ++ inner ++ ")" =
      String.ofList (text.toList ++ '(' :: (inner.toList ++ [')'])) := by
    apply String.toList_inj.mp
    simp
  have inside : ∀ token ∈ written, token.kind ≠ .finish := by
    intro token member ending
    have among : TokenKind.finish ∈ written.map Token.kind := by
      rw [← ending]
      exact List.mem_map_of_mem member
    rw [kinds] at among
    obtain ⟨other, inFront, kind⟩ : ∃ other ∈ front, other.kind = .finish := by
      simpa using among
    exact scansInner.kind_ne_finish other inFront kind
  have sum : Grammar.Sum (written.map Token.kind) (.call name trees) (levels + 1) := by
    rw [kinds]
    exact .product (.signed (.power (.primary (.call name arguments))))
  rw [← Token.significant_closed finish inside] at sum
  rw [whole]
  exact read_eq_ok_iff.mpr ⟨_, readWritten,
    Expr.ofTokens_of_sum sum depth (Nat.le_trans (Expr.checkedHeight_le _) height)⟩

theorem evaluate_of_read {tree : Expr} (read : calculator.read text = .ok tree) :
    calculator.evaluate text =
      (tree.evaluateTraced calculator.environment (.start false)).1.mapError .eval := by
  rw [evaluate, evaluateTraced, read]
  dsimp only
  split
  · next run => rw [run]; rfl
  · next run => rw [run]; rfl

/-- A constant has an influence on the text exactly if the text is bound under the name that is read
in it. -/
theorem evaluate_withConstant
    (read : Token.readAll text = .ok [⟨.identifier name, position⟩, ⟨.finish, place⟩])
    {value : Float} (finite : value.isFinite = true) (calculator : Calculator) :
    { calculator with
      environment := calculator.environment.withConstant text value }.evaluate text =
        if Environment.key text = name then .ok value else calculator.evaluate text := by
  have found := @Environment.find?_withConstant calculator.environment text name value
  rw [evaluate_of_read (read_name read _), evaluate_of_read (read_name read calculator)]
  by_cases same : Environment.key text = name
  · rw [if_pos same] at found ⊢
    rw [Expr.evaluateTraced, found]
    exact congrArg (Except.mapError CalcError.eval) (if_pos finite)
  · rw [if_neg same] at found ⊢
    simp only [Expr.evaluateTraced, found]

/-- A text that is read as one name stands for what it has been bound to exactly if there are no
blanks in it and no capital sigma ends a word in it; otherwise the binding has no influence on the
text. -/
theorem evaluate_bound_name (calculator : Calculator)
    (read : Token.readAll text = .ok [⟨.identifier name, position⟩, ⟨.finish, place⟩]) :
    (Environment.key text = name ↔
        (∀ character ∈ text.toList, Text.isBlank character = false) ∧
          ¬ Text.HasFinalSigma text.toList) ∧
      (∀ value : Float, value.isFinite = true →
        { calculator with
          environment := calculator.environment.withConstant text value }.evaluate text =
            if Environment.key text = name then .ok value else calculator.evaluate text) ∧
      ∀ (overload : Overload) (inner : String) (tokens : List Token) (trees : List Expr)
        (levels : Nat), Token.readAll inner = .ok tokens →
        Grammar.Arguments (Token.significant tokens) trees levels →
        trees.length = overload.arity → levels < calculator.limits.depth →
        (Expr.call name trees).height ≤ calculator.limits.height →
          let environment := calculator.environment.withOverload text overload
          calculator.read (text ++ "(" ++ inner ++ ")") = .ok (.call name trees) ∧
            (Environment.key text = name →
              { calculator with environment := environment }.evaluate
                  (text ++ "(" ++ inner ++ ")") =
                (overload.called name
                  (Expr.evaluateAll environment (.start false) trees).1).mapError .eval) ∧
            (Environment.key text ≠ name →
              Expr.overload environment name trees.length =
                Expr.overload calculator.environment name trees.length) := by
  refine ⟨Environment.key_eq_iff read,
    fun value finite => evaluate_withConstant read finite calculator, ?_⟩
  intro overload inner tokens trees levels readInner arguments count depth height environment
  have found := @Environment.overload_withOverload calculator.environment text name overload
  rw [← count] at found
  have call : ∀ environment : Environment, { calculator with environment := environment }.read
      (text ++ "(" ++ inner ++ ")") = .ok (.call name trees) :=
    fun environment => read_call read readInner arguments depth height
  refine ⟨call calculator.environment, fun same => ?_, fun other => found.trans (if_neg other)⟩
  rw [evaluate_of_read (call environment),
    Expr.evaluateTraced_call (found.trans (if_pos same))]

/-- The name `Rate` is bound and found. -/
theorem evaluate_bound_name_rate :
    Token.readAll "Rate" = .ok [⟨.identifier "rate", 0⟩, ⟨.finish, 1⟩] ∧
      Environment.key "Rate" = "rate" ∧
      { Calculator.standard with
        environment := Builtin.environment.withConstant "Rate" 1 }.evaluate "Rate" = .ok 1 := by
  have read : Token.readAll "Rate" = .ok [⟨.identifier "rate", 0⟩, ⟨.finish, 1⟩] := by
    decide +kernel
  have same : Environment.key "Rate" = "rate" := by decide +kernel
  have finite : (1 : Float).isFinite = true := by decide +kernel
  have bound := (evaluate_bound_name standard read).2.1 1 finite
  exact ⟨read, same, bound.trans (if_pos same)⟩

/-- The capital sigma at the end of `ΑΣ` is lowered in two ways, so the name is not found. -/
theorem evaluate_bound_name_final_sigma :
    ¬ ∀ (calculator : Calculator) (text name : String) (position place : Nat) (value : Float),
      Token.readAll text = .ok [⟨.identifier name, position⟩, ⟨.finish, place⟩] →
        value.isFinite = true →
          { calculator with
            environment := calculator.environment.withConstant text value }.evaluate text =
              .ok value := by
  intro claim
  have read : Token.readAll "ΑΣ" = .ok [⟨.identifier "ασ", 0⟩, ⟨.finish, 1⟩] := by
    decide +kernel
  have other : Environment.key "ΑΣ" ≠ "ασ" := by decide +kernel
  have finite : (1 : Float).isFinite = true := by decide +kernel
  have found := claim ⟨.empty, 1⟩ "ΑΣ" "ασ" 0 1 1 read finite
  have unbound := evaluate_withConstant read finite ⟨.empty, 1⟩
  rw [if_neg other, evaluate_of_read (read_name read ⟨.empty, 1⟩)] at unbound
  cases found.symm.trans unbound

end Calculator

end Reckoner
