import Reckoner.CommandLine
import Reckoner.Proofs.Calculator.Spacing
import Reckoner.Proofs.Session.Entries
import Reckoner.Proofs.Session.Repetition

/-!
# An expression as argument and at the prompt

The program evaluates its argument as it is.  At the prompt a line is trimmed, compared with the
command words and searched for the keyword.  Behind the keyword every text is an expression, be it a
command word or the keyword once more (`Session.submit_details`), and it is read like the argument,
because it has the same words.  So both ways come to the same value and the same steps, or to the
same error up to its position (`Run.ofArguments_agree`).

What is printed tells the cases apart: no line has an end of its own, so the lines can be told from
their text (`Run.lines_inj`), and the text of a number has no capital `E`, with which every error
starts.

Every text can be given as an argument, with every depth (`CommandLine.ofArguments?_detailed`).
-/

namespace Reckoner

/-! ## Arguments -/

namespace CommandLine

variable {options : CommandLine} {depth : Nat}

/-- An argument that is no option is the expression, if there is none before it. -/
theorem readFrom_expression {argument : String} (plain : isOption argument.toList = false)
    (missing : options.expression = none) (rest : List String) :
    options.readFrom (argument :: rest) =
      { options with expression := some argument }.readFrom rest := by
  have different (option : String) (isOptionEq : isOption option.toList = true) :
      argument ≠ option := by
    rintro rfl
    rw [plain] at isOptionEq
    contradiction
  have noDepth : argument.toList ≠ depthOption := by
    intro same
    rw [same] at plain
    contradiction
  have noPrefix : ¬ (depthOption ++ ['=']).isPrefixOf argument.toList = true := by
    intro start
    obtain ⟨behind, same⟩ := List.isPrefixOf_iff_prefix.mp start
    rw [← same] at plain
    contradiction
  rw [readFrom.eq_def]
  dsimp only
  rw [if_neg (different "--" rfl), if_neg (different "--line" rfl),
    if_neg (different "--details" rfl), if_neg noDepth, if_neg noPrefix,
    if_neg (Bool.eq_false_iff.mp plain), withExpression, missing]
  rfl

/-- Behind two dashes every text is the expression, whatever it looks like. -/
theorem readFrom_marked (missing : options.expression = none) (text : String) :
    options.readFrom ["--", text] = some { options with expression := some text } := by
  rw [readFrom.eq_def]
  dsimp only
  rw [if_pos rfl, readExpressions, withExpression, missing]
  rfl

theorem readFrom_details (missing : options.details = false) (rest : List String) :
    options.readFrom ("--details" :: rest) = { options with details := true }.readFrom rest := by
  rw [readFrom.eq_def]
  dsimp only
  rw [if_neg (by decide), if_neg (by decide), if_pos rfl, withLetter, missing]
  rfl

theorem readDepth_toString (least : depth ≤ greatestDepth) :
    readDepth (toString depth).toList = some depth := by
  have characters : (toString depth).toList = Nat.toDigits 10 depth := Nat.toList_repr
  have inside : ∀ character ∈ Nat.toDigits 10 depth, character.isDigit = true :=
    fun character member => Decimal.isDigit_of_mem_toDigits member
  have nonempty : (Nat.toDigits 10 depth).isEmpty = false :=
    List.isEmpty_eq_false_iff.mpr Nat.toDigits_ne_nil
  rw [characters, readDepth, Decimal.valueOf_toDigits, List.all_eq_true.mpr inside, nonempty,
    decide_eq_true least]
  · rfl
  · intro rest sign
    have digit := inside '+' (sign ▸ List.mem_cons_self)
    contradiction

/-- A depth is given in decimal digits. -/
theorem readFrom_depth (missing : options.depth = none) (least : depth ≤ greatestDepth)
    (rest : List String) :
    options.readFrom ("--max-depth" :: toString depth :: rest) =
      { options with depth := some depth }.readFrom rest := by
  have value : isOption (toString depth).toList = false := by
    have characters : (toString depth).toList = Nat.toDigits 10 depth := Nat.toList_repr
    rw [characters]
    unfold isOption
    split
    · next same =>
        have digit : Char.isDigit '-' = true :=
          Decimal.isDigit_of_mem_toDigits (same ▸ List.mem_cons_self)
        contradiction
    · rfl
  rw [readFrom, if_neg (by decide), if_neg (by decide), if_neg (by decide), if_pos (by decide),
    value, if_neg Bool.false_ne_true, withDepth, missing, readDepth_toString least]
  rfl

/-- Every text can be asked for in detail, with any depth. -/
theorem ofArguments?_detailed (text : String) (least : depth ≤ greatestDepth) :
    ofArguments? ["--details", "--max-depth", toString depth, "--", text] =
      some ⟨some text, false, true, some depth⟩ := by
  rw [ofArguments?, readFrom_details rfl, readFrom_depth rfl least, readFrom_marked rfl]
  rfl

/-- The dashes in front can be left out where the text does not look like an option. -/
theorem ofArguments?_plain {text : String} (plain : isOption text.toList = false)
    (least : depth ≤ greatestDepth) :
    ofArguments? ["--details", "--max-depth", toString depth, text] =
      some ⟨some text, false, true, some depth⟩ := by
  rw [ofArguments?, readFrom_details rfl, readFrom_depth rfl least, readFrom_expression plain rfl]
  rfl

theorem ofArguments?_prompt (least : depth ≤ greatestDepth) :
    ofArguments? ["--max-depth", toString depth] = some ⟨none, false, false, some depth⟩ := by
  rw [ofArguments?, readFrom_depth rfl least]
  rfl

end CommandLine

/-! ## Lines -/

namespace Run

theorem toList_lines (texts : List String) :
    (lines texts).toList = texts.flatMap fun text => text.toList ++ ['\n'] := by
  rw [lines, String.toList_join, List.flatMap_map]
  exact List.flatMap_congr fun text _ => String.toList_append

theorem toList_lines_cons (text : String) (texts : List String) :
    (lines (text :: texts)).toList = text.toList ++ '\n' :: (lines texts).toList := by
  rw [toList_lines, List.flatMap_cons, List.append_assoc, ← toList_lines]
  rfl

/-- The lines can be told from their text. -/
theorem lines_inj {texts others : List String} (free : ∀ text ∈ texts, '\n' ∉ text.toList)
    (othersFree : ∀ text ∈ others, '\n' ∉ text.toList) (same : lines texts = lines others) :
    texts = others := by
  induction texts generalizing others with
  | nil =>
      cases others with
      | nil => rfl
      | cons other others =>
          have characters := congrArg String.toList same
          rw [toList_lines_cons] at characters
          simp [lines] at characters
  | cons text texts induction =>
      cases others with
      | nil =>
          have characters := congrArg String.toList same
          rw [toList_lines_cons] at characters
          simp [lines] at characters
      | cons other others =>
          obtain ⟨textFree, textsFree⟩ := List.forall_mem_cons.mp free
          obtain ⟨otherFree, restFree⟩ := List.forall_mem_cons.mp othersFree
          -- the end of the first line is the first one in the text
          have ends {line : List Char} (lineFree : '\n' ∉ line) (rest : List Char) :
              (line ++ '\n' :: rest).takeWhile (· != '\n') = line ∧
                (line ++ '\n' :: rest).dropWhile (· != '\n') = '\n' :: rest := by
            apply Token.takeWhile_run
            · intro character member
              exact bne_iff_ne.mpr fun same => lineFree (same ▸ member)
            · exact fun character head => by simpa using head.symm
          have characters := congrArg String.toList same
          rw [toList_lines_cons, toList_lines_cons] at characters
          obtain ⟨start, behind⟩ := ends textFree (lines texts).toList
          rw [characters] at start behind
          obtain ⟨otherStart, otherBehind⟩ := ends otherFree (lines others).toList
          have first : text = other := String.toList_inj.mp (start.symm.trans otherStart)
          have rest := (List.cons.inj (behind.symm.trans otherBehind)).2
          rw [first, induction textsFree restFree (String.toList_inj.mp rest)]

theorem splitLines_append {line : List Char} (free : '\n' ∉ line) (current rest : List Char) :
    splitLines current (line ++ rest) = splitLines (line.reverse ++ current) rest := by
  induction line generalizing current with
  | nil => rfl
  | cons character line induction =>
      rw [List.mem_cons, not_or] at free
      rw [List.cons_append, splitLines, induction free.2, List.reverse_cons, List.append_assoc]
      · rfl
      · exact fun same => free.1 same.symm

/-- A carriage return at the end of a line is a blank. -/
theorem trim_withoutReturn (line : List Char) : Text.trim (withoutReturn line) = Text.trim line := by
  unfold withoutReturn
  split
  · next last =>
      have whole := List.dropLast_append_getLast? '\r' last
      rw [← Text.trim_append_blank (by decide : Text.isBlank '\r' = true), whole]
  · rfl

/-- The first line of an input is read up to blanks at its end. -/
theorem exists_inputLines {line tail others : String} (free : '\n' ∉ line.toList)
    (nonempty : line ≠ "") (ends : tail = "" ∧ others = "" ∨ tail = "\n" ++ others) :
    ∃ first, inputLines (line ++ tail) = first :: inputLines others ∧
      Text.trim first.toList = Text.trim line.toList := by
  unfold inputLines
  rw [String.toList_append, splitLines_append free, List.append_nil]
  rcases ends with ⟨rfl, rfl⟩ | rfl
  · refine ⟨line, ?_, rfl⟩
    have filled : line.toList ≠ [] := fun empty => nonempty (String.toList_eq_nil_iff.mp empty)
    rw [String.toList_empty, splitLines, if_neg (by simpa using filled), List.reverse_reverse,
      List.map_singleton, String.ofList_toList]
    rfl
  · refine ⟨String.ofList (withoutReturn line.toList), ?_, ?_⟩
    · rw [String.toList_append]
      change (splitLines line.toList.reverse ('\n' :: others.toList)).map String.ofList = _
      rw [splitLines, List.reverse_reverse, List.map_cons]
    · rw [String.toList_ofList, trim_withoutReturn]

end Run

/-! ## Lines in detail -/

namespace Request

/-- Behind the keyword stands the expression, whatever it is. -/
theorem ofLine_details {expression : List Char} {character : Char} (member : character ∈ expression)
    (solid : Text.isBlank character = false) :
    let line := Text.trim (keyword ++ ' ' :: expression)
    line.isEmpty = false ∧ Command.ofLine? line = none ∧
      (ofLine line).detailed = true ∧
      Text.words (ofLine line).expression = Text.words expression := by
  intro line
  have lineEq : line = keyword ++ [' '] ++ Text.trimEnd expression := by
    have start : Text.trimStart (keyword ++ ' ' :: expression) = keyword ++ ' ' :: expression :=
      Text.trimStart_solid (by decide)
    have front : keyword ++ ' ' :: expression = keyword ++ [' '] ++ expression :=
      (List.append_assoc keyword [' '] expression).symm
    change Text.trimEnd (Text.trimStart (keyword ++ ' ' :: expression)) = _
    rw [start, front, Text.trimEnd_append member solid]
  have asked : ofLine line = ⟨true, Text.trim (Text.trimEnd expression)⟩ := by
    have taken : (keyword ++ [' '] ++ Text.trimEnd expression).take (keyword.length + 1) =
        keyword ++ [' '] := rfl
    rw [lineEq, ofLine, taken]
    exact if_pos (by decide)
  refine ⟨?_, ?_, ?_, ?_⟩
  · rw [lineEq]
    rfl
  · rw [Command.ofLine?_eq_none_iff_isWord, Command.isWord, List.any_eq_false]
    intro entry entryMember same
    have short : Command.words.all (fun entry => Nat.ble entry.1.toList.length 5) = true := by
      decide
    -- the line is longer than every command word
    have length := length_of_keyword same
    rw [lineEq, List.length_append] at length
    have shorter := Nat.le_of_ble_eq_true (List.all_eq_true.mp short entry entryMember)
    have long : (keyword ++ [' ']).length = 8 := rfl
    omega
  · rw [asked]
  · rw [asked, Text.words_trim, Text.words_trimEnd]

end Request

/-- Reading depends on the depth, and not on the environment. -/
theorem Calculator.read_congr {calculator other : Calculator}
    (depth : calculator.depth = other.depth) (text : String) :
    calculator.read text = other.read text := by
  unfold read limits
  rw [depth]

namespace Session

variable {session other : Session} {text input expression : String}

theorem depth_evaluate (session : Session) (request : Request) :
    (session.evaluate request).calculator.depth = session.calculator.depth := by
  cases result : (session.added request).result with
  | ok value =>
      rw [evaluate_of_value result]
      rfl
  | error error => rw [evaluate_of_error result]

/-- The canonical form depends on the words and on the depth. -/
theorem pretty_congr (depth : session.calculator.depth = other.calculator.depth)
    (words : Text.words text.toList = Text.words input.toList) :
    session.pretty text = other.pretty input := by
  have alike := (other.calculator.readsAlike_of_words words).tree
  unfold pretty
  rw [Calculator.read_congr depth]
  rcases mapError_eq_cases alike with
    ⟨error, otherError, failure, otherFailure, _⟩ | ⟨tree, read, otherRead⟩
  · rw [failure, otherFailure]
    exact congrArg (fun words => String.ofList (Text.unwords words)) words
  · rw [read, otherRead]

/-- A line with the keyword in front is evaluated with its steps. -/
theorem submit_details (session : Session) {character : Char}
    (member : character ∈ expression.toList) (solid : Text.isBlank character = false) :
    ∃ request : Request, request.detailed = true ∧
      Text.words request.expression = Text.words expression.toList ∧
      ∀ line : String,
        Text.trim line.toList = Text.trim ("details " ++ expression).toList →
          session.submit line = (.evaluated, session.evaluate request) := by
  obtain ⟨nonempty, noCommand, detailed, words⟩ := Request.ofLine_details member solid
  have characters : ("details " ++ expression).toList =
      Request.keyword ++ ' ' :: expression.toList := by
    rw [String.toList_append]
    rfl
  refine ⟨_, detailed, words, fun line same => ?_⟩
  rw [characters] at same
  rw [← same] at nonempty noCommand
  rw [submit_eq_evaluate nonempty noCommand, same]

end Session

/-! ## What is printed -/

namespace Report

theorem spaced_literal (text : String)
    (plain : text.toList.all (fun character => !Text.isBlank character || character == ' ') = true) :
    Text.Spaced text.toList := by
  intro character member blank
  have inside := List.all_eq_true.mp plain character member
  simpa [blank] using inside

theorem spaced_append {text other : String} (spaced : Text.Spaced text.toList)
    (otherSpaced : Text.Spaced other.toList) : Text.Spaced (text ++ other).toList := by
  rw [String.toList_append]
  exact spaced.append otherSpaced

theorem spaced_stepText (index : Nat) {step : Step} (spaced : Text.Spaced step.operation.toList) :
    Text.Spaced (stepText index step).toList := by
  have digits : (toString (index + 1)).toList = Nat.toDigits 10 (index + 1) := Nat.toList_repr
  have number : Text.Spaced (toString (index + 1)).toList := by
    rw [digits]
    exact .of_solid fun character member =>
      Token.isBlank_of_isDigit (Decimal.isDigit_of_mem_toDigits member)
  have numbered := spaced_append (spaced_append (spaced_literal "Step " (by decide)) number)
    (spaced_literal ": " (by decide))
  exact spaced_append (spaced_append (spaced_append numbered spaced)
    (spaced_literal " = " (by decide))) (Number.spaced_resultText step.result)

theorem spaced_stepTexts {steps : List Step}
    (spaced : ∀ step ∈ steps, Text.Spaced step.operation.toList) :
    ∀ text ∈ stepTexts steps, Text.Spaced text.toList := by
  intro text member
  obtain ⟨index, inside, rfl⟩ := List.mem_mapIdx.mp member
  exact spaced_stepText index (spaced _ (List.getElem_mem inside))

theorem spaced_timeText (nanoseconds : Nat) : Text.Spaced (timeText nanoseconds).toList := by
  refine spaced_append (spaced_append (spaced_literal "Time: " (by decide)) ?_)
    (spaced_literal " ms" (by decide))
  rw [String.toList_ofList]
  exact .of_solid fun character member =>
    Number.isBlank_of_isFigure (Number.isFigure_fixed 6 _ character member)

end Report

namespace Run

/-- The answer to an expression at the prompt: its canonical form with the result, its steps and
its duration. -/
def answerText (expression result : String) (steps : List String) (nanoseconds : Nat) : String :=
  lines (("  " ++ expression ++ " = " ++ result) ::
    (steps.map ("  " ++ ·) ++ ["  " ++ Report.timeText nanoseconds]))

/-- The texts are those of the steps, one for each, in their order: its number, counted from one, what
was computed, and the result. -/
structure Lists (texts : List String) (steps : List Step) : Prop where
  length : texts.length = steps.length
  line : ∀ (index : Nat) (step : Step), steps[index]? = some step →
    texts[index]? = some ("Step " ++ toString (index + 1) ++ ": " ++ step.operation ++ " = " ++
      Number.resultText step.result)

theorem lists_stepTexts (steps : List Step) : Lists (Report.stepTexts steps) steps where
  length := List.length_mapIdx
  line index step found := by
    rw [Report.stepTexts, List.getElem?_mapIdx, found]
    rfl

theorem Lists.eq_stepTexts {texts : List String} {steps : List Step} (lists : Lists texts steps) :
    texts = Report.stepTexts steps := by
  apply List.ext_getElem?
  intro index
  cases found : steps[index]? with
  | some step =>
      rw [lists.line index step found, (lists_stepTexts steps).line index step found]
  | none =>
      have behind := List.getElem?_eq_none_iff.mp found
      rw [List.getElem?_eq_none (lists.length.trans_le behind),
        List.getElem?_eq_none ((lists_stepTexts steps).length.trans_le behind)]

/-- The run with an expression as argument and the answer at the prompt both show what the evaluation
came to: its value and all its steps, each on a line of its own; or its error, which the prompt may
place elsewhere. -/
inductive Agree (evaluation : Except CalcError Float × Trace) (expression : String)
    (nanoseconds : Nat) : Run → String → Prop where
  | value {value : Float} {steps : List String} :
      evaluation.1 = .ok value → Lists steps evaluation.2.steps →
      Text.Spaced expression.toList →
      (∀ step ∈ evaluation.2.steps, Text.Spaced step.operation.toList) →
      Agree evaluation expression nanoseconds
        ⟨0, lines (steps ++ [Number.resultText value]), ""⟩
        (answerText expression (Number.resultText value) steps nanoseconds)
  | error {error other : CalcError} {steps : List String} :
      evaluation.1 = .error error → error.unplaced = other.unplaced →
      Lists steps evaluation.2.steps →
      Agree evaluation expression nanoseconds
        ⟨1, "", lines ["Error: " ++ error.message]⟩
        (answerText expression ("Error: " ++ other.message) steps nanoseconds)

variable {evaluation : Except CalcError Float × Trace} {expression answer : String}
  {nanoseconds : Nat} {run : Run}

/-- The answer with a number is no answer with an error: no number has a capital `E`. -/
theorem answerText_value_ne (value : Float) (message : String) (steps others : List String) :
    answerText expression (Number.resultText value) steps nanoseconds ≠
      answerText expression ("Error: " ++ message) others nanoseconds := by
  intro same
  have characters := congrArg String.toList same
  unfold answerText at characters
  simp only [toList_lines_cons, String.toList_append, List.append_assoc,
    List.append_cancel_left_eq] at characters
  cases text : (Number.resultText value).toList with
  | nil =>
      rw [text] at characters
      exact absurd (List.cons.inj characters).1 (by decide)
  | cons first rest =>
      rw [text] at characters
      have figure := Number.isFigure_resultText value first (by rw [text]; exact List.mem_cons_self)
      rw [(List.cons.inj characters).1] at figure
      contradiction

theorem answerText_inj {result other : String} {steps others : List String}
    (spaced : Text.Spaced expression.toList) (resultFree : '\n' ∉ result.toList)
    (otherFree : '\n' ∉ other.toList) (stepsFree : ∀ text ∈ steps, '\n' ∉ text.toList)
    (othersFree : ∀ text ∈ others, '\n' ∉ text.toList)
    (same : answerText expression result steps nanoseconds =
      answerText expression other others nanoseconds) :
    result = other ∧ steps = others := by
  have front : Text.Spaced ("  " ++ expression ++ " = ").toList :=
    Report.spaced_append (Report.spaced_append (Report.spaced_literal "  " (by decide)) spaced)
      (Report.spaced_literal " = " (by decide))
  have free {result : String} {steps : List String} (resultFree : '\n' ∉ result.toList)
      (stepsFree : ∀ text ∈ steps, '\n' ∉ text.toList) :
      ∀ text ∈ ("  " ++ expression ++ " = " ++ result) ::
        (steps.map ("  " ++ ·) ++ ["  " ++ Report.timeText nanoseconds]), '\n' ∉ text.toList := by
    refine List.forall_mem_cons.mpr ⟨?_, List.forall_mem_append.mpr ⟨?_, ?_⟩⟩
    · rw [String.toList_append, List.mem_append, not_or]
      exact ⟨front.not_mem, resultFree⟩
    · intro text member
      obtain ⟨step, stepMember, rfl⟩ := List.mem_map.mp member
      rw [String.toList_append, List.mem_append, not_or]
      exact ⟨by decide, stepsFree step stepMember⟩
    · refine List.forall_mem_singleton.mpr (Text.Spaced.not_mem ?_)
      exact Report.spaced_append (Report.spaced_literal "  " (by decide))
        (Report.spaced_timeText nanoseconds)
  have lists := lines_inj (free resultFree stepsFree) (free otherFree othersFree) same
  obtain ⟨first, rest⟩ := List.cons.inj lists
  refine ⟨(String.append_right_inj _).mp first, ?_⟩
  have indented := List.append_cancel_right rest
  refine List.map_injective_iff.mpr ?_ indented
  exact fun text other => (String.append_right_inj "  ").mp

theorem Agree.value_iff (agree : Agree evaluation expression nanoseconds run answer)
    (value : Float) {steps : List String} (free : ∀ text ∈ steps, '\n' ∉ text.toList) :
    run = ⟨0, lines (steps ++ [Number.resultText value]), ""⟩ ↔
      answer = answerText expression (Number.resultText value) steps nanoseconds := by
  have numberFree (value : Float) : '\n' ∉ (Number.resultText value).toList :=
    (Number.spaced_resultText value).not_mem
  cases agree with
  | @value own ownSteps _ lists spaced stepsSpaced =>
      have ownFree : ∀ text ∈ ownSteps, '\n' ∉ text.toList := by
        rw [lists.eq_stepTexts]
        exact fun text member => (Report.spaced_stepTexts stepsSpaced text member).not_mem
      have listed {steps : List String} (free : ∀ text ∈ steps, '\n' ∉ text.toList)
          (value : Float) : ∀ text ∈ steps ++ [Number.resultText value], '\n' ∉ text.toList :=
        List.forall_mem_append.mpr ⟨free, List.forall_mem_singleton.mpr (numberFree value)⟩
      constructor
      · intro same
        have printed := lines_inj (listed ownFree own) (listed free value)
          (congrArg Run.output same)
        obtain ⟨stepsEq, results⟩ := List.append_inj' printed
          (List.length_singleton.trans List.length_singleton.symm)
        rw [stepsEq, List.singleton_inj.mp results]
      · intro same
        obtain ⟨result, stepsEq⟩ :=
          answerText_inj spaced (numberFree own) (numberFree value) ownFree free same
        rw [result, stepsEq]
  | error =>
      constructor
      · intro same
        cases congrArg Run.exitCode same
      · intro same
        exact absurd same.symm (answerText_value_ne value _ _ _)

theorem Agree.error_iff (agree : Agree evaluation expression nanoseconds run answer) :
    (∃ message, run = ⟨1, "", lines ["Error: " ++ message]⟩) ↔
      ∃ message steps, answer = answerText expression ("Error: " ++ message) steps nanoseconds := by
  cases agree with
  | @value own =>
      constructor
      · rintro ⟨message, same⟩
        cases congrArg Run.exitCode same
      · rintro ⟨message, steps, same⟩
        exact absurd same (answerText_value_ne own message _ _)
  | error => exact ⟨fun _ => ⟨_, _, rfl⟩, fun _ => ⟨_, rfl⟩⟩

end Run

/-! ## Both ways -/

/-- The tree and the steps of an evaluation that has a value are written on one line each. -/
theorem Calculator.spaced_of_evaluateTraced {calculator : Calculator} {text : String}
    {value : Float} {trace : Trace}
    (success : calculator.evaluateTraced (.start true) text = (.ok value, trace)) :
    ∃ tree, calculator.read text = .ok tree ∧ Text.Spaced tree.text.toList ∧
      ∀ step ∈ trace.steps, Text.Spaced step.operation.toList := by
  unfold evaluateTraced at success
  split at success
  · cases success
  · next tree read =>
      have words := isWord_of_read read
      split at success
      · cases success
      · next evaluated =>
          cases success
          have outcome : tree.outcome calculator.environment = (.ok value, trace.steps) := by
            rw [Expr.outcome, evaluated]
          refine ⟨tree, read, ?_, Expr.spaced_of_outcome words outcome⟩
          rw [Expr.text, String.toList_ofList]
          exact tree.spaced_characters words

namespace Run

variable {calculator : Calculator} {request : Request} {expression : String}

/-- The answer to a line that is evaluated with its steps. -/
theorem response_evaluate (detailed : request.detailed = true)
    (words : Text.words request.expression = Text.words expression.toList) (nanoseconds : Nat) :
    response .evaluated (((Session.start calculator).evaluate request).timeLast nanoseconds) =
      answerText ((Session.start calculator).pretty expression)
        (Report.resultText ((Session.start calculator).added request).result)
        (Report.stepTexts ((Session.start calculator).added request).steps) nanoseconds := by
  have history : ((Session.start calculator).evaluate request).history =
      [] ++ [(Session.start calculator).added request] := Session.evaluate_history
  have timed := Session.timeLast_of_concat history nanoseconds
  have pretty : (((Session.start calculator).evaluate request).timeLast nanoseconds).pretty
      (String.ofList request.expression) = (Session.start calculator).pretty expression := by
    apply Session.pretty_congr
    · rw [timed]
      exact Session.depth_evaluate _ request
    · rw [String.toList_ofList]
      exact words
  have last : response .evaluated
      (((Session.start calculator).evaluate request).timeLast nanoseconds) =
      lines (Report.plainLines (((Session.start calculator).evaluate request).timeLast nanoseconds)
        { (Session.start calculator).added request with nanoseconds := nanoseconds }) := by
    rw [timed]
    rfl
  rw [last]
  unfold Report.plainLines Report.entryText Session.added answerText
  rw [pretty, detailed]
  rfl

/-- The expression as argument and the line in detail agree. -/
theorem agree_of_words (detailed : request.detailed = true)
    (words : Text.words request.expression = Text.words expression.toList) (nanoseconds : Nat) :
    Agree (calculator.evaluateTraced (.start true) expression)
      ((Session.start calculator).pretty expression) nanoseconds
      (once calculator expression true)
      (response .evaluated
        (((Session.start calculator).evaluate request).timeLast nanoseconds)) := by
  have alike : calculator.ReadsAlike expression (String.ofList request.expression) := by
    apply Calculator.readsAlike_of_words
    rw [String.toList_ofList, words]
  have result : ((Session.start calculator).added request).result =
      (calculator.evaluateTraced (.start true) (String.ofList request.expression)).1 := by
    rw [← detailed]
    rfl
  have steps : ((Session.start calculator).added request).steps =
      (calculator.evaluateTraced (.start true) expression).2.steps := by
    rw [alike.steps, ← detailed]
    rfl
  have same := alike.value (.start true)
  rw [response_evaluate detailed words, result, steps, once]
  rcases run : calculator.evaluateTraced (.start true) expression with ⟨outcome, trace⟩
  rw [run] at same
  have lists := lists_stepTexts trace.steps
  rcases mapError_eq_cases same with
    ⟨error, other, failure, otherFailure, same⟩ | ⟨value, success, otherSuccess⟩
  · rw [otherFailure]
    dsimp only at failure ⊢
    rw [failure]
    exact .error rfl same lists
  · rw [otherSuccess]
    dsimp only at success ⊢
    rw [success] at run ⊢
    obtain ⟨tree, read, treeSpaced, stepsSpaced⟩ := Calculator.spaced_of_evaluateTraced run
    have pretty : (Session.start calculator).pretty expression = tree.text :=
      Session.pretty_of_read read
    refine .value rfl lists ?_ stepsSpaced
    rw [pretty]
    exact treeSpaced

/-- Take a text that is not blank and has no end of a line in it, and arguments that ask for its
value in detail, and others, with the same depth, that ask for the prompt.  The prompt takes the line
with the keyword in front of the text as its first, goes on with the next one whatever comes of it,
and the program ends without an error.  However long the evaluation takes, the program with the text
as argument prints some steps and a number exactly if the answer at the prompt is this number behind
the canonical form of the text, with the same steps, indented; and it ends with an error message and
the exit code 1 exactly if an error stands in the answer.  The number is the value of the text and
the steps are those of its evaluation, a line for each of them; and the error is the one of the
evaluation, up to its position in the answer. -/
theorem ofArguments_agree {arguments prompted : List String} {expression : String}
    {line details other : Bool} {depth : Option Nat}
    (onceOptions : CommandLine.ofArguments? arguments = some ⟨some expression, line, true, depth⟩)
    (promptOptions : CommandLine.ofArguments? prompted = some ⟨none, other, details, depth⟩)
    (notBlank : ∃ character ∈ expression.toList, Text.isBlank character = false)
    (free : '\n' ∉ expression.toList) {tail others : String}
    (ends : tail = "" ∧ others = "" ∨ tail = "\n" ++ others) (input : String) :
    let calculator := CommandLine.calculator ⟨none, other, details, depth⟩
    let session := Session.start calculator
    let next := (session.submit ("details " ++ expression)).2
    let answer (nanoseconds : Nat) := response .evaluated (next.timeLast nanoseconds)
    let run := ofArguments arguments input
    ofArguments prompted ("details " ++ expression ++ tail) =
        ⟨0, greeting ++ (prompt ++ answer 0 ++ interact next (inputLines others)), ""⟩ ∧
      ∀ nanoseconds,
        (∀ (value : Float) (steps : List String), (∀ text ∈ steps, '\n' ∉ text.toList) →
          (run = ⟨0, lines (steps ++ [Number.resultText value]), ""⟩ ↔
            answer nanoseconds = answerText (session.pretty expression)
              (Number.resultText value) steps nanoseconds)) ∧
        ((∃ message, run = ⟨1, "", lines ["Error: " ++ message]⟩) ↔
          ∃ message steps, answer nanoseconds = answerText (session.pretty expression)
            ("Error: " ++ message) steps nanoseconds) ∧
        Agree (calculator.evaluateTraced (.start true) expression) (session.pretty expression)
          nanoseconds run (answer nanoseconds) := by
  intro calculator session next answer run
  obtain ⟨character, member, solid⟩ := notBlank
  obtain ⟨request, detailed, words, submits⟩ := session.submit_details member solid
  have submitted := submits ("details " ++ expression) rfl
  have nextEq : next = session.evaluate request := congrArg Prod.snd submitted
  have runEq : run = once calculator expression true := by
    change ofArguments arguments input = _
    rw [ofArguments, onceOptions]
    rfl
  have agree (nanoseconds : Nat) :
      Agree (calculator.evaluateTraced (.start true) expression) (session.pretty expression)
        nanoseconds run (answer nanoseconds) := by
    change Agree _ _ _ _ (response .evaluated (next.timeLast nanoseconds))
    rw [runEq, nextEq]
    exact agree_of_words detailed words nanoseconds
  refine ⟨?_, fun nanoseconds => ⟨?_, (agree nanoseconds).error_iff, agree nanoseconds⟩⟩
  · have lineFree : '\n' ∉ ("details " ++ expression).toList := by
      rw [String.toList_append, List.mem_append, not_or]
      exact ⟨by decide, free⟩
    have nonempty : "details " ++ expression ≠ "" := by
      intro empty
      have characters := congrArg String.toList empty
      rw [String.toList_append] at characters
      cases characters
    obtain ⟨first, lines, trimmed⟩ := exists_inputLines lineFree nonempty ends
    have untimed : next.timeLast 0 = next := by
      rw [nextEq]
      exact Session.timeLast_of_concat Session.evaluate_history 0
    rw [ofArguments, promptOptions]
    change Run.mk 0 (greeting ++ interact session (inputLines _)) "" = _
    rw [lines, interact, submits first trimmed, ← nextEq, ← untimed]
    rfl
  · intro value steps stepsFree
    exact (agree nanoseconds).value_iff value stepsFree

/-- An expression with a step; and behind the keyword a command word is a name that is not known. -/
theorem ofArguments_agree_sum :
    let marked := ["--details", "--max-depth", "7", "--", "1+2"]
    let plain := ["--details", "--max-depth", "7", "quit"]
    let session := Session.start (CommandLine.calculator ⟨none, false, false, some 7⟩)
    let answer (text : String) (nanoseconds : Nat) :=
      response .evaluated ((session.submit ("details " ++ text)).2.timeLast nanoseconds)
    CommandLine.ofArguments? marked = some ⟨some "1+2", false, true, some 7⟩ ∧
      CommandLine.ofArguments? plain = some ⟨some "quit", false, true, some 7⟩ ∧
      CommandLine.ofArguments? ["--max-depth", "7"] = some ⟨none, false, false, some 7⟩ ∧
      ofArguments marked "" = ⟨0, lines ["Step 1: 1 + 2 = 3", "3"], ""⟩ ∧
      (∀ nanoseconds, answer "1+2" nanoseconds =
        lines ["  1 + 2 = 3", "  Step 1: 1 + 2 = 3", "  " ++ Report.timeText nanoseconds]) ∧
      ofArguments plain "" = ⟨1, "", lines ["Error: " ++ "Unknown identifier 'quit'"]⟩ ∧
      ∀ nanoseconds, ∃ message steps, answer "quit" nanoseconds =
        answerText (session.pretty "quit") ("Error: " ++ message) steps nanoseconds := by
  intro marked plain session answer
  have least : 7 ≤ CommandLine.greatestDepth := by decide
  have markedOptions := CommandLine.ofArguments?_detailed "1+2" least
  have plainOptions := CommandLine.ofArguments?_plain
    (by decide : CommandLine.isOption "quit".toList = false) least
  have prompted := CommandLine.ofArguments?_prompt least
  have printed : ofArguments marked "" =
      ⟨0, lines (["Step 1: 1 + 2 = 3"] ++ [Number.resultText 3]), ""⟩ := by
    decide +kernel
  have failed : ofArguments plain "" =
      ⟨1, "", lines ["Error: " ++ "Unknown identifier 'quit'"]⟩ := by
    decide +kernel
  have number : Number.resultText 3 = "3" := by decide +kernel
  have pretty : session.pretty "1+2" = "1 + 2" := by decide +kernel
  have sum := ofArguments_agree markedOptions prompted ⟨'1', by decide, by decide⟩ (by decide)
    (.inl ⟨rfl, rfl⟩) ""
  have name := ofArguments_agree plainOptions prompted ⟨'q', by decide, by decide⟩ (by decide)
    (.inl ⟨rfl, rfl⟩) ""
  refine ⟨markedOptions, plainOptions, prompted, ?_, fun nanoseconds => ?_, failed,
    fun nanoseconds => (name.2 nanoseconds).2.1.mp ⟨_, failed⟩⟩
  · rw [printed, number]
    rfl
  · refine (((sum.2 nanoseconds).1 3 ["Step 1: 1 + 2 = 3"] (by decide)).mp printed).trans ?_
    rw [answerText, number]
    change lines (("  " ++ session.pretty "1+2" ++ _ ++ _) :: _) = _
    rw [pretty]
    rfl

end Run

end Reckoner
