import Reckoner.Report

/-!
# The command line

With an expression as argument the program evaluates it once; without one it reads lines from a
prompt.  Both are functions here: from the arguments and the lines of the input to the text that
is written and the exit code.
-/

namespace Reckoner

structure CommandLine where
  expression : Option String
  line : Bool
  details : Bool
  depth : Option Nat
deriving Repr, DecidableEq

namespace CommandLine

def empty : CommandLine where
  expression := none
  line := false
  details := false
  depth := none

/-- Takes the flag of one letter, unless it was given before. -/
def withLetter (options : CommandLine) : Char → Option CommandLine
  | 'l' => if options.line then none else some { options with line := true }
  | 'd' => if options.details then none else some { options with details := true }
  | _ => none

def withExpression (options : CommandLine) (text : String) : Option CommandLine :=
  if options.expression.isSome then none else some { options with expression := some text }

def greatestDepth : Nat :=
  Nat.pow 2 64 - 1

/-- A number in decimal digits, with at most a plus sign in front. -/
def readDepth (text : List Char) : Option Nat :=
  let digits :=
    match text with
    | '+' :: rest => rest
    | _ => text
  let value := Decimal.valueOf digits
  if !digits.isEmpty && digits.all Char.isDigit && value ≤ greatestDepth then some value
  else none

def withDepth (options : CommandLine) (text : List Char) : Option CommandLine :=
  match options.depth, readDepth text with
  | none, some depth => some { options with depth := some depth }
  | _, _ => none

/-- Whether an argument is an option: it starts with a dash and has more behind it. -/
def isOption : List Char → Bool
  | '-' :: _ :: _ => true
  | _ => false

def depthOption : List Char :=
  ['-', '-', 'm', 'a', 'x', '-', 'd', 'e', 'p', 't', 'h']

def readExpressions (options : CommandLine) : List String → Option CommandLine
  | [] => some options
  | argument :: rest => do (← options.withExpression argument).readExpressions rest

/-- Takes the arguments one by one; nothing if they cannot be understood. -/
def readFrom (options : CommandLine) : List String → Option CommandLine
  | [] => some options
  | argument :: rest =>
    let characters := argument.toList
    if argument = "--" then options.readExpressions rest
    else if argument = "--line" then do (← options.withLetter 'l').readFrom rest
    else if argument = "--details" then do (← options.withLetter 'd').readFrom rest
    else if characters = depthOption then
      match rest with
      | [] => none
      | value :: rest =>
        if isOption value.toList then none
        else do (← options.withDepth value.toList).readFrom rest
    else if (depthOption ++ ['=']).isPrefixOf characters then do
      (← options.withDepth (characters.drop (depthOption.length + 1))).readFrom rest
    else if isOption characters then do
      (← (characters.drop 1).foldlM withLetter options).readFrom rest
    else do (← options.withExpression argument).readFrom rest

def ofArguments? (arguments : List String) : Option CommandLine :=
  empty.readFrom arguments

def calculator (options : CommandLine) : Calculator :=
  { Calculator.standard with depth := options.depth.getD Limits.standard.depth }

end CommandLine

structure Run where
  exitCode : Nat
  output : String
  errors : String
deriving Repr, DecidableEq

namespace Run

/-- Lines, each with its end. -/
def lines (texts : List String) : String :=
  String.join (texts.map (· ++ "\n"))

def once (calculator : Calculator) (text : String) (details : Bool) : Run :=
  let (result, trace) := calculator.evaluateTraced (.start details) text
  match result with
  | .ok value =>
    ⟨0, lines (Report.stepTexts trace.steps ++ [Number.resultText value]), ""⟩
  | .error error => ⟨1, "", lines ["Error: " ++ error.message]⟩

def greeting : String :=
  lines ["Rust Console Calculator ('help' for functions, 'quit' to exit)"]

def prompt : String := "> "

def response (outcome : Outcome) (session : Session) : String :=
  match outcome with
  | .ignored => ""
  | .quit => lines ["Goodbye!"]
  | .cleared => lines ["History cleared"]
  | .help =>
    lines ["Operators: + - * / % ^   Names: " ++ Report.namesText session.environment]
  | .evaluated =>
    match session.history.getLast? with
    | some entry => lines (Report.plainLines session entry)
    | none => ""

def interact (session : Session) : List String → String
  | [] => prompt
  | line :: rest =>
    let (outcome, session) := session.submit line
    let answer := prompt ++ response outcome session
    if outcome = .quit then answer else answer ++ interact session rest

/-- Takes the carriage return off the end of a line. -/
def withoutReturn (line : List Char) : List Char :=
  if line.getLast? = some '\r' then line.dropLast else line

/-- The lines of a text, without their ends; a last line needs no end.  Only a carriage return
in front of a line's end belongs to it. -/
def splitLines : (current : List Char) → List Char → List (List Char)
  | current, [] => if current.isEmpty then [] else [current.reverse]
  | current, '\n' :: rest => withoutReturn current.reverse :: splitLines [] rest
  | current, character :: rest => splitLines (character :: current) rest

def inputLines (text : String) : List String :=
  (splitLines [] text.toList).map String.ofList

/-- The run of the program with the given arguments and input.  Arguments that cannot be
understood end it with exit code 2. -/
def ofArguments (arguments : List String) (input : String) : Run :=
  match CommandLine.ofArguments? arguments with
  | none => ⟨2, "", lines ["error: the arguments cannot be understood"]⟩
  | some options =>
    match options.expression with
    | some text => once options.calculator text options.details
    | none =>
      ⟨0, greeting ++ interact (Session.start options.calculator) (inputLines input), ""⟩

end Run

end Reckoner
