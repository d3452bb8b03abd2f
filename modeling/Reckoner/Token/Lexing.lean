import Reckoner.Text.Blank
import Reckoner.Text.Casing
import Reckoner.Text.Letter
import Reckoner.Token

/-!
# Reading tokens

Outside blanks, a text consists of names (a letter or an underscore, then letters, ASCII digits
and underscores), numbers (digits with at most one point among them), and the single characters
of operators, parentheses and the comma.  Names are lowered character by character, so letter case
never matters in an expression.

`Token.readAll` reads all tokens of a text and closes them with the token for the end of the
input.  That token stands one position behind the last character at which the reader looked for a
new token.
-/

namespace Reckoner

inductive LexError where
  | invalidCharacter (character : Char) (position : Nat)
  /-- A point without digits, or a second point in one number. -/
  | malformedNumber (literal : String) (position : Nat)
deriving Repr, DecidableEq

namespace LexError

def message : LexError → String
  | .invalidCharacter character position =>
    "Unknown character '" ++ character.toString ++ "' at position " ++ toString position
  | .malformedNumber literal position =>
    "Invalid number '" ++ literal ++ "' at position " ++ toString position

end LexError

namespace Token

def startsName (character : Char) : Bool :=
  Text.isLetter character || character == '_'

def continuesName (character : Char) : Bool :=
  Text.isLetter character || character.isDigit || character == '_'

def startsNumber (character : Char) : Bool :=
  character.isDigit || character == '.'

/-- The number at the start of the characters with the count of its characters, or the literal
that is no number. -/
def readNumber (characters : List Char) : Except (List Char) (Float × Nat) :=
  let whole := characters.takeWhile Char.isDigit
  match characters.dropWhile Char.isDigit with
  | '.' :: rest =>
    let fraction := rest.takeWhile Char.isDigit
    match rest.dropWhile Char.isDigit with
    | '.' :: _ => .error (whole ++ '.' :: fraction ++ ['.'])
    | _ =>
      if whole.isEmpty && fraction.isEmpty then .error ['.']
      else
        .ok ((Decimal.ofDigits whole fraction).toFloat false, whole.length + 1 + fraction.length)
  | _ => .ok ((Decimal.ofDigits whole []).toFloat false, whole.length)

def readName (characters : List Char) : String × Nat :=
  let name := characters.takeWhile continuesName
  (String.ofList (Text.lowerCharacters name), name.length)

/-- The token that starts with the given character, which is no blank, with the count of its
characters. -/
def readOne (position : Nat) (character : Char) (rest : List Char) :
    Except LexError (TokenKind × Nat) :=
  if character = '(' then .ok (.leftParenthesis, 1)
  else if character = ')' then .ok (.rightParenthesis, 1)
  else if character = ',' then .ok (.comma, 1)
  else if Operator.isSymbol character then .ok (.operator character, 1)
  else if startsNumber character then
    match readNumber (character :: rest) with
    | .ok (value, count) => .ok (.number value, count)
    | .error literal => .error (.malformedNumber (String.ofList literal) position)
  else if startsName character then
    let (name, count) := readName (character :: rest)
    .ok (.identifier name, count)
  else .error (.invalidCharacter character position)

/-- Reads the tokens of the characters from `position` on, after the first `skip` of them, which
belong to a token already read.  The token for the end of the input goes to `finish` unless
another token or blank is found. -/
def readFrom (skip position finish : Nat) : List Char → Except LexError (List Token)
  | [] => .ok [⟨.finish, finish⟩]
  | character :: rest =>
    match skip with
    | skip + 1 => readFrom skip (position + 1) finish rest
    | 0 =>
      if Text.isBlank character then readFrom 0 (position + 1) (position + 1) rest
      else
        match readOne position character rest with
        | .error error => .error error
        | .ok (kind, count) =>
          match readFrom (count - 1) (position + 1) (position + 1) rest with
          | .error error => .error error
          | .ok tokens => .ok (⟨kind, position⟩ :: tokens)

/-- Skipping characters is reading behind them. -/
theorem readFrom_skip (skip position finish : Nat) (characters : List Char)
    (enough : skip ≤ characters.length) :
    readFrom skip position finish characters =
      readFrom 0 (position + skip) finish (characters.drop skip) := by
  induction skip generalizing position characters with
  | zero => simp
  | succ skip ih =>
    cases characters with
    | nil => simp at enough
    | cons character rest =>
      have restEnough : skip ≤ rest.length := by simpa using enough
      simp only [readFrom, List.drop_succ_cons]
      rw [ih (position + 1) rest restEnough]
      congr 1
      omega

/-- All tokens of the characters, closed by the token for the end of the input. -/
def readAllCharacters (characters : List Char) : Except LexError (List Token) :=
  readFrom 0 0 0 characters

def readAll (text : String) : Except LexError (List Token) :=
  readAllCharacters text.toList

end Token

end Reckoner
