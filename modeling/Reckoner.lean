import Reckoner.Number.Places
import Reckoner.Number.Whole
import Reckoner.Text.Blank
import Reckoner.Text.Letter
import Reckoner.Text.Casing
import Reckoner.Text.Cluster
import Reckoner.Token.Lexing
import Reckoner.Expr.OfTokens
import Reckoner.Expr.Writing
import Reckoner.Calculator
import Reckoner.Main
import Reckoner.Text.Wrapping
import Reckoner.Text.Offset
import Reckoner.Highlight
import Reckoner.Panel
import Reckoner.Terminal.Widget
import Reckoner.Panel.Frame
import Reckoner.Proofs.Expr.Grammar
import Reckoner.Proofs.Expr.Reading
import Reckoner.Proofs.Expr.Acceptance
import Reckoner.Proofs.Expr.Limits
import Reckoner.Proofs.Expr.Evaluation
import Reckoner.Proofs.Session.Replay
import Reckoner.Proofs.Number.Encoding
import Reckoner.Proofs.Number.ReadBack
import Reckoner.Proofs.Token.Pieces
import Reckoner.Proofs.Expr.Normal
import Reckoner.Proofs.Expr.RoundTrip
import Reckoner.Proofs.Expr.Steps
import Reckoner.Proofs.Session.Preview
import Reckoner.Proofs.Expr.Parentheses
import Reckoner.Proofs.Token.Contents
import Reckoner.Proofs.Expr.Leaves
import Reckoner.Proofs.Calculator
import Reckoner.Proofs.Token.Scanning
import Reckoner.Proofs.Token.Lexemes
import Reckoner.Proofs.Expr.Outlook
import Reckoner.Proofs.Expr.Refusal
import Reckoner.Proofs.Expr.Earliest
import Reckoner.Proofs.Text.Brackets
import Reckoner.Proofs.Calculator.Positions
import Reckoner.Proofs.Text.FinalSigma
import Reckoner.Proofs.Calculator.Names
import Reckoner.Proofs.Panel.Editing
import Reckoner.Proofs.Panel.Runs
import Reckoner.Proofs.Session.Repetition
import Reckoner.Proofs.Panel.Recall
import Reckoner.Proofs.Highlight
import Reckoner.Proofs.Text.Trimming
import Reckoner.Proofs.Text.Words
import Reckoner.Proofs.Token.Spacing
import Reckoner.Proofs.Expr.Places
import Reckoner.Proofs.Calculator.Spacing
import Reckoner.Proofs.Environment
import Reckoner.Proofs.Environment.Calls
import Reckoner.Proofs.Panel.Redrawing
import Reckoner.Proofs.Terminal.Screen
import Reckoner.Proofs.Expr.Characters
import Reckoner.Proofs.Terminal.Widget
import Reckoner.Proofs.Panel.History
import Reckoner.Proofs.Text.Wrapping
import Reckoner.Proofs.Session.Entries
import Reckoner.Proofs.Panel.Sight
import Reckoner.Proofs.CommandLine
import Reckoner.Proofs.Text.Columns
import Reckoner.Proofs.Text.Clusters
import Reckoner.Proofs.Number.Digits
import Reckoner.Proofs.Terminal.Reading
import Reckoner.Proofs.Panel.HelpScroll
import Reckoner.Proofs.Panel.Caret
import Reckoner.Proofs.Panel.Results
import Reckoner.Proofs.Expr.Substitution
import Reckoner.Proofs.Expr.Insertion
import Reckoner.Proofs.Session.Relevance
import Reckoner.Proofs.Session.Answer
import Reckoner.Proofs.Text.Tidy
import Reckoner.Proofs.Session.Canonical
import Reckoner.Proofs.Panel.WordMovement
import Reckoner.Proofs.Text.Bytes
import Reckoner.Proofs.Panel.ByteEditing
import Reckoner.Proofs.Session.Keyword
import Reckoner.Proofs.Number.Multiples
import Reckoner.Proofs.Number.Results
import Reckoner.Proofs.Token.Finish
import Reckoner.Proofs.Expr.Balance
import Reckoner.Proofs.Expr.IndexReader
import Reckoner.Proofs.Expr.Bookkeeping
import Reckoner.Proofs.Number.Order
import Reckoner.Proofs.Builtin.Factorial
