import Reckoner.Report
import Reckoner.Terminal.Style

/-!
# The help

The lines of the help screen: operators, functions, constants, the names of the session, commands
and keys.
-/

namespace Reckoner

namespace Help

open Terminal (Line Span Style)

def text (line : String) : Line :=
  [Span.ofText line .plain]

def heading (line : String) : Line :=
  [Span.ofText line (Style.colored .cyan).withLine]

def title : Line :=
  [Span.ofText "exprcalc - Terminal Expression Calculator" (Style.colored .green).inBold]

def expressionLines : List Line :=
  [text "",
   heading "Operators (highest precedence first):",
   text "  ^     : Power, right-associative   (2 ^ 3 ^ 2 = 512)",
   text "  -x    : Negation, applied after ^  (-2 ^ 2 = -4)",
   text "  * / % : Multiply, divide, remainder (10 % 3 = 1)",
   text "  + -   : Add, subtract               (2 + 3 * 4 = 14)",
   text "",
   heading "Functions:",
   text "  sin(x) cos(x) tan(x)   : Trigonometry (x in degrees)",
   text "  asin(x) acos(x) atan(x): Inverse trigonometry (result in degrees)",
   text "  sqrt(x)                : Square root (x >= 0)",
   text "  log(x)                 : Base-10 logarithm",
   text "  log(x, b)              : Logarithm of x in base b",
   text "  ln(x)                  : Natural logarithm",
   text "  exp(x)                 : e raised to x",
   text "  abs(x)                 : Absolute value",
   text "  floor(x) ceil(x) round(x)",
   text "  factorial(n), fact(n)  : n! for integers n >= 0",
   text "",
   heading "Constants:",
   text "  pi  : π (3.14159...)",
   text "  e   : Euler's number (2.71828...)",
   text "  ans : Result of the last successful calculation",
   text ""]

def nameLines (environment : Environment) : List Line :=
  [heading "All names:",
   text ("  " ++ Report.namesText environment),
   text ""]

def actionLines : List Line :=
  [heading "Commands:",
   text "  details <expression> : Show step-by-step evaluation with time",
   text "  clear : Clear calculation history and ans",
   text "  Ctrl+U : Clear current input",
   text "  help : Show this help screen",
   text "  quit : Exit the calculator",
   text "",
   heading "Navigation:",
   text "  ← → : Move cursor left/right",
   text "  Ctrl+←/→ : Move cursor by words",
   text "  Home/End : Move to start/end of line",
   text "  ↑ ↓ : Navigate calculation history",
   text "  PgUp/PgDn : Page through history",
   text "  Mouse wheel : Scroll through history",
   text "  Esc : Clear input, or quit when it is empty",
   text "  Ctrl+C / Ctrl+D : Quit",
   text "",
   heading "Input box:",
   text "  The border turns green with the value Enter would give,",
   text "  or red with the error it would report.",
   text "",
   heading "Examples (Esc, F1 or q closes this screen):",
   text "  sqrt(16) + 2 ^ 3",
   text "  log(8, 2)",
   text "  details factorial(5) / 3",
   text "  ans * 2"]

def lines (environment : Environment) : List Line :=
  title :: expressionLines ++ nameLines environment ++ actionLines

end Help

end Reckoner
