/-!
# Styles

The look of characters on a terminal.  A style says only what it changes: laid over another one it
keeps the colours it does not name, and adds its attributes.
-/

namespace Reckoner

namespace Terminal

inductive Color where
  | black
  | red
  | green
  | yellow
  | magenta
  | cyan
  | gray
  | darkGray
  | lightGreen
  | lightBlue
  | lightMagenta
deriving Repr, DecidableEq

/-- Colours and attributes; a colour that is missing is left to what lies below. -/
structure Style where
  foreground : Option Color
  background : Option Color
  bold : Bool
  underlined : Bool
deriving Repr, DecidableEq

namespace Style

def plain : Style where
  foreground := none
  background := none
  bold := false
  underlined := false

def colored (color : Color) : Style :=
  { plain with foreground := some color }

def inBold (style : Style) : Style :=
  { style with bold := true }

def withLine (style : Style) : Style :=
  { style with underlined := true }

def laidOver (style below : Style) : Style where
  foreground := style.foreground <|> below.foreground
  background := style.background <|> below.background
  bold := style.bold || below.bold
  underlined := style.underlined || below.underlined

end Style

structure Span where
  characters : List Char
  style : Style
deriving Repr, DecidableEq

/-- A line of text, in spans from left to right. -/
abbrev Line :=
  List Span

namespace Span

def ofText (text : String) (style : Style) : Span :=
  ⟨text.toList, style⟩

end Span

end Terminal

end Reckoner
