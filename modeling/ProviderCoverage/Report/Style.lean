/-!
# Terminal styles

Styled text for a terminal: bold, dimmed and coloured spans, which may nest. A span is written
as its opening escape sequence, its text and its closing sequence. Bold and dimmed text close
with the sequence that resets every attribute; a foreground colour closes with the sequence
that restores the default colour only. A span styled twice nests the second style outside the
first, so bold cyan text opens bold, then cyan, and closes the colour before the bold.
-/

namespace ProviderCoverage.Report

/-- A foreground colour. -/
inductive Colour where
  | red
  | green
  | yellow
  | blue
  | cyan
  deriving Repr, DecidableEq

def Colour.code : Colour → Nat
  | .red => 31
  | .green => 32
  | .yellow => 33
  | .blue => 34
  | .cyan => 36

/-- Text with nested styles. -/
inductive Styled where
  | plain (text : String)
  | bold (inner : Styled)
  | dimmed (inner : Styled)
  | colour (c : Colour) (inner : Styled)
  deriving Repr

def sgr (code : Nat) : String := "\x1b[" ++ toString code ++ "m"

def Styled.render : Styled → String
  | .plain text => text
  | .bold inner => sgr 1 ++ inner.render ++ sgr 0
  | .dimmed inner => sgr 2 ++ inner.render ++ sgr 0
  | .colour c inner => sgr c.code ++ inner.render ++ sgr 39

def bold (s : String) : String := (Styled.bold (.plain s)).render

def dimmed (s : String) : String := (Styled.dimmed (.plain s)).render

def coloured (c : Colour) (s : String) : String := (Styled.colour c (.plain s)).render

def boldColoured (c : Colour) (s : String) : String := (Styled.bold (.colour c (.plain s))).render

end ProviderCoverage.Report
