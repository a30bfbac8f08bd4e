/-!
# Go tokens

The tokens of Go source: identifiers, keywords, operators and punctuation, literals, and the
semicolons that end statements, written or implied by a line break. Every token knows where it
stands: its character offsets, and its line and byte column counted from zero.
-/

namespace ProviderCoverage.Go

/-- What a token is. -/
inductive TokKind where
  | ident
  | keyword
  | op
  | int
  | float
  | imaginary
  | rune
  | string
  | rawString
  /-- A semicolon, written or implied by a line break or the end of the text. -/
  | semi
  | eof
  deriving Repr, DecidableEq, Inhabited

/-- A token and its place in the source. -/
structure Token where
  kind : TokKind
  text : String
  /-- Offsets of its first character and of the character after it. -/
  start : Nat
  stop : Nat
  line : Nat
  column : Nat
  deriving Repr, Inhabited

def keywords : List String :=
  ["break", "case", "chan", "const", "continue", "default", "defer", "else", "fallthrough",
    "for", "func", "go", "goto", "if", "import", "interface", "map", "package", "range",
    "return", "select", "struct", "switch", "type", "var"]

/-- The operators and punctuation of Go, longest first. -/
def operators : List String :=
  ["<<=", ">>=", "&^=", "...", "&&", "||", "<-", "++", "--", "==", "!=", "<=", ">=", ":=", "+=",
    "-=", "*=", "/=", "%=", "&=", "|=", "^=", "<<", ">>", "&^", "+", "-", "*", "/", "%", "&",
    "|", "^", "<", ">", "=", "!", "(", ")", "[", "]", "\x7b", "\x7d", ",", ";", ".", ":", "~"]

/-- Whether a line break after the token ends a statement. -/
def Token.endsStatement (t : Token) : Bool :=
  match t.kind with
  | .ident | .int | .float | .imaginary | .rune | .string | .rawString => true
  | .keyword => t.text == "break" || t.text == "continue" || t.text == "fallthrough" ||
    t.text == "return"
  | .op => t.text == "++" || t.text == "--" || t.text == ")" || t.text == "]" ||
    t.text == "\x7d"
  | _ => false

end ProviderCoverage.Go
