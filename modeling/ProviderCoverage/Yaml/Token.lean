/-!
# YAML tokens

The tokens a YAML text is cut into: the stream's and documents' bounds, directives, the starts
and ends of block and flow collections, the indicators of keys, values and entries, anchors,
aliases, tags and scalars. Each token carries the mark where it starts: the number of
characters before it, its line from one and its column from zero.

A text that cannot be read is refused with a message and the mark where the fault was found,
written as `message at byte I line L column C` with the column counted from one.
-/

namespace ProviderCoverage.Yaml

/-- A place in a text: characters before it, its line from one and its column from zero. -/
structure Mark where
  index : Nat := 0
  line : Nat := 1
  column : Nat := 0
  deriving Repr, DecidableEq, Inhabited

/-- Why a text cannot be read, and where. -/
structure Error where
  mark : Mark
  info : String
  deriving Repr, Inhabited

def Error.message (e : Error) : String :=
  e.info ++ " at byte " ++ toString e.mark.index ++ " line " ++ toString e.mark.line ++
    " column " ++ toString (e.mark.column + 1)

/-- How a scalar is written. -/
inductive ScalarStyle where
  | plain
  | singleQuoted
  | doubleQuoted
  | literal
  | folded
  deriving Repr, DecidableEq, Inhabited

/-- What a token is. -/
inductive TokenKind where
  | streamStart
  | streamEnd
  | versionDirective (major minor : Nat)
  | tagDirective (handle pre : String)
  | documentStart
  | documentEnd
  | blockSequenceStart
  | blockMappingStart
  | blockEnd
  | flowSequenceStart
  | flowSequenceEnd
  | flowMappingStart
  | flowMappingEnd
  | blockEntry
  | flowEntry
  | key
  | value
  | alias (name : String)
  | anchor (name : String)
  | tag (handle suffix : String)
  | scalar (style : ScalarStyle) (text : String)
  deriving Repr, Inhabited

/-- A token and the mark where it starts. -/
structure Token where
  mark : Mark
  kind : TokenKind
  deriving Repr, Inhabited

def isBlank (c : Char) : Bool := c == ' ' || c == '\t'

def isBreak (c : Char) : Bool := c == '\n' || c == '\r'

/-- Whether `c` ends the text: the reader sees a zero character at the end, and takes one in the
text for the end too. -/
def isEnd (c : Char) : Bool := c.toNat == 0

def isBreakOrEnd (c : Char) : Bool := isBreak c || isEnd c

/-- Whether `c` is a blank, a line break or the end. -/
def isBlankOrEnd (c : Char) : Bool := isBlank c || isBreakOrEnd c

/-- Whether `c` is one of the flow indicators `,[]{}`. -/
def isFlowIndicator (c : Char) : Bool :=
  c == ',' || c == '[' || c == ']' || c == '\x7b' || c == '\x7d'

def isHexDigit (c : Char) : Bool :=
  c.isDigit || ('a' ≤ c && c ≤ 'f') || ('A' ≤ c && c ≤ 'F')

def hexDigitValue (c : Char) : Nat :=
  if c.isDigit then c.toNat - '0'.toNat
  else if 'a' ≤ c && c ≤ 'f' then c.toNat - 'a'.toNat + 10
  else c.toNat - 'A'.toNat + 10

/-- Whether `c` may stand in a name: a letter or digit of ASCII, `_` or `-`. -/
def isNameChar (c : Char) : Bool :=
  c.isAlphanum || c == '_' || c == '-'

end ProviderCoverage.Yaml
