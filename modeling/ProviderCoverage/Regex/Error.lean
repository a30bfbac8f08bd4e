/-!
# Faults of regular expressions

Why a pattern is refused, and how the refusal is shown. A pattern that cannot be read, or whose
parts nest too deeply or ask for what the rules in force forbid, is refused with the kind of
fault and the span of the text at fault: the message shows the pattern with carets under that
span, then the kind; a pattern of several lines is shown with numbered lines between two
rules. A pattern that reads but whose automaton would outgrow the size limit is refused with
that limit.
-/

namespace ProviderCoverage.Regex

/-- What is wrong with a pattern. -/
inductive ErrorKind where
  | classEscapeInvalid
  | classRangeInvalid
  | classRangeLiteral
  | classUnclosed
  | decimalInvalid
  | escapeHexEmpty
  | escapeHexInvalid
  | escapeHexInvalidDigit
  | escapeUnexpectedEof
  | escapeUnrecognized
  | flagDanglingNegation
  | flagDuplicate
  | flagRepeatedNegation
  | flagUnexpectedEof
  | flagUnrecognized
  | groupNameDuplicate
  | groupNameEmpty
  | groupNameInvalid
  | groupNameUnexpectedEof
  | groupUnclosed
  | groupUnopened
  | repetitionCountInvalid
  | repetitionCountDecimalEmpty
  | repetitionCountUnclosed
  | repetitionMissing
  | specialWordBoundaryUnclosed
  | specialWordBoundaryUnrecognized
  | specialWordOrRepetitionUnexpectedEof
  | unicodeClassInvalid
  | unsupportedBackreference
  | unsupportedLookAround
  | unicodePropertyNotFound
  | unicodePropertyValueNotFound
  | invalidUtf8
  | unicodeNotAllowed
  | nestLimitExceeded
  deriving Repr, DecidableEq

def ErrorKind.describe : ErrorKind → String
  | .classEscapeInvalid => "invalid escape sequence found in character class"
  | .classRangeInvalid => "invalid character class range, the start must be <= the end"
  | .classRangeLiteral => "invalid range boundary, must be a literal"
  | .classUnclosed => "unclosed character class"
  | .decimalInvalid => "decimal literal invalid"
  | .escapeHexEmpty => "hexadecimal literal empty"
  | .escapeHexInvalid => "hexadecimal literal is not a Unicode scalar value"
  | .escapeHexInvalidDigit => "invalid hexadecimal digit"
  | .escapeUnexpectedEof => "incomplete escape sequence, reached end of pattern prematurely"
  | .escapeUnrecognized => "unrecognized escape sequence"
  | .flagDanglingNegation => "dangling flag negation operator"
  | .flagDuplicate => "duplicate flag"
  | .flagRepeatedNegation => "flag negation operator repeated"
  | .flagUnexpectedEof => "expected flag but got end of regex"
  | .flagUnrecognized => "unrecognized flag"
  | .groupNameDuplicate => "duplicate capture group name"
  | .groupNameEmpty => "empty capture group name"
  | .groupNameInvalid => "invalid capture group character"
  | .groupNameUnexpectedEof => "unclosed capture group name"
  | .groupUnclosed => "unclosed group"
  | .groupUnopened => "unopened group"
  | .repetitionCountInvalid => "invalid repetition count range, the start must be <= the end"
  | .repetitionCountDecimalEmpty => "repetition quantifier expects a valid decimal"
  | .repetitionCountUnclosed => "unclosed counted repetition"
  | .repetitionMissing => "repetition operator missing expression"
  | .specialWordBoundaryUnclosed =>
    "special word boundary assertion is either unclosed or contains an invalid character"
  | .specialWordBoundaryUnrecognized =>
    "unrecognized special word boundary assertion, valid choices are: start, end, " ++
      "start-half or end-half"
  | .specialWordOrRepetitionUnexpectedEof =>
    "found either the beginning of a special word boundary or a bounded repetition on a " ++
      "\\b with an opening brace, but no closing brace"
  | .unicodeClassInvalid => "invalid Unicode character class"
  | .unsupportedBackreference => "backreferences are not supported"
  | .unsupportedLookAround =>
    "look-around, including look-ahead and look-behind, is not supported"
  | .unicodePropertyNotFound => "Unicode property not found"
  | .unicodePropertyValueNotFound => "Unicode property value not found"
  | .invalidUtf8 => "pattern can match invalid UTF-8"
  | .unicodeNotAllowed => "Unicode not allowed here"
  | .nestLimitExceeded => "exceed the maximum number of nested parentheses/brackets (250)"

/-- A span of a pattern, in characters from zero, end excluded. -/
abbrev Span := Nat × Nat

/-- An error with the span at fault, and for a duplicate the span of the first occurrence. -/
structure Error where
  kind : ErrorKind
  span : Span
  aux : Option Span := none
  deriving Repr

/-- The line of carets under spans given by their columns counted from zero, after `margin`;
an empty span gets one caret. -/
def caretLine (margin : String) (spans : List Span) : String :=
  let sorted := spans.mergeSort (fun a b => a.1 ≤ b.1)
  let step (acc : String × Nat) (s : Span) :=
    let (text, col) := acc
    let width := max 1 (s.2 - s.1)
    (text ++ String.ofList (List.replicate (s.1 - col) ' ') ++
      String.ofList (List.replicate width '^'), s.1 + width)
  margin ++ (sorted.foldl step ("", 0)).1

/-- The line and the column, both counted from one, of the place `offset` characters into
`cs`; the place after a line feed starts the next line. -/
def lineColumn (cs : List Char) (offset : Nat) : Nat × Nat :=
  let before := cs.take offset
  ((before.filter (· == '\n')).length + 1, (before.reverse.takeWhile (· != '\n')).length + 1)

/-- The lines of a text as they are shown: split at line feeds, a carriage return before a
line feed dropped, and no empty line after a final line feed. -/
def shownLines (cs : List Char) : List (List Char) :=
  let pieces := cs.splitOn '\n'
  let init := pieces.dropLast.map fun p => if p.getLast? == some '\r' then p.dropLast else p
  match pieces.getLast? with
  | some [] => init
  | some last => init ++ [last]
  | none => init

def padLeft (width n : Nat) : String :=
  String.ofList (List.replicate (width - (toString n).length) ' ') ++ toString n

/-- The message of an error in a pattern of several lines: the numbered lines between two
rules, carets under the spans that lie within one line, and a note for each span that runs
over several. -/
def Error.renderLines (e : Error) (cs : List Char) : String :=
  let lineCount := (cs.filter (· == '\n')).length + 1
  let width := (toString lineCount).length
  let places := (e.span :: e.aux.toList).map fun s => (lineColumn cs s.1, lineColumn cs s.2)
  let within := places.filter fun (a, b) => a.1 == b.1
  let across := places.filter fun (a, b) => a.1 != b.1
  let shown := (shownLines cs).zipIdx.map fun (line, i) =>
    let here := within.filter fun (a, _) => a.1 == i + 1
    let marks :=
      if here.isEmpty then ""
      else caretLine (String.ofList (List.replicate (2 + width) ' '))
          (here.map fun (a, b) => (a.2 - 1, b.2 - 1)) ++ "\n"
    padLeft width (i + 1) ++ ": " ++ String.ofList line ++ "\n" ++ marks
  let rule := String.ofList (List.replicate 79 '~')
  let notes := across.map fun (a, b) =>
    "on line " ++ toString a.1 ++ " (column " ++ toString a.2 ++ ") through line " ++
      toString b.1 ++ " (column " ++ toString (b.2 - 1) ++ ")\n"
  "regex parse error:\n" ++ rule ++ "\n" ++ String.join shown ++ rule ++ "\n" ++
    String.join notes ++ "error: " ++ e.kind.describe

def Error.render (e : Error) (pattern : String) : String :=
  if pattern.toList.contains '\n' then e.renderLines pattern.toList
  else
    "regex parse error:\n    " ++ pattern ++ "\n" ++ caretLine "    " (e.span :: e.aux.toList) ++
      "\nerror: " ++ e.kind.describe

/-- Why a pattern gives no expression: a fault of its text, or an automaton larger than the
limit, in bytes. -/
inductive Refusal where
  | malformed (e : Error)
  | tooLarge (limit : Nat)
  deriving Repr

def Refusal.render (r : Refusal) (pattern : String) : String :=
  match r with
  | .malformed e => e.render pattern
  | .tooLarge limit => "Compiled regex exceeds size limit of " ++ toString limit ++ " bytes."

end ProviderCoverage.Regex
