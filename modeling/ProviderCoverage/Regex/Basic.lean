import ProviderCoverage.Unicode.CaseFold
import ProviderCoverage.Unicode.Word
import ProviderCoverage.Unicode.Blank
import ProviderCoverage.Unicode.CodeSet

/-!
# Regular expressions

The expressions a naming pattern is written in: literals, classes of characters, the dot,
anchors at the ends of the text or of lines, word boundaries, concatenation, alternation and
bounded or unbounded repetition. Classes and boundaries use the Unicode classes of word
characters, decimal digits and white space; classes may also hold the code points of a Unicode
property. A case-insensitive literal or class also accepts the characters of the same case
folding class: every range and property of the class is widened to the characters that fold
like one of its members before negations and set operations apply, so `[^k]` ignoring case
refuses `K` and the Kelvin sign as well.
-/

namespace ProviderCoverage.Regex

open Unicode

/-- A named class of characters. -/
inductive Named where
  | digit
  | word
  | space
  deriving Repr, DecidableEq

def Named.holds : Named → Char → Bool
  | .digit, c => isDecimalDigit c
  | .word, c => isWord c
  | .space, c => isBlank c

/-- How the two sides of a set operation in brackets combine. -/
inductive SetOp where
  | intersection
  | difference
  | symmetricDifference
  deriving Repr, DecidableEq

/-- Whether a character belongs to the result of the operation, given whether it belongs to
the left and to the right side. -/
def SetOp.apply : SetOp → Bool → Bool → Bool
  | .intersection, l, r => l && r
  | .difference, l, r => l && !r
  | .symmetricDifference, l, r => l != r

/-- A member of a bracketed class. -/
inductive ClassItem where
  | range (lo hi : Char)
  | named (n : Named) (negated : Bool)
  /-- The code points of a Unicode property. -/
  | codes (s : CodeSet)
  | nested (negated : Bool) (items : List ClassItem)
  | combine (op : SetOp) (lhs rhs : ClassItem)
  deriving Repr

/-- The characters `c` matches when case is ignored: itself and the others of its case folding
class. -/
def foldClass (c : Char) : List Char := c :: caseFoldVariants c

/-- The characters that stand for `c`: those of its case folding class when `fold` is set, else
`c` alone. -/
def standIns (fold : Bool) (c : Char) : List Char := if fold then foldClass c else [c]

mutual

/-- Whether `c` belongs to the class item; with `fold`, ranges and properties hold of the
characters that fold like one of their members. -/
def ClassItem.holds (fold : Bool) : ClassItem → Char → Bool
  | .range lo hi, c => (standIns fold c).any fun x => lo ≤ x && x ≤ hi
  | .named n negated, c => n.holds c != negated
  | .codes s, c => (standIns fold c).any s.contains
  | .nested negated items, c => itemsHold fold items c != negated
  | .combine op lhs rhs, c => op.apply (lhs.holds fold c) (rhs.holds fold c)

def itemsHold (fold : Bool) : List ClassItem → Char → Bool
  | [], _ => false
  | i :: is, c => i.holds fold c || itemsHold fold is c

end

/-- The ASCII letters of `lo`…`hi` in the other case, as ranges. -/
def swappedCase (lo hi : Char) : List ClassItem :=
  let part (first last : Nat) (toOther : Nat → Nat) : List ClassItem :=
    let a := max lo.toNat first
    let b := min hi.toNat last
    if a ≤ b then [.range (Char.ofNat (toOther a)) (Char.ofNat (toOther b))] else []
  part 0x41 0x5A (· + 32) ++ part 0x61 0x7A (· - 32)

mutual

/-- The item widened by ASCII case folding: every range also holds the ASCII letters of the
other case of those in it. Negations and set operations stay where they are, so folding comes
before them. -/
def ClassItem.asciiFolded : ClassItem → ClassItem
  | .range lo hi => .nested false (.range lo hi :: swappedCase lo hi)
  | .named n negated => .named n negated
  | .codes s => .codes s
  | .nested negated items => .nested negated (asciiFoldedAll items)
  | .combine op lhs rhs => .combine op lhs.asciiFolded rhs.asciiFolded

def asciiFoldedAll : List ClassItem → List ClassItem
  | [] => []
  | i :: is => i.asciiFolded :: asciiFoldedAll is

end

/-- Whether `c` is a word character of ASCII: a letter, a digit or `_`. -/
def isAsciiWord (c : Char) : Bool := c.isAlphanum || c == '_'

/-- The places a word-boundary assertion accepts, by whether a word character stands before
and after the place (neither does beyond the ends of the text). -/
inductive Boundary where
  /-- A word character on exactly one side. -/
  | word
  /-- Word characters on both sides or on neither. -/
  | notWord
  /-- A word character after and none before. -/
  | wordStart
  /-- A word character before and none after. -/
  | wordEnd
  /-- No word character before. -/
  | wordStartHalf
  /-- No word character after. -/
  | wordEndHalf
  deriving Repr, DecidableEq

/-- Whether a place with a word character before it (`before`) and after it (`after`) is one
the assertion accepts. -/
def Boundary.holds : Boundary → Bool → Bool → Bool
  | .word, before, after => before != after
  | .notWord, before, after => before == after
  | .wordStart, before, after => !before && after
  | .wordEnd, before, after => before && !after
  | .wordStartHalf, before, _ => !before
  | .wordEndHalf, _, after => !after

/-- Which places between characters count as starts and ends of lines. -/
inductive LineMode where
  /-- Only the start and the end of the text. -/
  | text
  /-- Also the places after and before a line feed. -/
  | lf
  /-- Also the places after and before a carriage return or a line feed, but none between a
  carriage return and the line feed after it. -/
  | crlf
  deriving Repr, DecidableEq

/-- A regular expression. -/
inductive Regex where
  | empty
  /-- A literal character; `fold` lets it match either case. -/
  | lit (c : Char) (fold : Bool)
  | cls (negated : Bool) (items : List ClassItem) (fold : Bool)
  /-- Any character; a line feed only when `newline`, and a carriage return only when `newline`
  or not `crlf`. -/
  | dot (newline crlf : Bool)
  /-- The start of a line, as `mode` has them. -/
  | lineStart (mode : LineMode)
  /-- The end of a line, as `mode` has them. -/
  | lineEnd (mode : LineMode)
  /-- A word-boundary assertion; word characters are those of Unicode when `unicode` is set,
  else those of ASCII. -/
  | boundary (kind : Boundary) (unicode : Bool)
  /-- A capture group: it matches what `r` matches, and the automaton marks where. -/
  | group (r : Regex)
  | cat (parts : List Regex)
  | alt (branches : List Regex)
  /-- `min` to `max` (unbounded when `none`) repetitions. -/
  | rep (r : Regex) (min : Nat) (max : Option Nat) (greedy : Bool)
  deriving Repr, Inhabited

def litMatches (c : Char) (fold : Bool) (x : Char) : Bool :=
  x == c || (fold && (caseFoldVariants c).contains x)

def clsMatches (negated : Bool) (items : List ClassItem) (fold : Bool) (x : Char) : Bool :=
  itemsHold fold items x != negated

end ProviderCoverage.Regex
