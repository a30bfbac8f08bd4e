import ProviderCoverage.Regex.CharSet
import ProviderCoverage.Regex.Utf8Sequence

/-!
# Terms over bytes

Before an expression becomes an automaton over the bytes of UTF-8 text it is brought into a
simpler form, a term, by rules that keep what it matches:

* a class becomes the set of characters it holds; an empty set never matches, and a set of
  one character is the literal of its bytes, as is a literal whose case is ignored when no
  other character folds like it;
* a sequence drops the parts that only match the empty text, flattens the sequences in it and
  joins neighbouring literals; a sequence of one part is that part and of none the empty term;
* an alternation flattens the alternations in it; branches that are all literals of one
  character, or all classes, become one class; branches that are all sequences with the same
  first parts share them, the rest becoming an alternation after them;
* a repetition of a part that only matches the empty text repeats at most once, zero times is
  the empty term and exactly once the part itself.

Terms also tell the shortest and the longest text in bytes they match, and whether every match
starts at the start of the text or ends at its end.
-/

namespace ProviderCoverage.Regex

/-- An expression over bytes. -/
inductive Term where
  | empty
  /-- The bytes, at least one, matched one after the other. -/
  | literal (bytes : List Nat)
  /-- One character of the set, with the UTF-8 sequences of its ranges when it holds a
  character beyond ASCII. -/
  | cls (set : CharSet) (sequences : List (List (Nat × Nat)))
  /-- An assertion; `atStart` and `atEnd` tell whether it holds only at the start or only at
  the end of the text. -/
  | look (atStart atEnd : Bool)
  | capture (t : Term)
  | concat (parts : List Term)
  | alternation (branches : List Term)
  | repetition (t : Term) (min : Nat) (max : Option Nat) (greedy : Bool)
  deriving Repr, Inhabited

namespace Term

mutual

def same : Term → Term → Bool
  | .empty, .empty => true
  | .literal a, .literal b => a == b
  | .cls s _, .cls t _ => s == t
  | .look a b, .look c d => a == c && b == d
  | .capture s, .capture t => same s t
  | .concat ss, .concat ts => sameAll ss ts
  | .alternation ss, .alternation ts => sameAll ss ts
  | .repetition s a b g, .repetition t c d h => same s t && a == c && b == d && g == h
  | _, _ => false

/-- Whether two lists of terms are the same, term by term. -/
def sameAll : List Term → List Term → Bool
  | [], [] => true
  | s :: ss, t :: ts => same s t && sameAll ss ts
  | _, _ => false

end

/-- The number of bytes of the UTF-8 encoding of code point `n`. -/
def utf8Length (n : Nat) : Nat := (utf8Bytes n).length

/-- The sum of lengths, unknown when one is. -/
def addLengths : List (Option Nat) → Option Nat
  | [] => some 0
  | l :: ls => match l, addLengths ls with
    | some a, some b => some (a + b)
    | _, _ => none

/-- The least of lengths, unknown when one is or when there are none. -/
def leastLength : List (Option Nat) → Option Nat
  | [] => none
  | [l] => l
  | l :: ls => match l, leastLength ls with
    | some a, some b => some (min a b)
    | _, _ => none

/-- The greatest of lengths, unknown when one is or when there are none. -/
def greatestLength : List (Option Nat) → Option Nat
  | [] => none
  | [l] => l
  | l :: ls => match l, greatestLength ls with
    | some a, some b => some (max a b)
    | _, _ => none

mutual

/-- The bytes of the shortest text the term matches; unknown when it matches none. -/
def minLength : Term → Option Nat
  | .empty => some 0
  | .literal bs => some bs.length
  | .cls s _ => s.ranges.head?.map fun r => utf8Length r.1
  | .look _ _ => some 0
  | .capture t => minLength t
  | .concat ts => addLengths (minLengths ts)
  | .alternation ts => leastLength (minLengths ts)
  | .repetition t min _ _ => (minLength t).map (· * min)

def minLengths : List Term → List (Option Nat)
  | [] => []
  | t :: ts => minLength t :: minLengths ts

end

mutual

/-- The bytes of the longest text the term matches; unknown when there is no bound or it
matches none. -/
def maxLength : Term → Option Nat
  | .empty => some 0
  | .literal bs => some bs.length
  | .cls s _ => s.ranges.getLast?.map fun r => utf8Length r.2
  | .look _ _ => some 0
  | .capture t => maxLength t
  | .concat ts => addLengths (maxLengths ts)
  | .alternation ts => greatestLength (maxLengths ts)
  | .repetition t _ max _ =>
    match max with
    | some m => (maxLength t).map (· * m)
    | none => none

def maxLengths : List Term → List (Option Nat)
  | [] => []
  | t :: ts => maxLength t :: maxLengths ts

end

/-- Whether the term only matches the empty text. -/
def onlyEmpty (t : Term) : Bool := t.maxLength == some 0

mutual

/-- Whether every match of the term must start at the start of the text. -/
def startsAnchored : Term → Bool
  | .look atStart _ => atStart
  | .capture t => startsAnchored t
  | .concat ts => leadingAnchored ts
  | .alternation ts => allStartAnchored ts
  | .repetition t min _ _ => min > 0 && startsAnchored t
  | _ => false

/-- Whether the leading parts of a sequence that only match the empty text, and the first part
after them, hold a start anchor. -/
def leadingAnchored : List Term → Bool
  | [] => false
  | t :: ts => startsAnchored t || (onlyEmpty t && leadingAnchored ts)

/-- Whether every branch must start at the start of the text. -/
def allStartAnchored : List Term → Bool
  | [] => true
  | t :: ts => startsAnchored t && allStartAnchored ts

end

mutual

/-- Whether every match of the term must end at the end of the text. -/
def endsAnchored : Term → Bool
  | .look _ atEnd => atEnd
  | .capture t => endsAnchored t
  | .concat ts => trailingAnchored ts
  | .alternation ts => allEndAnchored ts
  | .repetition t min _ _ => min > 0 && endsAnchored t
  | _ => false

/-- Whether the trailing parts of a sequence that only match the empty text, and the last part
before them, hold an end anchor. -/
def trailingAnchored : List Term → Bool
  | [] => false
  | t :: ts => trailingAnchored ts || (ts.all onlyEmpty && endsAnchored t)

def allEndAnchored : List Term → Bool
  | [] => true
  | t :: ts => endsAnchored t && allEndAnchored ts

end

/-- The term of a set of characters: one that never matches when it is empty, the literal of
its one character, or the class with the UTF-8 sequences of its ranges. -/
def ofSet (s : CharSet) : Term :=
  match s.single? with
  | some n => .literal (utf8Bytes n)
  | none =>
    if s.isAscii then .cls s []
    else .cls s (s.ranges.flatMap fun (lo, hi) => utf8Sequences lo hi)

/-- The term that never matches. -/
def fail : Term := .cls .empty []

/-- The parts of a sequence with neighbouring literals joined and empty terms dropped; the
second argument holds the bytes of the literal being joined. -/
def joinParts : List Term → List Nat → List Term
  | [], [] => []
  | [], bs => [.literal bs]
  | .empty :: ts, bs => joinParts ts bs
  | .literal cs :: ts, bs => joinParts ts (bs ++ cs)
  | t :: ts, [] => t :: joinParts ts []
  | t :: ts, bs => .literal bs :: t :: joinParts ts []

def concatOf (parts : List Term) : Term :=
  let flat := parts.flatMap fun t => match t with
    | .concat ts => ts
    | t => [t]
  match joinParts flat [] with
  | [] => .empty
  | [t] => t
  | ts => .concat ts

def singleChar? : Term → Option Nat
  | .literal bs =>
    let n := match bs with
      | [b] => b
      | [b, c] => (b - 0xC0) * 64 + (c - 0x80)
      | [b, c, d] => (b - 0xE0) * 4096 + (c - 0x80) * 64 + (d - 0x80)
      | [b, c, d, e] => (b - 0xF0) * 262144 + (c - 0x80) * 4096 + (d - 0x80) * 64 + (e - 0x80)
      | _ => 0x110000
    if n ≤ maxCode && utf8Bytes n == bs then some n else none
  | _ => none

def classSet? : Term → Option CharSet
  | .cls s _ => some s
  | _ => none

/-- The first parts that all the sequences share, the first sequence's parts being `prefix`. -/
def sharedPrefix (pre : List Term) : List (List Term) → List Term
  | [] => pre
  | ts :: rest =>
    let n := ((pre.zip ts).takeWhile fun (a, b) => a.same b).length
    sharedPrefix (pre.take n) rest

/-- The parts of each branch if every branch is a sequence. -/
def sequences? : List Term → Option (List (List Term))
  | [] => some []
  | .concat ts :: rest => (sequences? rest).map (ts :: ·)
  | _ :: _ => none

/-- The alternation of the branches, each rule applied in turn; `fuel` bounds how deep shared
first parts are taken out, one level of the expression at a time. -/
def alternationOf : Nat → List Term → Term
  | fuel, branches =>
    let flat := branches.flatMap fun t => match t with
      | .alternation ts => ts
      | t => [t]
    match flat with
    | [] => fail
    | [t] => t
    | _ =>
      match flat.mapM singleChar? with
      | some cs => ofSet (.ofRanges (cs.map fun n => (n, n)))
      | none =>
        match flat.mapM classSet? with
        | some sets => ofSet (sets.foldl CharSet.union .empty)
        | none =>
          match fuel, sequences? flat with
          | fuel + 1, some (first :: rest) =>
            match sharedPrefix first rest with
            | [] => .alternation flat
            | pre =>
              let suffixes := (first :: rest).map fun ts => concatOf (ts.drop pre.length)
              concatOf (pre ++ [alternationOf fuel suffixes])
          | _, _ => .alternation flat

def repetitionOf (t : Term) (min : Nat) (max : Option Nat) (greedy : Bool) : Term :=
  let (min, max) :=
    if t.onlyEmpty then (Nat.min min 1, some (match max with | some m => Nat.min m 1 | none => 1))
    else (min, max)
  if min == 0 && max == some 0 then .empty
  else if min == 1 && max == some 1 then t
  else .repetition t min max greedy

end Term

/-- How deep shared first parts of branches are taken out: each level goes one level into the
expression, and no pattern nests as deep. -/
def liftDepth : Nat := 1000

mutual

def Regex.term : Regex → Term
  | .empty => .empty
  | .lit c fold =>
    if fold then Term.ofSet ((ClassItem.range c c).charSet true)
    else .literal (utf8Bytes c.toNat)
  | .cls negated items fold => Term.ofSet ((itemsCharSet fold items).negatedIf negated)
  | .dot newline crlf => Term.ofSet (dotCharSet newline crlf)
  | .lineStart mode => .look (mode == .text) false
  | .lineEnd mode => .look false (mode == .text)
  | .boundary _ _ => .look false false
  | .group r => .capture r.term
  | .cat parts => Term.concatOf (Regex.terms parts)
  | .alt branches => Term.alternationOf liftDepth (Regex.terms branches)
  | .rep r min max greedy => Term.repetitionOf r.term min max greedy

def Regex.terms : List Regex → List Term
  | [] => []
  | r :: rs => r.term :: Regex.terms rs

end

end ProviderCoverage.Regex
