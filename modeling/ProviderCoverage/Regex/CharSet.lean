import ProviderCoverage.Regex.Basic

/-!
# Sets of characters as ranges

A set of characters is written as its ranges of code points: sorted, apart, and not touching.
Two ranges touch when no character lies between them; the surrogate code points are no
characters, so `D7FF` and `E000` touch and a range may run across them. Every class of an
expression is such a set: its ranges, named classes and properties are widened by case folding
where asked, then joined, complemented and combined by the set operations, as `ClassItem.holds`
has them.
-/

namespace ProviderCoverage.Regex

open Unicode

/-- The last code point of a character. -/
def maxCode : Nat := 0x10FFFF

/-- The character after code point `n`, skipping the surrogates. -/
def nextCode (n : Nat) : Nat := if n == 0xD7FF then 0xE000 else n + 1

/-- The character before code point `n`, skipping the surrogates. -/
def prevCode (n : Nat) : Nat := if n == 0xE000 then 0xD7FF else n - 1

/-- A set of characters: ranges of code points, both ends included, sorted, apart and not
touching. -/
structure CharSet where
  ranges : List (Nat × Nat)
  deriving Repr, DecidableEq, Inhabited

namespace CharSet

/-- The empty set. -/
def empty : CharSet := ⟨[]⟩

/-- Ranges sorted by their start, with those that overlap or touch joined; `acc` holds the
joined ranges so far, the last first. -/
def joinSorted : List (Nat × Nat) → List (Nat × Nat) → List (Nat × Nat)
  | [], acc => acc.reverse
  | r :: rs, [] => joinSorted rs [r]
  | (lo, hi) :: rs, (a, b) :: acc =>
    if lo ≤ nextCode b then joinSorted rs ((a, max b hi) :: acc)
    else joinSorted rs ((lo, hi) :: (a, b) :: acc)

def ofRanges (rs : List (Nat × Nat)) : CharSet :=
  ⟨joinSorted ((rs.filter fun r => r.1 ≤ r.2).mergeSort fun a b => a.1 ≤ b.1) []⟩

def union (s t : CharSet) : CharSet := ofRanges (s.ranges ++ t.ranges)

/-- The gaps between sorted ranges from code point `start` on. -/
def gaps : Nat → List (Nat × Nat) → List (Nat × Nat)
  | start, [] => if start ≤ maxCode then [(start, maxCode)] else []
  | start, (lo, hi) :: rs =>
    let rest := gaps (nextCode hi) rs
    if start < lo then (start, prevCode lo) :: rest else rest

/-- The characters not in the set. -/
def complement (s : CharSet) : CharSet := ⟨gaps 0 s.ranges⟩

def inter (s t : CharSet) : CharSet := (s.complement.union t.complement).complement

/-- The characters of `s` not in `t`. -/
def diff (s t : CharSet) : CharSet := s.inter t.complement

def containsCode (s : CharSet) (n : Nat) : Bool := s.ranges.any fun (lo, hi) => lo ≤ n && n ≤ hi

/-- The classes of the members, sorted by code point, that lie in the sorted ranges. -/
def classesWithin : List (Nat × Nat) → List (Nat × Nat) → List Nat
  | [], _ => []
  | _, [] => []
  | (code, i) :: ms, (lo, hi) :: rs =>
    if code < lo then classesWithin ms ((lo, hi) :: rs)
    else if hi < code then classesWithin ((code, i) :: ms) rs
    else i :: classesWithin ms ((lo, hi) :: rs)
termination_by ms rs => ms.length + rs.length

/-- The set widened by simple case folding: with every character, the others of its case
folding class. -/
def caseFolded (s : CharSet) : CharSet :=
  let t := caseFoldTable
  let touched := classesWithin t.members.toList s.ranges
  s.union (ofRanges (touched.flatMap fun i => (t.classes.getD i []).map fun n => (n, n)))

def isAscii (s : CharSet) : Bool := s.ranges.all fun (_, hi) => hi ≤ 0x7F

/-- The only character of the set, if it holds exactly one. -/
def single? (s : CharSet) : Option Nat :=
  match s.ranges with
  | [(lo, hi)] => if lo == hi then some lo else none
  | _ => none

end CharSet

def CodeRun.ranges (r : CodeRun) : List (Nat × Nat) :=
  if r.stride == 1 then [(r.start, r.start + r.count - 1)]
  else (List.range r.count).map fun i => (r.start + i * r.stride, r.start + i * r.stride)

def Named.charSet : Named → CharSet
  | .digit => .ofRanges (digitRuns.flatMap CodeRun.ranges)
  | .word => .ofRanges (wordRuns.flatMap CodeRun.ranges)
  | .space => .ofRanges blankRanges

def SetOp.applySets : SetOp → CharSet → CharSet → CharSet
  | .intersection, s, t => s.inter t
  | .difference, s, t => s.diff t
  | .symmetricDifference, s, t => (s.diff t).union (t.diff s)

/-- The set `s`, complemented when `negated`. -/
def CharSet.negatedIf (negated : Bool) (s : CharSet) : CharSet :=
  if negated then s.complement else s

mutual

/-- The characters a class item holds; with `fold`, ranges and properties are widened by case
folding first. -/
def ClassItem.charSet (fold : Bool) : ClassItem → CharSet
  | .range lo hi =>
    let s := CharSet.ofRanges [(lo.toNat, hi.toNat)]
    if fold then s.caseFolded else s
  | .named n negated => n.charSet.negatedIf negated
  | .codes s =>
    let cs := CharSet.ofRanges s.ranges.toList
    if fold then cs.caseFolded else cs
  | .nested negated items => (itemsCharSet fold items).negatedIf negated
  | .combine op lhs rhs => op.applySets (lhs.charSet fold) (rhs.charSet fold)

def itemsCharSet (fold : Bool) : List ClassItem → CharSet
  | [] => .empty
  | i :: is => (i.charSet fold).union (itemsCharSet fold is)

end

/-- The characters the dot matches: all but the line feed unless `newline`, and but the
carriage return too when `crlf` and not `newline`. -/
def dotCharSet (newline crlf : Bool) : CharSet :=
  if newline then .ofRanges [(0, maxCode)]
  else if crlf then .ofRanges [(0, 0x09), (0x0B, 0x0C), (0x0E, maxCode)]
  else .ofRanges [(0, 0x09), (0x0B, maxCode)]

end ProviderCoverage.Regex
