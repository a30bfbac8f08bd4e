/-!
# Sets of code points

A set of code points is a sorted array of disjoint inclusive ranges, searched by halving. The
tables of the Unicode properties are written as lines of text: hexadecimal code points separated
by spaces, a range being two of them joined by `-` (`41-5A 61-7A AA`).
-/

namespace ProviderCoverage.Unicode

/-- Code points as sorted, disjoint, inclusive ranges. -/
structure CodeSet where
  ranges : Array (Nat × Nat)
  deriving Repr, Inhabited

def hexValue (c : Char) : Nat :=
  if c.isDigit then c.toNat - '0'.toNat
  else if 'a' ≤ c && c ≤ 'f' then c.toNat - 'a'.toNat + 10
  else c.toNat - 'A'.toNat + 10

def hexNumber (s : String) : Nat :=
  s.foldl (fun n c => 16 * n + hexValue c) 0

/-- The range a token stands for: `A-B`, or the single code point `A`. -/
def rangeOfToken (token : String) : Nat × Nat :=
  match token.splitOn "-" with
  | [lo, hi] => (hexNumber lo, hexNumber hi)
  | _ => (hexNumber token, hexNumber token)

def CodeSet.ofText (text : String) : CodeSet :=
  ⟨((text.splitOn " ").filterMap fun token =>
    if token.isEmpty then none else some (rangeOfToken token)).toArray⟩

/-- The set a table text describes, given as lines. -/
def CodeSet.ofLines (lines : List String) : CodeSet :=
  .ofText (" ".intercalate lines)

/-- Whether one of the ranges with index in `[lo, hi)` holds `n`: the ranges being sorted, the
middle one tells which half can hold it. -/
def searchRanges (ranges : Array (Nat × Nat)) (n lo hi : Nat) : Bool :=
  if lo < hi then
    let mid := (lo + hi) / 2
    match ranges[mid]? with
    | none => false
    | some (a, b) =>
      if n < a then searchRanges ranges n lo mid
      else if b < n then searchRanges ranges n (mid + 1) hi
      else true
  else false
termination_by hi - lo
decreasing_by all_goals omega

def CodeSet.containsCode (s : CodeSet) (n : Nat) : Bool :=
  searchRanges s.ranges n 0 s.ranges.size

def CodeSet.contains (s : CodeSet) (c : Char) : Bool :=
  s.containsCode c.toNat

end ProviderCoverage.Unicode
