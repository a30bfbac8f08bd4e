/-!
# Runs of code points

Tables of character properties are lists of runs: code points that step by a fixed stride.
A property holds of a character when some run of its table holds the character's code point;
a case map adds the run's shift to the code point.
-/

namespace ProviderCoverage.Unicode

/-- The code points `start`, `start + stride`, … (`count` of them). -/
structure CodeRun where
  start : Nat
  count : Nat
  stride : Nat
  deriving Repr

/-- A run of code points together with the offset that a case map adds to each of them. -/
structure ShiftRun where
  start : Nat
  count : Nat
  stride : Nat
  shift : Int
  deriving Repr

def CodeRun.contains (r : CodeRun) (n : Nat) : Bool :=
  r.start ≤ n && (n - r.start) % r.stride == 0 && (n - r.start) / r.stride < r.count

def ShiftRun.contains (r : ShiftRun) (n : Nat) : Bool :=
  r.start ≤ n && (n - r.start) % r.stride == 0 && (n - r.start) / r.stride < r.count

def inRuns (runs : List CodeRun) (c : Char) : Bool :=
  runs.any (·.contains c.toNat)

/-- The image of `c` under the first run that holds it, if any. -/
def shiftBy (runs : List ShiftRun) (c : Char) : Option Char :=
  (runs.find? (·.contains c.toNat)).map fun r => Char.ofNat ((c.toNat : Int) + r.shift).toNat

end ProviderCoverage.Unicode
