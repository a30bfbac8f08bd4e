/-!
# Similarity of names

The edit distance of two strings counts the insertions, deletions and substitutions of
characters that turn one into the other. Similarity scales it into `[0, 1]`: one minus the
distance over the longer length, and exactly `1` for equal strings. The best match of a needle
among candidates scores highest at or above a threshold, ties going to the smallest name.
-/

namespace ProviderCoverage.Similarity

/-- One row of the edit-distance table: `prev` is the row for the characters of `a` so far,
`c` the next character of `a`, and `left` the entry to the left of the one being written. -/
def nextRow (c : Char) : List Char → List Nat → Nat → List Nat
  | [], _, _ => []
  | d :: ds, p₀ :: p₁ :: ps, left =>
    let here := min (min (p₁ + 1) (left + 1)) (p₀ + if c == d then 0 else 1)
    here :: nextRow c ds (p₁ :: ps) here
  | _ :: _, _, _ => []

def distanceRow (b : List Char) : List Char → List Nat → Nat → List Nat
  | [], row, _ => row
  | c :: cs, row, i => distanceRow b cs ((i + 1) :: nextRow c b row (i + 1)) (i + 1)

/-- The edit distance of two strings, counted in characters. -/
def editDistance (a b : String) : Nat :=
  let b' := b.toList
  let first := List.range (b'.length + 1)
  ((distanceRow b' a.toList first 0).getLast?).getD 0

/-- `1 - distance / max length`; exactly `1` for equal strings, two empty ones included. -/
def similarity (a b : String) : Float :=
  if a == b then 1.0
  else
    let longest := max a.length b.length
    if longest == 0 then 1.0
    else 1.0 - (editDistance a b).toFloat / longest.toFloat

/-- Keeps the better of the best so far and a new candidate with its score: the higher score,
and of equal scores the smaller name. -/
def better (best : Option (String × Float)) (candidate : String) (score : Float) :
    Option (String × Float) :=
  match best with
  | some (name, bestScore) =>
    if bestScore > score || (bestScore == score && name ≤ candidate) then some (name, bestScore)
    else some (candidate, score)
  | none => some (candidate, score)

/-- The candidate most similar to `needle` among those scoring at least `threshold`. -/
def bestMatch (needle : String) (candidates : List String) (threshold : Float) :
    Option (String × Float) :=
  let step best candidate :=
    let score := similarity needle candidate
    if score < threshold then best else better best candidate score
  candidates.foldl step none

end ProviderCoverage.Similarity
