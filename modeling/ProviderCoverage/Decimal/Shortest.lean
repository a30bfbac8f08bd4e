/-!
# Shortest decimals of binary floating-point values

A finite double stands for every real that rounds to it: the interval from halfway to its
lower neighbour to halfway to its upper neighbour, both ends included when the significand is
even. The shortest decimal of a double is a decimal with the fewest significant digits in that
interval; of two such decimals the nearer to the double, and on an exact tie the one a
`Tie` rule names. Everything here is exact arithmetic on naturals.
-/

namespace ProviderCoverage.Decimal

/-- A finite non-negative double, `m * 2 ^ q`. -/
structure Binary where
  m : Nat
  q : Int
  /-- The gap to the value below is half the gap to the value above. -/
  narrowBelow : Bool
  deriving Repr

/-- The magnitude of a finite double, from its bits. -/
def Binary.ofBits (b : UInt64) : Binary :=
  let e := ((b >>> 52) &&& 0x7FF).toNat
  let f := (b &&& 0xFFFFFFFFFFFFF).toNat
  if e == 0 then ⟨f, -1074, false⟩ else ⟨Nat.pow 2 52 + f, (e : Int) - 1075, f == 0 && e > 1⟩

/-- `digits * 10 ^ exp`. -/
structure Dec where
  digits : Nat
  exp : Int
  deriving Repr, DecidableEq

/-- Which of two equally near candidates is taken. -/
inductive Tie where
  | toEven
  | up
  deriving Repr, DecidableEq

/-- Compares `a * 10 ^ i` with `n * 2 ^ j`, exactly. -/
def cmpScaled (a : Nat) (i : Int) (n : Nat) (j : Int) : Ordering :=
  compare (a * Nat.pow 10 i.toNat * Nat.pow 2 (-j).toNat)
    (n * Nat.pow 2 j.toNat * Nat.pow 10 (-i).toNat)

/-- Whether the decimal `d` rounds to the double `x` (to nearest, ties to even). -/
def Binary.readsBack (x : Binary) (d : Dec) : Bool :=
  let lo := if x.narrowBelow then 4 * x.m - 1 else 4 * x.m - 2
  let hi := 4 * x.m + 2
  let incl := x.m % 2 == 0
  let cl := cmpScaled d.digits d.exp lo (x.q - 2)
  let ch := cmpScaled d.digits d.exp hi (x.q - 2)
  (cl == .gt || (incl && cl == .eq)) && (ch == .lt || (incl && ch == .eq))

/-- The least `k ≤ 400` from `k` upwards with `m * 2 ^ q < 10 ^ k`, searched with `fuel` steps. -/
def scaleFrom (m : Nat) (q : Int) : Nat → Int → Int
  | 0, k => k
  | fuel + 1, k => if cmpScaled 1 k m q == .gt then k else scaleFrom m q fuel (k + 1)

/-- The least `k` with `m * 2 ^ q < 10 ^ k`, for `m > 0`. -/
def Binary.scale (x : Binary) : Int :=
  scaleFrom x.m x.q 800 (-400)

def floorOnGrid (m : Nat) (q g : Int) : Nat :=
  (m * Nat.pow 2 q.toNat * Nat.pow 10 (-g).toNat) / (Nat.pow 2 (-q).toNat * Nat.pow 10 g.toNat)

/-- Moves trailing zeros of the digits into the exponent, at most `fuel` of them. -/
def Dec.strip : Nat → Dec → Dec
  | 0, d => d
  | fuel + 1, d =>
    if d.digits != 0 && d.digits % 10 == 0 then Dec.strip fuel ⟨d.digits / 10, d.exp + 1⟩ else d

/-- The candidate on the grid `10 ^ g` nearest to `x` among those that read back: the two
neighbours `lo` and `lo + 1`, the nearer first; on a tie `tie` decides. -/
def Binary.pickOnGrid (x : Binary) (tie : Tie) (g : Int) : Option Dec :=
  let lo := floorOnGrid x.m x.q g
  let below : Dec := ⟨lo, g⟩
  let above : Dec := ⟨lo + 1, g⟩
  let okBelow := x.readsBack below
  let okAbove := x.readsBack above
  if okBelow && okAbove then
    -- compare twice the value with the sum of the two neighbours
    match cmpScaled (2 * lo + 1) g (2 * x.m) x.q with
    | .gt => some below
    | .lt => some above
    | .eq => if tie == .up || lo % 2 == 1 then some above else some below
  else if okBelow then some below
  else if okAbove then some above
  else none

/-- The first of the grids `10 ^ (k - n)`, `n = 1, 2, …` (`fuel` of them), with a candidate. -/
def Binary.searchFrom (x : Binary) (tie : Tie) (k : Int) : Nat → Nat → Option Dec
  | 0, _ => none
  | fuel + 1, n =>
    match x.pickOnGrid tie (k - n) with
    | some d => some d
    | none => x.searchFrom tie k fuel (n + 1)

def Binary.exact (x : Binary) : Dec :=
  if x.q ≥ 0 then ⟨x.m * Nat.pow 2 x.q.toNat, 0⟩ else ⟨x.m * Nat.pow 5 (-x.q).toNat, x.q⟩

/-- The shortest decimal of a positive finite double; the exact value if none of up to
seventeen digits reads back. -/
def Binary.shortest (x : Binary) (tie : Tie) : Dec :=
  ((x.searchFrom tie x.scale 17 1).getD x.exact).strip 400

/-- The shortest decimal of the magnitude of a finite float; zero is `0 * 10 ^ 0`. -/
def ofFloat (f : Float) (tie : Tie) : Dec :=
  let x := Binary.ofBits f.toBits
  if x.m == 0 then ⟨0, 0⟩ else x.shortest tie

end ProviderCoverage.Decimal
