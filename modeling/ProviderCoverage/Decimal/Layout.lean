import ProviderCoverage.Decimal.Shortest

/-!
# Writing a float

How a shortest decimal is laid out as text: where plain positional notation ends and an
exponent starts, whether an integral value keeps a `.0`, which way an exact tie between two
shortest candidates goes, and what stands for a value that is not finite. Three layouts are used: the data layout of JSON answers, the plain
layout of messages, and the compact layout of rendered JSON reports. Fixed places round the
exact value, a tie going to the even neighbour.
-/

namespace ProviderCoverage.Decimal

/-- The choices a float's text is made of. -/
structure Layout where
  /-- Point positions `p` with `lo < p ≤ hi` are written positionally (`none`: always). The point
  position of `d₁d₂…dₙ × 10^e` is `n + e`. -/
  positional : Option (Int × Int)
  /-- An integral value is written with a trailing `.0`. -/
  pointZero : Bool
  /-- Which of two equally near shortest candidates is written. -/
  tie : Tie
  /-- The text of a value that is not a number. -/
  notANumber : String
  /-- The text of positive infinity. -/
  infinity : String
  /-- The text of negative infinity. -/
  negativeInfinity : String

/-- JSON answers: positional from `1e-5` up to sixteen integral digits, `.0` kept, exponents
as `1e-7` and `1.5e300`; a value that is not finite is `null`. -/
def Layout.data : Layout := ⟨some (-5, 16), true, .toEven, "null", "null", "null"⟩

/-- Messages: always positional, no `.0`, ties upwards; `NaN`, `inf` and `-inf`. -/
def Layout.plain : Layout := ⟨none, false, .up, "NaN", "inf", "-inf"⟩

/-- Rendered JSON reports: as the data layout, without the `.0`. -/
def Layout.compact : Layout := ⟨some (-5, 16), false, .toEven, "null", "null", "null"⟩

def zeros (n : Nat) : String := String.ofList (List.replicate n '0')

/-- The digits of `d` written with the point at position `p` (the value is `0.digits × 10^p`),
with no exponent. -/
def positionalText (digits : String) (p : Int) (pointZero : Bool) : String :=
  let n : Int := digits.length
  if p ≤ 0 then "0." ++ zeros (-p).toNat ++ digits
  else if p < n then
    String.ofList (digits.toList.take p.toNat) ++ "." ++ String.ofList (digits.toList.drop p.toNat)
  else digits ++ zeros (p - n).toNat ++ (if pointZero then ".0" else "")

/-- The digits of `d` as mantissa and exponent: `1e-7`, `1.5e300`. -/
def scientificText (digits : String) (p : Int) : String :=
  let mantissa := match digits.toList with
    | [] => "0"
    | [c] => String.singleton c
    | c :: rest => String.singleton c ++ "." ++ String.ofList rest
  mantissa ++ "e" ++ toString (p - 1)

def Layout.writeFinite (l : Layout) (f : Float) : String :=
  let d := ofFloat f l.tie
  let digits := toString d.digits
  let p : Int := digits.length + d.exp
  let sign := if f.toBits >>> 63 == 1 then "-" else ""
  let body := match l.positional with
    | none => positionalText digits p l.pointZero
    | some (lo, hi) =>
      if lo < p && p ≤ hi then positionalText digits p l.pointZero else scientificText digits p
  sign ++ body

def Layout.write (l : Layout) (f : Float) : String :=
  if f.isNaN then l.notANumber
  else if f.isInf then (if f > 0 then l.infinity else l.negativeInfinity)
  else l.writeFinite f

/-- `num / den` rounded to the nearest natural, a tie going to the even one. -/
def roundHalfEven (num den : Nat) : Nat :=
  let q := num / den
  let r := num % den
  if 2 * r > den || (2 * r == den && q % 2 == 1) then q + 1 else q

/-- The exact value of a finite float rounded to `places` decimals, ties to even, written with
exactly `places` digits after the point. -/
def fixed (f : Float) (places : Nat) : String :=
  let x := Binary.ofBits f.toBits
  let exact := x.exact
  let scaled := roundHalfEven (exact.digits * Nat.pow 10 places) (Nat.pow 10 (-exact.exp).toNat)
  let text := toString scaled
  let padded := if text.length ≤ places then zeros (places + 1 - text.length) ++ text else text
  let intPart := String.ofList (padded.toList.take (padded.length - places))
  let fracPart := String.ofList (padded.toList.drop (padded.length - places))
  let sign := if f.toBits >>> 63 == 1 then "-" else ""
  sign ++ intPart ++ (if places == 0 then "" else "." ++ fracPart)

end ProviderCoverage.Decimal
