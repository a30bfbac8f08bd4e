/-!
# Reading decimals

A decimal number is an optional sign, digits with an optional point and fraction (or a point
and a fraction alone), and an optional exponent; `inf`, `infinity` and `nan` in any case are
also numbers. The double read is the one nearest to the decimal's exact value.
-/

namespace ProviderCoverage.Decimal

def natOfDigits (ds : List Char) : Nat :=
  ds.foldl (fun acc c => acc * 10 + (c.toNat - '0'.toNat)) 0

/-- The double nearest to `m * 10 ^ e`. A value of more than 310 decimal places before the
point is beyond every double and one below `10 ^ -330` below half the least, so those two are
infinity and zero without working out the power. -/
def scaled (m : Nat) (e : Int) : Float :=
  let lead : Int := e + (Nat.toDigits 10 m).length
  if m == 0 then 0.0
  else if lead > 310 then 1.0 / 0.0
  else if lead < -330 then 0.0
  else if e ≥ 0 then Float.ofScientific m false e.toNat else Float.ofScientific m true (-e).toNat

/-- The double a decimal text stands for, if it is one. -/
def readFloat? (s : String) : Option Float := do
  let (neg, cs) := match s.toList with
    | '-' :: rest => (true, rest)
    | '+' :: rest => (false, rest)
    | cs => (false, cs)
  let word := String.ofList (cs.map Char.toLower)
  if word == "inf" || word == "infinity" then
    return if neg then -(1.0 / 0.0) else 1.0 / 0.0
  if word == "nan" then return 0.0 / 0.0
  let (whole, rest) := cs.span Char.isDigit
  let (frac, rest) := match rest with
    | '.' :: r => r.span Char.isDigit
    | r => ([], r)
  if whole.isEmpty && frac.isEmpty then none
  let expo : Int ← match rest with
    | [] => some 0
    | e :: r =>
      if e != 'e' && e != 'E' then none
      else
        let (sign, ds) : Int × List Char := match r with
          | '-' :: d => (-1, d)
          | '+' :: d => (1, d)
          | d => (1, d)
        if ds.isEmpty || !ds.all Char.isDigit then none else some (sign * natOfDigits ds)
  let mag := scaled (natOfDigits (whole ++ frac)) (expo - frac.length)
  return if neg then -mag else mag

end ProviderCoverage.Decimal
