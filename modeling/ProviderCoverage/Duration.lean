import ProviderCoverage.Unicode.Blank
import ProviderCoverage.Text.Quoted
import ProviderCoverage.Decimal.Shortest

/-!
# Durations

A duration is written as in Go: an optional `+`, then terms, each a decimal number
(ASCII digits and a point) followed by a unit `ns`, `us`, `µs`, `μs`, `ms`, `s`, `m` or `h`.
A lone `0` needs no unit, and a lone `+` is no time at all. Blanks around the text are ignored; inside it they belong to a unit
and so make it unknown. The value is the sum of the terms in nanoseconds, accumulated in
double precision, rounded half away from zero and capped at `2^64 - 1`.
-/

namespace ProviderCoverage

/-- Why a text is not a duration. -/
inductive DurationError where
  | empty
  | negative
  /-- No number where a term must start; `rest` is the text from there on. -/
  | expectedNumber (rest : String)
  /-- Digits and points that do not form a number. -/
  | invalidNumber (text : String)
  /-- A number at the end of the text without a unit. -/
  | missingUnit (input : String)
  | unknownUnit (unit input : String)
  deriving Repr, DecidableEq

namespace DurationError

def message : DurationError → String
  | .empty => "empty duration"
  | .negative => "negative durations are not allowed"
  | .expectedNumber rest => "expected a number at " ++ Text.quoted rest
  | .invalidNumber text => "invalid number " ++ Text.quoted text
  | .missingUnit input => "missing unit in duration " ++ Text.quoted input
  | .unknownUnit unit input =>
    "unknown unit " ++ Text.quoted unit ++ " in duration " ++ Text.quoted input

end DurationError

namespace Duration

/-- The largest duration, in nanoseconds. -/
def maxNanos : Nat := Nat.pow 2 64 - 1

def isNumberChar (c : Char) : Bool := c.isDigit || c == '.'

/-- The double nearest to a number written with ASCII digits and at most one point, with at
least one digit. -/
def readNumber (cs : List Char) : Option Float :=
  let (whole, rest) := cs.span Char.isDigit
  match rest with
  | [] => if whole.isEmpty then none else some (ofDigits whole [])
  | '.' :: frac =>
    if frac.all Char.isDigit && !(whole.isEmpty && frac.isEmpty) then some (ofDigits whole frac)
    else none
  | _ => none
where
  ofDigits (whole frac : List Char) : Float :=
    let n := (whole ++ frac).foldl (fun acc c => acc * 10 + (c.toNat - '0'.toNat)) 0
    Float.ofScientific n true frac.length

def unitNanos : String → Option Float
  | "ns" => some 1.0
  | "us" | "µs" | "μs" => some 1e3
  | "ms" => some 1e6
  | "s" => some 1e9
  | "m" => some 60e9
  | "h" => some 3600e9
  | _ => none

/-- A non-negative integral double as a natural, capped at `maxNanos`. -/
def capNanos (f : Float) : Nat :=
  let x := Decimal.Binary.ofBits f.toBits
  if f.toBits >>> 63 == 1 then 0
  else if f.isNaN then 0
  else if f.isInf then maxNanos
  else
    let n := if x.q ≥ 0 then x.m * Nat.pow 2 x.q.toNat else x.m / Nat.pow 2 (-x.q).toNat
    min n maxNanos

/-- Dropping a non-empty run of leading characters shortens a list. -/
theorem length_dropWhile_lt {α : Type} {p : α → Bool} {l : List α} (h : l.takeWhile p ≠ []) :
    (l.dropWhile p).length < l.length := by
  cases l with
  | nil => simp at h
  | cons a t =>
    by_cases ha : p a
    · simp only [List.dropWhile_cons, ha, if_true, List.length_cons]
      exact Nat.lt_succ_of_le ((List.dropWhile_sublist _).length_le)
    · simp [ha] at h

/-- Adds the terms of `cs` to `total`; `input` is the whole text, for messages. No terms at all
leave `total` as it is. -/
def sumTerms (input : String) (cs : List Char) (total : Float) : Except DurationError Float :=
  if cs.isEmpty then .ok total
  else if hnum : cs.takeWhile isNumberChar = [] then .error (.expectedNumber (String.ofList cs))
  else
    let num := cs.takeWhile isNumberChar
    let afterNum := cs.dropWhile isNumberChar
    match readNumber num with
    | none => .error (.invalidNumber (String.ofList num))
    | some value =>
      let unit := afterNum.takeWhile (fun c => !isNumberChar c)
      if unit.isEmpty then .error (.missingUnit input)
      else match unitNanos (String.ofList unit) with
        | none => .error (.unknownUnit (String.ofList unit) input)
        | some perUnit =>
          sumTerms input (afterNum.dropWhile (fun c => !isNumberChar c)) (total + value * perUnit)
termination_by cs.length
decreasing_by
  exact Nat.lt_of_le_of_lt ((List.dropWhile_sublist _).length_le) (length_dropWhile_lt hnum)

def parse (input : String) : Except DurationError Nat :=
  let cs := (input.toList.dropWhile Unicode.isBlank).reverse.dropWhile Unicode.isBlank |>.reverse
  match cs with
  | [] => .error .empty
  | ['0'] => .ok 0
  | '-' :: _ => .error .negative
  | '+' :: rest => (sumTerms input rest 0.0).map (capNanos ·.round)
  | _ => (sumTerms input cs 0.0).map (capNanos ·.round)

end Duration

end ProviderCoverage
