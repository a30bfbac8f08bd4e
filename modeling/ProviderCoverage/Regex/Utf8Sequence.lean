/-!
# UTF-8 sequences of a range of characters

The UTF-8 encodings of the characters of a range are the words of a few sequences of byte
ranges: `[80-BF]` after `[C2-DF]` covers all characters written with two bytes. A range is cut
at the surrogates, which are no characters, at the last character of each encoding length, and
where its ends do not fill the continuation bytes below some byte position, until the encodings
of its two ends have the same length and differ only in ranges that run over whole
continuation bytes; the sequence is then the byte ranges between the encodings of the two ends.
The pieces come out in the order of their characters.
-/

namespace ProviderCoverage.Regex

def utf8Bytes (n : Nat) : List Nat :=
  if n < 0x80 then [n]
  else if n < 0x800 then [0xC0 + n / 64, 0x80 + n % 64]
  else if n < 0x10000 then [0xE0 + n / 4096, 0x80 + n / 64 % 64, 0x80 + n % 64]
  else [0xF0 + n / 262144, 0x80 + n / 4096 % 64, 0x80 + n / 64 % 64, 0x80 + n % 64]

/-- The last code point written with `len` bytes. -/
def lastOfLength : Nat → Nat
  | 1 => 0x7F
  | 2 => 0x7FF
  | 3 => 0xFFFF
  | _ => 0x10FFFF

/-- How a range is cut next: into a first part and the rest, or not at all. -/
def cutRange (lo hi : Nat) : Option ((Nat × Nat) × (Nat × Nat)) :=
  if lo < 0xE000 && hi > 0xD7FF then some ((lo, 0xD7FF), (0xE000, hi))
  else
    let atLength := [1, 2, 3].find? fun i => lo ≤ lastOfLength i && lastOfLength i < hi
    match atLength with
    | some i => some ((lo, lastOfLength i), (lastOfLength i + 1, hi))
    | none =>
      if hi ≤ 0x7F then none
      else
        let atUnit := [64, 4096, 262144].findSome? fun unit =>
          if lo / unit == hi / unit then none
          else if lo % unit != 0 then some ((lo, lo - lo % unit + unit - 1), (lo - lo % unit + unit, hi))
          else if hi % unit != unit - 1 then some ((lo, hi - hi % unit - 1), (hi - hi % unit, hi))
          else none
        atUnit

/-- The sequences of the ranges on `stack`, the first on top, in at most `fuel` steps; `acc`
holds those found so far, the last first. -/
def sequencesOf : Nat → List (Nat × Nat) → List (List (Nat × Nat)) → List (List (Nat × Nat))
  | 0, _, acc => acc.reverse
  | _ + 1, [], acc => acc.reverse
  | fuel + 1, (lo, hi) :: stack, acc =>
    if hi < lo then sequencesOf fuel stack acc
    else
      match cutRange lo hi with
      | some (first, rest) => sequencesOf fuel (first :: rest :: stack) acc
      | none => sequencesOf fuel stack ((utf8Bytes lo).zip (utf8Bytes hi) :: acc)

/-- The sequences of byte ranges whose words are the UTF-8 encodings of the characters from
`lo` to `hi`, in the order of their characters. Each step cuts a piece in two or ends it in
a sequence; no range takes more than a few dozen steps, far fewer than the 256 allowed. -/
def utf8Sequences (lo hi : Nat) : List (List (Nat × Nat)) :=
  sequencesOf 256 [(lo, hi)] []

end ProviderCoverage.Regex
