import ProviderCoverage.Json.Value

/-!
# Reading JSON text

A recursive-descent reader for JSON text that reports the first fault it meets, with the line
and the column where it met it. Columns count bytes from the start of the line; a fault found on
looking at the next character is placed at that character (its first byte counted), a fault found
after reading to the end of the text at its end.

Numbers are read into a significand of at most 64 bits and a power of ten. A number without
fraction or exponent whose significand fits is an integer (a negative one down to `-2^63`); all
others are floats. Digits of the integral part beyond what fits raise the exponent, digits of the
fraction beyond what fits are dropped, and the float is the significand's nearest double
multiplied or divided by the double nearest the power of ten, so that the last digit of a long
number can differ from the nearest double. A float too large for a double is refused rather than
made infinite; `-0` is the float negative zero.

Nesting is limited to 127 levels. Of two members with one key, the later value stands in the
place of the earlier.
-/

namespace ProviderCoverage.Json

/-- Why a JSON text cannot be read. -/
inductive ReadFault where
  | endInList
  | endInObject
  | endInString
  | endInValue
  | expectedColon
  | expectedListCommaOrEnd
  | expectedObjectCommaOrEnd
  | expectedIdent
  | expectedValue
  | invalidEscape
  | invalidNumber
  | numberOutOfRange
  | controlCharacter
  | keyMustBeString
  | loneLeadingSurrogate
  | trailingComma
  | trailingCharacters
  | unexpectedEndOfHexEscape
  | recursionLimit
  deriving Repr, DecidableEq

def ReadFault.text : ReadFault → String
  | .endInList => "EOF while parsing a list"
  | .endInObject => "EOF while parsing an object"
  | .endInString => "EOF while parsing a string"
  | .endInValue => "EOF while parsing a value"
  | .expectedColon => "expected `:`"
  | .expectedListCommaOrEnd => "expected `,` or `]`"
  | .expectedObjectCommaOrEnd => "expected `,` or `\x7d`"
  | .expectedIdent => "expected ident"
  | .expectedValue => "expected value"
  | .invalidEscape => "invalid escape"
  | .invalidNumber => "invalid number"
  | .numberOutOfRange => "number out of range"
  | .controlCharacter => "control character (\\u0000-\\u001F) found while parsing a string"
  | .keyMustBeString => "key must be a string"
  | .loneLeadingSurrogate => "lone leading surrogate in hex escape"
  | .trailingComma => "trailing comma"
  | .trailingCharacters => "trailing characters"
  | .unexpectedEndOfHexEscape => "unexpected end of hex escape"
  | .recursionLimit => "recursion limit exceeded"

/-- A place in a text: its line, from 1, and the bytes before it on that line. -/
structure Place where
  line : Nat := 1
  column : Nat := 0
  deriving Repr, DecidableEq

/-- A fault and where it was met. -/
structure ReadError where
  fault : ReadFault
  place : Place
  deriving Repr

def ReadError.message (e : ReadError) : String :=
  e.fault.text ++ " at line " ++ toString e.place.line ++ " column " ++ toString e.place.column

/-- The place after `n` more bytes of a character `c` on from `p`. -/
def Place.advance (p : Place) (c : Char) (n : Nat) : Place :=
  if c == '\n' then { line := p.line + 1, column := 0 } else { p with column := p.column + n }

/-- The text still to read and the place where it starts. -/
structure Cursor where
  rest : List Char
  place : Place := {}

namespace Cursor

/-- The cursor after its first character. -/
def bump (c : Cursor) : Cursor :=
  match c.rest with
  | x :: xs => { rest := xs, place := c.place.advance x x.utf8Size }
  | [] => c

/-- The place of a fault met on looking at the next character: that character, or the end. -/
def atNext (c : Cursor) : Place :=
  match c.rest with
  | x :: _ => c.place.advance x 1
  | [] => c.place

def failNext {α : Type} (c : Cursor) (f : ReadFault) : Except ReadError α :=
  .error ⟨f, c.atNext⟩

/-- A fault met after what has been read. -/
def failHere {α : Type} (c : Cursor) (f : ReadFault) : Except ReadError α :=
  .error ⟨f, c.place⟩

/-- The cursor after blanks: spaces, tabs, line feeds and carriage returns. -/
def skipWs (c : Cursor) : Cursor :=
  let blank (x : Char) := x == ' ' || x == '\n' || x == '\r' || x == '\t'
  let skipped := c.rest.takeWhile blank
  { rest := c.rest.dropWhile blank,
    place := skipped.foldl (fun p x => p.advance x 1) c.place }

def placeAfterBytes (c : Cursor) (n : Nat) : Place :=
  (c.rest.foldl (fun (acc : Place × Nat) x =>
    if acc.2 == 0 then acc
    else
      let k := min x.utf8Size acc.2
      (acc.1.advance x k, acc.2 - k)) (c.place, n)).1

/-- The cursor after decimal digits. -/
def skipDigits (c : Cursor) : Cursor :=
  let n := (c.rest.takeWhile Char.isDigit).length
  { rest := c.rest.drop n, place := { c.place with column := c.place.column + n } }

def endPlace (c : Cursor) : Place :=
  c.rest.foldl (fun p x => p.advance x x.utf8Size) c.place

end Cursor

def hexDigit? (c : Char) : Option Nat :=
  if c.isDigit then some (c.toNat - '0'.toNat)
  else if 'a' ≤ c && c ≤ 'f' then some (c.toNat - 'a'.toNat + 10)
  else if 'A' ≤ c && c ≤ 'F' then some (c.toNat - 'A'.toNat + 10)
  else none

/-- The four hexadecimal digits of a `\u` escape. Four bytes are taken whatever they are; a
text ending before them ends the string early. -/
def Cursor.hexQuad (c : Cursor) : Except ReadError (Nat × Cursor) :=
  if c.rest.foldl (fun n ch => n + ch.utf8Size) 0 < 4 then .error ⟨.endInString, c.endPlace⟩
  else
    match c.rest with
    | a :: b :: d :: e :: rest =>
      match [a, b, d, e].foldlM (fun acc x => (hexDigit? x).map (16 * acc + ·)) 0 with
      | some v => .ok (v, { rest := rest, place := { c.place with column := c.place.column + 4 } })
      | none => .error ⟨.invalidEscape, c.placeAfterBytes 4⟩
    | _ => .error ⟨.invalidEscape, c.placeAfterBytes 4⟩

/-- The character of a `\u` escape after the `u`: a code point outside the surrogates, or a
leading surrogate followed by `\u` and a trailing one. -/
def Cursor.unicodeEscape (c : Cursor) : Except ReadError (Char × Cursor) := do
  let (n, c) ← c.hexQuad
  if 0xDC00 ≤ n && n ≤ 0xDFFF then c.failHere .loneLeadingSurrogate
  else if n < 0xD800 || n > 0xDBFF then pure (Char.ofNat n, c)
  else
    let c ← match c.rest with
      | '\\' :: _ => pure c.bump
      | [] => c.failHere .endInString
      | _ => c.bump.failHere .unexpectedEndOfHexEscape
    let c ← match c.rest with
      | 'u' :: _ => pure c.bump
      | [] => c.failHere .endInString
      | _ => c.bump.failHere .unexpectedEndOfHexEscape
    let (m, c) ← c.hexQuad
    if m < 0xDC00 || m > 0xDFFF then c.failHere .loneLeadingSurrogate
    else pure (Char.ofNat (0x10000 + (n - 0xD800) * 0x400 + (m - 0xDC00)), c)

/-- The rest of a string after its opening quote, the characters read so far being `acc`
(reversed), in at most `fuel` steps. -/
def Cursor.stringBody : Nat → Cursor → List Char → Except ReadError (String × Cursor)
  | 0, c, _ => c.failHere .endInString
  | fuel + 1, c, acc =>
    match c.rest with
    | [] => c.failHere .endInString
    | '"' :: _ => .ok (String.ofList acc.reverse, c.bump)
    | '\\' :: _ =>
      let c := c.bump
      let simple (x : Char) := Cursor.stringBody fuel c.bump (x :: acc)
      match c.rest with
      | [] => c.failHere .endInString
      | '"' :: _ => simple '"'
      | '\\' :: _ => simple '\\'
      | '/' :: _ => simple '/'
      | 'b' :: _ => simple (Char.ofNat 8)
      | 'f' :: _ => simple (Char.ofNat 12)
      | 'n' :: _ => simple '\n'
      | 'r' :: _ => simple '\r'
      | 't' :: _ => simple '\t'
      | 'u' :: _ =>
        match c.bump.unicodeEscape with
        | .ok (x, c) => Cursor.stringBody fuel c (x :: acc)
        | .error e => .error e
      | _ => c.failNext .invalidEscape
    | x :: _ =>
      if x.toNat < 0x20 then c.failNext .controlCharacter
      else Cursor.stringBody fuel c.bump (x :: acc)

/-- The rest of a string after its opening quote. -/
def Cursor.string (c : Cursor) : Except ReadError (String × Cursor) :=
  Cursor.stringBody (c.rest.length + 1) c []

def maxSignificand : Nat := 18446744073709551615

def maxExponent : Nat := 2147483647

def exceeds (acc d limit : Nat) : Bool :=
  acc ≥ limit / 10 && (acc > limit / 10 || d > limit % 10)

def digitOf (c : Char) : Nat := c.toNat - '0'.toNat

def powerOfTen (k : Nat) : Float := Float.ofScientific 1 false k

/-- The float of a significand and a power of ten: the significand's double multiplied or
divided by the power's double, powers below `10^-308` taken in steps of `10^308` until the value
is zero; `none` when it is too large. At most `fuel` steps. -/
def scaleByTen : Nat → Float → Int → Option Float
  | 0, f, _ => some f
  | fuel + 1, f, e =>
    if e.natAbs ≤ 308 then
      if e ≥ 0 then
        let g := f * powerOfTen e.natAbs
        if g.isInf then none else some g
      else some (f / powerOfTen e.natAbs)
    else if f == 0 then some f
    else if e ≥ 0 then none
    else scaleByTen fuel (f / powerOfTen 308) (e + 308)

/-- The float `±significand × 10^e`, refused with the fault at `c` when too large. -/
def floatOfParts (c : Cursor) (positive : Bool) (significand : Nat) (e : Int) :
    Except ReadError (Value × Cursor) :=
  match scaleByTen (e.natAbs / 308 + 2) (Float.ofNat significand) e with
  | some f => .ok (.float (if positive then f else -f), c)
  | none => c.failHere .numberOutOfRange

/-- An exponent limited to the range of a 32-bit signed integer. -/
def saturate (e : Int) : Int := max (-2147483648) (min 2147483647 e)

/-- The digits of an exponent after its first one, its value so far being `acc`. -/
def Cursor.exponentDigits (positive positiveExp : Bool) (significand : Nat) (start : Int) :
    Nat → Cursor → Nat → Except ReadError (Value × Cursor)
  | 0, c, _ => c.failHere .invalidNumber
  | fuel + 1, c, acc =>
    match c.rest with
    | x :: _ =>
      if x.isDigit then
        let c := c.bump
        if exceeds acc (digitOf x) maxExponent then
          if significand != 0 && positiveExp then c.failHere .numberOutOfRange
          else
            .ok (.float (if positive then 0.0 else -0.0), c.skipDigits)
        else Cursor.exponentDigits positive positiveExp significand start fuel c
          (10 * acc + digitOf x)
      else
        floatOfParts c positive significand (saturate (if positiveExp then start + acc else start - acc))
    | [] => floatOfParts c positive significand (saturate (if positiveExp then start + acc else start - acc))

/-- An exponent, from its `e`, of the significand and the power of ten `start`. -/
def Cursor.exponent (c : Cursor) (positive : Bool) (significand : Nat) (start : Int) :
    Except ReadError (Value × Cursor) :=
  let c := c.bump
  let (positiveExp, c) := match c.rest with
    | '+' :: _ => (true, c.bump)
    | '-' :: _ => (false, c.bump)
    | _ => (true, c)
  match c.rest with
  | [] => c.failHere .endInValue
  | x :: _ =>
    if x.isDigit then
      c.bump.exponentDigits positive positiveExp significand start (c.rest.length + 1) (digitOf x)
    else c.failNext .invalidNumber

/-- What follows the digits of a fraction: an exponent or the end of the number. -/
def Cursor.afterFraction (c : Cursor) (positive : Bool) (significand : Nat) (e : Int) :
    Except ReadError (Value × Cursor) :=
  match c.rest with
  | x :: _ => if x == 'e' || x == 'E' then c.exponent positive significand e
    else floatOfParts c positive significand e
  | [] => floatOfParts c positive significand e

/-- The digits of a fraction, the significand so far being `significand` and the power of ten
`e`; `read` tells whether a digit has been read. -/
def Cursor.fractionDigits (positive : Bool) :
    Nat → Cursor → Nat → Int → Bool → Except ReadError (Value × Cursor)
  | 0, c, _, _, _ => c.failHere .invalidNumber
  | fuel + 1, c, significand, e, read =>
    match c.rest with
    | x :: _ =>
      if x.isDigit then
        if exceeds significand (digitOf x) maxSignificand then
          c.skipDigits.afterFraction positive significand e
        else Cursor.fractionDigits positive fuel c.bump (10 * significand + digitOf x) (e - 1) true
      else if read then c.afterFraction positive significand e
      else c.failNext .invalidNumber
    | [] => if read then c.afterFraction positive significand e else c.failHere .endInValue

/-- What follows the integral digits of a number: a fraction, an exponent, or its end. -/
def Cursor.afterIntegral (c : Cursor) (positive : Bool) (significand : Nat) (e : Int)
    (integral : Bool) : Except ReadError (Value × Cursor) :=
  match c.rest with
  | '.' :: _ => c.bump.fractionDigits positive (c.rest.length + 1) significand e false
  | x :: _ =>
    if x == 'e' || x == 'E' then c.exponent positive significand e
    else if !integral then floatOfParts c positive significand e
    else if positive then .ok (.int significand, c)
    else if significand == 0 || significand > 9223372036854775808 then
      .ok (.float (-(Float.ofNat significand)), c)
    else .ok (.int (-(significand : Int)), c)
  | [] =>
    if !integral then floatOfParts c positive significand e
    else if positive then .ok (.int significand, c)
    else if significand == 0 || significand > 9223372036854775808 then
      .ok (.float (-(Float.ofNat significand)), c)
    else .ok (.int (-(significand : Int)), c)

/-- The integral digits of a number after its first, the significand so far being
`significand`: once it would exceed 64 bits, further digits only raise the power of ten. -/
def Cursor.integralDigits (positive : Bool) : Nat → Cursor → Nat → Except ReadError (Value × Cursor)
  | 0, c, _ => c.failHere .invalidNumber
  | fuel + 1, c, significand =>
    match c.rest with
    | x :: _ =>
      if x.isDigit then
        if exceeds significand (digitOf x) maxSignificand then
          c.skipDigits.afterIntegral positive significand (c.rest.takeWhile Char.isDigit).length false
        else Cursor.integralDigits positive fuel c.bump (10 * significand + digitOf x)
      else c.afterIntegral positive significand 0 true
    | [] => c.afterIntegral positive significand 0 true

/-- A number after its sign. -/
def Cursor.number (c : Cursor) (positive : Bool) : Except ReadError (Value × Cursor) :=
  match c.rest with
  | [] => c.failHere .endInValue
  | '0' :: rest =>
    match rest with
    | x :: _ => if x.isDigit then c.bump.failNext .invalidNumber
      else c.bump.afterIntegral positive 0 0 true
    | [] => c.bump.afterIntegral positive 0 0 true
  | x :: _ =>
    if x.isDigit then c.bump.integralDigits positive (c.rest.length + 1) (digitOf x)
    else c.failNext .invalidNumber

/-- The rest of a word such as `null` after its first letter. -/
def Cursor.word (c : Cursor) (letters : List Char) (v : Value) : Except ReadError (Value × Cursor) :=
  letters.foldlM (fun (c : Cursor) x =>
    match c.rest with
    | [] => c.failHere .endInValue
    | y :: _ => if y == x then .ok c.bump else c.failNext .expectedIdent) c
  |>.map fun c => (v, c)

/-- `members` with the member `(k, v)`: in the place of a member with key `k`, else last. -/
def putMember (members : List (String × Value)) (k : String) (v : Value) :
    List (String × Value) :=
  if members.any (·.1 == k) then members.map fun (k', v') => if k' == k then (k, v) else (k', v')
  else members ++ [(k, v)]

mutual

/-- A value with at most `depth - 1` more levels of nesting, in at most `fuel` steps. -/
def Cursor.value : Nat → Nat → Cursor → Except ReadError (Value × Cursor)
  | 0, _, c => c.failHere .recursionLimit
  | fuel + 1, depth, c =>
    let c := c.skipWs
    match c.rest with
    | [] => c.failHere .endInValue
    | 'n' :: _ => c.bump.word ['u', 'l', 'l'] .null
    | 't' :: _ => c.bump.word ['r', 'u', 'e'] (.bool true)
    | 'f' :: _ => c.bump.word ['a', 'l', 's', 'e'] (.bool false)
    | '-' :: _ => c.bump.number false
    | '"' :: _ => (c.bump.string).map fun (s, c) => (.str s, c)
    | '[' :: _ =>
      if depth ≤ 1 then c.failNext .recursionLimit
      else
        match Cursor.elements fuel (depth - 1) c.bump [] true with
        | .ok (items, c) => .ok (.arr items, c.bump)
        | .error e => .error e
    | '\x7b' :: _ =>
      if depth ≤ 1 then c.failNext .recursionLimit
      else
        match Cursor.members fuel (depth - 1) c.bump [] true with
        | .ok (members, c) => .ok (.obj members, c.bump)
        | .error e => .error e
    | x :: _ => if x.isDigit then c.number true else c.failNext .expectedValue

/-- The elements of an array after `[`, those read so far being `acc`; ends before the `]`. -/
def Cursor.elements : Nat → Nat → Cursor → List Value → Bool →
    Except ReadError (List Value × Cursor)
  | 0, _, c, _, _ => c.failHere .recursionLimit
  | fuel + 1, depth, c, acc, first =>
    let c := c.skipWs
    let next : Except ReadError Cursor := match c.rest with
      | ',' :: _ => if first then .ok c else .ok c.bump.skipWs
      | _ :: _ => if first then .ok c else c.failNext .expectedListCommaOrEnd
      | [] => c.failHere .endInList
    match c.rest with
    | ']' :: _ => .ok (acc, c)
    | _ =>
      match next with
      | .error e => .error e
      | .ok c =>
        match c.rest with
        | ']' :: _ => c.failNext .trailingComma
        | [] => c.failHere .endInValue
        | _ =>
          match Cursor.value fuel depth c with
          | .ok (v, c) => Cursor.elements fuel depth c (acc ++ [v]) false
          | .error e => .error e

/-- The members of an object after its opening brace, those read so far being `acc`; ends
before the closing brace. -/
def Cursor.members : Nat → Nat → Cursor → List (String × Value) → Bool →
    Except ReadError (List (String × Value) × Cursor)
  | 0, _, c, _, _ => c.failHere .recursionLimit
  | fuel + 1, depth, c, acc, first =>
    let c := c.skipWs
    let next : Except ReadError Cursor := match c.rest with
      | ',' :: _ => if first then .ok c else .ok c.bump.skipWs
      | _ :: _ => if first then .ok c else c.failNext .expectedObjectCommaOrEnd
      | [] => c.failHere .endInObject
    match c.rest with
    | '\x7d' :: _ => .ok (acc, c)
    | _ =>
      match next with
      | .error e => .error e
      | .ok c =>
        match c.rest with
        | '"' :: _ =>
          match c.bump.string with
          | .error e => .error e
          | .ok (k, c) =>
            let c := c.skipWs
            match c.rest with
            | ':' :: _ =>
              match Cursor.value fuel depth c.bump with
              | .ok (v, c) => Cursor.members fuel depth c (putMember acc k v) false
              | .error e => .error e
            | [] => c.failHere .endInObject
            | _ => c.failNext .expectedColon
        | '\x7d' :: _ => c.failNext .trailingComma
        | [] => c.failHere .endInValue
        | _ => c.failNext .keyMustBeString

end

/-- The value a whole text holds, or the first fault met in reading it. -/
def Value.parse (s : String) : Except ReadError Value :=
  let c : Cursor := { rest := s.toList }
  match Cursor.value (2 * s.length + 2) 128 c with
  | .error e => .error e
  | .ok (v, c) =>
    let c := c.skipWs
    if c.rest.isEmpty then .ok v else c.failNext .trailingCharacters

/-- The value a whole text holds, if it holds exactly one. -/
def Value.read (s : String) : Option Value :=
  match Value.parse s with
  | .ok v => some v
  | .error _ => none

def Value.get? (v : Value) (k : String) : Option Value :=
  match v with
  | .obj ms => (ms.find? (·.1 == k)).map (·.2)
  | _ => none

end ProviderCoverage.Json
