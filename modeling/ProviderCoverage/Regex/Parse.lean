import ProviderCoverage.Regex.Property
import ProviderCoverage.Regex.Nesting
import ProviderCoverage.Unicode.Alphabetic
import ProviderCoverage.Text.Basic

/-!
# Reading regular expressions

The syntax of naming patterns: alternation with `|`; groups `(…)`, `(?:…)`, `(?P<name>…)` and
`(?<name>…)`, no name given twice; flags `i`, `m`, `s`, `U`, `x`, `u` and `R` set with
`(?flags)` for the rest of a group or with `(?flags:…)` for a group; the repetitions `*`, `+`,
`?` and `{n}`, `{n,}`, `{n,m}` (blanks allowed around the numbers), each optionally lazy;
bracketed classes with ranges, negation, nesting, POSIX names and the set operations `&&`,
`--` and `~~`; the escapes of special characters, of control characters, of code points in
hex, of the classes `\d`, `\w`, `\s` and Unicode properties, and of the assertions `\b`, `\B`,
`\A`, `\z`, `\<`, `\>`, `\b{start}`, `\b{end}`, `\b{start-half}` and `\b{end-half}`. Under the
flag `x`, white space and comments from `#` to the end of the line are skipped between items.

Without the flag `u` classes, case folding and word boundaries keep to ASCII, and what could
match a byte that is not part of UTF-8 text is refused: the dot, the negated classes `\D`,
`\W`, `\S` and `\B`, a byte above `7F` written `\xHH`, a bracketed class holding such a
byte; Unicode classes and characters beyond ASCII inside brackets are refused too.

A pattern that cannot be read gives an error with the span of the text at fault. The other
faults are reported only once the whole pattern reads: first parts nested too deeply, then,
in the order in which their parts end, a Unicode class that names no property and what the
rules without `u` refuse.
-/

namespace ProviderCoverage.Regex

open Unicode

/-- The flags in force. -/
structure Flags where
  fold : Bool := false
  multiLine : Bool := false
  dotAll : Bool := false
  swapGreed : Bool := false
  /-- Carriage returns end lines too. -/
  crlf : Bool := false
  /-- White space and comments between items are skipped. -/
  ignoreSpace : Bool := false
  /-- Classes, case folding and word boundaries follow Unicode; without it they keep to
  ASCII. -/
  unicode : Bool := true
  deriving Repr, Inhabited

def Flags.lineMode (flags : Flags) : LineMode :=
  if !flags.multiLine then .text else if flags.crlf then .crlf else .lf

/-- The unread rest of a pattern and its position, with what reading has found so far. -/
structure Cursor where
  rest : List Char
  pos : Nat
  /-- The names of the capture groups read so far, with their spans. -/
  names : List (String × Span) := []
  /-- The faults reported once the whole pattern reads, latest first. -/
  faults : List Error := []

namespace Cursor

def note (c : Cursor) (k : ErrorKind) (span : Span) : Cursor :=
  { c with faults := ⟨k, span, none⟩ :: c.faults }

def bump (c : Cursor) : Cursor := { c with rest := c.rest.drop 1, pos := c.pos + 1 }

def peek (c : Cursor) : Option Char := c.rest.head?

/-- The character after the next. -/
def peek2 (c : Cursor) : Option Char := (c.rest.drop 1).head?

def startsWith (c : Cursor) (s : String) : Bool := s.toList.isPrefixOf c.rest

/-- Past `n` characters, or to the end. -/
def skip (c : Cursor) (n : Nat) : Cursor :=
  { c with rest := c.rest.drop n, pos := c.pos + min n c.rest.length }

def skipWhite (c : Cursor) : Cursor := c.skip (c.rest.takeWhile isBlank).length

def skipComment (c : Cursor) : Cursor :=
  let c' := c.skip (c.rest.takeWhile (· != '\n')).length
  if c'.rest.isEmpty then c' else c'.bump

/-- Past white space and comments, at most `fuel` of them. -/
def skipBlanks : Nat → Cursor → Cursor
  | 0, c => c
  | fuel + 1, c =>
    match c.peek with
    | some ch =>
      if isBlank ch then skipBlanks fuel c.bump
      else if ch == '#' then skipBlanks fuel c.skipComment
      else c
    | none => c

/-- Past white space and comments when they are skipped. -/
def space (ignore : Bool) (c : Cursor) : Cursor :=
  if ignore then c.skipBlanks c.rest.length else c

/-- Past the next character, then past white space and comments when they are skipped. -/
def next (ignore : Bool) (c : Cursor) : Cursor := c.bump.space ignore

/-- The first character after the next that is neither white space nor a `#` opening a
comment, when they are skipped; the character after the next otherwise, and when there is no
such character. -/
def peekSpace (ignore : Bool) (c : Cursor) : Option Char :=
  if !ignore then c.peek2
  else (significant false (c.rest.drop 1)).orElse fun _ => c.peek2
where
  /-- The first character of `cs` that is neither white space nor the first `#`. -/
  significant : Bool → List Char → Option Char
    | _, [] => none
    | inComment, ch :: rest =>
      if isBlank ch then significant inComment rest
      else if !inComment && ch == '#' then significant true rest
      else some ch

end Cursor

/-- Parsing gives a value and the cursor after it, or an error. -/
abbrev Parse (α : Type) := Except Error (α × Cursor)

def fail (k : ErrorKind) (span : Span) : Except Error α := .error ⟨k, span, none⟩

def isMeta (c : Char) : Bool :=
  "\\.+*?()|[]{}^$#&-~".toList.contains c

/-- Whether a backslash may precede `c` to stand for `c` itself. -/
def isEscapable (c : Char) : Bool :=
  isMeta c || (c.toNat < 128 && !c.isAlphanum && c != '<' && c != '>')

def isHex (c : Char) : Bool :=
  c.isDigit || ('a' ≤ c && c ≤ 'f') || ('A' ≤ c && c ≤ 'F')

def hexValue (ds : List Char) : Nat :=
  ds.foldl (fun acc c =>
    acc * 16 + (if c.isDigit then c.toNat - '0'.toNat
      else if 'a' ≤ c && c ≤ 'f' then c.toNat - 'a'.toNat + 10 else c.toNat - 'A'.toNat + 10)) 0

/-- The character with code point `n`, if `n` is one. -/
def scalar? (n : Nat) : Option Char :=
  if n < 0xD800 || (0xDFFF < n && n < 0x110000) then some (Char.ofNat n) else none

/-- A primitive read by an escape or a literal: a character, a class, or an assertion. -/
inductive Prim where
  /-- A character; `byte` when it is written `\xHH`, which without `u` stands for a byte. -/
  | char (c : Char) (span : Span) (byte : Bool)
  | cls (item : ClassItem) (span : Span)
  | assertion (r : Regex) (span : Span)

def Prim.span : Prim → Span
  | .char _ s _ | .cls _ s | .assertion _ s => s

/-- Up to `count` hex digits from the cursor, white space between them skipped when `ignore` is
set; gives the digits and the cursor after the last one. -/
def hexDigits (ignore : Bool) : Nat → Cursor → List Char → Except Error (List Char × Cursor)
  | 0, c, acc => .ok (acc.reverse, c)
  | n + 1, c, acc =>
    match c.peek with
    | none => fail .escapeUnexpectedEof (c.pos, c.pos)
    | some d =>
      if isHex d then hexDigits ignore n (c.next ignore) (d :: acc)
      else fail .escapeHexInvalidDigit (c.pos, c.pos + 1)

/-- A fixed number of hex digits after `\x`, `\u` or `\U`; `c` is at the first digit. -/
def hexFixed (ignore : Bool) (count : Nat) (c : Cursor) : Parse Char :=
  match hexDigits ignore count c [] with
  | .error e => .error e
  | .ok (ds, c') =>
    match scalar? (hexValue ds) with
    | some ch => .ok (ch, c')
    | none => fail .escapeHexInvalid (c.pos, c'.pos)

/-- The hex digits after an opening brace, up to the closing brace or the end; `c` is at the
brace or at the last digit read. -/
def hexBody (ignore : Bool) : Nat → Cursor → List Char → Except Error (List Char × Cursor)
  | 0, c, acc => .ok (acc.reverse, c)
  | fuel + 1, c, acc =>
    let c' := c.next ignore
    match c'.peek with
    | none => .ok (acc.reverse, c')
    | some '}' => .ok (acc.reverse, c')
    | some d =>
      if isHex d then hexBody ignore fuel c' (d :: acc)
      else fail .escapeHexInvalidDigit (c'.pos, c'.pos + 1)

/-- Hex digits in braces after `\x`, `\u` or `\U`; `c` is at the brace. -/
def hexBraced (ignore : Bool) (c : Cursor) : Parse Char :=
  match hexBody ignore (c.rest.length + 1) c [] with
  | .error e => .error e
  | .ok (ds, atClose) =>
    if atClose.rest.isEmpty then fail .escapeUnexpectedEof (c.pos, atClose.pos)
    else
      let after := atClose.next ignore
      if ds.isEmpty then fail .escapeHexEmpty (c.pos, after.pos)
      else match scalar? (hexValue ds) with
        | some ch => .ok (ch, after)
        | none => fail .escapeHexInvalid (c.pos + 1, atClose.pos)

/-- The text between the braces of a Unicode class, up to the closing brace or the end; `c` is
at the brace or at the last character read. -/
def braceBody (ignore : Bool) : Nat → Cursor → List Char → List Char × Cursor
  | 0, c, acc => (acc.reverse, c)
  | fuel + 1, c, acc =>
    let c' := c.next ignore
    match c'.peek with
    | none => (acc.reverse, c')
    | some '}' => (acc.reverse, c')
    | some ch => braceBody ignore fuel c' (ch :: acc)

/-- The parts of `cs` before and after the first `a` followed by `b`. -/
def splitAtPair (a b : Char) : List Char → Option (List Char × List Char)
  | [] => none
  | [_] => none
  | x :: y :: rest =>
    if x == a && y == b then some ([], rest)
    else (splitAtPair a b (y :: rest)).map fun (l, r) => (x :: l, r)

/-- The query written between the braces of a Unicode class, and whether it says `!=`: a
property and a value are separated by `!=`, else by `:`, else by `=`. -/
def queryOf (body : List Char) : PropertyQuery × Bool :=
  match splitAtPair '!' '=' body with
  | some (p, v) => (.value (String.ofList p) (String.ofList v), true)
  | none =>
    let at? (sep : Char) := match body.span (· != sep) with
      | (p, _ :: v) => some (p, v)
      | (_, []) => none
    match at? ':' with
    | some (p, v) => (.value (String.ofList p) (String.ofList v), false)
    | none =>
      match at? '=' with
      | some (p, v) => (.value (String.ofList p) (String.ofList v), false)
      | none => (.name (String.ofList body), false)

/-- The query of a Unicode class after `\p` or `\P`, whether it says `!=`, and the cursor after
it; `c` is at the letter. -/
def unicodeQuery (ignore : Bool) (c : Cursor) : Except Error ((PropertyQuery × Bool) × Cursor) :=
  let c1 := c.next ignore
  match c1.peek with
  | none => fail .escapeUnexpectedEof (c1.pos, c1.pos)
  | some '{' =>
    let (body, atClose) := braceBody ignore (c1.rest.length + 1) c1 []
    if atClose.rest.isEmpty then fail .escapeUnexpectedEof (atClose.pos, atClose.pos)
    else .ok (queryOf body, atClose.bump)
  | some '\\' => fail .unicodeClassInvalid (c1.pos, c1.pos + 1)
  | some l => .ok ((.letter l, false), c1.next ignore)

/-- Whether `c` may stand in the name of a special word boundary. -/
def isBoundaryNameChar (c : Char) : Bool :=
  ('a' ≤ c && c ≤ 'z') || ('A' ≤ c && c ≤ 'Z') || c == '-'

def boundaryName (ignore : Bool) : Nat → Cursor → List Char → List Char × Cursor
  | 0, c, acc => (acc.reverse, c)
  | fuel + 1, c, acc =>
    match c.peek with
    | some ch =>
      if isBoundaryNameChar ch then boundaryName ignore fuel (c.next ignore) (ch :: acc)
      else (acc.reverse, c)
    | none => (acc.reverse, c)


/-- The assertion of `\b`: a special word boundary when a brace follows with a name in it, a
plain word boundary otherwise (a brace then starts a counted repetition). `start` is the
position of the backslash and `c` is after the `b`. -/
def wordBoundary (flags : Flags) (start : Nat) (c : Cursor) : Parse Prim :=
  let ignore := flags.ignoreSpace
  let assert (kind : Boundary) (span : Span) : Prim := .assertion (.boundary kind flags.unicode) span
  let plain : Parse Prim := .ok (assert .word (start, c.pos), c)
  if c.peek != some '{' then plain
  else
    let c1 := c.next ignore
    match c1.peek with
    | none => fail .specialWordOrRepetitionUnexpectedEof (start, c1.pos)
    | some ch =>
      if !isBoundaryNameChar ch then plain
      else
        let (name, atClose) := boundaryName ignore (c1.rest.length + 1) c1 []
        if atClose.peek != some '}' then fail .specialWordBoundaryUnclosed (c.pos, atClose.pos)
        else
          let after := atClose.bump
          let kind? : Option Boundary := match String.ofList name with
            | "start" => some .wordStart
            | "end" => some .wordEnd
            | "start-half" => some .wordStartHalf
            | "end-half" => some .wordEndHalf
            | _ => none
          match kind? with
          | some kind => .ok (assert kind (start, after.pos), after)
          | none => fail .specialWordBoundaryUnrecognized (c1.pos, atClose.pos)

/-- The members of the ASCII classes of decimal digits, word characters and white space. -/
def asciiNamed : Named → List ClassItem
  | .digit => [.range '0' '9']
  | .word => [.range '0' '9', .range 'A' 'Z', .range 'a' 'z', .range '_' '_']
  | .space => [.range '\t' '\r', .range ' ' ' ']

/-- An escape; `c` is at the backslash. A Unicode class that names no property, or that the
flags forbid, stands for no character, and the cursor records why; so does a negated class of
ASCII, which could match a byte that is not part of UTF-8 text. -/
def escape (flags : Flags) (c : Cursor) : Parse Prim :=
  let ignore := flags.ignoreSpace
  let start := c.pos
  let c1 := c.bump
  match c1.peek with
  | none => fail .escapeUnexpectedEof (start, c1.pos)
  | some e =>
    if e.isDigit then fail .unsupportedBackreference (start, c1.pos + 1)
    else if e == 'x' || e == 'u' || e == 'U' then
      let c2 := c1.next ignore
      let count := if e == 'x' then 2 else if e == 'u' then 4 else 8
      match c2.peek with
      | none => fail .escapeUnexpectedEof (c2.pos, c2.pos)
      | some '{' =>
        (hexBraced ignore c2).map fun (ch, c3) => (.char ch (start, c3.pos) false, c3)
      | some _ =>
        (hexFixed ignore count c2).map fun (ch, c3) => (.char ch (start, c3.pos) (e == 'x'), c3)
    else if e == 'p' || e == 'P' then
      match unicodeQuery ignore c1 with
      | .error err => .error err
      | .ok ((query, notEqual), c3) =>
        let span : Span := (start, c3.pos)
        let nothing : Prim := .cls (.nested false []) span
        if !flags.unicode then .ok (nothing, c3.note .unicodeNotAllowed span)
        else
          match lookupProperty query with
          | .ok item => .ok (.cls (.nested ((e == 'P') != notEqual) [item]) span, c3)
          | .error why =>
            let kind := match why with
              | .propertyNotFound => ErrorKind.unicodePropertyNotFound
              | .valueNotFound => .unicodePropertyValueNotFound
            .ok (nothing, c3.note kind span)
    else
      let c2 := c1.bump
      let span : Span := (start, c2.pos)
      let named (n : Named) (neg : Bool) : Parse Prim :=
        if flags.unicode then .ok (.cls (.named n neg) span, c2)
        else .ok (.cls (.nested neg (asciiNamed n)) span, if neg then c2.note .invalidUtf8 span else c2)
      let assert (b : Boundary) : Parse Prim :=
        .ok (.assertion (.boundary b flags.unicode) span, c2)
      let char (ch : Char) : Parse Prim := .ok (.char ch span false, c2)
      match e with
      | 'd' => named .digit false
      | 'D' => named .digit true
      | 'w' => named .word false
      | 'W' => named .word true
      | 's' => named .space false
      | 'S' => named .space true
      | _ =>
        if isEscapable e then char e
        else match e with
          | 'a' => char (Char.ofNat 7)
          | 'f' => char (Char.ofNat 12)
          | 't' => char '\t'
          | 'n' => char '\n'
          | 'r' => char '\r'
          | 'v' => char (Char.ofNat 11)
          | 'A' => .ok (.assertion (.lineStart .text) span, c2)
          | 'z' => .ok (.assertion (.lineEnd .text) span, c2)
          | 'b' => wordBoundary flags start c2
          | 'B' =>
            if flags.unicode then assert .notWord
            else .ok (.assertion (.boundary .notWord false) span, c2.note .invalidUtf8 span)
          | '<' => assert .wordStart
          | '>' => assert .wordEnd
          | _ => fail .escapeUnrecognized span

/-- The fault, without `u`, of a character read in a class (`inClass`) or outside one: a byte
above `7F` written `\xHH` could match what is not UTF-8 text, and in a class any other
character beyond ASCII is refused. -/
def Prim.asciiFault (flags : Flags) (inClass : Bool) : Prim → Option (ErrorKind × Span)
  | .char ch span byte =>
    if flags.unicode || ch.toNat < 0x80 then none
    else if byte then some (.invalidUtf8, span)
    else if inClass then some (.unicodeNotAllowed, span)
    else none
  | _ => none

/-- The cursor with the fault recorded, if there is one. -/
def Cursor.noteFault (c : Cursor) : Option (ErrorKind × Span) → Cursor
  | some (k, span) => c.note k span
  | none => c

/-- The POSIX class names usable as `[:name:]`, with their members. -/
def posixClass : String → Option (List ClassItem)
  | "alnum" => some [.range '0' '9', .range 'A' 'Z', .range 'a' 'z']
  | "alpha" => some [.range 'A' 'Z', .range 'a' 'z']
  | "ascii" => some [.range (Char.ofNat 0) (Char.ofNat 0x7F)]
  | "blank" => some [.range '\t' '\t', .range ' ' ' ']
  | "cntrl" => some [.range (Char.ofNat 0) (Char.ofNat 0x1F), .range (Char.ofNat 0x7F) (Char.ofNat 0x7F)]
  | "digit" => some (asciiNamed .digit)
  | "graph" => some [.range '!' '~']
  | "lower" => some [.range 'a' 'z']
  | "print" => some [.range ' ' '~']
  | "punct" => some [.range '!' '/', .range ':' '@', .range '[' '`', .range '{' '~']
  | "space" => some (asciiNamed .space)
  | "upper" => some [.range 'A' 'Z']
  | "word" => some (asciiNamed .word)
  | "xdigit" => some [.range '0' '9', .range 'A' 'F', .range 'a' 'f']
  | _ => none

/-- A POSIX class `[:name:]` or `[:^name:]` at the cursor, if one is there. -/
def posixAt (c : Cursor) : Option (ClassItem × Cursor) :=
  match c.rest with
  | '[' :: ':' :: more =>
    let (neg, more, skipped) := match more with
      | '^' :: m => (true, m, 3)
      | m => (false, m, 2)
    let name := more.takeWhile (fun ch => ch != ':' && ch != ']')
    match more.drop name.length with
    | ':' :: ']' :: _ =>
      (posixClass (String.ofList name)).map fun items =>
        (.nested neg items, c.skip (skipped + name.length + 2))
    | _ => none
  | _ => none

/-- The error for a class left open; `openSpan` is the span of its opening. -/
def unclosedClass (openSpan : Span) : Except Error α := fail .classUnclosed openSpan

/-- The primitive at the cursor inside a class: an escape or a character. -/
def classPrim (flags : Flags) (c : Cursor) : Parse Prim :=
  match c.peek with
  | some '\\' => escape flags c
  | some ch => .ok (.char ch (c.pos, c.pos + 1) false, c.bump)
  | none => fail .classUnclosed (c.pos, c.pos)

/-- The class item of a primitive standing alone in a class; an assertion is refused. -/
def Prim.classItem : Prim → Except Error ClassItem
  | .char ch _ _ => .ok (.range ch ch)
  | .cls item _ => .ok item
  | .assertion _ span => fail .classEscapeInvalid span

/-- The character of a primitive that ends a range; anything else is refused. -/
def Prim.rangeEnd : Prim → Except Error Char
  | .char ch _ _ => .ok ch
  | p => fail .classRangeLiteral p.span

/-- Past the dashes that open a class, each standing for itself: their positions (latest
first) and the cursor after them, or `none` when the pattern ends among them. -/
def leadingDashes (ignore : Bool) : Nat → Cursor → List Nat → Option (List Nat × Cursor)
  | 0, c, ps => some (ps, c)
  | fuel + 1, c, ps =>
    if c.peek == some '-' then
      let c' := c.next ignore
      if c'.rest.isEmpty then none else leadingDashes ignore fuel c' (c.pos :: ps)
    else some (ps, c)

/-- The set operation written at the cursor, if one is. -/
def setOpAt (c : Cursor) : Option SetOp :=
  if c.startsWith "&&" then some .intersection
  else if c.startsWith "--" then some .difference
  else if c.startsWith "~~" then some .symmetricDifference
  else none

/-- A member of a class as read: its item, its nesting and its span. -/
structure Member where
  item : ClassItem
  shape : Shape
  span : Span

/-- The members read since the last set operation (reversed) as their union, which is written
from `start` when there are none; then combined with the side before the operation, if any. -/
def combineSides (left : Option (SetOp × Member)) (start : Nat) (members : List Member) : Member :=
  let ms := members.reverse
  let span : Span := match ms.head?, members.head? with
    | some first, some last => (first.span.1, last.span.2)
    | _, _ => (start, start)
  let right : Member :=
    ⟨.nested false (ms.map (·.item)), Shape.sequence span (ms.map (·.shape)), span⟩
  match left with
  | some (op, l) =>
    ⟨.combine op l.item right.item, .node (l.span.1, span.2) [l.shape, right.shape],
      (l.span.1, span.2)⟩
  | none => right

/-- The fault, without `u`, of a bracketed class that holds a character beyond ASCII once case
folding and negation apply: it could match a byte that is not part of UTF-8 text. -/
def bracketFault (flags : Flags) (item : ClassItem) (span : Span) : Option (ErrorKind × Span) :=
  if flags.unicode then none
  else
    let folded := if flags.fold then item.asciiFolded else item
    if (List.range 128).any fun i => folded.holds false (Char.ofNat (0x80 + i)) then
      some (.invalidUtf8, span)
    else none

mutual

/-- The members of a class up to its closing bracket, `openSpan` being the span of the opening
of the innermost open class; `left` is the side before the last set operation, `start` where
the members after it begin, and `acc` those members (reversed). At most `fuel` steps. -/
def classItems : Nat → Flags → Span → Option (SetOp × Member) → Nat → Cursor → List Member →
    Parse Member
  | 0, _, openSpan, _, _, _, _ => unclosedClass openSpan
  | fuel + 1, flags, openSpan, left, start, c0, acc =>
    let ignore := flags.ignoreSpace
    let c := c0.space ignore
    match c.peek with
    | none => unclosedClass openSpan
    | some ']' => .ok (combineSides left start acc, c.bump)
    | some '[' =>
      match posixAt c with
      | some (item, c') =>
        classItems fuel flags openSpan left start c' (⟨item, .leaf, (c.pos, c'.pos)⟩ :: acc)
      | none =>
        match bracket fuel flags c with
        | .ok (m, c') => classItems fuel flags openSpan left start c' (m :: acc)
        | .error e => .error e
    | some _ =>
      match setOpAt c with
      | some op =>
        classItems fuel flags openSpan (some (op, combineSides left start acc)) (c.pos + 2)
          (c.skip 2) []
      | none =>
        match classPrim flags c with
        | .error e => .error e
        | .ok (p1, c1') =>
          let c1 := c1'.space ignore
          match c1.peek with
          | none => unclosedClass openSpan
          | some ch =>
            let after := c1.peekSpace ignore
            if ch != '-' || after == some ']' || after == some '-' then
              match p1.classItem with
              | .ok item =>
                classItems fuel flags openSpan left start
                  (c1.noteFault (p1.asciiFault flags true)) (⟨item, .leaf, p1.span⟩ :: acc)
              | .error e => .error e
            else
              let c2 := c1.next ignore
              if c2.rest.isEmpty then unclosedClass openSpan
              else
                match classPrim flags c2 with
                | .error e => .error e
                | .ok (p2, c3) =>
                  match p1.rangeEnd, p2.rangeEnd with
                  | .error e, _ => .error e
                  | _, .error e => .error e
                  | .ok lo, .ok hi =>
                    let span : Span := (p1.span.1, p2.span.2)
                    if hi < lo then fail .classRangeInvalid span
                    else
                      let c4 := (c3.noteFault (p1.asciiFault flags true)).noteFault
                        (p2.asciiFault flags true)
                      classItems fuel flags openSpan left start c4
                        (⟨.range lo hi, .leaf, span⟩ :: acc)

/-- A bracketed class; `c` is at its opening bracket. A `^` after the bracket negates it, and
dashes, or else a `]`, right after the opening stand for themselves. -/
def bracket : Nat → Flags → Cursor → Parse Member
  | 0, _, c => unclosedClass (c.pos, c.pos + 1)
  | fuel + 1, flags, c =>
    let ignore := flags.ignoreSpace
    let start := c.pos
    let c1 := c.next ignore
    if c1.rest.isEmpty then unclosedClass (start, c1.pos)
    else
      let (negated, c2) := if c1.peek == some '^' then (true, c1.next ignore) else (false, c1)
      if c2.rest.isEmpty then unclosedClass (start, c2.pos)
      else
        match leadingDashes ignore (c2.rest.length + 1) c2 [] with
        | none => unclosedClass (start, start)
        | some (dashes, c3) =>
          let closeFirst := dashes.isEmpty && c3.peek == some ']'
          let c4 := if closeFirst then c3.next ignore else c3
          if closeFirst && c4.rest.isEmpty then unclosedClass (start, c4.pos)
          else
            let lead : List Member :=
              if closeFirst then [⟨.range ']' ']', .leaf, (c3.pos, c3.pos + 1)⟩]
              else dashes.map fun p => ⟨.range '-' '-', .leaf, (p, p + 1)⟩
            match classItems fuel flags (start, c4.pos) none c2.pos c4 lead with
            | .ok (set, c5) =>
              let span : Span := (start, c5.pos)
              let item := ClassItem.nested negated [set.item]
              .ok (⟨item, .node span [set.shape], span⟩,
                c5.noteFault (bracketFault flags item span))
            | .error e => .error e

end

/-- The flags of a flag group, applied to `flags`; `c` is at the first flag. Gives the new
flags, the cursor at `:` or `)`, and whether any flag was given. -/
def flagItems : Nat → Flags → Bool → Option Nat → List (Char × Nat) → Cursor →
    Except Error (Flags × Cursor × Bool)
  | 0, _, _, _, _, c => fail .flagUnexpectedEof (c.pos, c.pos)
  | fuel + 1, flags, negating, lastNeg, seen, c =>
    match c.peek with
    | none => fail .flagUnexpectedEof (c.pos, c.pos)
    | some ':' | some ')' =>
      match lastNeg with
      | some p => fail .flagDanglingNegation (p, p + 1)
      | none => .ok (flags, c, !seen.isEmpty)
    | some '-' =>
      match seen.find? (·.1 == '-') with
      | some (_, p) => .error ⟨.flagRepeatedNegation, (c.pos, c.pos + 1), some (p, p + 1)⟩
      | none =>
        let c' := c.bump
        if c'.rest.isEmpty then fail .flagUnexpectedEof (c'.pos, c'.pos)
        else flagItems fuel flags true (some c.pos) (('-', c.pos) :: seen) c'
    | some f =>
      let on := !negating
      let flags? : Option Flags := match f with
        | 'i' => some { flags with fold := on }
        | 'm' => some { flags with multiLine := on }
        | 's' => some { flags with dotAll := on }
        | 'U' => some { flags with swapGreed := on }
        | 'x' => some { flags with ignoreSpace := on }
        | 'R' => some { flags with crlf := on }
        | 'u' => some { flags with unicode := on }
        | _ => none
      match flags? with
      | none => fail .flagUnrecognized (c.pos, c.pos + 1)
      | some flags =>
        match seen.find? (·.1 == f) with
        | some (_, p) => .error ⟨.flagDuplicate, (c.pos, c.pos + 1), some (p, p + 1)⟩
        | none =>
          let c' := c.bump
          if c'.rest.isEmpty then fail .flagUnexpectedEof (c'.pos, c'.pos)
          else flagItems fuel flags negating none ((f, c.pos) :: seen) c'

/-- An item of a branch as read: its expression (`none` for a flag group, which matches the
empty text), its nesting, and where it starts. -/
structure Piece where
  regex : Option Regex
  shape : Shape
  start : Nat

/-- Applies a repetition to the last item of `items`; `opPos` is where the operator stands and
`stop` where the repetition ends. -/
def repeatLast (items : List Piece) (opPos stop : Nat) (min : Nat) (max : Option Nat)
    (greedy : Bool) : Except Error (List Piece) :=
  match items with
  | ⟨some r, shape, start⟩ :: rest =>
    .ok (⟨some (.rep r min max greedy), .node (start, stop) [shape], start⟩ :: rest)
  | _ => fail .repetitionMissing (opPos, opPos)

/-- The digits from the cursor on, white space after each skipped when `ignore` is set. -/
def decimalDigits (ignore : Bool) : Nat → Cursor → List Char → List Char × Cursor
  | 0, c, acc => (acc.reverse, c)
  | fuel + 1, c, acc =>
    match c.peek with
    | some d => if d.isDigit then decimalDigits ignore fuel (c.next ignore) (d :: acc) else (acc.reverse, c)
    | none => (acc.reverse, c)

/-- Past white space after a number (and comments after it when they are skipped). -/
def trailingWhite (ignore : Bool) : Nat → Cursor → Cursor
  | 0, c => c
  | fuel + 1, c =>
    match c.peek with
    | some ch => if isBlank ch then trailingWhite ignore fuel (c.next ignore) else c
    | none => c

/-- The decimal number of a counted repetition, white space around it skipped; refused when it
has no digits or does not fit in 32 bits. -/
def decimal (ignore : Bool) (c : Cursor) : Except Error (Nat × Cursor) :=
  let c1 := c.skipWhite
  let (ds, c2) := decimalDigits ignore (c1.rest.length + 1) c1 []
  let c3 := trailingWhite ignore (c2.rest.length + 1) c2
  let n := ds.foldl (fun acc d => acc * 10 + (d.toNat - '0'.toNat)) 0
  if ds.isEmpty then fail .repetitionCountDecimalEmpty (c1.pos, c2.pos)
  else if n > 4294967295 then fail .decimalInvalid (c1.pos, c2.pos)
  else .ok (n, c3)

/-- The bounds of a counted repetition; `c` is at the opening brace. Gives the cursor at the
closing brace. -/
def counted (ignore : Bool) (c : Cursor) : Except Error ((Nat × Option Nat) × Cursor) := do
  let start := c.pos
  let c1 := c.next ignore
  if c1.rest.isEmpty then fail .repetitionCountUnclosed (start, c1.pos)
  else
    let (lo, c2) ← decimal ignore c1
    if c2.rest.isEmpty then fail .repetitionCountUnclosed (start, c2.pos)
    else
      let ((hi : Option Nat), c4) ←
        if c2.peek == some ',' then
          let c3 := c2.next ignore
          if c3.rest.isEmpty then fail .repetitionCountUnclosed (start, c3.pos)
          else if c3.peek == some '}' then pure (none, c3)
          else (decimal ignore c3).map fun (h, c4) => (some h, c4)
        else pure (some lo, c2)
      if c4.peek != some '}' then fail .repetitionCountUnclosed (start, c4.pos)
      else pure ((lo, hi), c4)

/-- A class item outside brackets as an expression under the flags: case folding follows
Unicode, or ASCII without `u`. -/
def classRegex (flags : Flags) (item : ClassItem) : Regex :=
  if flags.unicode then .cls false [item] flags.fold
  else .cls false [if flags.fold then item.asciiFolded else item] false

/-- A character outside classes as an expression under the flags: without `u`, only ASCII
letters have another case. -/
def charRegex (flags : Flags) (ch : Char) : Regex :=
  if flags.unicode then .lit ch flags.fold
  else if flags.fold && (ch.isUpper || ch.isLower) then classRegex flags (.range ch ch)
  else .lit ch false

def Prim.toRegex (flags : Flags) : Prim → Regex
  | .char ch _ _ => charRegex flags ch
  | .cls item _ => classRegex flags item
  | .assertion r _ => r

/-- The laziness marker after a repetition operator. -/
def lazyMark (c : Cursor) : Bool × Cursor :=
  if c.peek == some '?' then (false, c.bump) else (true, c)

/-- Whether `c` may stand in a capture name, `first` telling whether it starts it. -/
def isCaptureChar (c : Char) (first : Bool) : Bool :=
  if first then c == '_' || isAlphabetic c
  else c == '_' || c == '.' || c == '[' || c == ']' || isAlphabetic c || isNumeric c

/-- The name of a capture group up to `>`; `c` is after `<`. Gives the cursor after `>`, with
the name recorded. -/
def captureName (c : Cursor) : Except Error Cursor :=
  if c.rest.isEmpty then fail .groupNameUnexpectedEof (c.pos, c.pos)
  else
    let name := c.rest.takeWhile (· != '>')
    match name.zipIdx.find? (fun (ch, i) => !isCaptureChar ch (i == 0)) with
    | some (_, i) => fail .groupNameInvalid (c.pos + i, c.pos + i + 1)
    | none =>
      let atClose := c.skip name.length
      if atClose.rest.isEmpty then fail .groupNameUnexpectedEof (c.pos, atClose.pos)
      else if name.isEmpty then fail .groupNameEmpty (c.pos, c.pos)
      else
        let span : Span := (c.pos, atClose.pos)
        let text := String.ofList name
        match c.names.find? (·.1 == text) with
        | some (_, first) => .error ⟨.groupNameDuplicate, span, some first⟩
        | none => .ok { atClose.bump with names := (text, span) :: c.names }

/-- Joins the items of a branch (reversed), written over `span`; a flag group matches the empty
text. -/
def joinItems (items : List Piece) (span : Span) : Regex × Shape :=
  let ps := items.reverse
  let r := match ps.filterMap (·.regex) with
    | [r] => r
    | rs => .cat rs
  (r, Shape.sequence span (ps.map (·.shape)))

/-- Joins branches, written over `span`. -/
def joinBranches (branches : List (Regex × Shape)) (span : Span) : Regex × Shape :=
  match branches with
  | [b] => b
  | bs => (.alt (bs.map (·.1)), .node span (bs.map (·.2)))

/-- The look-around openings, which are refused. -/
def lookAroundOpenings : List String := ["?=", "?!", "?<=", "?<!"]

/-- The branches of a group or of the whole pattern up to the closing parenthesis or the end,
with their nesting; `openSpan` is the span of the group's parenthesis, `branches` the finished
branches (reversed), `first` where the first branch starts, `start` where the current one
starts and `items` its items (reversed). -/
def alternation : Nat → Option Span → Flags → List (Regex × Shape) → Nat → Nat → List Piece →
    Cursor → Parse (Regex × Shape)
  | 0, _, _, _, _, _, _, c => fail .groupUnclosed (c.pos, c.pos)
  | fuel + 1, openSpan, flags, branches, first, start, items, c0 =>
    let ignore := flags.ignoreSpace
    let c := c0.space ignore
    let push (p : Piece) (c' : Cursor) :=
      alternation fuel openSpan flags branches first start (p :: items) c'
    let whole : Regex × Shape :=
      joinBranches (joinItems items (start, c.pos) :: branches).reverse (first, c.pos)
    match c.peek with
    | none =>
      match openSpan with
      | some s => fail .groupUnclosed s
      | none => .ok (whole, c)
    | some ')' =>
      match openSpan with
      | some _ => .ok (whole, c.bump)
      | none => fail .groupUnopened (c.pos, c.pos + 1)
    | some '|' =>
      alternation fuel openSpan flags (joinItems items (start, c.pos) :: branches) first
        (c.pos + 1) [] c.bump
    | some '[' =>
      match bracket fuel flags c with
      | .ok (m, c') => push ⟨some (classRegex flags m.item), m.shape, c.pos⟩ c'
      | .error e => .error e
    | some '*' | some '+' | some '?' =>
      let op := c.peek.getD '*'
      let (lo, hi) := if op == '*' then (0, none) else if op == '+' then (1, none) else (0, some 1)
      let (greedy, c') := lazyMark c.bump
      match repeatLast items c.pos c'.pos lo hi (greedy != flags.swapGreed) with
      | .ok items => alternation fuel openSpan flags branches first start items c'
      | .error e => .error e
    | some '{' =>
      match items with
      | ⟨some _, _, _⟩ :: _ =>
        match counted ignore c with
        | .ok ((lo, hi), atClose) =>
          let (greedy, c') := lazyMark (atClose.next ignore)
          let valid := match hi with
            | some h => lo ≤ h
            | none => true
          if !valid then fail .repetitionCountInvalid (c.pos, c'.pos)
          else match repeatLast items c.pos c'.pos lo hi (greedy != flags.swapGreed) with
            | .ok items => alternation fuel openSpan flags branches first start items c'
            | .error e => .error e
        | .error e => .error e
      | _ => fail .repetitionMissing (c.pos, c.pos)
    | some '(' =>
      let openS : Span := (c.pos, c.pos + 1)
      let c1 := c.next ignore
      let group (capture : Bool) (inner : Flags) (body : Cursor) :=
        match alternation fuel (some openS) inner [] body.pos body.pos [] body with
        | .ok ((r, shape), c') =>
          push ⟨some (if capture then .group r else r), .node (c.pos, c'.pos) [shape], c.pos⟩ c'
        | .error e => .error e
      match lookAroundOpenings.find? c1.startsWith with
      | some opening => fail .unsupportedLookAround (c.pos, c1.pos + opening.length)
      | none =>
        if c1.startsWith "?P<" || c1.startsWith "?<" then
          match captureName (c1.skip (if c1.startsWith "?P<" then 3 else 2)) with
          | .ok c2 => group true flags c2
          | .error e => .error e
        else if c1.peek == some '?' then
          let c2 := c1.bump
          if c2.rest.isEmpty then fail .groupUnclosed openS
          else
            match flagItems fuel flags false none [] c2 with
            | .ok (newFlags, c3, any) =>
              if c3.peek == some ')' then
                if !any then fail .repetitionMissing (c1.pos, c1.pos)
                else
                  alternation fuel openSpan newFlags branches first start
                    (⟨none, .leaf, c.pos⟩ :: items) c3.bump
              else group false newFlags c3.bump
            | .error e => .error e
        else group true flags c1
    | some '\\' =>
      match escape flags c with
      | .ok (p, c') => push ⟨some (p.toRegex flags), .leaf, c.pos⟩ (c'.noteFault (p.asciiFault flags false))
      | .error e => .error e
    | some '.' =>
      let c' := if flags.unicode then c.bump else c.bump.note .invalidUtf8 (c.pos, c.pos + 1)
      push ⟨some (.dot flags.dotAll flags.crlf), .leaf, c.pos⟩ c'
    | some '^' => push ⟨some (.lineStart flags.lineMode), .leaf, c.pos⟩ c.bump
    | some '$' => push ⟨some (.lineEnd flags.lineMode), .leaf, c.pos⟩ c.bump
    | some ch => push ⟨some (charRegex flags ch), .leaf, c.pos⟩ c.bump

/-- The expression a pattern stands for, or why it stands for none: the first error of
reading, else the first part nested too deeply, else the first of the faults found while
reading. -/
def Regex.parse (pattern : String) : Except Error Regex :=
  let cs := pattern.toList
  match alternation (2 * cs.length + 2) none {} [] 0 0 [] ⟨cs, 0, [], []⟩ with
  | .error e => .error e
  | .ok ((r, shape), c) =>
    match shape.nestFault with
    | some e => .error e
    | none =>
      match c.faults.getLast? with
      | some e => .error e
      | none => .ok r

end ProviderCoverage.Regex
