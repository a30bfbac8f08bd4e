import ProviderCoverage.Regex.Match

/-!
# Globs

Shell-style patterns on file names: `?` is any one byte, `*` any run of bytes, `/` included;
`**` at the start, between separators or at the end stands for any run of path components;
`[…]` is a class of characters (`[!…]` or `[^…]` negated, `]` first and `-` first or last stand
for themselves); `{a,b}` is an alternation, which may nest; a backslash makes the next character
literal. Matching is on the bytes of the text: a character outside ASCII is its UTF-8 bytes,
and a class is a set of bytes.

A pattern is refused when a class or an alternation is left open, when a `}` closes nothing,
when a range runs backwards, or when it ends in a lone backslash.
-/

namespace ProviderCoverage.Glob

/-- A piece of a glob. -/
inductive Token where
  | literal (c : Char)
  | any
  | zeroOrMore
  | recursivePrefix
  | recursiveSuffix
  | recursiveZeroOrMore
  | cls (negated : Bool) (ranges : List (Char × Char))
  | alternates (branches : List (List Token))
  deriving Repr, Inhabited

/-- Why a glob is refused. -/
inductive ErrorKind where
  | unclosedClass
  | invalidRange (lo hi : Char)
  | unopenedAlternates
  | unclosedAlternates
  | danglingEscape
  deriving Repr, DecidableEq

def ErrorKind.describe : ErrorKind → String
  | .unclosedClass => "unclosed character class; missing ']'"
  | .invalidRange lo hi =>
    "invalid range; '" ++ String.singleton lo ++ "' > '" ++ String.singleton hi ++ "'"
  | .unopenedAlternates => "unopened alternate group; missing '\x7b' (maybe escape '\x7d' with '[\x7d]'?)"
  | .unclosedAlternates => "unclosed alternate group; missing '\x7d' (maybe escape '\x7b' with '[\x7b]'?)"
  | .danglingEscape => "dangling '\\'"

/-- A refused glob with the reason. -/
structure Error where
  glob : String
  kind : ErrorKind
  deriving Repr, DecidableEq

def Error.message (e : Error) : String :=
  "error parsing glob '" ++ e.glob ++ "': " ++ e.kind.describe

/-- The state of reading a glob: the open branches, innermost first, each with its tokens
reversed, and for each open alternation the number of branches open before it. -/
structure State where
  branches : List (List Token) := [[]]
  alternations : List Nat := []
  prev : Option Char := none

namespace State

def push (s : State) (t : Token) : Except ErrorKind State :=
  match s.branches with
  | b :: bs => .ok { s with branches := (t :: b) :: bs }
  | [] => .error .unopenedAlternates

/-- Removes the last token of the innermost branch. -/
def pop (s : State) : Except ErrorKind (Token × State) :=
  match s.branches with
  | (t :: b) :: bs => .ok (t, { s with branches := b :: bs })
  | _ => .error .unopenedAlternates

def hasTokens (s : State) : Except ErrorKind Bool :=
  match s.branches with
  | b :: _ => .ok !b.isEmpty
  | [] => .error .unopenedAlternates

end State

/-- The ranges of a class after its `[` and negation mark, up to `]`; at most `fuel` steps. -/
def classRanges : Nat → Bool → Bool → List (Char × Char) → List Char →
    Except ErrorKind (List (Char × Char) × List Char)
  | 0, _, _, _, _ => .error .unclosedClass
  | _ + 1, _, _, _, [] => .error .unclosedClass
  | fuel + 1, first, inRange, ranges, c :: rest =>
    match c with
    | ']' =>
      if first then classRanges fuel false false ((']', ']') :: ranges) rest
      else .ok ((if inRange then ('-', '-') :: ranges else ranges).reverse, rest)
    | '-' =>
      if first then classRanges fuel false false (('-', '-') :: ranges) rest
      else if inRange then
        match ranges with
        | (lo, _) :: more =>
          if '-' < lo then .error (.invalidRange lo '-')
          else classRanges fuel false false ((lo, '-') :: more) rest
        | [] => classRanges fuel false false ranges rest
      else classRanges fuel false true ranges rest
    | _ =>
      if inRange then
        match ranges with
        | (lo, _) :: more =>
          if c < lo then .error (.invalidRange lo c)
          else classRanges fuel false false ((lo, c) :: more) rest
        | [] => classRanges fuel false false [(c, c)] rest
      else classRanges fuel false false ((c, c) :: ranges) rest

/-- Handles a `*` (the first already read) with `rest` after it; gives the state, the rest and
the last character read. -/
def star (s : State) (rest : List Char) : Except ErrorKind (State × List Char × Char) := do
  let prev := s.prev
  match rest with
  | '*' :: afterStars =>
    let twoStars (st : State) := do
      let st ← st.push .zeroOrMore
      st.push .zeroOrMore
    if !(← s.hasTokens) then
      match afterStars with
      | [] => return (← s.push .recursivePrefix, [], '*')
      | '/' :: more => return (← s.push .recursivePrefix, more, '/')
      | _ => return (← twoStars s, afterStars, '*')
    let prevSep := prev == some '/'
    if !prevSep && (s.alternations.isEmpty || (prev != some ',' && prev != some '\x7b')) then
      return (← twoStars s, afterStars, '*')
    let suffix? : Option (Bool × List Char × Char) := match afterStars with
      | [] => some (true, [], '*')
      | c :: more =>
        if (c == ',' || c == '\x7d') && !s.alternations.isEmpty then some (true, c :: more, '*')
        else if c == '/' then some (false, more, '/')
        else none
    match suffix? with
    | none => return (← twoStars s, afterStars, '*')
    | some (isSuffix, after, last) =>
      let (dropped, s') ← s.pop
      let tok := match dropped with
        | .recursivePrefix => Token.recursivePrefix
        | .recursiveSuffix => Token.recursiveSuffix
        | _ => if isSuffix then Token.recursiveSuffix else Token.recursiveZeroOrMore
      return (← s'.push tok, after, last)
  | _ => return (← s.push .zeroOrMore, rest, '*')

def closeAlternation (s : State) : Except ErrorKind State :=
  match s.alternations with
  | [] => .error .unopenedAlternates
  | start :: outer =>
    let count := s.branches.length - start
    let alts := (s.branches.take count).reverse.map List.reverse
    State.push ⟨s.branches.drop count, outer, s.prev⟩ (.alternates alts)

/-- Reads the characters of a glob; at most `fuel` steps. The state remembers the last
character read, escaped or not, which decides how a following `**` reads. -/
def readChars : Nat → State → List Char → Except ErrorKind State
  | 0, s, _ => .ok s
  | _ + 1, s, [] => .ok s
  | fuel + 1, s, c :: rest =>
    let proceed (r : Except ErrorKind (State × List Char × Char)) : Except ErrorKind State :=
      match r with
      | .ok (s', rest', last) => readChars fuel { s' with prev := some last } rest'
      | .error e => .error e
    match c with
    | '?' => proceed ((s.push .any).map (·, rest, c))
    | '*' => proceed (star s rest)
    | '[' =>
      let (negated, body) := match rest with
        | '!' :: b => (true, b)
        | '^' :: b => (true, b)
        | b => (false, b)
      proceed (do
        let (ranges, after) ← classRanges (body.length + 1) true false [] body
        let s' ← s.push (.cls negated ranges)
        pure (s', after, ']'))
    | '\x7b' =>
      let opened : State := ⟨[] :: s.branches, s.branches.length :: s.alternations, s.prev⟩
      proceed (.ok (opened, rest, c))
    | '\x7d' => proceed ((closeAlternation s).map (·, rest, c))
    | ',' =>
      if s.alternations.isEmpty then proceed ((s.push (.literal ',')).map (·, rest, c))
      else proceed (.ok (⟨[] :: s.branches, s.alternations, s.prev⟩, rest, c))
    | '\\' =>
      match rest with
      | [] => .error .danglingEscape
      | e :: more => proceed ((s.push (.literal e)).map (·, more, e))
    | _ => proceed ((s.push (.literal c)).map (·, rest, c))

/-- A compiled glob: its text and its tokens. -/
structure Glob where
  text : String
  tokens : List Token
  deriving Repr, Inhabited

/-- The glob a pattern stands for, or why it is refused. -/
def Glob.parse (pattern : String) : Except Error Glob :=
  let cs := pattern.toList
  match readChars (cs.length + 1) {} cs with
  | .error k => .error ⟨pattern, k⟩
  | .ok s =>
    match s.branches with
    | [b] => .ok ⟨pattern, b.reverse⟩
    | _ => .error ⟨pattern, .unclosedAlternates⟩

/-- The UTF-8 bytes of a character, each as the character with that code. -/
def byteChars (c : Char) : List Char :=
  (String.singleton c).toUTF8.toList.map fun b => Char.ofNat b.toNat

/-- A class of bytes from character ranges: a range whose ends take several bytes spans from
the last byte of its start to the first byte of its end, the other bytes standing alone. -/
def byteRanges (r : Char × Char) : List Regex.ClassItem :=
  let lo := byteChars r.1
  let hi := byteChars r.2
  if r.1 == r.2 then lo.map fun b => .range b b
  else
    (lo.dropLast.map fun b => .range b b) ++
      [.range (lo.getLast?.getD r.1) (hi.head?.getD r.2)] ++ ((hi.drop 1).map fun b => .range b b)

/-- What `?` matches: any one byte, or with `literalSeparator` any byte but `/`. -/
def anyByte (literalSeparator : Bool) : Regex.Regex :=
  if literalSeparator then .cls true [.range '/' '/'] false else .dot true false

mutual

/-- Whether a token adds nothing to the expression of its glob: an alternation whose branches
all add nothing. -/
def Token.writesNothing : Token → Bool
  | .alternates branches => branchesWriteNothing branches
  | _ => false

def branchesWriteNothing : List (List Token) → Bool
  | [] => true
  | b :: rest => tokensWriteNothing b && branchesWriteNothing rest

def tokensWriteNothing : List Token → Bool
  | [] => true
  | t :: ts => t.writesNothing && tokensWriteNothing ts

end

mutual

/-- The expression matching what a token matches, over bytes; with `literalSeparator`, `?` and
`*` never match `/`. -/
def Token.toRegex (literalSeparator : Bool) : Token → Regex.Regex
  | .literal c => .cat ((byteChars c).map fun b => .lit b false)
  | .any => anyByte literalSeparator
  | .zeroOrMore => .rep (anyByte literalSeparator) 0 none true
  | .recursivePrefix => .alt [.rep (.lit '/' false) 0 (some 1) true,
      .cat [.rep (.dot true false) 0 none true, .lit '/' false]]
  | .recursiveSuffix => .cat [.lit '/' false, .rep (.dot true false) 0 none true]
  | .recursiveZeroOrMore => .alt [.lit '/' false,
      .cat [.lit '/' false, .rep (.dot true false) 0 none true, .lit '/' false]]
  | .cls negated ranges => .cls negated (ranges.flatMap byteRanges) false
  | .alternates branches =>
    match branchesToRegex literalSeparator branches with
    | [] => .empty
    | parts => .alt parts

/-- The expressions of the branches of an alternation that write something: a branch of
alternations that are all empty adds nothing, not even a branch matching the empty text. -/
def branchesToRegex (literalSeparator : Bool) : List (List Token) → List Regex.Regex
  | [] => []
  | b :: rest =>
    if tokensWriteNothing b then branchesToRegex literalSeparator rest
    else .cat (tokensToRegex literalSeparator b) :: branchesToRegex literalSeparator rest

def tokensToRegex (literalSeparator : Bool) : List Token → List Regex.Regex
  | [] => []
  | t :: ts => t.toRegex literalSeparator :: tokensToRegex literalSeparator ts

end

/-- The expression a glob stands for, anchored at both ends. -/
def Glob.toRegex (g : Glob) (literalSeparator : Bool) : Regex.Regex :=
  match g.tokens with
  | [.recursivePrefix] => .cat [.lineStart .text, .rep (.dot true false) 0 none true, .lineEnd .text]
  | ts => .cat ([.lineStart .text] ++ tokensToRegex literalSeparator ts ++ [.lineEnd .text])

/-- Whether the glob matches the whole of `s`, `/` included in what `?` and `*` match. -/
def Glob.matches (g : Glob) (s : String) : Bool :=
  (g.toRegex false).matchesChars (s.toUTF8.toList.map fun b => Char.ofNat b.toNat)

/-- Whether the glob matches the whole of the path `s`, with `?` and `*` kept within one
component. -/
def Glob.matchesPath (g : Glob) (s : String) : Bool :=
  (g.toRegex true).matchesChars (s.toUTF8.toList.map fun b => Char.ofNat b.toNat)

end ProviderCoverage.Glob
