import ProviderCoverage.Yaml.Token

/-!
# Cutting YAML text into tokens

The scanner reads the text one token at a time, on demand. Block structure is read from the
columns: a key or an entry further right than the current indentation opens a block collection,
a token further left closes those that are deeper, each with a block-end token.

A key without `?` is only known to be one when the `:` after it is found. The scanner therefore
remembers, at each flow level, where a key could start (a *possible simple key*) and holds back
the tokens from there until it is settled; when the `:` comes, a key token (and, if needed, the
start of a block mapping) is put in before them. Outside flow collections such a key cannot run
over a line or more than 1024 characters, and one that starts at the indentation of the
current block mapping is *required*: the text is refused when its `:` does not follow.

Each reading step consumes at least one character, so every loop below is bounded by the length
of the text still to read.
-/

namespace ProviderCoverage.Yaml

/-- A place where a key could start. -/
structure SimpleKey where
  possible : Bool := false
  required : Bool := false
  /-- The number of tokens handed out before the key's first token. -/
  tokenNumber : Nat := 0
  mark : Mark := {}
  deriving Repr, Inhabited

/-- The state of the scanner. -/
structure Scanner where
  /-- The text still to read. -/
  rest : List Char
  mark : Mark := {}
  /-- Tokens read and not yet handed out, the first first. -/
  queue : List Token := []
  started : Bool := false
  ended : Bool := false
  /-- Whether a simple key may start here. -/
  keyAllowed : Bool := false
  /-- The possible simple keys, one per flow level, the innermost first. -/
  keys : List SimpleKey := []
  /-- The column of the current block collection; `-1` outside all. -/
  indent : Int := -1
  /-- The columns of the enclosing block collections, the innermost first. -/
  indents : List Int := []
  flowLevel : Nat := 0
  /-- The number of tokens handed out. -/
  taken : Nat := 0
  /-- Where a value may follow a flow key without a blank after its `:`. -/
  adjacentValueAt : Nat := 0
  /-- Whether only blanks stand before the mark on its line. -/
  leadingBlank : Bool := true
  deriving Inhabited

/-- `xs` with `x` put in at position `i` (at the end when `i` is beyond it). -/
def insertAt {α : Type} : Nat → α → List α → List α
  | 0, x, xs => x :: xs
  | _ + 1, x, [] => [x]
  | i + 1, x, y :: ys => y :: insertAt i x ys

/-- Whether `c` may stand in a tag: the characters of a URI that are not flow indicators. -/
def isTagChar (c : Char) : Bool :=
  isNameChar c || ";/?:@&=+$.~*'()%#".toList.contains c

namespace Scanner

/-- The next character; the zero character at the end. -/
def ch (s : Scanner) : Char := s.rest.headD (Char.ofNat 0)

/-- The character `n` places after the next. -/
def peek (s : Scanner) (n : Nat) : Char := (s.rest.drop n).headD (Char.ofNat 0)

def fail {α : Type} (s : Scanner) (info : String) : Except Error α := .error ⟨s.mark, info⟩

/-- The scanner after its next character. -/
def skip (s : Scanner) : Scanner :=
  match s.rest with
  | [] => s
  | c :: cs =>
    if c == '\n' then
      { s with rest := cs, mark := ⟨s.mark.index + 1, s.mark.line + 1, 0⟩, leadingBlank := true }
    else
      { s with rest := cs, mark := { s.mark with index := s.mark.index + 1,
                                                  column := s.mark.column + 1 },
               leadingBlank := s.leadingBlank && isBlank c }

/-- The scanner after `n` characters. -/
def skipN (s : Scanner) : Nat → Scanner
  | 0 => s
  | n + 1 => (s.skip).skipN n

/-- The scanner after a line break; `\r\n` is one. -/
def skipBreak (s : Scanner) : Scanner :=
  match s.rest with
  | '\r' :: '\n' :: cs =>
    { s with rest := cs, mark := ⟨s.mark.index + 2, s.mark.line + 1, 0⟩, leadingBlank := true }
  | c :: cs =>
    if isBreak c then
      { s with rest := cs, mark := ⟨s.mark.index + 1, s.mark.line + 1, 0⟩, leadingBlank := true }
    else s
  | [] => s

/-- The scanner after the characters satisfying `p`. -/
def skipWhile (p : Char → Bool) (s : Scanner) : Scanner :=
  s.skipN (s.rest.takeWhile p).length

/-- The characters satisfying `p` from here, and the scanner after them. -/
def takeWhile (p : Char → Bool) (s : Scanner) : List Char × Scanner :=
  let cs := s.rest.takeWhile p
  (cs, s.skipN cs.length)

def push (s : Scanner) (mark : Mark) (kind : TokenKind) : Scanner :=
  { s with queue := s.queue ++ [⟨mark, kind⟩] }

/-- The scanner after blanks and a comment up to the end of the line. A comment must follow a
blank. -/
def skipToLineEnd (s : Scanner) : Except Error Scanner :=
  let (blanks, s) := s.takeWhile isBlank
  if s.ch == '#' then
    if blanks.isEmpty then s.fail "comments must be separated from other tokens by whitespace"
    else .ok (s.skipWhile (!isBreakOrEnd ·))
  else .ok s

/-- The scanner after blanks, line breaks and comments, up to the next token. A tab may not
indent a line inside a block collection. -/
def skipToNextToken : Nat → Scanner → Except Error Scanner
  | 0, s => .ok s
  | fuel + 1, s =>
    let c := s.ch
    if c == '\t' && !s.indents.isEmpty && s.leadingBlank && (s.mark.column : Int) < s.indent then
      match (s.skipWhile isBlank).skipToLineEnd with
      | .error e => .error e
      | .ok s =>
        if !isBreakOrEnd s.ch then s.fail "tabs disallowed within this context (block indentation)"
        else skipToNextToken fuel s
    else if isBlank c then skipToNextToken fuel s.skip
    else if isBreak c then
      let s := s.skipBreak
      skipToNextToken fuel (if s.flowLevel == 0 then { s with keyAllowed := true } else s)
    else if c == '#' then skipToNextToken fuel (s.skipWhile (!isBreakOrEnd ·))
    else .ok s

/-- The scanner with the possible simple keys that can no longer be keys given up: outside
flow collections, those on an earlier line or more than 1024 characters back. Giving up a
required one refuses the text. -/
def staleSimpleKeys (s : Scanner) : Except Error Scanner :=
  let stale (k : SimpleKey) : Bool :=
    s.flowLevel == 0 && k.possible &&
      (k.mark.line < s.mark.line || k.mark.index + 1024 < s.mark.index)
  if s.keys.any fun k => stale k && k.required then s.fail "simple key expect ':'"
  else .ok { s with keys := s.keys.map fun k => if stale k then { k with possible := false } else k }

/-- The scanner with the block collections deeper than `column` closed, outside flow
collections. -/
def unrollIndentFrom (column : Int) : Nat → Scanner → Scanner
  | 0, s => s
  | fuel + 1, s =>
    if s.indent > column then
      match s.indents with
      | i :: is => unrollIndentFrom column fuel { (s.push s.mark .blockEnd) with indent := i, indents := is }
      | [] => s
    else s

/-- The scanner with the block collections deeper than `column` closed. -/
def unrollIndent (column : Int) (s : Scanner) : Scanner :=
  if s.flowLevel > 0 then s else unrollIndentFrom column (s.indents.length + 1) s

/-- The scanner with a block collection opened at `column` when that is deeper than the
current one, its start token queued at position `number` among all tokens or last. -/
def rollIndent (column : Int) (number : Option Nat) (kind : TokenKind) (mark : Mark)
    (s : Scanner) : Scanner :=
  if s.flowLevel > 0 || s.indent ≥ column then s
  else
    let s := { s with indents := s.indent :: s.indents, indent := column }
    match number with
    | some n => { s with queue := insertAt (n - s.taken) ⟨mark, kind⟩ s.queue }
    | none => s.push mark kind

/-- The scanner remembering that a simple key could start here. -/
def saveSimpleKey (s : Scanner) : Scanner :=
  if s.keyAllowed then
    let k : SimpleKey := { possible := true,
                           required := s.flowLevel == 0 && s.indent == (s.mark.column : Int),
                           tokenNumber := s.taken + s.queue.length, mark := s.mark }
    { s with keys := k :: s.keys.drop 1 }
  else s

/-- The scanner with the possible simple key of this level given up; a required one refuses
the text. -/
def removeSimpleKey (s : Scanner) : Except Error Scanner :=
  match s.keys with
  | k :: ks =>
    if k.possible && k.required then s.fail "simple key expected"
    else .ok { s with keys := { k with possible := false } :: ks }
  | [] => .ok s

def fetchStreamStart (s : Scanner) : Scanner :=
  ({ s with indent := -1, started := true, keyAllowed := true, keys := [{}] }).push s.mark .streamStart

/-- The end of the stream, on a line of its own: every open block collection is closed. -/
def fetchStreamEnd (s : Scanner) : Except Error Scanner := do
  let s := if s.mark.column != 0 then
      { s with mark := { s.mark with column := 0, line := s.mark.line + 1 } }
    else s
  if s.keys.any fun k => k.required && k.possible then s.fail "simple key expected"
  else
    let s := { s with keys := s.keys.map fun (k : SimpleKey) => { k with possible := false } }
    let s ← (s.unrollIndent (-1)).removeSimpleKey
    pure (Scanner.push { s with keyAllowed := false } s.mark .streamEnd)

/-- The digits from here, as a number, and the scanner after them. -/
def number (s : Scanner) : Option Nat × Scanner :=
  let (ds, s) := s.takeWhile Char.isDigit
  (if ds.isEmpty then none
   else some (ds.foldl (fun n c => 10 * n + (c.toNat - '0'.toNat)) 0), s)

/-- A tag handle: `!`, `!!` or `!name!`, or in a tag the `!` and name that start its
suffix. -/
def tagHandle (s : Scanner) : String × Scanner :=
  let (name, s) := (s.skip).takeWhile isNameChar
  if s.ch == '!' then ("!" ++ String.ofList name ++ "!", s.skip)
  else ("!" ++ String.ofList name, s)

/-- A directive, from its `%`: `%YAML major.minor`, `%TAG handle prefix`, or any other, whose
line is skipped. -/
def scanDirective (s : Scanner) : Except Error Scanner := do
  let start := s.mark
  let failAt {α : Type} (info : String) : Except Error α := .error ⟨start, info⟩
  let (name, s) := (s.skip).takeWhile isNameChar
  if name.isEmpty then failAt "while scanning a directive, could not find expected directive name"
  else if !isBlankOrEnd s.ch then
    failAt "while scanning a directive, found unexpected non-alphabetical character"
  else
    let (kind, s) ← match String.ofList name with
      | "YAML" =>
        let s := s.skipWhile isBlank
        match s.number with
        | (none, _) => failAt "while scanning a YAML directive, did not find expected version number"
        | (some major, s) =>
          if s.ch != '.' then
            failAt "while scanning a YAML directive, did not find expected digit or '.' character"
          else
            match (s.skip).number with
            | (none, _) => failAt "while scanning a YAML directive, did not find expected version number"
            | (some minor, s) => pure (TokenKind.versionDirective major minor, s)
      | "TAG" =>
        let s := s.skipWhile isBlank
        if s.ch != '!' then failAt "while scanning a TAG directive, did not find expected '!'"
        else
          let (handle, s) := s.tagHandle
          if !handle.endsWith "!" then
            failAt "while parsing a tag directive, did not find expected '!'"
          else if !isBlank s.ch then
            failAt "while scanning a TAG directive, did not find expected whitespace"
          else
            let (pre, s) := (s.skipWhile isBlank).takeWhile fun c => isTagChar c || c == '!' || isFlowIndicator c
            if pre.isEmpty then failAt "while parsing a tag, did not find expected tag URI"
            else if !isBlankOrEnd s.ch then
              failAt "while scanning a TAG directive, did not find expected whitespace or line break"
            else pure (TokenKind.tagDirective handle (String.ofList pre), s)
      | _ => pure (TokenKind.tagDirective "" "", s.skipWhile (!isBreakOrEnd ·))
    let s := s.skipWhile isBlank
    let s := if s.ch == '#' then s.skipWhile (!isBreakOrEnd ·) else s
    if !isBreakOrEnd s.ch then
      failAt "while scanning a directive, did not find expected comment or line break"
    else pure ((s.skipBreak).push start kind)

def fetchDirective (s : Scanner) : Except Error Scanner := do
  let s ← (s.unrollIndent (-1)).removeSimpleKey
  scanDirective { s with keyAllowed := false }

def fetchDocumentIndicator (kind : TokenKind) (s : Scanner) : Except Error Scanner := do
  let s ← (s.unrollIndent (-1)).removeSimpleKey
  let s := { s with keyAllowed := false }
  pure ((s.skipN 3).push s.mark kind)

/-- The start of a flow sequence or mapping, which may start a simple key. -/
def fetchFlowCollectionStart (kind : TokenKind) (s : Scanner) : Except Error Scanner := do
  let s := s.saveSimpleKey
  if s.flowLevel ≥ 255 then s.fail "recursion limit exceeded"
  else
    let s := { s with keys := {} :: s.keys, flowLevel := s.flowLevel + 1, keyAllowed := true }
    let mark := s.mark
    let s ← (s.skip).skipToLineEnd
    pure (s.push mark kind)

def fetchFlowCollectionEnd (kind : TokenKind) (s : Scanner) : Except Error Scanner := do
  let s ← s.removeSimpleKey
  let s := if s.flowLevel > 0 then { s with flowLevel := s.flowLevel - 1, keys := s.keys.drop 1 }
    else s
  let s := { s with keyAllowed := false }
  let mark := s.mark
  let s ← (s.skip).skipToLineEnd
  let s := if s.flowLevel > 0 then { s with adjacentValueAt := s.mark.index } else s
  pure (s.push mark kind)

/-- The `,` between flow entries. -/
def fetchFlowEntry (s : Scanner) : Except Error Scanner := do
  let s ← s.removeSimpleKey
  let s := { s with keyAllowed := true }
  let mark := s.mark
  let s ← (s.skip).skipToLineEnd
  pure (s.push mark .flowEntry)

/-- The `-` of a block sequence entry, which opens a block sequence when further right than
the current indentation. -/
def fetchBlockEntry (s : Scanner) : Except Error Scanner := do
  if s.flowLevel > 0 then s.fail "\"-\" is only valid inside a block"
  else if !s.keyAllowed then s.fail "block sequence entries are not allowed in this context"
  else
    let mark := s.mark
    let s := s.rollIndent mark.column none .blockSequenceStart mark
    let s ← s.removeSimpleKey
    pure ((Scanner.skip { s with keyAllowed := true }).push mark .blockEntry)

def fetchKey (s : Scanner) : Except Error Scanner := do
  let mark := s.mark
  let s ← if s.flowLevel == 0 then
      if !s.keyAllowed then s.fail "mapping keys are not allowed in this context"
      else pure (s.rollIndent mark.column none .blockMappingStart mark)
    else pure s
  let s ← s.removeSimpleKey
  pure ((Scanner.skip { s with keyAllowed := s.flowLevel == 0 }).push mark .key)

/-- The `:` of a value. After a possible simple key, a key token is put in before the key's
tokens, with the start of a block mapping when the key is further right than the current
indentation. -/
def fetchValue (s : Scanner) : Except Error Scanner := do
  let mark := s.mark
  match s.keys with
  | k :: ks =>
    if k.possible then
      let s := { s with queue := insertAt (k.tokenNumber - s.taken) ⟨k.mark, .key⟩ s.queue }
      let s := s.rollIndent k.mark.column (some k.tokenNumber) .blockMappingStart mark
      let s := { s with keys := { k with possible := false } :: ks, keyAllowed := false }
      pure (s.skip.push mark .value)
    else
      let s ← if s.flowLevel == 0 then
          if !s.keyAllowed then s.fail "mapping values are not allowed in this context"
          else pure (s.rollIndent mark.column none .blockMappingStart mark)
        else pure s
      pure ((Scanner.skip { s with keyAllowed := s.flowLevel == 0 }).push mark .value)
  | [] => pure (s.skip.push mark .value)

def fetchAnchor (isAlias : Bool) (s : Scanner) : Except Error Scanner :=
  let s := { s.saveSimpleKey with keyAllowed := false }
  let mark := s.mark
  let (name, s) := (s.skip).takeWhile fun c => !isBlankOrEnd c && !isFlowIndicator c
  if name.isEmpty then
    .error ⟨mark, "while scanning an anchor or alias, did not find expected alphabetic or numeric character"⟩
  else
    let name := String.ofList name
    .ok (s.push mark (if isAlias then .alias name else .anchor name))

/-- A tag: `!<uri>`, `!handle!suffix`, `!suffix` or `!` alone. -/
def fetchTag (s : Scanner) : Except Error Scanner := do
  let s := { s.saveSimpleKey with keyAllowed := false }
  let mark := s.mark
  let (handle, suffix, s) ← if s.peek 1 == '<' then
      let (uri, s) := (s.skipN 2).takeWhile fun c => isTagChar c || c == '!' || isFlowIndicator c
      if s.ch != '>' then
        (Except.error ⟨mark, "while scanning a verbatim tag, did not find the expected '>'"⟩ :
          Except Error (String × String × Scanner))
      else pure ("", String.ofList uri, s.skip)
    else
      let (handle, s) := s.tagHandle
      if handle.length ≥ 2 && handle.endsWith "!" then
        let (suffix, s) := s.takeWhile isTagChar
        pure (handle, String.ofList suffix, s)
      else
        let (more, s) := s.takeWhile isTagChar
        let suffix := String.ofList ((handle.toList.drop 1) ++ more)
        if suffix.isEmpty then pure ("", "!", s) else pure ("!", suffix, s)
  if isBlankOrEnd s.ch || (s.flowLevel > 0 && isFlowIndicator s.ch) then
    pure (s.push mark (.tag handle suffix))
  else .error ⟨mark, "while scanning a tag, did not find expected whitespace or line break"⟩

/-- The indentation of a block scalar whose header gave none: that of its most indented
leading empty line or first line, at least one more than the enclosing block's and at least
one. -/
def autoIndent (parent : Int) (indent most : Nat) : Nat :=
  if indent == 0 then max (max most (parent + 1).toNat) 1 else indent

/-- The line breaks and indentation before the lines of a block scalar, the breaks added to
`breaks`; fixes the indentation `indent` when it is still `0`. At most `fuel` lines. -/
def blockScalarBreaks (parent : Int) : Nat → Scanner → Nat → Nat → String →
    Except Error (Scanner × Nat × String)
  | 0, s, indent, most, breaks => .ok (s, autoIndent parent indent most, breaks)
  | fuel + 1, s, indent, most, breaks =>
    let spaces := (s.rest.takeWhile (· == ' ')).length
    let room := if indent == 0 then spaces else min spaces (indent - s.mark.column)
    let s := s.skipN room
    let most := max most s.mark.column
    if (indent == 0 || s.mark.column < indent) && s.ch == '\t' then
      s.fail "while scanning a block scalar, found a tab character where an indentation space is expected"
    else if !isBreak s.ch then .ok (s, autoIndent parent indent most, breaks)
    else blockScalarBreaks parent fuel s.skipBreak indent most (breaks.push '\n')

/-- The lines of a block scalar at indentation `indent`, literal or folded. `leading` holds
the break ending the last line, `breaks` the empty lines after it. At most `fuel` lines. -/
def blockScalarLines (literal : Bool) (parent : Int) : Nat → Scanner → Nat → String → String →
    String → Bool → Except Error (Scanner × String × String × String)
  | 0, s, _, text, leading, breaks, _ => .ok (s, text, leading, breaks)
  | fuel + 1, s, indent, text, leading, breaks, leadingBlank =>
    if s.mark.column == indent && !isEnd s.ch then
      let trailingBlank := isBlank s.ch
      let text :=
        if !literal && !leading.isEmpty && !leadingBlank && !trailingBlank then
          if breaks.isEmpty then text.push ' ' else text
        else text ++ leading
      let text := text ++ breaks
      let leadingBlank := isBlank s.ch
      let (line, s) := s.takeWhile (!isBreakOrEnd ·)
      let text := text ++ String.ofList line
      if isEnd s.ch then .ok (s, text, "", "")
      else
        let s := s.skipBreak
        match blockScalarBreaks parent (s.rest.length + 1) s indent 0 "" with
        | .error e => .error e
        | .ok (s, indent, breaks) =>
          blockScalarLines literal parent fuel s indent text "\n" breaks leadingBlank
    else .ok (s, text, leading, breaks)

/-- A block scalar, from its `|` or `>`: the header with chomping `+`/`-` and an explicit
indentation digit, then the lines. Clipping keeps the last line break, stripping drops it,
keeping keeps the empty lines after it too. -/
def scanBlockScalar (literal : Bool) (s : Scanner) : Except Error (Token × Scanner) := do
  let start := s.mark
  let s := s.skip
  let failAt {α : Type} (info : String) : Except Error α := .error ⟨start, info⟩
  let chompOf (c : Char) : Int := if c == '+' then 1 else -1
  let (chomp, increment, s) ← if s.ch == '+' || s.ch == '-' then
      let chomp := chompOf s.ch
      let s := s.skip
      if s.ch.isDigit then
        if s.ch == '0' then
          failAt "while scanning a block scalar, found an indentation indicator equal to 0"
        else pure (chomp, s.ch.toNat - '0'.toNat, s.skip)
      else pure (chomp, 0, s)
    else if s.ch.isDigit then
      if s.ch == '0' then
        failAt "while scanning a block scalar, found an indentation indicator equal to 0"
      else
        let increment := s.ch.toNat - '0'.toNat
        let s := s.skip
        if s.ch == '+' || s.ch == '-' then pure (chompOf s.ch, increment, s.skip)
        else pure (0, increment, s)
    else pure ((0 : Int), 0, s)
  let s := s.skipWhile isBlank
  let s := if s.ch == '#' then s.skipWhile (!isBreakOrEnd ·) else s
  if !isBreakOrEnd s.ch then
    failAt "while scanning a block scalar, did not find expected comment or line break"
  else
    let s := if isBreak s.ch then s.skipBreak else s
    let indent := if increment > 0 then
        (if s.indent ≥ 0 then (s.indent + increment).toNat else increment)
      else 0
    let (s, indent, breaks) ← blockScalarBreaks s.indent (s.rest.length + 1) s indent 0 ""
    let (s, text, leading, breaks) ←
      blockScalarLines literal s.indent (s.rest.length + 1) s indent "" "" breaks false
    let text := if chomp != -1 then text ++ leading else text
    let text := if chomp == 1 then text ++ breaks else text
    pure (⟨start, .scalar (if literal then .literal else .folded) text⟩, s)

def fetchBlockScalar (literal : Bool) (s : Scanner) : Except Error Scanner := do
  let s := { s.saveSimpleKey with keyAllowed := true }
  let (t, s) ← s.scanBlockScalar literal
  pure (s.push t.mark t.kind)

/-- Whether a document indicator `---` or `...` stands at the start of a line here. -/
def atDocumentIndicator (s : Scanner) : Bool :=
  s.mark.column == 0 &&
    ((s.ch == '-' && s.peek 1 == '-' && s.peek 2 == '-') ||
     (s.ch == '.' && s.peek 1 == '.' && s.peek 2 == '.')) &&
    isBlankOrEnd (s.peek 3)

/-- The escape of a double-quoted scalar after its backslash: the character, and the number of
hexadecimal digits that follow for `x`, `u` and `U`. -/
def escapeOf (c : Char) : Option (Option Char × Nat) :=
  match c with
  | '0' => some (some (Char.ofNat 0), 0)
  | 'a' => some (some (Char.ofNat 7), 0)
  | 'b' => some (some (Char.ofNat 8), 0)
  | 't' | '\t' => some (some '\t', 0)
  | 'n' => some (some '\n', 0)
  | 'v' => some (some (Char.ofNat 11), 0)
  | 'f' => some (some (Char.ofNat 12), 0)
  | 'r' => some (some '\r', 0)
  | 'e' => some (some (Char.ofNat 27), 0)
  | ' ' => some (some ' ', 0)
  | '"' => some (some '"', 0)
  | '/' => some (some '/', 0)
  | '\'' => some (some '\'', 0)
  | '\\' => some (some '\\', 0)
  | 'N' => some (some (Char.ofNat 0x85), 0)
  | '_' => some (some (Char.ofNat 0xA0), 0)
  | 'L' => some (some (Char.ofNat 0x2028), 0)
  | 'P' => some (some (Char.ofNat 0x2029), 0)
  | 'x' => some (none, 2)
  | 'u' => some (none, 4)
  | 'U' => some (none, 8)
  | _ => none

/-- The characters of a quoted scalar up to a blank, a line break or its closing quote, added
to `text`; `true` when an escaped line break ended them. At most `fuel` characters. -/
def quotedRun (single : Bool) (start : Mark) : Nat → Scanner → String →
    Except Error (Scanner × String × Bool)
  | 0, s, text => .ok (s, text, false)
  | fuel + 1, s, text =>
    let c := s.ch
    if isBlankOrEnd c then .ok (s, text, false)
    else if single && c == '\'' then
      if s.peek 1 == '\'' then quotedRun single start fuel (s.skipN 2) (text.push '\'')
      else .ok (s, text, false)
    else if !single && c == '"' then .ok (s, text, false)
    else if !single && c == '\\' && isBreak (s.peek 1) then .ok ((s.skip).skipBreak, text, true)
    else if !single && c == '\\' then
      match escapeOf (s.peek 1) with
      | none => .error ⟨start, "while parsing a quoted scalar, found unknown escape character"⟩
      | some (some x, _) => quotedRun single start fuel (s.skipN 2) (text.push x)
      | some (none, width) =>
        let s := s.skipN 2
        let digits := s.rest.take width
        if digits.length < width || !digits.all isHexDigit then
          .error ⟨start, "while parsing a quoted scalar, did not find expected hexadecimal number"⟩
        else
          let code := digits.foldl (fun n d => 16 * n + hexDigitValue d) 0
          if code > 0x10FFFF || (0xD800 ≤ code && code ≤ 0xDFFF) then
            .error ⟨start, "while parsing a quoted scalar, found invalid Unicode character escape code"⟩
          else quotedRun single start fuel (s.skipN width) (text.push (Char.ofNat code))
    else quotedRun single start fuel s.skip (text.push c)

/-- Blanks and line breaks inside a quoted or plain scalar: the blanks of the line so far, the
first break and the breaks after it. At most `fuel` characters. -/
def scalarGap (fuel : Nat) (s : Scanner) (leading : Bool) (blanks firstBreak breaks : String) :
    Scanner × Bool × String × String × String :=
  match fuel with
  | 0 => (s, leading, blanks, firstBreak, breaks)
  | fuel + 1 =>
    let c := s.ch
    if isBlank c then
      if leading then scalarGap fuel s.skip leading blanks firstBreak breaks
      else scalarGap fuel s.skip leading (blanks.push c) firstBreak breaks
    else if isBreak c then
      if leading then scalarGap fuel s.skipBreak leading blanks firstBreak (breaks.push '\n')
      else scalarGap fuel s.skipBreak true "" (firstBreak.push '\n') breaks
    else (s, leading, blanks, firstBreak, breaks)

/-- The text joining two runs of a scalar: a single break folds to a space, more breaks
stand for themselves less the first, and blanks within a line stay. -/
def joinGap (leading : Bool) (blanks firstBreak breaks : String) : String :=
  if leading then
    if firstBreak.isEmpty then breaks
    else if breaks.isEmpty then " " else breaks
  else blanks

/-- The body of a quoted scalar after its opening quote, in at most `fuel` runs. -/
def quotedBody (single : Bool) (start : Mark) : Nat → Scanner → String →
    Except Error (Scanner × String)
  | 0, s, text => .ok (s, text)
  | fuel + 1, s, text =>
    if s.atDocumentIndicator then
      .error ⟨start, "while scanning a quoted scalar, found unexpected document indicator"⟩
    else if isEnd s.ch then
      .error ⟨start, "while scanning a quoted scalar, found unexpected end of stream"⟩
    else
      match quotedRun single start (s.rest.length + 1) s text with
      | .error e => .error e
      | .ok (s, text, escapedBreak) =>
        if (single && s.ch == '\'') || (!single && s.ch == '"') then .ok (s, text)
        else
          let (s, leading, blanks, firstBreak, breaks) :=
            scalarGap (s.rest.length + 1) s escapedBreak "" "" ""
          quotedBody single start fuel s (text ++ joinGap leading blanks firstBreak breaks)

/-- A single- or double-quoted scalar, from its quote; nothing but blanks and a comment, a
value indicator on its line, or in a flow collection a flow indicator may follow it. -/
def scanQuoted (single : Bool) (s : Scanner) : Except Error (Token × Scanner) := do
  let start := s.mark
  let (s, text) ← quotedBody single start (s.rest.length + 1) s.skip ""
  let s ← (s.skip).skipToLineEnd
  let c := s.ch
  let fine := (s.flowLevel > 0 && (c == ',' || c == '\x7d' || c == ']')) || isBreakOrEnd c ||
    (c == ':' && (s.flowLevel > 0 || start.line == s.mark.line))
  if fine then
    pure (⟨start, .scalar (if single then .singleQuoted else .doubleQuoted) text⟩, s)
  else s.fail "invalid trailing content after double-quoted scalar"

/-- A quoted scalar, which may start a simple key. -/
def fetchQuoted (single : Bool) (s : Scanner) : Except Error Scanner := do
  let s := { s.saveSimpleKey with keyAllowed := false }
  let (t, s) ← s.scanQuoted single
  let s ← skipToNextToken (s.rest.length + 1) s
  let s := { s with adjacentValueAt := s.mark.index }
  pure (s.push t.mark t.kind)

/-- Whether a plain scalar ends before the next character: at `: ` or the end, and in a flow
collection at a flow indicator or a `:` before one. -/
def plainStops (s : Scanner) : Bool :=
  let c := s.ch
  (c == ':' && (isBlankOrEnd (s.peek 1) || (s.flowLevel > 0 && isFlowIndicator (s.peek 1)))) ||
    (s.flowLevel > 0 && isFlowIndicator c)

/-- The characters of a plain scalar up to a blank or a stop, added to `text`. -/
def plainRun : Nat → Scanner → String → Scanner × String
  | 0, s, text => (s, text)
  | fuel + 1, s, text =>
    if isBlankOrEnd s.ch || s.plainStops then (s, text)
    else plainRun fuel s.skip (text.push s.ch)

/-- Blanks and line breaks after a run of a plain scalar, as `scalarGap`; a tab may not
indent a continuation line less than `indent`. -/
def plainGap (indent : Int) (start : Mark) : Nat → Scanner → Bool → String → String → String →
    Except Error (Scanner × Bool × String × String × String)
  | 0, s, leading, blanks, firstBreak, breaks => .ok (s, leading, blanks, firstBreak, breaks)
  | fuel + 1, s, leading, blanks, firstBreak, breaks =>
    let c := s.ch
    if isBlank c then
      if leading && (s.mark.column : Int) < indent && c == '\t' then
        .error ⟨start, "while scanning a plain scalar, found a tab"⟩
      else if leading then plainGap indent start fuel s.skip leading blanks firstBreak breaks
      else plainGap indent start fuel s.skip leading (blanks.push c) firstBreak breaks
    else if isBreak c then
      if leading then plainGap indent start fuel s.skipBreak leading blanks firstBreak (breaks.push '\n')
      else plainGap indent start fuel s.skipBreak true "" (firstBreak.push '\n') breaks
    else .ok (s, leading, blanks, firstBreak, breaks)

/-- The body of a plain scalar: runs of characters joined by their gaps, up to a comment, a
stop, a document indicator, or outside flow collections a line indented less than `indent`.
`pending` is the gap before the next run, with whether it holds a line break. In at most
`fuel` runs; also tells whether the scalar ended after a line break. -/
def plainBody (indent : Int) (start : Mark) : Nat → Scanner → String → Option (Bool × String) →
    Except Error (Scanner × String × Bool)
  | 0, s, text, pending => .ok (s, text, (pending.map (·.1)).getD false)
  | fuel + 1, s, text, pending =>
    if s.atDocumentIndicator || s.ch == '#' || isBlankOrEnd s.ch || s.plainStops then
      .ok (s, text, (pending.map (·.1)).getD false)
    else
      let text := text ++ ((pending.map (·.2)).getD "")
      let (s, text) := plainRun (s.rest.length + 1) s text
      if !(isBlank s.ch || isBreak s.ch) then .ok (s, text, false)
      else
        match plainGap indent start (s.rest.length + 1) s false "" "" "" with
        | .error e => .error e
        | .ok (s, leading, blanks, firstBreak, breaks) =>
          if s.flowLevel == 0 && (s.mark.column : Int) < indent then .ok (s, text, leading)
          else plainBody indent start fuel s text (some (leading, joinGap leading blanks firstBreak breaks))

/-- A plain scalar; a simple key may start after it when it ended at a line break. -/
def fetchPlain (s : Scanner) : Except Error Scanner := do
  let s := { s.saveSimpleKey with keyAllowed := false }
  let start := s.mark
  let (s, text, afterBreak) ← plainBody (s.indent + 1) start (s.rest.length + 1) s "" none
  let s := if afterBreak then { s with keyAllowed := true } else s
  pure (s.push start (.scalar .plain text))

/-- Reads the next token (or several, when a key or block ends are put in) into the queue. -/
def fetchNextToken (s : Scanner) : Except Error Scanner := do
  if !s.started then return s.fetchStreamStart
  let s ← skipToNextToken (s.rest.length + 1) s
  let s ← s.staleSimpleKeys
  let s := s.unrollIndent s.mark.column
  let c := s.ch
  let next := s.peek 1
  if isEnd c then return (← s.fetchStreamEnd)
  if s.mark.column == 0 then
    if c == '%' then return (← s.fetchDirective)
    if s.atDocumentIndicator then
      return (← s.fetchDocumentIndicator (if c == '-' then .documentStart else .documentEnd))
  match c with
  | '[' => s.fetchFlowCollectionStart .flowSequenceStart
  | '\x7b' => s.fetchFlowCollectionStart .flowMappingStart
  | ']' => s.fetchFlowCollectionEnd .flowSequenceEnd
  | '\x7d' => s.fetchFlowCollectionEnd .flowMappingEnd
  | ',' => s.fetchFlowEntry
  | '*' => s.fetchAnchor true
  | '&' => s.fetchAnchor false
  | '!' => s.fetchTag
  | '\'' => s.fetchQuoted true
  | '"' => s.fetchQuoted false
  | _ =>
    if c == '-' && isBlankOrEnd next then s.fetchBlockEntry
    else if c == '?' && isBlankOrEnd next then s.fetchKey
    else if c == ':' && (isBlankOrEnd next ||
        (s.flowLevel > 0 && (isFlowIndicator next || s.mark.index == s.adjacentValueAt))) then
      s.fetchValue
    else if (c == '|' || c == '>') && s.flowLevel == 0 then s.fetchBlockScalar (c == '|')
    else if c == '%' || c == '@' || c == '`' then
      s.fail ("unexpected character: `" ++ String.singleton c ++ "'")
    else s.fetchPlain

/-- Reads tokens until the first in the queue is settled: the queue holds one, and no
possible simple key starts at it. At most `fuel` reads. -/
def fetchMoreTokens : Nat → Scanner → Except Error Scanner
  | 0, s => .ok s
  | fuel + 1, s =>
    if s.queue.isEmpty then
      match s.fetchNextToken with
      | .ok s => fetchMoreTokens fuel s
      | .error e => .error e
    else
      match s.staleSimpleKeys with
      | .error e => .error e
      | .ok s =>
        if s.keys.any fun k => k.possible && k.tokenNumber == s.taken then
          match s.fetchNextToken with
          | .ok s => fetchMoreTokens fuel s
          | .error e => .error e
        else .ok s

/-- The next token and the scanner after it; nothing after the end of the stream. -/
def next (s : Scanner) : Except Error (Option Token × Scanner) := do
  if s.ended then return (none, s)
  let s ← fetchMoreTokens (s.rest.length + s.indents.length + 4) s
  match s.queue with
  | [] => pure (none, s)
  | t :: rest =>
    let s := { s with queue := rest, taken := s.taken + 1 }
    match t.kind with
    | .streamEnd => pure (some t, { s with ended := true })
    | _ => pure (some t, s)

end Scanner

def Scanner.ofText (text : String) : Scanner := { rest := text.toList }

end ProviderCoverage.Yaml
