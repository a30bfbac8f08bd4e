import ProviderCoverage.Yaml.Token.Scan

/-!
# YAML events

The events a YAML stream is read as: the bounds of the stream and of each document, scalars,
aliases, and the starts and ends of sequences and mappings, each at a mark. The parser is a
state machine over the tokens, with a stack of the states to come back to; it takes a token
only when the state at hand needs it, so of a scanning fault and a parsing fault the one met
first in reading order is reported.

A mapping's key or value that is left out, and a node that has only an anchor or a tag, is an
empty plain scalar: `~` for a left-out node, the empty text for a node with properties.
-/

namespace ProviderCoverage.Yaml

/-- A tag after resolving its handle: the prefix and the suffix. -/
structure Tag where
  handle : String
  suffix : String
  deriving Repr, Inhabited

/-- An event of a YAML stream. Anchors are numbered from one; `0` is no anchor. -/
inductive Event where
  | streamStart
  | streamEnd
  | documentStart
  | documentEnd
  | alias (anchor : Nat)
  | scalar (text : String) (style : ScalarStyle) (anchor : Nat) (tag : Option Tag)
  | sequenceStart (anchor : Nat) (tag : Option Tag)
  | sequenceEnd
  | mappingStart (anchor : Nat) (tag : Option Tag)
  | mappingEnd
  deriving Repr, Inhabited

def Event.emptyScalar : Event := .scalar "~" .plain 0 none

/-- What the parser expects next. -/
inductive ParseState where
  | streamStart
  | implicitDocumentStart
  | documentStart
  | documentContent
  | documentEnd
  | blockNode
  | blockNodeOrIndentlessSequence
  | flowNode
  | blockMappingFirstKey
  | blockMappingKey
  | blockMappingValue
  | blockSequenceFirstEntry
  | blockSequenceEntry
  | flowSequenceFirstEntry
  | flowSequenceEntry
  | flowMappingFirstKey
  | flowMappingKey
  | flowMappingValue
  | flowMappingEmptyValue
  | indentlessSequenceEntry
  | flowSequenceEntryMappingKey
  | flowSequenceEntryMappingValue
  | flowSequenceEntryMappingEnd
  | finished
  deriving Repr, DecidableEq, Inhabited

/-- The state of the parser. -/
structure Parser where
  scanner : Scanner
  /-- The token looked at and not yet taken. -/
  token : Option Token := none
  state : ParseState := .streamStart
  /-- The states to come back to, the next first. -/
  states : List ParseState := []
  /-- The anchors defined, the latest first, with their numbers. -/
  anchors : List (String × Nat) := []
  /-- The number of anchors defined. -/
  anchorCount : Nat := 0
  /-- The tag handles a `%TAG` directive defined, with their prefixes. -/
  tagHandles : List (String × String) := []
  /-- Whether the document had a `%YAML` directive. -/
  versioned : Bool := false
  deriving Inhabited

/-- What one step of the parser gives: an event at a mark, and the parser after it. -/
abbrev Step := Except Error (Event × Mark × Parser)

namespace Parser

/-- The token looked at, reading it when none is. -/
def peek (p : Parser) : Except Error (Token × Parser) :=
  match p.token with
  | some t => .ok (t, p)
  | none =>
    match p.scanner.next with
    | .ok (some t, s) => .ok (t, { p with token := some t, scanner := s })
    | .ok (none, s) => .error ⟨s.mark, "unexpected eof"⟩
    | .error e => .error e

def skip (p : Parser) : Parser := { p with token := none }

def goTo (p : Parser) (state : ParseState) : Parser := { p with state := state }

/-- The parser going on in `state`, coming back to `after`. -/
def call (p : Parser) (after state : ParseState) : Parser :=
  { p with states := after :: p.states, state := state }

/-- The parser coming back to the state last saved. -/
def ret (p : Parser) : Parser :=
  match p.states with
  | s :: ss => { p with state := s, states := ss }
  | [] => { p with state := .finished }

def emit (p : Parser) (e : Event) (mark : Mark) : Step := .ok (e, mark, p)

def defineAnchor (p : Parser) (name : String) : Nat × Parser :=
  let n := p.anchorCount + 1
  (n, { p with anchorCount := n, anchors := (name, n) :: p.anchors })

/-- A tag with its handle resolved: `!!` to the standard prefix unless redefined, `!` and
other declared handles to their prefixes; an undeclared `!name!` handle refuses the text. -/
def resolveTag (p : Parser) (mark : Mark) (handle suffix : String) : Except Error Tag :=
  if handle == "!!" then
    .ok ⟨((p.tagHandles.lookup "!!").getD "tag:yaml.org,2002:"), suffix⟩
  else if handle.isEmpty && suffix == "!" then
    .ok ⟨(p.tagHandles.lookup "").getD "", suffix⟩
  else
    match p.tagHandles.lookup handle with
    | some pre => .ok ⟨pre, suffix⟩
    | none =>
      if handle.length ≥ 2 && handle.startsWith "!" && handle.endsWith "!" then
        .error ⟨mark, "the handle wasn't declared"⟩
      else .ok ⟨handle, suffix⟩

/-- The anchor and tag before a node, in either order. -/
def properties (p : Parser) : Except Error (Nat × Option Tag × Parser) := do
  let (t, p) ← p.peek
  match t.kind with
  | .anchor name =>
    let (n, p) := p.skip.defineAnchor name
    let (t2, p) ← p.peek
    match t2.kind with
    | .tag handle suffix =>
      let tag ← p.resolveTag t.mark handle suffix
      pure (n, some tag, p.skip)
    | _ => pure (n, none, p)
  | .tag handle suffix =>
    let tag ← p.resolveTag t.mark handle suffix
    let p := p.skip
    let (t2, p) ← p.peek
    match t2.kind with
    | .anchor name =>
      let (n, p) := p.skip.defineAnchor name
      pure (n, some tag, p)
    | _ => pure (0, some tag, p)
  | _ => pure (0, none, p)

/-- A node: an alias, or properties and then a scalar, a collection, or nothing. -/
def parseNode (block indentless : Bool) (p : Parser) : Step := do
  let (t, p) ← p.peek
  match t.kind with
  | .alias name =>
    match p.anchors.lookup name with
    | some n => p.skip.ret.emit (.alias n) t.mark
    | none => .error ⟨t.mark, "while parsing node, found unknown anchor"⟩
  | _ =>
    let (anchor, tag, p) ← p.properties
    let (t, p) ← p.peek
    match t.kind with
    | .scalar style text => p.skip.ret.emit (.scalar text style anchor tag) t.mark
    | .flowSequenceStart => (p.goTo .flowSequenceFirstEntry).emit (.sequenceStart anchor tag) t.mark
    | .flowMappingStart => (p.goTo .flowMappingFirstKey).emit (.mappingStart anchor tag) t.mark
    | .blockEntry =>
      if indentless then (p.goTo .indentlessSequenceEntry).emit (.sequenceStart anchor tag) t.mark
      else if tag.isSome || anchor > 0 then p.ret.emit (.scalar "" .plain anchor tag) t.mark
      else .error ⟨t.mark, "while parsing a node, did not find expected node content"⟩
    | .blockSequenceStart =>
      if block then (p.goTo .blockSequenceFirstEntry).emit (.sequenceStart anchor tag) t.mark
      else if tag.isSome || anchor > 0 then p.ret.emit (.scalar "" .plain anchor tag) t.mark
      else .error ⟨t.mark, "while parsing a node, did not find expected node content"⟩
    | .blockMappingStart =>
      if block then (p.goTo .blockMappingFirstKey).emit (.mappingStart anchor tag) t.mark
      else if tag.isSome || anchor > 0 then p.ret.emit (.scalar "" .plain anchor tag) t.mark
      else .error ⟨t.mark, "while parsing a node, did not find expected node content"⟩
    | _ =>
      if tag.isSome || anchor > 0 then p.ret.emit (.scalar "" .plain anchor tag) t.mark
      else .error ⟨t.mark, "while parsing a node, did not find expected node content"⟩

/-- The directives before a document: a `%YAML` version at most once, and `%TAG` handles,
each at most once; a directive of another name counts as a `%TAG` of the empty handle. -/
def directives : Nat → Parser → Except Error Parser
  | 0, p => .ok p
  | fuel + 1, p => do
    let (t, p) ← p.peek
    match t.kind with
    | .versionDirective _ _ =>
      if p.versioned then .error ⟨t.mark, "duplicate version directive"⟩
      else directives fuel { p.skip with versioned := true }
    | .tagDirective handle pre =>
      if (p.tagHandles.lookup handle).isSome then
        .error ⟨t.mark, "the TAG directive must only be given at most once per handle in the same document"⟩
      else directives fuel { p.skip with tagHandles := (handle, pre) :: p.tagHandles }
    | _ => .ok p

/-- The start of a document, or the end of the stream. -/
def documentStart (implicit : Bool) (p : Parser) : Step := do
  let rec skipEnds : Nat → Parser → Except Error (Token × Parser)
    | 0, p => p.peek
    | fuel + 1, p => do
      let (t, p) ← p.peek
      match t.kind with
      | .documentEnd => skipEnds fuel p.skip
      | _ => pure (t, p)
  let (t, p) ← if implicit then p.peek else skipEnds (p.scanner.rest.length + 2) p
  let explicitStart : Parser → Step := fun p => do
    let p ← directives (p.scanner.rest.length + 2) { p with tagHandles := [], versioned := false }
    let (t, p) ← p.peek
    match t.kind with
    | .documentStart => (p.skip.call .documentEnd .documentContent).emit .documentStart t.mark
    | _ => .error ⟨t.mark, "did not find expected <document start>"⟩
  match t.kind with
  | .streamEnd => (p.skip.goTo .finished).emit .streamEnd t.mark
  | .versionDirective _ _ | .tagDirective _ _ | .documentStart => explicitStart p
  | _ =>
    if implicit then
      let p ← directives (p.scanner.rest.length + 2) { p with tagHandles := [], versioned := false }
      (p.call .documentEnd .blockNode).emit .documentStart t.mark
    else explicitStart p

/-- The content of an explicit document: empty when the document ends at once. -/
def documentContent (p : Parser) : Step := do
  let (t, p) ← p.peek
  match t.kind with
  | .versionDirective _ _ | .tagDirective _ _ | .documentStart | .documentEnd | .streamEnd =>
    p.ret.emit Event.emptyScalar t.mark
  | _ => p.parseNode true false

/-- The end of a document, explicit with `...` or not; a directive may only follow an
explicit end. -/
def documentEnd (p : Parser) : Step := do
  let (t, p) ← p.peek
  match t.kind with
  | .documentEnd => (p.skip.goTo .implicitDocumentStart).emit .documentEnd t.mark
  | .versionDirective _ _ | .tagDirective _ _ =>
    .error ⟨t.mark, "missing explicit document end marker before directive"⟩
  | _ => (p.goTo .documentStart).emit .documentEnd t.mark

/-- A key of a block mapping, or its end. -/
def blockMappingKey (first : Bool) (p : Parser) : Step := do
  let p ← if first then do let (_, p) ← p.peek; pure p.skip else pure p
  let (t, p) ← p.peek
  match t.kind with
  | .key =>
    let p := p.skip
    let (t2, p) ← p.peek
    match t2.kind with
    | .key | .value | .blockEnd => (p.goTo .blockMappingValue).emit Event.emptyScalar t2.mark
    | _ => ({ p with states := .blockMappingValue :: p.states }).parseNode true true
  | .value => (p.goTo .blockMappingValue).emit Event.emptyScalar t.mark
  | .blockEnd => p.ret.skip.emit .mappingEnd t.mark
  | _ => .error ⟨t.mark, "while parsing a block mapping, did not find expected key"⟩

/-- A value of a block mapping, left out when no `:` follows. -/
def blockMappingValue (p : Parser) : Step := do
  let (t, p) ← p.peek
  match t.kind with
  | .value =>
    let p := p.skip
    let (t2, p) ← p.peek
    match t2.kind with
    | .key | .value | .blockEnd => (p.goTo .blockMappingKey).emit Event.emptyScalar t2.mark
    | _ => ({ p with states := .blockMappingKey :: p.states }).parseNode true true
  | _ => (p.goTo .blockMappingKey).emit Event.emptyScalar t.mark

/-- An entry of a block sequence, or its end. -/
def blockSequenceEntry (first : Bool) (p : Parser) : Step := do
  let p ← if first then do let (_, p) ← p.peek; pure p.skip else pure p
  let (t, p) ← p.peek
  match t.kind with
  | .blockEnd => p.ret.skip.emit .sequenceEnd t.mark
  | .blockEntry =>
    let p := p.skip
    let (t2, p) ← p.peek
    match t2.kind with
    | .blockEntry | .blockEnd => (p.goTo .blockSequenceEntry).emit Event.emptyScalar t2.mark
    | _ => ({ p with states := .blockSequenceEntry :: p.states }).parseNode true false
  | _ => .error ⟨t.mark, "while parsing a block collection, did not find expected '-' indicator"⟩

/-- An entry of a sequence written at the indentation of its mapping key, or its end. -/
def indentlessSequenceEntry (p : Parser) : Step := do
  let (t, p) ← p.peek
  match t.kind with
  | .blockEntry =>
    let p := p.skip
    let (t2, p) ← p.peek
    match t2.kind with
    | .blockEntry | .key | .value | .blockEnd =>
      (p.goTo .indentlessSequenceEntry).emit Event.emptyScalar t2.mark
    | _ => ({ p with states := .indentlessSequenceEntry :: p.states }).parseNode true false
  | _ => p.ret.emit .sequenceEnd t.mark

/-- An entry of a flow sequence, or its end; a key in it starts a mapping of one pair. -/
def flowSequenceEntry (first : Bool) (p : Parser) : Step := do
  let p ← if first then do let (_, p) ← p.peek; pure p.skip else pure p
  let (t, p) ← p.peek
  let p ← match t.kind with
    | .flowSequenceEnd => pure p
    | .flowEntry => if first then pure p else pure p.skip
    | _ =>
      if first then pure p
      else .error ⟨t.mark, "while parsing a flow sequence, expected ',' or ']'"⟩
  match t.kind with
  | .flowSequenceEnd => p.ret.skip.emit .sequenceEnd t.mark
  | _ =>
    let (t, p) ← p.peek
    match t.kind with
    | .flowSequenceEnd => p.ret.skip.emit .sequenceEnd t.mark
    | .key => (p.skip.goTo .flowSequenceEntryMappingKey).emit (.mappingStart 0 none) t.mark
    | _ => ({ p with states := .flowSequenceEntry :: p.states }).parseNode false false

def flowSequenceEntryMappingKey (p : Parser) : Step := do
  let (t, p) ← p.peek
  match t.kind with
  | .value | .flowEntry | .flowSequenceEnd =>
    (p.goTo .flowSequenceEntryMappingValue).emit Event.emptyScalar t.mark
  | _ => ({ p with states := .flowSequenceEntryMappingValue :: p.states }).parseNode false false

def flowSequenceEntryMappingValue (p : Parser) : Step := do
  let (t, p) ← p.peek
  match t.kind with
  | .value =>
    let p := p.skip
    let (t2, p) ← p.peek
    match t2.kind with
    | .flowEntry | .flowSequenceEnd =>
      (p.goTo .flowSequenceEntryMappingEnd).emit Event.emptyScalar t2.mark
    | _ => ({ p with states := .flowSequenceEntryMappingEnd :: p.states }).parseNode false false
  | _ => (p.goTo .flowSequenceEntryMappingEnd).emit Event.emptyScalar t.mark

/-- A key of a flow mapping, or its end. -/
def flowMappingKey (first : Bool) (p : Parser) : Step := do
  let p ← if first then do let (_, p) ← p.peek; pure p.skip else pure p
  let (t, p) ← p.peek
  match t.kind with
  | .flowMappingEnd => p.ret.skip.emit .mappingEnd t.mark
  | _ =>
    let p ← if first then pure p
      else match t.kind with
        | .flowEntry => pure p.skip
        | _ => .error ⟨t.mark, "while parsing a flow mapping, did not find expected ',' or '\x7d'"⟩
    let (t, p) ← p.peek
    match t.kind with
    | .key =>
      let p := p.skip
      let (t2, p) ← p.peek
      match t2.kind with
      | .value | .flowEntry | .flowMappingEnd => (p.goTo .flowMappingValue).emit Event.emptyScalar t2.mark
      | _ => ({ p with states := .flowMappingValue :: p.states }).parseNode false false
    | .value => (p.goTo .flowMappingValue).emit Event.emptyScalar t.mark
    | .flowMappingEnd => p.ret.skip.emit .mappingEnd t.mark
    | _ => ({ p with states := .flowMappingEmptyValue :: p.states }).parseNode false false

/-- A value of a flow mapping, left out when no `:` follows or `empty` says so. -/
def flowMappingValue (empty : Bool) (p : Parser) : Step := do
  let (t, p) ← p.peek
  if empty then (p.goTo .flowMappingKey).emit Event.emptyScalar t.mark
  else
    match t.kind with
    | .value =>
      let p := p.skip
      let (t2, p) ← p.peek
      match t2.kind with
      | .flowEntry | .flowMappingEnd => (p.goTo .flowMappingKey).emit Event.emptyScalar t.mark
      | _ => ({ p with states := .flowMappingKey :: p.states }).parseNode false false
    | _ => (p.goTo .flowMappingKey).emit Event.emptyScalar t.mark

def step (p : Parser) : Step :=
  match p.state with
  | .streamStart => do
    let (t, p) ← p.peek
    match t.kind with
    | .streamStart => (p.skip.goTo .implicitDocumentStart).emit .streamStart t.mark
    | _ => .error ⟨t.mark, "did not find expected <stream-start>"⟩
  | .implicitDocumentStart => p.documentStart true
  | .documentStart => p.documentStart false
  | .documentContent => p.documentContent
  | .documentEnd => p.documentEnd
  | .blockNode => p.parseNode true false
  | .blockNodeOrIndentlessSequence => p.parseNode true true
  | .flowNode => p.parseNode false false
  | .blockMappingFirstKey => p.blockMappingKey true
  | .blockMappingKey => p.blockMappingKey false
  | .blockMappingValue => p.blockMappingValue
  | .blockSequenceFirstEntry => p.blockSequenceEntry true
  | .blockSequenceEntry => p.blockSequenceEntry false
  | .flowSequenceFirstEntry => p.flowSequenceEntry true
  | .flowSequenceEntry => p.flowSequenceEntry false
  | .flowMappingFirstKey => p.flowMappingKey true
  | .flowMappingKey => p.flowMappingKey false
  | .flowMappingValue => p.flowMappingValue false
  | .flowMappingEmptyValue => p.flowMappingValue true
  | .indentlessSequenceEntry => p.indentlessSequenceEntry
  | .flowSequenceEntryMappingKey => p.flowSequenceEntryMappingKey
  | .flowSequenceEntryMappingValue => p.flowSequenceEntryMappingValue
  | .flowSequenceEntryMappingEnd =>
    (p.goTo .flowSequenceEntry).emit .mappingEnd p.scanner.mark
  | .finished => .error ⟨p.scanner.mark, "unexpected eof"⟩

/-- The events from here to the end of the stream, after `acc` (reversed), in at most `fuel`
steps. -/
def run : Nat → Parser → List (Event × Mark) → Except Error (List (Event × Mark))
  | 0, p, _ => .error ⟨p.scanner.mark, "unexpected eof"⟩
  | fuel + 1, p, acc =>
    match p.step with
    | .error e => .error e
    | .ok (e, m, p) =>
      match e with
      | .streamEnd => .ok ((e, m) :: acc).reverse
      | _ => run fuel p ((e, m) :: acc)

end Parser

/-- The events of a whole YAML text, or the first fault met in reading it. Each token gives
rise to a bounded number of events, so four per character suffice. -/
def Event.readAll (text : String) : Except Error (List (Event × Mark)) :=
  Parser.run (4 * text.length + 16) { scanner := Scanner.ofText text } []

end ProviderCoverage.Yaml
