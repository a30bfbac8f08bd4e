import ProviderCoverage.Go.Token
import ProviderCoverage.Unicode.Word

/-!
# Scanning Go source

Go source is scanned into tokens left to right. Blanks and comments separate tokens; a line
break (also one inside a block comment) after a token that can end a statement stands for a
semicolon, and so does the end of the text. Operators are read longest first. A byte order mark
at the start of the text is skipped. Each step consumes at least one character.
-/

namespace ProviderCoverage.Go

open Unicode

def isIdentStart (c : Char) : Bool := c == '_' || (isWord c && !isDecimalDigit c)

def isIdentChar (c : Char) : Bool := isWord c

def byteLength (c : Char) : Nat := c.utf8Size

/-- Where scanning stands: the rest of the text, its character offset, line and byte column. -/
structure Place where
  rest : List Char
  offset : Nat
  line : Nat
  column : Nat

namespace Place

/-- Past the characters `cs`, which the rest starts with. -/
def advance (p : Place) (cs : List Char) : Place :=
  cs.foldl (fun q c =>
    if c == '\n' then ⟨q.rest.drop 1, q.offset + 1, q.line + 1, 0⟩
    else ⟨q.rest.drop 1, q.offset + 1, q.line, q.column + byteLength c⟩) p

end Place

/-- The length of the literal number at the start of `cs`, and its kind. -/
def numberLength (cs : List Char) : Nat × TokKind :=
  let isNumChar (c : Char) := c.isAlphanum || c == '_' || c == '.'
  -- a number runs over digits, letters, underscores and points, and signs after exponents
  let rec go : List Char → Nat → Bool → Bool → Nat × Bool
    | c :: d :: rest, n, hex, dot =>
      if (c == 'e' || c == 'E' || ((c == 'p' || c == 'P') && hex)) && (d == '+' || d == '-') &&
          !(c == 'e' && hex) && !(c == 'E' && hex) then
        go rest (n + 2) hex true
      else if c == '.' then
        if dot then (n, dot) else go (d :: rest) (n + 1) hex true
      else if isNumChar c then go (d :: rest) (n + 1) hex dot
      else (n, dot)
    | [c], n, _, dot => if isNumChar c && !(c == '.' && dot) then (n + 1, dot) else (n, dot)
    | [], n, _, dot => (n, dot)
  let hex := match cs with
    | '0' :: x :: _ => x == 'x' || x == 'X'
    | _ => false
  let (n, _) := go cs 0 hex false
  let text := cs.take n
  let kind :=
    if text.getLast? == some 'i' then TokKind.imaginary
    else if hex then (if text.contains 'p' || text.contains 'P' then .float else .int)
    else if text.contains '.' || text.contains 'e' || text.contains 'E' then .float
    else .int
  (max n 1, kind)

/-- The length of a quoted literal whose opening quote is the first character, up to and
including its closing quote (or the end of the line for an unclosed one). -/
def quotedLength (quote : Char) (cs : List Char) : Nat :=
  let rec go : List Char → Nat → Nat
    | [], n => n
    | '\\' :: _ :: rest, n => go rest (n + 2)
    | c :: rest, n => if c == quote then n + 1 else if c == '\n' then n else go rest (n + 1)
  go (cs.drop 1) 1

/-- The length of a raw string literal, through its closing backquote. -/
def rawLength (cs : List Char) : Nat :=
  match (cs.drop 1).findIdx? (· == '`') with
  | some i => i + 2
  | none => cs.length

/-- The operator the text starts with, if any. -/
def operatorAt (cs : List Char) : Option String :=
  operators.find? fun o => o.toList.isPrefixOf cs

/-- Scans `fuel` steps from `p`, `last` being the last token so far (for implied semicolons);
the tokens come out in order. -/
def scan : Nat → Place → Option Token → List Token
  | 0, p, _ => [⟨.eof, "", p.offset, p.offset, p.line, p.column⟩]
  | fuel + 1, p, last =>
    let implied (q : Place) : List Token :=
      match last with
      | some t => if t.endsStatement then [⟨.semi, "", q.offset, q.offset, q.line, q.column⟩] else []
      | none => []
    match p.rest with
    | [] => implied p ++ [⟨.eof, "", p.offset, p.offset, p.line, p.column⟩]
    | c :: rest =>
      if c == '\n' then implied p ++ scan fuel (p.advance [c]) none
      else if c == ' ' || c == '\t' || c == '\r' || c.toNat == 0xFEFF then
        scan fuel (p.advance [c]) last
      else if c == '/' && rest.head? == some '/' then
        let body := p.rest.takeWhile (· != '\n')
        scan fuel (p.advance body) last
      else if c == '/' && rest.head? == some '*' then
        let len := match (rest.drop 1).zip (rest.drop 2) |>.findIdx? (fun (a, b) => a == '*' && b == '/') with
          | some i => i + 4
          | none => p.rest.length
        let body := p.rest.take len
        if body.contains '\n' then implied p ++ scan fuel (p.advance body) none
        else scan fuel (p.advance body) last
      else
        let (len, kind) :=
          if isIdentStart c then
            let n := (p.rest.takeWhile isIdentChar).length
            let word := String.ofList (p.rest.take n)
            (n, if keywords.contains word then TokKind.keyword else .ident)
          else if c.isDigit || (c == '.' && (rest.head?.map Char.isDigit).getD false) then
            numberLength p.rest
          else if c == '"' then (quotedLength '"' p.rest, .string)
          else if c == '\'' then (quotedLength '\'' p.rest, .rune)
          else if c == '`' then (rawLength p.rest, .rawString)
          else match operatorAt p.rest with
            | some o => (o.length, if o == ";" then .semi else .op)
            | none => (1, .op)
        let text := p.rest.take (max len 1)
        let tok : Token := ⟨kind, String.ofList text, p.offset, p.offset + text.length, p.line,
          p.column⟩
        tok :: scan fuel (p.advance text) (some tok)

/-- The tokens of Go source, ending with an end-of-text token. -/
def tokenize (source : String) : Array Token :=
  let cs := source.toList
  (scan (cs.length + 2) ⟨cs, 0, 0, 0⟩ none).toArray

end ProviderCoverage.Go
