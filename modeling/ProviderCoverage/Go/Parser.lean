import ProviderCoverage.Go.Lexer
import ProviderCoverage.Go.Syntax

/-!
# Reading Go source into a syntax tree

A recursive-descent reader for Go over the token array of `tokenize`. It builds the syntax
tree of `Go.Syntax`: declarations, statements, expressions and types, with composite literals
told apart from blocks as Go does (a literal whose type is a bare name is not read in the
header of an `if`, `for` or `switch`, outside brackets). A statement or declaration that
cannot be read is skipped up to the end of its line (brackets balanced), and reading goes on;
the tree keeps what could be read.

Every production takes a fuel argument that bounds the nesting of the reader's calls; the
fuel given by `parse` exceeds what any reading of the text can use, since each call either
consumes a token or is one of a bounded chain of calls before the next token.
-/

namespace ProviderCoverage.Go

/-- Why a production failed: the character offset where it stood, and what it expected. -/
structure SyntaxError where
  offset : Nat
  expected : String
  deriving Repr

/-- A reader over a token array, at a token index, that may fail. -/
abbrev Parse := ReaderT (Array Token) (StateT Nat (Except SyntaxError))

def Token.span (t : Token) : Span := ⟨t.start, t.stop, t.line, t.column⟩

def leaf (k : Kind) (t : Token) : Node := { kind := k, span := t.span }

/-- The end of the last token before index `i` that is not a semicolon; at most `fuel`
tokens are looked at. -/
def lastRealStop (ts : Array Token) : Nat → Nat → Nat
  | 0, _ => 0
  | _ + 1, 0 => 0
  | fuel + 1, i + 1 =>
    let t := ts.getD i default
    if t.kind == .semi then lastRealStop ts fuel i else t.stop

def Token.isOp (t : Token) (s : String) : Bool := t.kind == .op && t.text == s

def Token.isKeyword (t : Token) (s : String) : Bool := t.kind == .keyword && t.text == s

def Token.opens (t : Token) : Bool := t.isOp "(" || t.isOp "[" || t.isOp "\x7b"

def Token.closes (t : Token) : Bool := t.isOp ")" || t.isOp "]" || t.isOp "\x7d"

/-- The index where skipping an unreadable statement from index `i` stops: the first token
is always passed over; then the skip stops before a semicolon, a closing bracket or the end
of the text, at bracket depth zero. -/
def skipFrom (ts : Array Token) : Nat → Nat → Nat → Bool → Nat
  | 0, i, _, _ => i
  | fuel + 1, i, depth, first =>
    let t := ts.getD i default
    if t.kind == .eof then i
    else if !first && depth == 0 && (t.kind == .semi || t.closes) then i
    else
      let depth := if t.opens then depth + 1 else if t.closes then depth - 1 else depth
      skipFrom ts fuel (i + 1) depth false

/-- The index where skipping the unreadable rest of a list item from index `i` stops: before
a comma or a closing bracket at bracket depth zero, or at the end of the text. -/
def skipItemFrom (ts : Array Token) : Nat → Nat → Nat → Nat
  | 0, i, _ => i
  | fuel + 1, i, depth =>
    let t := ts.getD i default
    if t.kind == .eof then i
    else if depth == 0 && (t.isOp "," || t.closes) then i
    else
      let depth := if t.opens then depth + 1 else if t.closes then depth - 1 else depth
      skipItemFrom ts fuel (i + 1) depth

/-- The binding strength of a binary operator, or zero for other tokens. -/
def binaryPrecedence (t : Token) : Nat :=
  if t.kind != .op then 0
  else match t.text with
    | "*" | "/" | "%" | "<<" | ">>" | "&" | "&^" => 5
    | "+" | "-" | "|" | "^" => 4
    | "==" | "!=" | "<" | "<=" | ">" | ">=" => 3
    | "&&" => 2
    | "||" => 1
    | _ => 0

def assignOperators : List String :=
  ["=", "+=", "-=", "*=", "/=", "%=", "&=", "|=", "^=", "<<=", ">>=", "&^="]

def Token.startsType (t : Token) : Bool :=
  t.kind == .ident || t.isOp "*" || t.isOp "[" || t.isOp "(" || t.isOp "<-" ||
    t.isKeyword "map" || t.isKeyword "chan" || t.isKeyword "func" ||
    t.isKeyword "struct" || t.isKeyword "interface"

/-- The type an expression names when it stands before a literal body: a name, a qualified
name, or either of them with type arguments. -/
def asType? (e : Node) : Option Node :=
  let simple (x : Node) : Option Node :=
    match x.kind, x.children with
    | .identifier, _ => some { x with kind := .typeIdentifier }
    | .selectorExpression, [pkg, name] =>
      if pkg.kind == .identifier then
        some { x with kind := .qualifiedType, children :=
          [{ pkg with kind := .packageIdentifier, field := some .package },
           { name with kind := .typeIdentifier, field := some .name }] }
      else none
    | _, _ => none
  match e.kind, e.children with
  | .indexExpression, base :: args =>
    match simple base with
    | some ty =>
      let args := args.map fun a => ((simple a).getD a).withField .typeArguments
      let argSpan := match args.head?, args.getLast? with
        | some a, some b => ⟨a.span.start, b.span.stop, a.span.line, a.span.column⟩
        | _, _ => e.span
      let argNode : Node := { kind := .typeArguments, span := argSpan, children := args }
      some { e with kind := .genericType,
                    children := [ty.withField .type, argNode.withField .typeArguments] }
    | none => none
  | _, _ => simple e

/-- The parts of a parameter list before names and types are told apart: an optional name,
a type, and whether it is variadic. -/
structure ParamEntry where
  name : Option Node
  type : Node
  variadic : Bool

/-- Groups parameter entries into declarations as Go does: when some entry has a name, a lone
name before it shares its type. -/
def groupParams (entries : List ParamEntry) : List Node :=
  let declOf (names : List Node) (e : ParamEntry) : Node :=
    let start := (names.head?.map (·.span)).getD e.type.span
    let span : Span := ⟨start.start, e.type.span.stop, start.line, start.column⟩
    { kind := if e.variadic then .variadicParameterDeclaration else .parameterDeclaration,
      span := span,
      children := names.map (·.withField .name) ++ [e.type.withField .type] }
  if entries.any (·.name.isSome) then
    let step (acc : List Node × List Node) (e : ParamEntry) : List Node × List Node :=
      match e.name with
      | some nm => (acc.1 ++ [declOf (acc.2 ++ [nm]) e], [])
      | none => (acc.1, acc.2 ++ [{ e.type with kind := .identifier }])
    let (decls, pending) := entries.foldl step ([], [])
    decls ++ pending.map fun p => declOf [] ⟨none, { p with kind := .typeIdentifier }, false⟩
  else entries.map (declOf [] ·)

namespace Parse

def peekAt (k : Nat) : Parse Token := do
  let ts ← read
  let i ← get
  pure (ts.getD (i + k) (ts.back?.getD default))

def peek : Parse Token := peekAt 0

def bump : Parse Token := do
  let t ← peek
  modify (· + 1)
  pure t

/-- Fails, expecting `what`. -/
def fail {α : Type} (what : String) : Parse α := do
  throw ⟨(← peek).start, what⟩

def atOp (s : String) : Parse Bool := do pure ((← peek).isOp s)

def atKeyword (s : String) : Parse Bool := do pure ((← peek).isKeyword s)

def atSemi : Parse Bool := do pure ((← peek).kind == .semi)

def expectOp (s : String) : Parse Token := do
  if (← atOp s) then bump else fail s

def expectIdent : Parse Token := do
  if (← peek).kind == .ident then bump else fail "identifier"

/-- The first index from `i` on that does not hold a semicolon; at most `fuel` steps. -/
def pastSemis (ts : Array Token) : Nat → Nat → Nat
  | 0, i => i
  | fuel + 1, i => if (ts.getD i default).kind == .semi then pastSemis ts fuel (i + 1) else i

def skipSemis : Parse Unit := do
  let ts ← read
  let i ← get
  set (pastSemis ts ts.size i)

def skipItemRest : Parse Unit := do
  let ts ← read
  let i ← get
  set (skipItemFrom ts (ts.size + 1) i 0)

def skipUnreadable : Parse Unit := do
  let ts ← read
  let i ← get
  set (skipFrom ts (ts.size + 1) i 0 true)

/-- The span from `s` to the end of the last token taken. -/
def spanFrom (s : Span) : Parse Span := do
  let ts ← read
  let i ← get
  pure ⟨s.start, lastRealStop ts (i + 1) i, s.line, s.column⟩

/-- A node of kind `k` from `s` to the last token taken. -/
def build (k : Kind) (s : Span) (children : List Node) : Parse Node := do
  pure { kind := k, span := ← spanFrom s, children := children }

def buildOp (k : Kind) (s : Span) (op : String) (children : List Node) : Parse Node := do
  pure { kind := k, span := ← spanFrom s, op := op, children := children }

def tooDeep {α : Type} : Parse α := fail "shallower nesting"

def listNode (items : List Node) : Parse Node := do
  match items.head? with
  | some first => build .expressionList first.span items
  | none => fail "expression"

/-- The leaf for a literal token, if it is one. -/
def literalLeaf (t : Token) : Option Node :=
  match t.kind with
  | .int => some (leaf .intLiteral t)
  | .float => some (leaf .floatLiteral t)
  | .imaginary => some (leaf .imaginaryLiteral t)
  | .rune => some (leaf .runeLiteral t)
  | .string => some (leaf .interpretedStringLiteral t)
  | .rawString => some (leaf .rawStringLiteral t)
  | _ => none

def identLeaf (t : Token) : Node :=
  match t.text with
  | "true" => leaf .trueLiteral t
  | "false" => leaf .falseLiteral t
  | "nil" => leaf .nilLiteral t
  | "iota" => leaf .iotaLiteral t
  | _ => leaf .identifier t

def importSpec : Parse Node := do
    let t ← peek
    let name ← if t.kind == .ident then do
        let _ ← bump
        pure [(leaf (if t.text == "_" then .blankIdentifier else .packageIdentifier) t).withField .name]
      else if t.isOp "." then do
        let _ ← bump
        pure [(leaf .dot t).withField .name]
      else pure []
    let p ← peek
    match literalLeaf p with
    | some l =>
      if p.kind == .string || p.kind == .rawString then
        let _ ← bump
        build .importSpec t.span (name ++ [l.withField .path])
      else fail "import path"
    | none => fail "import path"

mutual

def type : Nat → Parse Node
  | 0 => tooDeep
  | n + 1 => do
    let t ← peek
    if t.kind == .ident then
      let _ ← bump
      let base ← if (← atOp ".") then do
          let _ ← bump
          let name ← expectIdent
          build .qualifiedType t.span
            [(leaf .packageIdentifier t).withField .package, (leaf .typeIdentifier name).withField .name]
        else pure (leaf .typeIdentifier t)
      if (← atOp "[") then
        let args ← typeArguments n
        build .genericType base.span [base.withField .type, args.withField .typeArguments]
      else pure base
    else if t.isOp "*" then
      let _ ← bump
      let inner ← type n
      build .pointerType t.span [inner]
    else if t.isOp "[" then arrayType n
    else if t.isOp "(" then
      let _ ← bump
      let inner ← type n
      let _ ← expectOp ")"
      build .parenthesizedType t.span [inner]
    else if t.isOp "<-" then
      let _ ← bump
      if !(← atKeyword "chan") then fail "chan"
      let _ ← bump
      let v ← type n
      build .channelType t.span [v.withField .value]
    else if t.isOp "~" then
      let _ ← bump
      let v ← type n
      build .negatedType t.span [v]
    else if t.isKeyword "map" then mapType n
    else if t.isKeyword "chan" then
      let _ ← bump
      if (← atOp "<-") then let _ ← bump
      let v ← type n
      build .channelType t.span [v.withField .value]
    else if t.isKeyword "func" then
      let _ ← bump
      let params ← parameters n
      let res ← result n
      build .functionType t.span (params.withField .parameters :: res.toList)
    else if t.isKeyword "struct" then structType n
    else if t.isKeyword "interface" then interfaceType n
    else fail "type"

/-- `[T1, T2]` after a generic type's name. -/
def typeArguments : Nat → Parse Node
  | 0 => tooDeep
  | n + 1 => do
    let t ← expectOp "["
    let items ← typeItems n
    let _ ← expectOp "]"
    build .typeArguments t.span items

/-- Types separated by commas (a trailing comma allowed), each possibly a union. -/
def typeItems : Nat → Parse (List Node)
  | 0 => tooDeep
  | n + 1 => do
    if (← atOp "]") then return []
    let ty ← unionType n
    if (← atOp ",") then
      let _ ← bump
      return ty :: (← typeItems n)
    return [ty]

/-- A type, or a union `A | ~B` of types. -/
def unionType : Nat → Parse Node
  | 0 => tooDeep
  | n + 1 => do
    let first ← type n
    if (← atOp "|") then
      let rest ← unionTail n
      build .typeElem first.span (first :: rest)
    else pure first

def unionTail : Nat → Parse (List Node)
  | 0 => tooDeep
  | n + 1 => do
    if (← atOp "|") then
      let _ ← bump
      let ty ← type n
      return ty :: (← unionTail n)
    return []

/-- `[]T`, `[N]T` or `[...]T`. -/
def arrayType : Nat → Parse Node
  | 0 => tooDeep
  | n + 1 => do
    let t ← expectOp "["
    if (← atOp "]") then
      let _ ← bump
      let el ← type n
      build .sliceType t.span [el.withField .element]
    else if (← atOp "...") then
      let _ ← bump
      let _ ← expectOp "]"
      let el ← type n
      build .implicitLengthArrayType t.span [el.withField .element]
    else
      let len ← expr n false
      let _ ← expectOp "]"
      let el ← type n
      build .arrayType t.span [len.withField .length, el.withField .element]

def mapType : Nat → Parse Node
  | 0 => tooDeep
  | n + 1 => do
    let t ← bump
    let _ ← expectOp "["
    let key ← type n
    let _ ← expectOp "]"
    let value ← type n
    build .mapType t.span [key.withField .key, value.withField .value]

def structType : Nat → Parse Node
  | 0 => tooDeep
  | n + 1 => do
    let t ← bump
    let open_ ← expectOp "\x7b"
    let fields ← fieldDeclarations n
    let _ ← expectOp "\x7d"
    let list ← build .fieldDeclarationList open_.span fields
    build .structType t.span [list]

/-- The field declarations of a struct, up to its closing brace. -/
def fieldDeclarations : Nat → Parse (List Node)
  | 0 => tooDeep
  | n + 1 => do
    skipSemis
    if (← atOp "\x7d") then return []
    let f ← fieldDeclaration n
    if !(← atSemi) && !(← atOp "\x7d") then fail "end of field"
    return f :: (← fieldDeclarations n)

/-- One field declaration: names and a type, or an embedded type; then an optional tag. -/
def fieldDeclaration : Nat → Parse Node
  | 0 => tooDeep
  | n + 1 => do
    let t ← peek
    let next ← peekAt 1
    let embedded := t.isOp "*" ||
      (t.kind == .ident && (next.isOp "." || next.kind == .semi || next.isOp "\x7d" ||
        next.kind == .string || next.kind == .rawString))
    let parts ← if embedded then do
        if t.isOp "*" then let _ ← bump
        let ty ← type n
        pure [ty.withField .type]
      else do
        let names ← fieldNames n
        let ty ← type n
        pure (names ++ [ty.withField .type])
    let tag ← do
      let s ← peek
      match literalLeaf s with
      | some l =>
        if s.kind == .string || s.kind == .rawString then
          let _ ← bump
          pure [l.withField .tag]
        else pure []
      | none => pure []
    build .fieldDeclaration t.span (parts ++ tag)

def fieldNames : Nat → Parse (List Node)
  | 0 => tooDeep
  | n + 1 => do
    let name ← expectIdent
    let node := (leaf .fieldIdentifier name).withField .name
    if (← atOp ",") then
      let _ ← bump
      return node :: (← fieldNames n)
    return [node]

def interfaceType : Nat → Parse Node
  | 0 => tooDeep
  | n + 1 => do
    let t ← bump
    let _ ← expectOp "\x7b"
    let elems ← interfaceElems n
    let _ ← expectOp "\x7d"
    build .interfaceType t.span elems

def interfaceElems : Nat → Parse (List Node)
  | 0 => tooDeep
  | n + 1 => do
    skipSemis
    if (← atOp "\x7d") then return []
    let t ← peek
    let elem ← if t.kind == .ident && (← peekAt 1).isOp "(" then do
        let _ ← bump
        let params ← parameters n
        let res ← result n
        build .methodElem t.span
          ((leaf .fieldIdentifier t).withField .name :: params.withField .parameters :: res.toList)
      else do
        let ty ← unionType n
        if ty.kind == .typeElem then pure ty else build .typeElem ty.span [ty]
    if !(← atSemi) && !(← atOp "\x7d") then fail "end of interface element"
    return elem :: (← interfaceElems n)

def parameters : Nat → Parse Node
  | 0 => tooDeep
  | n + 1 => do
    let t ← expectOp "("
    let entries ← paramEntries n
    let _ ← expectOp ")"
    build .parameterList t.span (groupParams entries)

/-- The entries of a parameter list, up to its closing parenthesis. -/
def paramEntries : Nat → Parse (List ParamEntry)
  | 0 => tooDeep
  | n + 1 => do
    skipSemis
    if (← atOp ")") then return []
    let e ← paramEntry n
    skipSemis
    if (← atOp ",") then
      let _ ← bump
      return e :: (← paramEntries n)
    return [e]

def paramEntry : Nat → Parse ParamEntry
  | 0 => tooDeep
  | n + 1 => do
    if (← atOp "...") then
      let _ ← bump
      return ⟨none, ← type n, true⟩
    let first ← type n
    let t ← peek
    if t.isOp "," || t.isOp ")" || t.kind == .semi then return ⟨none, first, false⟩
    let name := { first with kind := .identifier }
    if t.isOp "..." then
      let _ ← bump
      return ⟨some name, ← type n, true⟩
    return ⟨some name, ← type n, false⟩

/-- The result of a signature, if any: a parameter list or a type. -/
def result : Nat → Parse (Option Node)
  | 0 => tooDeep
  | n + 1 => do
    let t ← peek
    if t.isOp "(" then return some ((← parameters n).withField .result)
    if t.startsType then return some ((← type n).withField .result)
    return none

/-- A type parameter list `[P any, Q C]`. -/
def typeParameters : Nat → Parse Node
  | 0 => tooDeep
  | n + 1 => do
    let t ← expectOp "["
    let decls ← typeParamDecls n
    let _ ← expectOp "]"
    build .typeParameterList t.span decls

def typeParamDecls : Nat → Parse (List Node)
  | 0 => tooDeep
  | n + 1 => do
    skipSemis
    if (← atOp "]") then return []
    let first ← peek
    let names ← identNames n
    let c ← unionType n
    let constraint ← build .typeConstraint c.span [c]
    let decl ← build .typeParameterDeclaration first.span
      (names.map (·.withField .name) ++ [constraint.withField .type])
    if (← atOp ",") then
      let _ ← bump
      return decl :: (← typeParamDecls n)
    return [decl]

def identNames : Nat → Parse (List Node)
  | 0 => tooDeep
  | n + 1 => do
    let name ← expectIdent
    if (← atOp ",") then
      let _ ← bump
      return leaf .identifier name :: (← identNames n)
    return [leaf .identifier name]

/-- An expression; `noLit` keeps a literal whose type is a bare name from being read. -/
def expr : Nat → Bool → Parse Node
  | 0, _ => tooDeep
  | n + 1, noLit => binary n noLit 1

/-- An expression whose operators bind at least as strongly as `minPrec`. -/
def binary : Nat → Bool → Nat → Parse Node
  | 0, _, _ => tooDeep
  | n + 1, noLit, minPrec => do
    let left ← unary n noLit
    binaryTail n noLit minPrec left

def binaryTail : Nat → Bool → Nat → Node → Parse Node
  | 0, _, _, _ => tooDeep
  | n + 1, noLit, minPrec, left => do
    let t ← peek
    let p := binaryPrecedence t
    if p == 0 || p < minPrec then return left
    let _ ← bump
    let right ← binary n noLit (p + 1)
    let node ← buildOp .binaryExpression left.span t.text
      [left.withField .left, right.withField .right]
    binaryTail n noLit minPrec node

def unary : Nat → Bool → Parse Node
  | 0, _ => tooDeep
  | n + 1, noLit => do
    let t ← peek
    let isUnary := t.kind == .op &&
      ["+", "-", "!", "^", "*", "&", "<-"].contains t.text &&
      !(t.isOp "<-" && (← peekAt 1).isKeyword "chan")
    if isUnary then
      let _ ← bump
      let operand ← unary n noLit
      buildOp .unaryExpression t.span t.text [operand.withField .operand]
    else primary n noLit

/-- An operand with its selectors, indexes, calls and literal bodies. -/
def primary : Nat → Bool → Parse Node
  | 0, _ => tooDeep
  | n + 1, noLit => do
    let x ← operand n noLit
    trailers n noLit x

/-- The selectors, indexes, calls and literal bodies after `x`. -/
def trailers : Nat → Bool → Node → Parse Node
  | 0, _, _ => tooDeep
  | n + 1, noLit, x => do
    let t ← peek
    if t.isOp "." then
      let _ ← bump
      if (← atOp "(") then
        let _ ← bump
        if (← atKeyword "type") then
          let _ ← bump
          let _ ← expectOp ")"
          let guard ← buildOp .typeAssertionExpression x.span "type" [x.withField .operand]
          trailers n noLit guard
        else
          let ty ← type n
          let _ ← expectOp ")"
          let node ← build .typeAssertionExpression x.span
            [x.withField .operand, ty.withField .type]
          trailers n noLit node
      else
        let name ← expectIdent
        let node ← build .selectorExpression x.span
          [x.withField .operand, (leaf .fieldIdentifier name).withField .field]
        trailers n noLit node
    else if t.isOp "[" then
      let node ← indexOrSlice n x
      trailers n noLit node
    else if t.isOp "(" then
      let prev ← peekAt 0
      let ts ← read
      let i ← get
      let before := ts.getD (i - 1) prev
      let typeFirst := x.kind == .identifier && i > 0 && before.start == x.span.start &&
        (before.text == "new" || before.text == "make")
      let args ← arguments n typeFirst
      let node ← build .callExpression x.span
        [x.withField .function, args.withField .arguments]
      trailers n noLit node
    else if t.isOp "\x7b" && !noLit then
      match asType? x with
      | some ty =>
        let body ← literalValue n
        let node ← build .compositeLiteral x.span [ty.withField .type, body.withField .body]
        trailers n noLit node
      | none => return x
    else return x

/-- The index or slice after `x`. -/
def indexOrSlice : Nat → Node → Parse Node
  | 0, _ => tooDeep
  | n + 1, x => do
    let _ ← expectOp "["
    let first ← if (← atOp ":") then pure none else some <$> expr n false
    if (← atOp ":") then
      let _ ← bump
      let stop ← if (← atOp "]") || (← atOp ":") then pure none else some <$> expr n false
      let cap ← if (← atOp ":") then do
          let _ ← bump
          some <$> expr n false
        else pure none
      let _ ← expectOp "]"
      build .sliceExpression x.span
        (x.withField .operand :: (first.map (·.withField .start)).toList ++
          (stop.map (·.withField .stop)).toList ++ (cap.map (·.withField .capacity)).toList)
    else
      let more ← if (← atOp ",") then do
          let _ ← bump
          indexItems n
        else pure []
      let _ ← expectOp "]"
      build .indexExpression x.span
        (x.withField .operand :: (first.toList ++ more).map (·.withField .index))

def indexItems : Nat → Parse (List Node)
  | 0 => tooDeep
  | n + 1 => do
    if (← atOp "]") then return []
    let e ← expr n false
    if (← atOp ",") then
      let _ ← bump
      return e :: (← indexItems n)
    return [e]

/-- An operand: a name, a literal, a parenthesized expression, a function literal or a
literal type (with its body or conversion). -/
def operand : Nat → Bool → Parse Node
  | 0, _ => tooDeep
  | n + 1, noLit => do
    let t ← peek
    if t.kind == .ident then
      let _ ← bump
      return identLeaf t
    match literalLeaf t with
    | some l =>
      let _ ← bump
      return l
    | none =>
      if t.isOp "(" then
        let _ ← bump
        let inner ← expr n false
        let _ ← expectOp ")"
        build .parenthesizedExpression t.span [inner]
      else if t.isKeyword "func" then
        let _ ← bump
        let params ← parameters n
        let res ← result n
        if (← atOp "\x7b") then
          let body ← block n
          build .funcLiteral t.span
            (params.withField .parameters :: res.toList ++ [body.withField .body])
        else
          build .functionType t.span (params.withField .parameters :: res.toList)
      else if t.isOp "[" || t.isKeyword "map" || t.isKeyword "struct" ||
          t.isKeyword "chan" || t.isKeyword "interface" || t.isOp "<-" then
        let ty ← type n
        typedOperand n noLit ty
      else fail "expression"

/-- What follows a literal type in an expression: a literal body, a conversion, or nothing. -/
def typedOperand : Nat → Bool → Node → Parse Node
  | 0, _, _ => tooDeep
  | n + 1, _, ty => do
    if (← atOp "\x7b") && (ty.kind == .sliceType || ty.kind == .arrayType ||
        ty.kind == .implicitLengthArrayType || ty.kind == .mapType || ty.kind == .structType) then
      let body ← literalValue n
      build .compositeLiteral ty.span [ty.withField .type, body.withField .body]
    else if (← atOp "(") then
      let _ ← bump
      let e ← expr n false
      if (← atOp ",") then let _ ← bump
      let _ ← expectOp ")"
      build .typeConversionExpression ty.span [ty.withField .type, e.withField .operand]
    else return ty

/-- The arguments of a call; with `typeFirst` the first argument is a type. -/
def arguments : Nat → Bool → Parse Node
  | 0, _ => tooDeep
  | n + 1, typeFirst => do
    let t ← expectOp "("
    let items ← argumentItems n typeFirst
    let _ ← expectOp ")"
    build .argumentList t.span items

/-- The arguments of a call, up to its closing parenthesis. -/
def argumentItems : Nat → Bool → Parse (List Node)
  | 0, _ => tooDeep
  | n + 1, typeFirst => do
    skipSemis
    if (← atOp ")") then return []
    let e ← if typeFirst then type n else expr n false
    let e ← if (← atOp "...") then do
        let _ ← bump
        build .variadicArgument e.span [e]
      else pure e
    skipSemis
    if (← atOp ",") then
      let _ ← bump
      return e :: (← argumentItems n false)
    return [e]

def literalValue : Nat → Parse Node
  | 0 => tooDeep
  | n + 1 => do
    let t ← expectOp "\x7b"
    let items ← elements n
    skipSemis
    let _ ← expectOp "\x7d"
    build .literalValue t.span items

/-- The elements of a literal body, up to its closing brace. -/
def elements : Nat → Parse (List Node)
  | 0 => tooDeep
  | n + 1 => do
    skipSemis
    if (← atOp "\x7d") then return []
    let e ← element n
    skipSemis
    if !(← atOp ",") && !(← atOp "\x7d") then skipItemRest
    if (← atOp ",") then
      let _ ← bump
      return e :: (← elements n)
    return [e]

/-- One element of a literal body, keyed or not. -/
def element : Nat → Parse Node
  | 0 => tooDeep
  | n + 1 => do
    let first ← elementPart n
    if (← atOp ":") then
      let _ ← bump
      let value ← elementPart n
      build .keyedElement first.span [first.withField .key, value.withField .value]
    else pure first

/-- A key or value of a literal element: an expression or an elided literal body. -/
def elementPart : Nat → Parse Node
  | 0 => tooDeep
  | n + 1 => do
    let inner ← if (← atOp "\x7b") then literalValue n else expr n false
    build .literalElement inner.span [inner]

def exprList : Nat → Bool → Parse (List Node)
  | 0, _ => tooDeep
  | n + 1, noLit => do
    let e ← expr n noLit
    if (← atOp ",") then
      let _ ← bump
      return e :: (← exprList n noLit)
    return [e]

def block : Nat → Parse Node
  | 0 => tooDeep
  | n + 1 => do
    let t ← expectOp "\x7b"
    let body ← statements n false
    let _ ← expectOp "\x7d"
    build .block t.span body

/-- Statements up to a closing brace (or, in a case clause, the next case). A statement that
cannot be read is skipped. -/
def statements : Nat → Bool → Parse (List Node)
  | 0, _ => tooDeep
  | n + 1, inCase => do
    skipSemis
    let t ← peek
    if t.isOp "\x7d" || t.kind == .eof ||
        (inCase && (t.isKeyword "case" || t.isKeyword "default")) then
      return []
    let s ← tryCatch (do
        let s ← statement n
        let u ← peek
        if u.kind == .semi || u.isOp "\x7d" ||
            (inCase && (u.isKeyword "case" || u.isKeyword "default")) then
          pure (some s)
        else fail "end of statement")
      (fun _ => do skipUnreadable; pure none)
    return s.toList ++ (← statements n inCase)

def statement : Nat → Parse Node
  | 0 => tooDeep
  | n + 1 => do
    let t ← peek
    if t.kind == .keyword then
      match t.text with
      | "var" | "const" | "type" => declaration n
      | "return" =>
        let _ ← bump
        let u ← peek
        if u.kind == .semi || u.isOp "\x7d" then build .returnStatement t.span []
        else
          let items ← exprList n false
          let list ← listNode items
          build .returnStatement t.span [list]
      | "if" => ifStatement n
      | "for" => forStatement n
      | "switch" => switchStatement n
      | "select" => selectStatement n
      | "go" | "defer" =>
        let _ ← bump
        let e ← expr n false
        build (if t.text == "go" then .goStatement else .deferStatement) t.span [e]
      | "break" | "continue" | "goto" =>
        let _ ← bump
        let label ← if (← peek).kind == .ident then do
            let l ← bump
            pure [(leaf .labelName l).withField .label]
          else pure []
        let k := match t.text with
          | "break" => Kind.breakStatement
          | "continue" => .continueStatement
          | _ => .gotoStatement
        build k t.span label
      | "fallthrough" =>
        let _ ← bump
        build .fallthroughStatement t.span []
      | _ => simpleStatement n false false
    else if t.isOp "\x7b" then block n
    else if t.kind == .ident && (← peekAt 1).isOp ":" then
      let _ ← bump
      let _ ← bump
      skipSemis
      let u ← peek
      let label := (leaf .labelName t).withField .label
      if u.isOp "\x7d" then build .labeledStatement t.span [label]
      else
        let s ← statement n
        build .labeledStatement t.span [label, s]
    else simpleStatement n false false

/-- A simple statement: an expression, a send, an increment, an assignment or a short
variable declaration; with `allowRange`, also a range clause. -/
def simpleStatement : Nat → Bool → Bool → Parse Node
  | 0, _, _ => tooDeep
  | n + 1, noLit, allowRange => do
    let start ← peek
    if allowRange && start.isKeyword "range" then
      let _ ← bump
      let e ← expr n noLit
      return ← build .rangeClause start.span [e.withField .right]
    let lhs ← exprList n noLit
    let t ← peek
    let left ← listNode lhs
    if t.isOp ":=" || (t.isOp "=" && allowRange && (← peekAt 1).isKeyword "range") then
      let _ ← bump
      if allowRange && (← atKeyword "range") then
        let _ ← bump
        let e ← expr n noLit
        return ← build .rangeClause start.span [left.withField .left, e.withField .right]
      let rhs ← exprList n noLit
      let right ← listNode rhs
      return ← build .shortVarDeclaration start.span [left.withField .left, right.withField .right]
    if t.kind == .op && assignOperators.contains t.text then
      let _ ← bump
      let rhs ← exprList n noLit
      let right ← listNode rhs
      return ← buildOp .assignmentStatement start.span t.text
        [left.withField .left, right.withField .right]
    match lhs with
    | [e] =>
      if t.isOp "++" then
        let _ ← bump
        build .incStatement start.span [e]
      else if t.isOp "--" then
        let _ ← bump
        build .decStatement start.span [e]
      else if t.isOp "<-" then
        let _ ← bump
        let v ← expr n noLit
        build .sendStatement start.span [e.withField .channel, v.withField .value]
      else build .expressionStatement start.span [e]
    | _ => fail "assignment"

/-- `if` with an optional initializer, a condition, a block and an optional `else`. -/
def ifStatement : Nat → Parse Node
  | 0 => tooDeep
  | n + 1 => do
    let t ← bump
    let first ← simpleStatement n true false
    let (init, cond) ← if (← atSemi) then do
        let _ ← bump
        let c ← expr n true
        pure ([first.withField .initializer], c)
      else match first.kind, first.children with
        | .expressionStatement, [c] => pure ([], c)
        | _, _ => fail "condition"
    let body ← block n
    let alt ← if (← atKeyword "else") then do
        let _ ← bump
        if (← atKeyword "if") then pure [(← ifStatement n).withField .alternative]
        else pure [(← block n).withField .alternative]
      else pure []
    build .ifStatement t.span
      (init ++ [cond.withField .condition, body.withField .consequence] ++ alt)

/-- `for` with no header, a condition, a three-part clause or a range clause. -/
def forStatement : Nat → Parse Node
  | 0 => tooDeep
  | n + 1 => do
    let t ← bump
    if (← atOp "\x7b") then
      let body ← block n
      return ← build .forStatement t.span [body.withField .body]
    let clauseStart ← peek
    let first ← if (← atSemi) then pure none else some <$> simpleStatement n true true
    let header ← match first with
      | some s =>
        if s.kind == .rangeClause then pure [s]
        else if (← atSemi) then forClause n clauseStart first
        else match s.kind, s.children with
          | .expressionStatement, [c] => pure [c.withField .condition]
          | _, _ => fail "condition"
      | none => forClause n clauseStart none
    let body ← block n
    build .forStatement t.span (header ++ [body.withField .body])

/-- The rest of a three-part `for` clause after its initializer. -/
def forClause : Nat → Token → Option Node → Parse (List Node)
  | 0, _, _ => tooDeep
  | n + 1, start, init => do
    let _ ← bump
    let cond ← if (← atSemi) then pure none else some <$> expr n true
    if !(← atSemi) then fail ";"
    let _ ← bump
    let post ← if (← atOp "\x7b") then pure none else some <$> simpleStatement n true false
    let clause ← build .forClause start.span
      ((init.map (·.withField .initializer)).toList ++ (cond.map (·.withField .condition)).toList ++
        (post.map (·.withField .update)).toList)
    return [clause]

def switchStatement : Nat → Parse Node
  | 0 => tooDeep
  | n + 1 => do
    let t ← bump
    let (init, value) ← if (← atOp "\x7b") then pure (none, none)
      else do
        let s1 ← if (← atSemi) then pure none else some <$> simpleStatement n true false
        if (← atSemi) then
          let _ ← bump
          let s2 ← if (← atOp "\x7b") then pure none else some <$> simpleStatement n true false
          pure (s1, s2)
        else pure (none, s1)
    let initPart := (init.map (·.withField .initializer)).toList
    let guard? : Option (List Node × Node) := match value with
      | some s =>
        match s.kind, s.children with
        | .expressionStatement, [g] =>
          if g.kind == .typeAssertionExpression && g.op == "type" then
            g.first?.map fun x => ([], x)
          else none
        | .shortVarDeclaration, [l, r] =>
          match r.children with
          | [g] =>
            if g.kind == .typeAssertionExpression && g.op == "type" then
              g.first?.map fun x => ([{ l with field := some .binding }], x)
            else none
          | _ => none
        | _, _ => none
      | none => none
    let _ ← expectOp "\x7b"
    match guard? with
    | some (bound, x) =>
      let cases ← caseClauses n true
      let _ ← expectOp "\x7d"
      build .typeSwitchStatement t.span (initPart ++ bound ++ [x.withField .value] ++ cases)
    | none =>
      let valuePart ← match value with
        | some s =>
          match s.kind, s.children with
          | .expressionStatement, [e] => pure [e.withField .value]
          | _, _ => fail "switch value"
        | none => pure []
      let cases ← caseClauses n false
      let _ ← expectOp "\x7d"
      build .expressionSwitchStatement t.span (initPart ++ valuePart ++ cases)

/-- The case clauses of a switch, up to its closing brace. -/
def caseClauses : Nat → Bool → Parse (List Node)
  | 0, _ => tooDeep
  | n + 1, onType => do
    skipSemis
    let t ← peek
    if t.isKeyword "case" then
      let _ ← bump
      let head ← if onType then (·.map (·.withField .type)) <$> typeList n
        else do
          let items ← exprList n false
          pure [(← listNode items).withField .value]
      let _ ← expectOp ":"
      let body ← statements n true
      let clause ← build (if onType then .typeCase else .expressionCase) t.span (head ++ body)
      return clause :: (← caseClauses n onType)
    if t.isKeyword "default" then
      let _ ← bump
      let _ ← expectOp ":"
      let body ← statements n true
      let clause ← build .defaultCase t.span body
      return clause :: (← caseClauses n onType)
    return []

def typeList : Nat → Parse (List Node)
  | 0 => tooDeep
  | n + 1 => do
    let ty ← type n
    if (← atOp ",") then
      let _ ← bump
      return ty :: (← typeList n)
    return [ty]

def selectStatement : Nat → Parse Node
  | 0 => tooDeep
  | n + 1 => do
    let t ← bump
    let _ ← expectOp "\x7b"
    let cases ← commClauses n
    let _ ← expectOp "\x7d"
    build .selectStatement t.span cases

/-- The communication clauses of a select, up to its closing brace. -/
def commClauses : Nat → Parse (List Node)
  | 0 => tooDeep
  | n + 1 => do
    skipSemis
    let t ← peek
    if t.isKeyword "case" then
      let _ ← bump
      let s ← simpleStatement n false false
      let comm := match s.kind, s.children with
        | .expressionStatement, [e] => { s with kind := .receiveStatement, children := [e.withField .right] }
        | .shortVarDeclaration, cs => { s with kind := .receiveStatement, children := cs }
        | .assignmentStatement, cs => { s with kind := .receiveStatement, op := "", children := cs }
        | _, _ => s
      let _ ← expectOp ":"
      let body ← statements n true
      let clause ← build .communicationCase t.span (comm.withField .communication :: body)
      return clause :: (← commClauses n)
    if t.isKeyword "default" then
      let _ ← bump
      let _ ← expectOp ":"
      let body ← statements n true
      let clause ← build .defaultCase t.span body
      return clause :: (← commClauses n)
    return []

/-- A `var`, `const` or `type` declaration, of one spec or a parenthesized group. -/
def declaration : Nat → Parse Node
  | 0 => tooDeep
  | n + 1 => do
    let t ← bump
    let k := match t.text with
      | "var" => Kind.varDeclaration
      | "const" => .constDeclaration
      | _ => .typeDeclaration
    if (← atOp "(") then
      let _ ← bump
      let specs ← specGroup n t.text
      let _ ← expectOp ")"
      build k t.span specs
    else
      let s ← spec n t.text
      build k t.span [s]

def specGroup : Nat → String → Parse (List Node)
  | 0, _ => tooDeep
  | n + 1, keyword => do
    skipSemis
    if (← atOp ")") then return []
    let s ← spec n keyword
    if !(← atSemi) && !(← atOp ")") then fail "end of spec"
    return s :: (← specGroup n keyword)

/-- One spec of a `var`, `const` or `type` declaration. -/
def spec : Nat → String → Parse Node
  | 0, _ => tooDeep
  | n + 1, keyword => do
    let t ← peek
    if keyword == "type" then
      let name ← expectIdent
      let nameNode := (leaf .typeIdentifier name).withField .name
      let params ← if (← atOp "[") && (← peekAt 1).kind == .ident &&
          !(← peekAt 2).isOp "]" then do
          pure [(← typeParameters n).withField .typeParameters]
        else pure []
      if (← atOp "=") then
        let _ ← bump
        let ty ← type n
        build .typeAlias t.span (nameNode :: params ++ [ty.withField .type])
      else
        let ty ← type n
        build .typeSpec t.span (nameNode :: params ++ [ty.withField .type])
    else
      let names ← identNames n
      let ty ← if (← atOp "=") || (← atSemi) || (← atOp ")") then pure []
        else pure [(← type n).withField .type]
      let values ← if (← atOp "=") then do
          let _ ← bump
          let items ← exprList n false
          pure [(← listNode items).withField .value]
        else pure []
      build (if keyword == "var" then .varSpec else .constSpec) t.span
        (names.map (·.withField .name) ++ ty ++ values)

def funcDeclaration : Nat → Parse Node
  | 0 => tooDeep
  | n + 1 => do
    let t ← bump
    if (← atOp "(") then
      let recv ← parameters n
      let name ← expectIdent
      let params ← parameters n
      let res ← result n
      let body ← if (← atOp "\x7b") then pure [(← block n).withField .body] else pure []
      build .methodDeclaration t.span
        ([recv.withField .receiver, (leaf .fieldIdentifier name).withField .name,
          params.withField .parameters] ++ res.toList ++ body)
    else
      let name ← expectIdent
      let tparams ← if (← atOp "[") then pure [(← typeParameters n).withField .typeParameters]
        else pure []
      let params ← parameters n
      let res ← result n
      let body ← if (← atOp "\x7b") then pure [(← block n).withField .body] else pure []
      build .functionDeclaration t.span
        ([(leaf .identifier name).withField .name] ++ tparams ++
          [params.withField .parameters] ++ res.toList ++ body)

def importSpecs : Nat → Parse (List Node)
  | 0 => tooDeep
  | n + 1 => do
    skipSemis
    if (← atOp ")") then return []
    let s ← importSpec
    if !(← atSemi) && !(← atOp ")") then fail "end of import"
    return s :: (← importSpecs n)

def topLevel : Nat → Parse Node
  | 0 => tooDeep
  | n + 1 => do
    let t ← peek
    if t.isKeyword "package" then
      let _ ← bump
      let name ← expectIdent
      build .packageClause t.span [leaf .packageIdentifier name]
    else if t.isKeyword "import" then
      let _ ← bump
      if (← atOp "(") then
        let open_ ← bump
        let specs ← importSpecs n
        let _ ← expectOp ")"
        let list ← build .importSpecList open_.span specs
        build .importDeclaration t.span [list]
      else
        let s ← importSpec
        build .importDeclaration t.span [s]
    else if t.isKeyword "func" then funcDeclaration n
    else if t.isKeyword "var" || t.isKeyword "const" || t.isKeyword "type" then declaration n
    else statement n

/-- The top-level declarations up to the end of the text. A declaration that cannot be read
is skipped. -/
def topLevels : Nat → Parse (List Node)
  | 0 => tooDeep
  | n + 1 => do
    skipSemis
    if (← peek).kind == .eof then return []
    let d ← tryCatch (do
        let d ← topLevel n
        let u ← peek
        if u.kind == .semi || u.kind == .eof then pure (some d) else fail "end of declaration")
      (fun _ => do skipUnreadable; pure none)
    return d.toList ++ (← topLevels n)

end

end Parse

def parse (source : String) : Node :=
  let ts := tokenize source
  let fuel := 32 * (ts.size + 1)
  let whole : Span := ⟨0, source.length, 0, 0⟩
  match (Parse.topLevels fuel).run ts |>.run 0 with
  | .ok (decls, _) => { kind := .sourceFile, span := whole, children := decls }
  | .error _ => { kind := .sourceFile, span := whole }

end ProviderCoverage.Go
