import ProviderCoverage.Go.Parser
import ProviderCoverage.Entity
import ProviderCoverage.Text.Basic

/-!
# Go source files and queries on their trees

A `Go.File` is a path, the text, its syntax tree and whether it holds tests. The queries here
are what the rest of the library asks of Go code: the imports and the aliases they bind, the
top-level functions with their receivers, the calls, composite literals, assignments and
returned expressions under a node, the decoded value of a string literal, and the keyed and
positional elements of a literal body.
-/

namespace ProviderCoverage.Go

/-- An import: the name it binds and the package path. -/
structure Import where
  name : String
  path : String
  deriving Repr, DecidableEq

/-- A parsed Go source file. -/
structure File where
  path : String
  source : String
  chars : Array Char
  isTest : Bool
  root : Node

/-- A top-level function or method declaration. -/
structure FuncDecl where
  node : Node
  name : String
  /-- The receiver's base type name, for a method. -/
  receiver : Option String
  parameters : Option Node
  result : Option Node
  body : Option Node

/-- A keyed element of a literal body. -/
structure KeyedElement where
  key : Node
  value : Node

/-- Decodes the escapes of an interpreted string: `\n`, `\t`, `\r`, `\"`, `\\` and `\'`; any
other escape is kept as written, backslash included. -/
def unescape : List Char → List Char
  | [] => []
  | ['\\'] => ['\\']
  | '\\' :: c :: rest =>
    let decoded := match c with
      | 'n' => ['\n']
      | 't' => ['\t']
      | 'r' => ['\r']
      | '"' => ['"']
      | '\\' => ['\\']
      | '\'' => ['\'']
      | other => ['\\', other]
    decoded ++ unescape rest
  | c :: rest => c :: unescape rest

def unparen : Node → Node
  | ⟨.parenthesizedExpression, _, _, _, inner :: _⟩ => unparen inner
  | n => n

def unwrapElement (n : Node) : Node :=
  if n.kind == .literalElement then (n.first?).getD n else n

def keyedElements (body : Node) : List KeyedElement :=
  body.children.filterMap fun e =>
    if e.kind != .keyedElement then none
    else match e.children with
      | k :: v :: _ => some ⟨unwrapElement k, unwrapElement v⟩
      | _ => none

/-- The elements of a literal body that have no key, unwrapped. -/
def positionalElements (body : Node) : List Node :=
  (body.children.filter (·.kind != .keyedElement)).map unwrapElement

/-- `literalBody` looking through at most `fuel` unary operators. -/
def literalBodyWithin : Nat → Node → Option Node
  | 0, _ => none
  | fuel + 1, n =>
    let n := unparen (unwrapElement n)
    match n.kind with
    | .literalValue => some n
    | .compositeLiteral => n.child? .body
    | .unaryExpression => (n.child? .operand).bind (literalBodyWithin fuel)
    | _ => none

/-- The literal body of a composite literal, of `&T{…}` (through any unary operators), or of an
elided literal. Each operator passed over shortens the span, which bounds the search. -/
def literalBody (n : Node) : Option Node :=
  literalBodyWithin (n.span.stop - n.span.start + 1) n

def isTrue (n : Node) : Bool := (unparen n).kind == .trueLiteral

/-- Every call under a node, the node included, in preorder. -/
def calls (n : Node) : List Node := n.allOfKind .callExpression

/-- Every composite literal under a node, the node included, in preorder. -/
def compositeLiterals (n : Node) : List Node := n.allOfKind .compositeLiteral

def callArguments (call : Node) : List Node :=
  ((call.child? .arguments).map (·.children)).getD []

/-- The expressions of every `return` under a node, outside nested function literals. -/
def returnedExpressions (body : Node) : List Node :=
  body.collect fun n =>
    match n.kind with
    | .funcLiteral => ([], false)
    | .returnStatement =>
      (n.children.flatMap fun c => if c.kind == .expressionList then c.children else [c], false)
    | _ => ([], true)

/-- The `(left, right)` pairs of every assignment and short variable declaration under a node,
the two sides zipped by position. -/
def assignments (body : Node) : List (Node × Node) :=
  body.collect fun n =>
    if n.kind == .assignmentStatement || n.kind == .shortVarDeclaration then
      let side (f : Field) : List Node :=
        match n.child? f with
        | some l => if l.kind == .expressionList then l.children else [l]
        | none => []
      ((side .left).zip (side .right), true)
    else ([], true)

/-- The part of an import path after its last `/`. -/
def lastSegment (path : String) : String :=
  String.ofList ((path.toList.reverse.takeWhile (· != '/')).reverse)

namespace File

def parse (path source : String) (isTest : Bool) : File :=
  ⟨path, source, source.toList.toArray, isTest, Go.parse source⟩

def text (f : File) (n : Node) : String :=
  String.ofList (f.chars.extract n.span.start n.span.stop).toList

/-- The last component of the file's path. -/
def fileName (f : File) : String := Text.fileName f.path

/-- Where a node starts, line and byte column counted from one. -/
def location (f : File) (n : Node) : Location :=
  ⟨f.path, n.span.line + 1, n.span.column + 1⟩

def stringValue (f : File) (n : Node) : Option String :=
  let n := unparen n
  let raw := f.text n
  match n.kind with
  | .rawStringLiteral => some (Text.trimChar raw '`')
  | .interpretedStringLiteral =>
    let inner := ((Text.stripPrefix? raw "\"").bind (Text.stripSuffix? · "\"")).getD raw
    some (String.ofList (unescape inner.toList))
  | _ => none

/-- The name of a key: the unquoted string for a string key, else its text. -/
def keyName (f : File) (e : KeyedElement) : String :=
  (f.stringValue e.key).getD (f.text e.key)

/-- The value of the element keyed `field` in a literal body. -/
def fieldValue (f : File) (body : Node) (field : String) : Option Node :=
  ((keyedElements body).find? fun e => f.text e.key == field).map (·.value)

/-- The base name of a type: `*pkg.Widget[T]` names `Widget`. -/
def baseTypeName (f : File) : Node → Option String
  | ⟨.typeIdentifier, _, s, o, cs⟩ => some (f.text ⟨.typeIdentifier, none, s, o, cs⟩)
  | ⟨.identifier, _, s, o, cs⟩ => some (f.text ⟨.identifier, none, s, o, cs⟩)
  | ⟨.pointerType, _, _, _, inner :: _⟩ => f.baseTypeName inner
  | ⟨.parenthesizedType, _, _, _, inner :: _⟩ => f.baseTypeName inner
  | ⟨.genericType, _, _, _, ty :: _⟩ => f.baseTypeName ty
  | ⟨.qualifiedType, _, _, _, cs⟩ =>
    (cs.find? (·.field == some .name)).map f.text
  | _ => none

/-- The package and name of a qualified type, through pointers and parentheses:
`*schema.Resource` gives `("schema", "Resource")`. -/
def qualifiedTypeParts (f : File) : Node → Option (String × String)
  | ⟨.pointerType, _, _, _, inner :: _⟩ => f.qualifiedTypeParts inner
  | ⟨.parenthesizedType, _, _, _, inner :: _⟩ => f.qualifiedTypeParts inner
  | ⟨.qualifiedType, _, _, _, cs⟩ =>
    match cs.find? (·.field == some .package), cs.find? (·.field == some .name) with
    | some p, some n => some (f.text p, f.text n)
    | _, _ => none
  | _ => none

/-- The callee of a call: `(some "resource", "Test")` for `resource.Test(…)`,
`(none, "f")` for `f(…)`. -/
def callTarget (f : File) (call : Node) : Option (Option String × String) := do
  let fn := unparen (← call.child? .function)
  match fn.kind with
  | .identifier => some (none, f.text fn)
  | .selectorExpression =>
    let operand ← fn.child? .operand
    let field ← fn.child? .field
    some (some (f.text operand), f.text field)
  | _ => none

def selectorField (f : File) (n : Node) : Option (String × String) := do
  let n := unparen n
  if n.kind != .selectorExpression then none
  let operand ← n.child? .operand
  let field ← n.child? .field
  some (f.text operand, f.text field)

/-- The source text with white space runs collapsed to single spaces. -/
def normalizedText (f : File) (n : Node) : String :=
  Unicode.collapseBlanks (f.text n)

/-- The imports of the file, in order. -/
def imports (f : File) : List Import :=
  f.root.collect fun n =>
    if n.kind != .importSpec then ([], true)
    else
      match (n.child? .path).bind f.stringValue with
      | none => ([], false)
      | some path =>
        let bound := match n.child? .name with
          | some name => f.text name
          | none => lastSegment path
        ([⟨bound, path⟩], false)

def aliasesFor (f : File) (path : String) : List String :=
  (f.imports.filter (·.path == path)).map (·.name)

/-- The function declaration a top-level node is, if it is one. -/
def funcDecl (f : File) (n : Node) : Option FuncDecl := do
  let receiver ← match n.kind with
    | .functionDeclaration => some none
    | .methodDeclaration =>
      some ((n.child? .receiver).bind fun r =>
        (r.children.find? (·.kind == .parameterDeclaration)).bind fun d =>
          (d.child? .type).bind f.baseTypeName)
    | _ => none
  let name ← n.child? .name
  some ⟨n, f.text name, receiver, n.child? .parameters, n.child? .result, n.child? .body⟩

/-- The top-level functions and methods, in source order. -/
def functions (f : File) : List FuncDecl := f.root.children.filterMap f.funcDecl

end File

end ProviderCoverage.Go
