/-!
# Go syntax trees

A concrete syntax tree of Go source. Every node has a kind, the role it plays in its parent
(its field, if the parent names one), the span of source it covers, the operator written in it
(for unary, binary and assignment forms) and its named children in source order. Punctuation
and comments are not nodes. The kinds and fields follow the common names of the Go grammar, so
that a query reads like the construct it looks for.
-/

namespace ProviderCoverage.Go

/-- What a node of a Go syntax tree is. -/
inductive Kind where
  | sourceFile | packageClause | packageIdentifier | importDeclaration | importSpec
  | importSpecList | dot | blankIdentifier
  | functionDeclaration | methodDeclaration | typeParameterList | typeParameterDeclaration
  | typeConstraint | parameterList | parameterDeclaration | variadicParameterDeclaration
  | block | identifier | fieldIdentifier | typeIdentifier | labelName
  | constDeclaration | constSpec | varDeclaration | varSpec | typeDeclaration | typeSpec
  | typeAlias
  | expressionStatement | sendStatement | receiveStatement | incStatement | decStatement
  | assignmentStatement | shortVarDeclaration | labeledStatement | returnStatement
  | goStatement | deferStatement | ifStatement | forStatement | forClause | rangeClause
  | expressionSwitchStatement | typeSwitchStatement | expressionCase | defaultCase | typeCase
  | selectStatement | communicationCase | fallthroughStatement | breakStatement
  | continueStatement | gotoStatement | emptyStatement
  | expressionList | parenthesizedExpression | callExpression | argumentList
  | variadicArgument | selectorExpression | indexExpression | sliceExpression
  | typeAssertionExpression | typeConversionExpression | compositeLiteral | literalValue
  | literalElement | keyedElement | funcLiteral | unaryExpression | binaryExpression
  | interpretedStringLiteral | rawStringLiteral | intLiteral | floatLiteral
  | imaginaryLiteral | runeLiteral | nilLiteral | trueLiteral | falseLiteral | iotaLiteral
  | qualifiedType | pointerType | sliceType | arrayType | implicitLengthArrayType | mapType
  | channelType | functionType | structType | fieldDeclarationList | fieldDeclaration
  | interfaceType | methodElem | typeElem | genericType | typeArguments | parenthesizedType
  | negatedType
  deriving Repr, DecidableEq, Inhabited

/-- The role a node plays in its parent. -/
inductive Field where
  | name | path | type | typeParameters | parameters | result | body | receiver | left | right
  | operand | function | arguments | field | index | start | stop | capacity | key | value
  | element | length | label | initializer | condition | consequence | alternative | update
  | package | binding | communication | channel | tag | typeArguments
  deriving Repr, DecidableEq, Inhabited

/-- The source a node covers: character offsets of its start and end, and the line and byte
column (from zero) where it starts. -/
structure Span where
  start : Nat
  stop : Nat
  line : Nat
  column : Nat
  deriving Repr, Inhabited, DecidableEq

/-- A node of a Go syntax tree. -/
structure Node where
  kind : Kind
  field : Option Field := none
  span : Span
  /-- The operator of a unary, binary or assignment form; empty for other nodes. -/
  op : String := ""
  children : List Node := []
  deriving Repr, Inhabited

namespace Node

def withField (n : Node) (f : Field) : Node := { n with field := some f }

/-- The first child playing role `f`. -/
def child? (n : Node) (f : Field) : Option Node :=
  n.children.find? (·.field == some f)

/-- The first child, whatever its role. -/
def first? (n : Node) : Option Node := n.children.head?

/-- The children playing role `f`, in order. -/
def childrenWith (n : Node) (f : Field) : List Node :=
  n.children.filter (·.field == some f)

mutual

/-- Walks the tree in preorder: `visit` tells for each node what it yields and whether to
look inside it. The yields are added to `acc` in order. -/
def gather {α : Type} (visit : Node → List α × Bool) : Node → Array α → Array α
  | ⟨k, f, s, o, cs⟩, acc =>
    let (out, deeper) := visit ⟨k, f, s, o, cs⟩
    let acc := acc ++ out.toArray
    if deeper then gatherAll visit cs acc else acc

/-- `gather` over a list of siblings, left to right. -/
def gatherAll {α : Type} (visit : Node → List α × Bool) : List Node → Array α → Array α
  | [], acc => acc
  | n :: ns, acc => gatherAll visit ns (gather visit n acc)

end

/-- What `visit` yields over the tree, in preorder. -/
def collect {α : Type} (n : Node) (visit : Node → List α × Bool) : List α :=
  (gather visit n #[]).toList

/-- Every node of a kind under the node, the node included, in preorder. -/
def allOfKind (n : Node) (k : Kind) : List Node :=
  n.collect fun m => (if m.kind == k then [m] else [], true)

end Node

end ProviderCoverage.Go
