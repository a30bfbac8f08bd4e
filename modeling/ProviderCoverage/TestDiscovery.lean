import ProviderCoverage.Go.File
import ProviderCoverage.TestFunction
import ProviderCoverage.ConfigText
import ProviderCoverage.Settings.Basic
import ProviderCoverage.Digest.Blake3
import ProviderCoverage.Log
import ProviderCoverage.Unicode.Case

/-!
# Finding acceptance tests in Go test files

A test function is a `Test…` function whose body reaches the acceptance test harness: directly
(`Test`, `ParallelTest` or `UnitTest` of the harness package, under whatever alias it is
imported as), through a configured `package.Function` helper, through an exported local wrapper
that takes a `*testing.T`, or by handing a `TestCase` literal to any call at all.

For each test function the `TestCase` literals passed to calls (directly or through a local
binding) are walked step by step. A step's configuration is fingerprinted, so that a later
stage can tell a real configuration change from a repeated one, and its embedded configuration
text is searched for typed blocks.
-/

namespace ProviderCoverage.TestDiscovery

open Go

def harnessPackages : List String :=
  ["github.com/hashicorp/terraform-plugin-testing/helper/resource",
    "github.com/hashicorp/terraform-plugin-sdk/v2/helper/resource",
    "github.com/hashicorp/terraform-plugin-sdk/helper/resource"]

def entryPoints : List String := ["Test", "ParallelTest", "UnitTest"]

/-- The fingerprint of an expression: the first sixteen hex digits of the BLAKE3 hash of its
source text with white space collapsed. -/
def fingerprint (f : File) (n : Node) : String :=
  String.ofList ((Blake3.hexDigest (f.normalizedText n)).toList.take 16)

def harnessAliases (f : File) : List String :=
  (f.imports.filter fun i => harnessPackages.contains i.path).map (·.name)

def acceptsTestingT (f : File) (params : Node) : Bool :=
  params.children.any fun decl =>
    match decl.child? .type with
    | some ty => ty.kind == .pointerType && f.qualifiedTypeParts ty == some ("testing", "T")
    | none => false

def isExported (name : String) : Bool :=
  match name.toList.head? with
  | some c => Unicode.isUpper c
  | none => false

/-- Whether a call goes to a harness entry point under one of `aliases`. -/
def callsEntryPoint (f : File) (aliases : List String) (call : Node) : Bool :=
  match f.callTarget call with
  | some (some op, name) => aliases.contains op && entryPoints.contains name
  | _ => false

/-- The local harness wrappers of one file: exported plain functions, not tests themselves,
that take a `*testing.T` and call a harness entry point. -/
def localHelpersOf (f : File) : List String × List Event :=
  let aliases := harnessAliases f
  if !f.isTest || aliases.isEmpty then ([], [])
  else
    let found := f.functions.filter fun fn =>
      fn.receiver.isNone && isExported fn.name && !fn.name.startsWith "Test" &&
        match fn.body with
        | none => false
        | some body =>
          (fn.parameters.map (acceptsTestingT f)).getD false &&
            (calls body).any (callsEntryPoint f aliases)
    (found.map (·.name),
      found.map fun fn => Event.debug .testFunctions ("local harness helper " ++ fn.name ++ " in " ++ f.path))

/-- Inserts a name into a sorted list without repeats. -/
def insertSorted (name : String) : List String → List String
  | [] => [name]
  | n :: ns =>
    if name == n then n :: ns
    else if name < n then name :: n :: ns
    else n :: insertSorted name ns

/-- The exported harness wrappers of the test files among `files`, sorted; calls to them
qualify a test function in any file. -/
def findLocalHelpers (files : List File) : List String × List Event :=
  files.foldl (fun (acc : List String × List Event) f =>
    let (names, events) := localHelpersOf f
    (names.foldl (fun s n => insertSorted n s) acc.1, acc.2 ++ events)) ([], [])

def registersSweepers (f : File) : Bool :=
  let aliases := harnessAliases f
  (calls f.root).any fun call =>
    match f.callTarget call with
    | some (some op, "AddTestSweepers") => op == "resource" || aliases.contains op
    | _ => false

/-- The typed blocks in the string literals, `+` concatenations and call arguments of an
expression; at most `fuel` levels deep. -/
def blocksWithin (f : File) : Nat → Node → List Block
  | 0, _ => []
  | fuel + 1, e =>
    let e := unparen e
    match e.kind with
    | .interpretedStringLiteral | .rawStringLiteral =>
      ((f.stringValue e).map ConfigText.blocksIn).getD []
    | .binaryExpression =>
      if e.op == "+" then
        ((e.child? .left).map (blocksWithin f fuel)).getD [] ++
          ((e.child? .right).map (blocksWithin f fuel)).getD []
      else []
    | .callExpression => (callArguments e).flatMap (blocksWithin f fuel)
    | _ => []

/-- The typed blocks of an expression. Every operand looked into is shorter than the
expression, so its length bounds the depth. -/
def blocksInExpr (f : File) (e : Node) : List Block :=
  blocksWithin f (e.span.stop - e.span.start + 1) e

/-- The blocks without repeats, first occurrences kept in order. -/
def dedupBlocks (blocks : List Block) : List Block :=
  blocks.foldl (fun acc b => if acc.contains b then acc else acc ++ [b]) []

/-- The settings of test discovery: the configured helpers split into package and function,
and the local wrappers found across the session. -/
structure Discoverer where
  settings : Settings
  customHelpers : List (String × String)
  localHelpers : List String

/-- A discoverer for the settings and the session's local wrappers. -/
def Discoverer.new (settings : Settings) (localHelpers : List String) : Discoverer :=
  ⟨settings, settings.customTestHelpers.filterMap (Text.splitFirst · '.'), localHelpers⟩

/-- What the tests of one file share: the file, its harness aliases, and the blocks found in
the return statements of each function (the last function of a name with blocks wins). -/
structure Scope where
  file : File
  aliases : List String
  helperBlocks : List (String × List Block)

namespace Scope

def blocksOf (s : Scope) (name : String) : Option (List Block) :=
  (s.helperBlocks.find? (·.1 == name)).map (·.2)

/-- The composite literal an expression is, through a literal element, parentheses and one
unary operator. -/
def composite (n : Node) : Option Node := do
  let n := unparen (unwrapElement n)
  let n ← if n.kind == .unaryExpression then n.child? .operand else some n
  if n.kind == .compositeLiteral then some n else none

/-- `alias.TestCase{…}`, or a pointer to one. -/
def testCaseLiteral (s : Scope) (n : Node) : Option Node := do
  let literal ← composite n
  let (pkg, name) ← s.file.qualifiedTypeParts (← literal.child? .type)
  if name == "TestCase" && s.aliases.contains pkg then some literal else none

/-- A `TestCase` literal passed directly, or through a local name bound to one. -/
def testCaseArgument (s : Scope) (bindings : List (String × Node)) (arg : Node) :
    Option Node :=
  match s.testCaseLiteral arg with
  | some literal => some literal
  | none =>
    let arg := unparen arg
    if arg.kind != .identifier then none
    else
      let name := s.file.text arg
      (bindings.find? (·.1 == name)).map (·.2)

/-- The local names assigned a `TestCase` literal in a body. -/
def testCaseBindings (s : Scope) (body : Node) : List (String × Node) :=
  (assignments body).filterMap fun (left, right) =>
    if left.kind != .identifier then none
    else (s.testCaseLiteral right).map fun literal => (s.file.text left, literal)

def stepSliceLiteral (s : Scope) (n : Node) : Option Node := do
  let literal ← composite n
  let ty ← literal.child? .type
  if ty.kind != .sliceType then none
  let (pkg, name) ← s.file.qualifiedTypeParts (← ty.child? .element)
  if name == "TestStep" && s.aliases.contains pkg then some literal else none

def stepField (s : Scope) (step : TestStep) (field : KeyedElement) : TestStep :=
  let f := s.file
  let value := field.value
  match f.text field.key with
  | "Config" =>
    let fromHelper := match f.callTarget (unparen value) with
      | some (none, helper) => (s.blocksOf helper).getD []
      | _ => []
    { step with
      hasConfig := true
      configFingerprint := fingerprint f value
      inferredBlocks := dedupBlocks (step.inferredBlocks ++ blocksInExpr f value ++ fromHelper) }
  | "Check" =>
    { step with
      hasCheck := true
      hasStateCheck := true
      checkFunctions := (calls value).filterMap fun call =>
        match f.callTarget call with
        | some (some _, name) => some name
        | _ => none }
  | "ConfigStateChecks" => { step with hasStateCheck := true }
  | "ConfigPlanChecks" => { step with hasPlanCheck := true }
  | "ImportState" => { step with importState := isTrue value }
  | "ImportStateVerify" => { step with importStateVerify := isTrue value }
  | "ExpectNonEmptyPlan" => { step with expectNonEmptyPlan := isTrue value }
  | "RefreshState" => { step with refreshState := isTrue value }
  | "ExpectError" => { step with expectError := true }
  | _ => step

/-- The step an element of a step list describes, at `index`. -/
def parseStep (s : Scope) (element : Node) (index : Nat) : TestStep :=
  match literalBody element with
  | none => { index := index }
  | some fields => (keyedElements fields).foldl s.stepField { index := index }

/-- Adds the steps of one step list to a test; indexes and previous fingerprints are local to
the list. -/
def pushSteps (s : Scope) (list : Node) (test : TestFunction) : TestFunction :=
  let elements := positionalElements list
  let step (acc : TestFunction × String) (ei : Node × Nat) : TestFunction × String :=
    let (test, previous) := acc
    let st := { s.parseStep ei.1 ei.2 with previousConfigFingerprint := previous }
    let blocks := st.inferredBlocks.foldl
      (fun bs b => if bs.contains b then bs else bs ++ [b]) test.inferredBlocks
    ({ test with steps := test.steps ++ [st], inferredBlocks := blocks }, st.configFingerprint)
  (elements.zipIdx.foldl step (test, "")).1

/-- Walks every `TestCase` (once each) and step slice passed to a call in `body`. -/
def collectTestCases (s : Scope) (body : Node) (test : TestFunction) : TestFunction :=
  let bindings := s.testCaseBindings body
  let args := (calls body).flatMap callArguments
  let visit (acc : TestFunction × List (Nat × Nat)) (arg : Node) :
      TestFunction × List (Nat × Nat) :=
    let (test, walked) := acc
    match s.testCaseArgument bindings arg with
    | some case =>
      let id := (case.span.start, case.span.stop)
      if walked.contains id then (test, walked)
      else
        let walked := id :: walked
        match literalBody case with
        | none => (test, walked)
        | some fields =>
          let field (t : TestFunction) (e : KeyedElement) : TestFunction :=
            match s.file.text e.key with
            | "CheckDestroy" => { t with hasCheckDestroy := true }
            | "PreCheck" => { t with hasPreCheck := true }
            | "Steps" =>
              match literalBody e.value with
              | some list => s.pushSteps list t
              | none => t
            | _ => t
          ((keyedElements fields).foldl field test, walked)
    | none =>
      match (s.stepSliceLiteral arg).bind literalBody with
      | some list => (s.pushSteps list test, walked)
      | none => (test, walked)
  let (test, _) := args.foldl visit (test, [])
  { test with
    hasImportStep := test.steps.any (·.importState)
    hasErrorCase := test.steps.any (·.expectError) }

end Scope

/-- The first harness entry point reached from `body`, as written: a harness function, a
configured helper, a local wrapper, or any call handed a `TestCase`. -/
def Discoverer.harnessCall (d : Discoverer) (s : Scope) (body : Node) : Option String :=
  let bindings := s.testCaseBindings body
  (calls body).findSome? fun call =>
    let target := s.file.callTarget call
    let direct : Option String := match target with
      | some (some op, name) =>
        if s.aliases.contains op && entryPoints.contains name then some (op ++ "." ++ name)
        else if d.customHelpers.contains (op, name) then some (op ++ "." ++ name)
        else none
      | some (none, name) => if d.localHelpers.contains name then some name else none
      | none => none
    match direct with
    | some h => some h
    | none =>
      if (callArguments call).any fun a => (s.testCaseArgument bindings a).isSome then
        match target with
        | some (some op, name) => some (op ++ "." ++ name)
        | some (none, name) => some name
        | none => some "TestCase"
      else none

/-- The scope a test file's functions are read in: the file, its harness aliases, and the
blocks each of its functions returns, a later function of a name replacing an earlier one. -/
def Scope.ofFile (f : File) : Scope :=
  let helperBlocks := f.functions.foldl (fun (acc : List (String × List Block)) fn =>
    match fn.body with
    | none => acc
    | some body =>
      let blocks := (returnedExpressions body).flatMap (blocksInExpr f)
      if blocks.isEmpty then acc
      else (fn.name, blocks) :: acc.filter (·.1 != fn.name)) []
  ⟨f, harnessAliases f, helperBlocks⟩

/-- Every qualifying test function of one test file, in source order. -/
def Discoverer.parse (d : Discoverer) (f : File) : List TestFunction × List Event :=
  let scope := Scope.ofFile f
  let found := f.functions.filterMap fun fn =>
    if fn.receiver.isSome || !fn.name.startsWith "Test" then none
    else match fn.body with
      | none => none
      | some body =>
        if !d.settings.matchesTestNamePatterns fn.name then none
        else (d.harnessCall scope body).map fun helper =>
          let test : TestFunction :=
            { name := fn.name, location := f.location fn.node, helperUsed := helper }
          let test := scope.collectTestCases body test
          let category :=
            TestFunction.classify test.name test.location.file test.inferredBlocks
          let test := { test with category := category }
          (test, Event.debug .testFunctions ("test " ++ test.name ++ " (" ++ toString test.steps.length ++
            " steps, " ++ test.category.name ++ ") via " ++ test.helperUsed))
  (found.map (·.1), found.map (·.2))

end ProviderCoverage.TestDiscovery
