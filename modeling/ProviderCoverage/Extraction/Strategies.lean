import ProviderCoverage.Extraction.Attributes
import ProviderCoverage.Extraction.Discovery
import ProviderCoverage.Naming
import ProviderCoverage.Settings.Basic

/-!
# The discovery strategies

Six ways of recognising entity declarations in a Go file, run in this order:

* `schema-method`: a `Schema` method on a `…Resource` or `…DataSource` receiver (not a `Base…`
  composition type) names a provisional entity after the receiver type, with the schema's
  attributes;
* `factory-function`: a `New…Resource` or `New…DataSource` function holding a literal with a
  non-empty `MetadataEntitySlug` string;
* `metadata-method`: a `Metadata` method assigning `….TypeName` gives the authoritative name of
  its receiver's entity;
* `action-factory`: a `New…Action` function returning the framework's `action.Action`, named
  by the `Metadata` method of the type it returns, else after the function;
* `return-type`: a plain function whose result type resolves through the imports to a framework
  `resource.Resource` or `datasource.DataSource`, or a legacy `*schema.Resource`;
* `registry-call`: `AddResourceFactory("name", …)` and its data source and list-resource
  companions.
-/

namespace ProviderCoverage.Extraction

open Go

/-- What a strategy may look at: the file, its imports and functions, and the settings. -/
structure FileContext where
  file : File
  imports : List Import
  functions : List FuncDecl
  settings : Settings

namespace FileContext

def ofFile (f : File) (settings : Settings) : FileContext :=
  ⟨f, f.imports, f.functions, settings⟩

def method? (c : FileContext) (receiver name : String) : Option FuncDecl :=
  c.functions.find? fun fn => fn.receiver == some receiver && fn.name == name

def importPath? (c : FileContext) (name : String) : Option String :=
  (c.imports.find? (·.name == name)).map (·.path)

def methodsNamed (c : FileContext) (name : String) : List FuncDecl :=
  c.functions.filter fun fn => fn.receiver.isSome && fn.name == name

/-- The functions that are not methods. -/
def plainFunctions (c : FileContext) : List FuncDecl :=
  c.functions.filter (·.receiver.isNone)

end FileContext

/-- The kind of entity a receiver type implements, by its suffix. -/
def receiverKind (receiver : String) : Option EntityKind :=
  if receiver.endsWith "DataSource" then some .dataSource
  else if receiver.endsWith "Action" then some .action
  else if receiver.endsWith "Resource" then some .resource
  else none

/-- The entity name of a type: `WidgetThingResource` names `widget_thing`. -/
def nameFromType (typeName : String) : String :=
  let stem := (["DataSource", "Resource", "Action"].findSome? (Text.stripSuffix? typeName ·)).getD
    typeName
  Naming.snakeCase stem

/-- The entity name of a factory function, e.g. `NewWidgetResource`, `ResourceWidget`,
`dataSourceWidget`; a data source prefix overrides `kind`. -/
def nameFromFactory (funcName : String) (kind : EntityKind) : Option (EntityKind × String) :=
  let (kind, rest) :=
    match Text.stripPrefix? funcName "New" with
    | some r => (kind, r)
    | none => match Text.stripPrefix? funcName "Resource" with
      | some r => (kind, r)
      | none => match (Text.stripPrefix? funcName "DataSource").orElse
          fun _ => Text.stripPrefix? funcName "dataSource" with
        | some r => (EntityKind.dataSource, r)
        | none => match Text.stripPrefix? funcName "resource" with
          | some r => (kind, r)
          | none => (kind, funcName)
  let rest := (Text.stripSuffix? rest "Resource").getD rest
  let rest := (Text.stripSuffix? rest "DataSource").getD rest
  if rest.isEmpty then none else some (kind, Naming.snakeCase rest)

/-- The type of the single, or the first, declared result. -/
def firstResultType (fn : FuncDecl) : Option Node := do
  let result ← fn.result
  if result.kind != .parameterList then some result
  else (result.children.find? (·.kind == .parameterDeclaration)).bind (·.child? .type)

/-- `T` from the first `return &T{…}` or `return T{…}`. -/
def returnedTypeName (f : File) (body : Node) : Option String :=
  (returnedExpressions body).findSome? fun e => do
    let e := unparen e
    let e ← if e.kind == .unaryExpression then e.child? .operand else some e
    if e.kind != .compositeLiteral then none
    let ty ← e.child? .type
    if ty.kind == .typeIdentifier then some (f.text ty) else none

/-- `"_widget"` and `"example_widget"` both name `widget`: a leading underscore is dropped,
else the configured provider prefix, else the first segment. -/
def nameFromLiteral (literal providerPrefix : String) : String :=
  match Text.stripPrefix? literal "_" with
  | some rest => rest
  | none =>
    let configured := if providerPrefix.isEmpty then none
      else Text.stripPrefix? literal (Text.trimEndChar providerPrefix '_' ++ "_")
    match configured with
    | some rest => rest
    | none => (Naming.stripProviderPrefix literal).getD literal

/-- The entity name from a `X.TypeName = …` assignment in a `Metadata` body: a string literal,
`… + "_suffix"`, or `fmt.Sprintf("%s_suffix", …)`. -/
def metadataTypeName (c : FileContext) (body : Node) : Option String :=
  let f := c.file
  (assignments body).findSome? fun (left, right) => do
    let (_, field) ← f.selectorField left
    if field != "TypeName" then none
    let right := unparen right
    let name ← match f.stringValue right with
      | some literal => some (nameFromLiteral literal c.settings.providerPrefix)
      | none =>
        if right.kind == .binaryExpression then do
          if right.op != "+" then none
          let suffix ← f.stringValue (← right.child? .right)
          some (Text.trimStartChar suffix '_')
        else if f.callTarget right == some (some "fmt", "Sprintf") then do
          let format ← (callArguments right).head?.bind f.stringValue
          let rest ← Text.stripPrefix? format "%s"
          some (Text.trimStartChar rest '_')
        else none
    if name.isEmpty then none else some name

/-- A named strategy: what it discovers in a file. -/
structure Strategy where
  name : String
  discover : FileContext → List Discovery

/-- `Schema` methods on `*Resource` and `*DataSource` receivers; the names are provisional. -/
def schemaMethod : Strategy := ⟨"schema-method", fun c =>
  (c.methodsNamed "Schema").filterMap fun fn => do
    let receiver ← fn.receiver
    if receiver.startsWith "Base" then none
    let kind ← receiverKind receiver
    if kind == .action then none
    let name := nameFromType receiver
    if name.isEmpty then none
    let attributes := match fn.body with
      | some body => frameworkAttributes c.file body
      | none => []
    let entity : Entity :=
      { kind := kind, name := name, location := c.file.location fn.node, attributes := attributes }
    some (.insert entity (some receiver))⟩

/-- The first non-empty `MetadataEntitySlug` string in a literal under a body. -/
def entitySlug (f : File) (body : Node) : Option String :=
  (compositeLiterals body).findSome? fun literal => do
    let fields ← literalBody literal
    let value ← f.fieldValue fields "MetadataEntitySlug"
    let slug ← f.stringValue value
    if slug.isEmpty then none else some slug

/-- `New*Resource` and `New*DataSource` functions carrying a `MetadataEntitySlug`. -/
def factoryFunction : Strategy := ⟨"factory-function", fun c =>
  c.plainFunctions.filterMap fun fn => do
    let rest ← Text.stripPrefix? fn.name "New"
    let kind ← if rest.utf8ByteSize > 10 && rest.endsWith "DataSource" then some EntityKind.dataSource
      else if rest.utf8ByteSize > 8 && rest.endsWith "Resource" then some .resource
      else none
    let slug ← (fn.body).bind (entitySlug c.file)
    some (.insert { kind := kind, name := slug, location := c.file.location fn.node } none)⟩

/-- `Metadata` methods assigning `resp.TypeName`: the authoritative name. -/
def metadataMethod : Strategy := ⟨"metadata-method", fun c =>
  (c.methodsNamed "Metadata").filterMap fun fn => do
    let receiver ← fn.receiver
    let kind ← match receiverKind receiver with
      | some .resource => some EntityKind.resource
      | some .dataSource => some .dataSource
      | _ => none
    let name ← fn.body.bind (metadataTypeName c)
    some (.replaceIfPresent receiver
      { kind := kind, name := name, location := c.file.location fn.node })⟩

/-- `New*Action` functions returning an action, named by the `Metadata` method of the returned
type, else after the function. -/
def actionFactory : Strategy := ⟨"action-factory", fun c =>
  c.plainFunctions.filterMap fun fn => do
    let stem ← Text.stripPrefix? fn.name "New"
    if !stem.endsWith "Action" then none
    let returnsAction := match (firstResultType fn).bind c.file.qualifiedTypeParts with
      | some (pkg, name) =>
        name == "Action" && match c.importPath? pkg with
          | some path => path.endsWith "/action"
          | none => pkg == "action"
      | none => false
    if !returnsAction then none
    let typeName := (fn.body.bind (returnedTypeName c.file)).getD stem
    let fromMetadata := ((c.method? typeName "Metadata").bind (·.body)).bind (metadataTypeName c)
    let name := fromMetadata.getD (Naming.snakeCase (Text.trimEndText stem "Action"))
    if name.isEmpty then none
    some (.insert { kind := .action, name := name, location := c.file.location fn.node }
      (some typeName))⟩

/-- What a declared result type makes a function a factory of. -/
inductive Capability where
  | framework (kind : EntityKind)
  /-- The legacy SDK type, for resources and data sources alike. -/
  | sdk
  deriving DecidableEq

/-- The capability a result type resolves to through the imports. -/
def Capability.ofResult (c : FileContext) (result : Node) : Option Capability := do
  let (pkg, name) ← c.file.qualifiedTypeParts result
  let path ← c.importPath? pkg
  if name == "Resource" && path.endsWith "helper/schema" then some .sdk
  else if name == "Resource" && path.endsWith "/resource" then some (.framework .resource)
  else if name == "DataSource" && path.endsWith "/datasource" then some (.framework .dataSource)
  else none

/-- Plain functions whose result type resolves to a resource or data source type. -/
def returnType : Strategy := ⟨"return-type", fun c =>
  c.plainFunctions.filterMap fun fn => do
    let capability ← (firstResultType fn).bind (Capability.ofResult c)
    let kind := match capability with
      | .framework k => k
      | .sdk => if c.file.fileName.startsWith "data_source_" then .dataSource else .resource
    let returned := fn.body.bind (returnedTypeName c.file)
    let fromMetadata := ((returned.bind (c.method? · "Metadata")).bind (·.body)).bind
      (metadataTypeName c)
    let (kind, name) ← match fromMetadata with
      | some name => some (kind, name)
      | none => nameFromFactory fn.name kind
    let entity : Entity := { kind := kind, name := name, location := c.file.location fn.node }
    let sdkBody := if capability == .sdk then
        fn.body.bind fun body => (returnedExpressions body).findSome? literalBody
      else none
    let entity := match sdkBody with
      | some body => { entity with
          attributes := sdkAttributes c.file body
          importCapable := (c.file.fieldValue body "Importer").isSome }
      | none => entity
    some (.insert entity returned)⟩

/-- `AddResourceFactory("name", …)` style registrations. -/
def registryCall : Strategy := ⟨"registry-call", fun c =>
  (calls c.file.root).filterMap fun call => do
    let kind ← match c.file.callTarget call with
      | some (some _, "AddResourceFactory") => some EntityKind.resource
      | some (some _, "AddDataSourceFactory") | some (some _, "AddListResourceFactory") =>
        some .dataSource
      | _ => none
    let first ← (callArguments call).head?
    let name ← c.file.stringValue first
    if name.isEmpty then none
    some (.insert { kind := kind, name := name, location := c.file.location call } none)⟩

/-- The strategies in the order they run. -/
def strategies : List Strategy :=
  [schemaMethod, factoryFunction, metadataMethod, actionFactory, returnType, registryCall]

end ProviderCoverage.Extraction
