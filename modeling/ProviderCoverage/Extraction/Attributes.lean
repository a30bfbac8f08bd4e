import ProviderCoverage.Go.File

/-!
# Schema attributes

Two schema shapes are read. In the plugin framework a schema is a literal
`schema.Schema{Attributes: map[string]schema.Attribute{"name": schema.StringAttribute{…}}}`,
each attribute a literal of an attribute type with `Required`, `Optional`, `Computed`,
`Validators` and `PlanModifiers` fields. In the legacy SDK a resource literal has a
`Schema: map[string]*schema.Schema{"name": {Type: schema.TypeString, …}}` field, each attribute
with `Type`, `Required`, `Optional`, `Computed`, `ForceNew` and validation functions. A flag is
set only by the literal `true`; an attribute whose replacement is forced cannot be updated.
-/

namespace ProviderCoverage.Extraction

open Go

/-- The name of a validator: the called function, the selected field, or the text. -/
def validatorName (f : File) (n : Node) : String :=
  let n := unparen n
  match f.callTarget n with
  | some (_, name) => name
  | none =>
    match f.selectorField n with
    | some (_, field) => field
    | none => f.text n

/-- The names of the validators in a `Validators: []validator.String{…}` list. -/
def validatorKinds (f : File) (list : Node) : List String :=
  match literalBody list with
  | none => []
  | some body => body.children.map fun e => validatorName f (unwrapElement e)

/-- Reads one field of a framework attribute literal into the attribute. -/
def frameworkField (f : File) (a : Attribute) (field : KeyedElement) : Attribute :=
  match f.text field.key with
  | "Required" => { a with required := isTrue field.value }
  | "Optional" => { a with optional := isTrue field.value }
  | "Computed" => { a with computed := isTrue field.value }
  | "Validators" =>
    let kinds := validatorKinds f field.value
    { a with
      hasValidators := a.hasValidators || !kinds.isEmpty
      validatorKinds := a.validatorKinds ++ kinds }
  | "PlanModifiers" =>
    if Text.contains (f.text field.value) "RequiresReplace" then { a with updatable := false }
    else a
  | _ => a

def frameworkAttribute (f : File) (name : String) (value : Node) : Attribute :=
  let value := unwrapElement value
  let typeName := if value.kind == .compositeLiteral then
      (value.child? .type).bind f.baseTypeName
    else none
  let a : Attribute := { name := name, typeName := typeName }
  match literalBody value with
  | none => a
  | some body => (keyedElements body).foldl (frameworkField f) a

/-- Reads one field of an SDK attribute literal into the attribute. -/
def sdkField (f : File) (a : Attribute) (field : KeyedElement) : Attribute :=
  match f.text field.key with
  | "Type" =>
    let typeName := match f.selectorField field.value with
      | some (_, name) => name
      | none => f.text field.value
    { a with typeName := some typeName }
  | "Required" => { a with required := isTrue field.value }
  | "Optional" => { a with optional := isTrue field.value }
  | "Computed" => { a with computed := isTrue field.value }
  | "ForceNew" => if isTrue field.value then { a with updatable := false } else a
  | "ValidateFunc" | "ValidateDiagFunc" =>
    { a with
      hasValidators := true
      validatorKinds := a.validatorKinds ++ [validatorName f field.value] }
  | _ => a

def sdkAttribute (f : File) (name : String) (value : Node) : Attribute :=
  let a : Attribute := { name := name }
  match literalBody value with
  | none => a
  | some body => (keyedElements body).foldl (sdkField f) a

/-- The attributes of a map literal keyed by string literals, read by `read`. -/
def attributeMap (f : File) (map : Node) (read : File → String → Node → Attribute) :
    List Attribute :=
  (keyedElements map).filterMap fun e => (f.stringValue e.key).map fun name => read f name e.value

/-- Whether a node is a `Schema{…}` literal with an `Attributes` map, and that map. -/
def schemaAttributesMap (f : File) (n : Node) : Option Node := do
  if n.kind != .compositeLiteral then none
  if (n.child? .type).bind f.baseTypeName != some "Schema" then none
  let body ← n.child? .body
  literalBody (← f.fieldValue body "Attributes")

/-- The top-level attributes of the first framework `Schema{…}` literal under a node, in
preorder. -/
def frameworkAttributes (f : File) (n : Node) : List Attribute :=
  let maps := n.collect fun m =>
    match schemaAttributesMap f m with
    | some map => ([map], false)
    | none => ([], true)
  match maps.head? with
  | some map => attributeMap f map frameworkAttribute
  | none => []

def sdkAttributes (f : File) (resourceBody : Node) : List Attribute :=
  match (f.fieldValue resourceBody "Schema").bind literalBody with
  | some map => attributeMap f map sdkAttribute
  | none => []

end ProviderCoverage.Extraction
