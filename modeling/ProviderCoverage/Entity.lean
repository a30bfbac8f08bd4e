/-!
# Entities

The components a provider declares: resources, data sources and actions. An entity is known by
its key, a kind with a simple name; a name alone is unique only within its kind. Keys are ordered
by kind (resource, data source, action) and then by the bytes of the name.
-/

namespace ProviderCoverage

/-- What kind of provider component an entity is. -/
inductive EntityKind where
  | resource
  | dataSource
  | action
  deriving Repr, DecidableEq, Inhabited

namespace EntityKind

/-- Every kind, in the order used when only a bare name is known. -/
def all : List EntityKind := [.resource, .dataSource, .action]

def name : EntityKind → String
  | .resource => "resource"
  | .dataSource => "data source"
  | .action => "action"

/-- The keyword that opens a block of this kind in configuration text. -/
def keyword : EntityKind → String
  | .resource => "resource"
  | .dataSource => "data"
  | .action => "action"

def ofKeyword : String → Option EntityKind
  | "resource" => some .resource
  | "data" => some .dataSource
  | "action" => some .action
  | _ => none

/-- The position of the kind in the key order. -/
def rank : EntityKind → Nat
  | .resource => 0
  | .dataSource => 1
  | .action => 2

instance : Ord EntityKind := ⟨fun a b => compare a.rank b.rank⟩

end EntityKind

/-- Where something is declared: a file, a line and a byte column, both counted from one. -/
structure Location where
  file : String
  line : Nat
  column : Nat
  deriving Repr, DecidableEq, Inhabited

def Location.render (l : Location) : String :=
  s!"{l.file}:{l.line}:{l.column}"

/-- The identity of an entity. -/
structure EntityKey where
  kind : EntityKind
  name : String
  deriving Repr, DecidableEq, Inhabited

namespace EntityKey

/-- Key order: by kind, then by the bytes of the name. -/
def cmp (a b : EntityKey) : Ordering :=
  (compare a.kind.rank b.kind.rank).then (compare a.name b.name)

instance : Ord EntityKey := ⟨cmp⟩

/-- `kind:name`, as in messages. -/
def render (k : EntityKey) : String := k.kind.name ++ ":" ++ k.name

end EntityKey

/-- A schema attribute of an entity. -/
structure Attribute where
  name : String
  /-- The attribute constructor or schema type, e.g. `StringAttribute` or `TypeString`. -/
  typeName : Option String := none
  required : Bool := false
  optional : Bool := false
  computed : Bool := false
  /-- False when a change forces replacement. -/
  updatable : Bool := true
  hasValidators : Bool := false
  validatorKinds : List String := []
  deriving Repr, DecidableEq, Inhabited

namespace Attribute

/-- The attribute can change in place, so a test should change it. -/
def needsUpdateTest (a : Attribute) : Bool := a.optional && a.updatable

/-- Invalid values of the attribute are refused, so a test should provoke that. -/
def needsValidationTest (a : Attribute) : Bool := a.hasValidators || a.required

end Attribute

/-- A resource, data source or action declared in provider source. -/
structure Entity where
  kind : EntityKind
  name : String
  location : Location
  attributes : List Attribute := []
  importCapable : Bool := false
  deriving Repr, DecidableEq, Inhabited

def Entity.key (e : Entity) : EntityKey := ⟨e.kind, e.name⟩

end ProviderCoverage
