import ProviderCoverage.TestFunction
import ProviderCoverage.Log
import ProviderCoverage.Decimal.Layout

/-!
# The registry

The model one analysis builds: the entities in key order, the test functions in registration
order (a test is known by its position), the links from entities to the tests that exercise
them, and the files that register sweepers.

An entity is registered once per key: a second registration under a taken key changes nothing.
Entities are never removed or replaced. A test is linked at most once; linking checks that the
entity is registered, then that the test is, then that the test is not linked yet, and changes
nothing when a check fails. A link stores the match type and the confidence clamped to
`[0, 1]`, and appends the test to the entity's links.
-/

namespace ProviderCoverage

/-- A misuse of the registry's write path. -/
inductive RegistryError where
  | unknownTestFunction (id : Nat)
  | alreadyLinked (name : String) (existing : EntityKey)
  | unknownEntity (key : EntityKey)
  deriving Repr, DecidableEq

namespace RegistryError

def variant : RegistryError → String
  | .unknownTestFunction _ => "UnknownTestFunction"
  | .alreadyLinked _ _ => "AlreadyLinked"
  | .unknownEntity _ => "UnknownEntity"

def message : RegistryError → String
  | .unknownTestFunction id => "test function #" ++ toString id ++ " is not registered"
  | .alreadyLinked name existing =>
    "test function " ++ name ++ " is already linked to " ++ existing.render
  | .unknownEntity key => "no entity registered under " ++ key.render

end RegistryError

/-- Counts describing a registry. -/
structure RegistryStats where
  resources : Nat
  dataSources : Nat
  actions : Nat
  testFunctions : Nat
  linkedTestFunctions : Nat
  deriving Repr, DecidableEq

/-- The entities, test functions, links and sweeper files of one analysis. -/
structure Registry where
  /-- In key order, one per key. -/
  entities : List Entity := []
  /-- In registration order; a test's id is its position. -/
  tests : Array TestFunction := #[]
  /-- For each linked entity, the ids of its tests in link order. -/
  links : List (EntityKey × List Nat) := []
  /-- Sorted, without repeats. -/
  sweeperFiles : List String := []
  deriving Inhabited

/-- Inserts an entity into a list in key order. -/
def insertByKey (e : Entity) : List Entity → List Entity
  | [] => [e]
  | x :: xs => if e.key.cmp x.key == .lt then e :: x :: xs else x :: insertByKey e xs

/-- Inserts a string into a sorted list without repeats. -/
def insertSortedString (s : String) : List String → List String
  | [] => [s]
  | x :: xs => if s == x then x :: xs else if s < x then s :: x :: xs else x :: insertSortedString s xs

namespace Registry

def contains (r : Registry) (k : EntityKey) : Bool := r.entities.any (·.key == k)

def entity? (r : Registry) (k : EntityKey) : Option Entity := r.entities.find? (·.key == k)

/-- The keys of the registered entities, in key order. -/
def keys (r : Registry) : List EntityKey := r.entities.map (·.key)

/-- Registers an entity unless its key is taken; tells whether it was registered. -/
def registerEntity (r : Registry) (e : Entity) : (Registry × Bool) × List Event :=
  if r.contains e.key then
    ((r, false), [Event.debug .registry ("entity " ++ e.key.render ++ " already registered, keeping the first")])
  else
    (({ r with entities := insertByKey e r.entities }, true),
      [Event.debug .registry ("registered entity " ++ e.key.render ++ " from " ++ e.location.render)])

/-- Registers a test function; its id is returned. -/
def registerTest (r : Registry) (t : TestFunction) : Registry × Nat :=
  ({ r with tests := r.tests.push t }, r.tests.size)

/-- A confidence clamped to `[0, 1]`. -/
def clampConfidence (c : Float) : Float := if c < 0.0 then 0.0 else if c > 1.0 then 1.0 else c

def addLink (links : List (EntityKey × List Nat)) (k : EntityKey) (id : Nat) :
    List (EntityKey × List Nat) :=
  if links.any (·.1 == k) then
    links.map fun (key, ids) => if key == k then (key, ids ++ [id]) else (key, ids)
  else links ++ [(k, [id])]

/-- Links a test to an entity, recording how the match was made. -/
def linkTest (r : Registry) (id : Nat) (k : EntityKey) (mt : MatchType) (confidence : Float) :
    Except RegistryError Registry × List Event :=
  if !r.contains k then (.error (.unknownEntity k), [])
  else match r.tests[id]? with
    | none => (.error (.unknownTestFunction id), [])
    | some t =>
      match t.linked with
      | some existing => (.error (.alreadyLinked t.name existing), [])
      | none =>
        let t' := { t with matchType := mt, matchConfidence := clampConfidence confidence,
                           linked := some k }
        (.ok { r with tests := r.tests.setIfInBounds id t', links := addLink r.links k id },
          [Event.debug .registry ("linked " ++ t.name ++ " -> " ++ k.render ++ " (" ++ mt.name ++ ", " ++
            Decimal.fixed t'.matchConfidence 2 ++ ")")])

/-- The key of the first entity named `name`, kinds tried in the order resource, data source,
action. -/
def resolveName (r : Registry) (name : String) : Option EntityKey :=
  (EntityKind.all.map fun k => (⟨k, name⟩ : EntityKey)).find? r.contains

def linkTestToResource (r : Registry) (id : Nat) (name : String) (mt : MatchType)
    (confidence : Float) : Except RegistryError (Registry × EntityKey) × List Event :=
  match r.resolveName name with
  | none => (.error (.unknownEntity ⟨.resource, name⟩), [])
  | some k =>
    let (res, events) := r.linkTest id k mt confidence
    (res.map (·, k), events)

def registerSweeperFile (r : Registry) (file : String) : Registry :=
  { r with sweeperFiles := insertSortedString file r.sweeperFiles }

/-- The first entity named `name`, in kind lookup order. -/
def entityByName (r : Registry) (name : String) : Option Entity :=
  (r.resolveName name).bind r.entity?

/-- The entities named `name`, whatever their kind, in kind order. -/
def entitiesNamed (r : Registry) (name : String) : List Entity :=
  EntityKind.all.filterMap fun k => r.entity? ⟨k, name⟩

def testFunction? (r : Registry) (id : Nat) : Option TestFunction := r.tests[id]?

/-- The ids of the tests linked to the key, in link order. -/
def linkedIds (r : Registry) (k : EntityKey) : List Nat :=
  ((r.links.find? (·.1 == k)).map (·.2)).getD []

/-- The tests linked to exactly this entity, in link order. -/
def testsFor (r : Registry) (k : EntityKey) : List TestFunction :=
  (r.linkedIds k).filterMap r.testFunction?

/-- The tests linked to any entity named `name`, over kinds in lookup order. -/
def resourceTests (r : Registry) (name : String) : List TestFunction :=
  EntityKind.all.flatMap fun k => r.testsFor ⟨k, name⟩

/-- The unlinked tests that were expected to match an entity. -/
def unmatched (r : Registry) : List TestFunction :=
  r.tests.toList.filter fun t => !t.isMatched && t.category.expectsEntity

/-- The entities declared in a file, in key order. -/
def entitiesInFile (r : Registry) (file : String) : List Entity :=
  r.entities.filter (·.location.file == file)

/-- The tests declared in a file, in registration order. -/
def testFunctionsInFile (r : Registry) (file : String) : List TestFunction :=
  r.tests.toList.filter (·.location.file == file)

/-- The distinct entity names, sorted. -/
def simpleNames (r : Registry) : List String :=
  r.entities.foldl (fun acc e => insertSortedString e.name acc) []

def stats (r : Registry) : RegistryStats :=
  let count (k : EntityKind) := (r.entities.filter (·.kind == k)).length
  ⟨count .resource, count .dataSource, count .action, r.tests.size,
    (r.tests.toList.filter (·.linked.isSome)).length⟩

def size (r : Registry) : Nat := r.entities.length

def describe (r : Registry) : String :=
  let s := r.stats
  "Registry \x7b stats: RegistryStats \x7b resources: " ++ toString s.resources ++
    ", data_sources: " ++ toString s.dataSources ++ ", actions: " ++ toString s.actions ++
    ", test_functions: " ++ toString s.testFunctions ++ ", linked_test_functions: " ++
    toString s.linkedTestFunctions ++ " \x7d \x7d"

end Registry

end ProviderCoverage
