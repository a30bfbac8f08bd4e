import ProviderCoverage.Entity
import ProviderCoverage.Text.Basic

/-!
# Acceptance test functions

A test function runs test cases, each a list of steps. A step may apply a configuration,
check state, import, or expect an error. The linker later ties a test function to the entity
it exercises, recording which strategy matched and with what confidence.
-/

namespace ProviderCoverage

/-- Which linking strategy tied a test to its entity. -/
inductive MatchType where
  | none
  | fuzzy
  | fileProximity
  | functionName
  | inferredFromConfig
  deriving Repr, DecidableEq, Inhabited

def MatchType.name : MatchType → String
  | .none => "none"
  | .fuzzy => "fuzzy"
  | .fileProximity => "file_proximity"
  | .functionName => "function_name"
  | .inferredFromConfig => "inferred_from_config"

/-- What a test function exercises. -/
inductive TestCategory where
  | entity
  | providerConfig
  | function
  | integration
  deriving Repr, DecidableEq, Inhabited

namespace TestCategory

def name : TestCategory → String
  | .entity => "entity"
  | .providerConfig => "provider-config"
  | .function => "function"
  | .integration => "integration"

/-- Whether a test of this category is expected to exercise some entity. -/
def expectsEntity : TestCategory → Bool
  | .providerConfig | .function => false
  | _ => true

end TestCategory

/-- A typed block in configuration text, e.g. `resource "example_widget" "x" {`. -/
structure Block where
  kind : EntityKind
  /-- The full type name as written, provider prefix included. -/
  typeName : String
  deriving Repr, DecidableEq, Inhabited

/-- One step of a test case. -/
structure TestStep where
  /-- The position of the step within its step list, from zero. -/
  index : Nat := 0
  hasConfig : Bool := false
  /-- Empty when the step has no configuration. -/
  configFingerprint : String := ""
  /-- The fingerprint of the preceding step's configuration; empty for the first step. -/
  previousConfigFingerprint : String := ""
  hasCheck : Bool := false
  hasStateCheck : Bool := false
  hasPlanCheck : Bool := false
  importState : Bool := false
  importStateVerify : Bool := false
  expectError : Bool := false
  expectNonEmptyPlan : Bool := false
  refreshState : Bool := false
  /-- Check helpers called from the step's checks. -/
  checkFunctions : List String := []
  inferredBlocks : List Block := []
  deriving Repr, DecidableEq, Inhabited

namespace TestStep

/-- A later step that applies a configuration, as opposed to an import step. -/
def isRealUpdate (s : TestStep) : Bool := s.index > 0 && s.hasConfig && !s.importState

/-- A real update step whose configuration differs from the previous step's. -/
def changesConfig (s : TestStep) : Bool :=
  s.isRealUpdate && s.configFingerprint != s.previousConfigFingerprint

end TestStep

/-- An acceptance test function and what is known about it. -/
structure TestFunction where
  name : String
  location : Location
  steps : List TestStep := []
  matchType : MatchType := .none
  /-- In `[0, 1]`; zero while unmatched. -/
  matchConfidence : Float := 0.0
  category : TestCategory := .integration
  hasCheckDestroy : Bool := false
  hasPreCheck : Bool := false
  hasImportStep : Bool := false
  hasErrorCase : Bool := false
  /-- The blocks of the steps' configurations, without repeats, in order. -/
  inferredBlocks : List Block := []
  /-- The harness entry point through which the function runs its test cases. -/
  helperUsed : String := ""
  /-- The entity the linker tied the test to. -/
  linked : Option EntityKey := none
  deriving Repr, Inhabited

namespace TestFunction

/-- The type names of the inferred blocks, in order. -/
def inferredNames (t : TestFunction) : List String := t.inferredBlocks.map (·.typeName)

def isMatched (t : TestFunction) : Bool := t.matchType != .none

/-- Name fragments of tests that exercise the provider's own configuration. -/
def providerMarkers : List String :=
  ["ProviderConfig", "ProviderMeta", "ProviderBasePath", "ProviderCredentials",
    "ProviderEmptyStrings", "UniverseDomain"]

/-- The category of a test, from the first rule that applies: a test whose configurations
declare blocks exercises an entity; then come provider markers and prefixes in the name,
function markers in the name, function paths, and provider paths; all else is an integration
test. -/
def classify (name path : String) (blocks : List Block) : TestCategory :=
  if !blocks.isEmpty then .entity
  else if providerMarkers.any (Text.contains name) ||
      name.startsWith "TestAccProvider" || name.startsWith "TestAccFrameworkProvider" then
    .providerConfig
  else if ["ProviderFunction", "Parse_", "Function_"].any (Text.contains name) ||
      name.endsWith "ParseFunction" then
    .function
  else if Text.contains path "/functions/" || Text.contains path "/testing/" ||
      path.endsWith "_function_test.go" then
    .function
  else if ["provider_test.go", "provider_config", "framework_provider_test.go",
      "universe_domain"].any (Text.contains path) then
    .providerConfig
  else .integration

end TestFunction

end ProviderCoverage
