import ProviderCoverage.Coverage
import ProviderCoverage.Settings.Check
import ProviderCoverage.Naming

/-!
# Findings

Each enabled analyzer turns the coverage of an entity into findings. An entity without tests
gets one `basic` finding, always an error. A tested entity may get an `update` finding (a
resource with updatable attributes and no real update step), an `import` finding (an importable
resource without an import step), an `error` finding (a resource with validated attributes and
no error case), a `state-check` finding (no test checks state or plan) and a `check-destroy`
finding (a tested resource or action never destroy-checked). The severity of these follows how
sure the linker was: the best confidence among the entity's tests is an error from 0.9, a
warning from 0.7, else informational. Entities come in key order, skipping those whose name the
naming pattern does not match; a package without sweeper registrations gets one last finding.
-/

namespace ProviderCoverage

/-- Which check produced a finding. -/
inductive Analyzer where
  | basic
  | update
  | import
  | error
  | stateCheck
  | checkDestroy
  | sweeper
  deriving Repr, DecidableEq

def Analyzer.name : Analyzer → String
  | .basic => "basic"
  | .update => "update"
  | .import => "import"
  | .error => "error"
  | .stateCheck => "state-check"
  | .checkDestroy => "check-destroy"
  | .sweeper => "sweeper"

/-- How much a finding matters. -/
inductive Severity where
  | info
  | warning
  | error
  deriving Repr, DecidableEq

namespace Severity

/-- The severity of findings backed by tests linked with this confidence. -/
def ofConfidence (c : Float) : Severity :=
  if c ≥ 0.9 then .error else if c ≥ 0.7 then .warning else .info

def name : Severity → String
  | .info => "info"
  | .warning => "warning"
  | .error => "error"

end Severity

/-- One coverage gap. -/
structure Finding where
  analyzer : Analyzer
  severity : Severity
  entity : Option EntityKey
  location : Location
  message : String
  suggestions : List String
  deriving Repr

/-- The test file expected beside an entity's file: `widget_resource.go` expects
`widget_resource_test.go`; without a `.go` stem, the entity's name is used. -/
def expectedTestFile (e : Entity) : String :=
  match Text.stripSuffix? e.location.file ".go" with
  | some stem => if stem.isEmpty then e.name ++ "_test.go" else stem ++ "_test.go"
  | none => e.name ++ "_test.go"

def expectedTestFunction (e : Entity) : String :=
  let title := Naming.titleCase e.name
  match e.kind with
  | .resource => "TestAcc" ++ title ++ "_basic"
  | .dataSource => "TestAccDataSource" ++ title ++ "_basic"
  | .action => "TestAcc" ++ title ++ "Action_basic"

def entityFindings (s : Settings) (entry : CoverageEntry) (severity : Severity) : List Finding :=
  let e := entry.entity
  let c := entry.coverage
  let finding (a : Analyzer) (sev : Severity) (message suggestion : String) : Finding :=
    ⟨a, sev, some e.key, e.location, message, [suggestion]⟩
  let tests := toString c.testCount
  if !c.hasBasicTest then
    if s.enableBasicTest then
      [finding .basic .error (e.kind.name ++ " '" ++ e.name ++ "' has no acceptance test")
        ("Create " ++ expectedTestFile e ++ " with function " ++ expectedTestFunction e)]
    else []
  else
    let updatable := (e.attributes.filter (·.needsUpdateTest)).map (·.name)
    let validated := (e.attributes.filter (·.needsValidationTest)).map (·.name)
    let update :=
      if s.enableUpdateTest && e.kind == .resource && !c.hasUpdateTest && !updatable.isEmpty then
        [finding .update severity ("resource '" ++ e.name ++
          "' has updatable attributes but no update test coverage (updatable: " ++
          ", ".intercalate updatable ++ ")")
          "Add a test step that modifies one of these attributes"]
      else []
    let imports :=
      if s.enableImportTest && e.kind == .resource && e.importCapable && !c.hasImportTest then
        [finding .import severity ("resource '" ++ e.name ++
          "' implements ImportState but has no import test coverage")
          "Add a test step with ImportState: true, ImportStateVerify: true"]
      else []
    let errors :=
      if s.enableErrorTest && e.kind == .resource && !c.hasErrorTest && !validated.isEmpty then
        [finding .error severity ("resource '" ++ e.name ++
          "' has validation rules but no error case tests (validated: " ++
          ", ".intercalate validated ++ ")")
          "Add a test step with ExpectError to verify validation"]
      else []
    let stateChecks :=
      if s.enableStateCheck && c.missingStateChecks then
        [finding .stateCheck severity (e.kind.name ++ " '" ++ e.name ++ "' has " ++ tests ++
          " test(s) but none include state validation (Check) or plan checks (ConfigPlanChecks)")
          "Add Check: resource.ComposeTestCheckFunc(...) or ConfigPlanChecks to at least one test"]
      else []
    let destroy :=
      if s.anyAnalyzerEnabled && entry.missingCheckDestroy then
        [finding .checkDestroy severity (e.kind.name ++ " '" ++ e.name ++ "' has " ++ tests ++
          " test(s) but none include CheckDestroy")
          "Add CheckDestroy to at least one test's resource.TestCase"]
      else []
    update ++ imports ++ errors ++ stateChecks ++ destroy

/-- Runs every enabled analyzer over a linked registry, with the events of skipped entities;
refused when the naming pattern does not read. -/
def evaluate (r : Registry) (s : Settings) : Except ConfigError (List Finding × List Event) := do
  let naming ← s.namingPattern
  let report := CoverageReport.ofRegistry r
  let step (acc : List Finding × List Event) (entry : CoverageEntry) : List Finding × List Event :=
    let e := entry.entity
    match naming with
    | some pattern =>
      if !pattern.isMatch e.name then
        (acc.1, acc.2 ++ [Event.debug .findings (e.key.render ++ " does not match the naming pattern, skipped")])
      else
        let best := (r.testsFor e.key).foldl (fun m t => max m t.matchConfidence) 0.0
        (acc.1 ++ entityFindings s entry (Severity.ofConfidence best), acc.2)
    | none =>
      let best := (r.testsFor e.key).foldl (fun m t => max m t.matchConfidence) 0.0
      (acc.1 ++ entityFindings s entry (Severity.ofConfidence best), acc.2)
  let (findings, events) := report.entries.foldl step ([], [])
  let sweeper :=
    if s.anyAnalyzerEnabled && r.sweeperFiles.isEmpty then
      let location : Location := match r.tests[0]? with
        | some t => ⟨t.location.file, 1, 1⟩
        | none => ⟨"", 0, 0⟩
      [⟨.sweeper, .warning, none, location, "package has no test sweeper registrations",
        ["Add resource.AddTestSweepers() calls for cleanup"]⟩]
    else []
  pure (findings ++ sweeper, events)

end ProviderCoverage
