import ProviderCoverage.Analysis
import ProviderCoverage.Json.Value

/-!
# The JSON report

An analysis as one pretty JSON document: the analysed directory, the tested share, the
registry's counts, every entity with its coverage and its linked tests, every finding, the
tests linked to no entity and the warnings of the loading. Members keep a fixed order. Floats
are written in their shortest form without a trailing `.0`, and the entity of a finding is its
key written `kind:name`, or `null` for a finding about no entity.
-/

namespace ProviderCoverage.Report

open Json

def testValue (t : TestFunction) : Value :=
  .obj [("name", .str t.name), ("file", .str t.location.file), ("line", .int t.location.line),
    ("category", .str t.category.name), ("match_type", .str t.matchType.name),
    ("match_confidence", .float t.matchConfidence)]

def coverageValue (c : EntityCoverage) : Value :=
  .obj [("has_basic_test", .bool c.hasBasicTest), ("has_update_test", .bool c.hasUpdateTest),
    ("has_import_test", .bool c.hasImportTest), ("has_error_test", .bool c.hasErrorTest),
    ("has_state_check", .bool c.hasStateCheck), ("has_plan_check", .bool c.hasPlanCheck),
    ("has_check_destroy", .bool c.hasCheckDestroy), ("test_count", .int c.testCount),
    ("step_count", .int c.stepCount), ("update_step_count", .int c.updateStepCount),
    ("import_step_count", .int c.importStepCount)]

def entityValue (a : Analysis) (entry : CoverageEntry) : Value :=
  let e := entry.entity
  .obj [("kind", .str e.kind.name), ("name", .str e.name), ("file", .str e.location.file),
    ("line", .int e.location.line), ("import_capable", .bool e.importCapable),
    ("coverage", coverageValue entry.coverage),
    ("tests", .arr ((a.testsOf e.key).map testValue))]

def findingValue (f : Finding) : Value :=
  .obj [("analyzer", .str f.analyzer.name), ("severity", .str f.severity.name),
    ("entity", match f.entity with
      | some k => .str k.render
      | none => .null),
    ("file", .str f.location.file), ("line", .int f.location.line),
    ("message", .str f.message), ("suggestions", .arr (f.suggestions.map .str))]

def value (a : Analysis) : Value :=
  let s := a.stats
  .obj [("root", .str a.root), ("tested_percent", .float a.testedPercent),
    ("resources", .int s.resources), ("data_sources", .int s.dataSources),
    ("actions", .int s.actions), ("test_functions", .int s.testFunctions),
    ("linked_test_functions", .int s.linkedTestFunctions),
    ("entities", .arr (a.coverage.entries.map (entityValue a))),
    ("findings", .arr (a.findings.map findingValue)),
    ("unmatched_tests", .arr (a.unmatched.map testValue)),
    ("warnings", .arr (a.warnings.map .str))]

def json (a : Analysis) : String := (value a).pretty Decimal.Layout.compact 0

end ProviderCoverage.Report
