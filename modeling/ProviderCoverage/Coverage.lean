import ProviderCoverage.Registry

/-!
# Coverage

What the tests linked to an entity cover: whether it has a test at all, an update, an import,
an error case, a state or plan check and a destroy check, and how many tests, steps, real
update steps and import steps there are. Update steps are told within each test's own steps;
steps of different tests are never compared.

The report lists every entity of a registry in key order with its coverage.
-/

namespace ProviderCoverage

/-- What the tests of one entity cover. -/
structure EntityCoverage where
  hasBasicTest : Bool := false
  hasUpdateTest : Bool := false
  hasImportTest : Bool := false
  hasErrorTest : Bool := false
  hasStateCheck : Bool := false
  hasPlanCheck : Bool := false
  hasCheckDestroy : Bool := false
  testCount : Nat := 0
  stepCount : Nat := 0
  updateStepCount : Nat := 0
  importStepCount : Nat := 0
  deriving Repr, DecidableEq, Inhabited

namespace EntityCoverage

/-- The coverage of a list of tests. Whether there is a test and how many are set up front; each
test then adds its destroy check, import and error flags and its number of steps, and each of its
steps adds its state and plan checks and whether it is a real update or an import. -/
def compute (tests : List TestFunction) : EntityCoverage := Id.run do
  let mut c : EntityCoverage := { hasBasicTest := !tests.isEmpty, testCount := tests.length }
  for t in tests do
    c := { c with hasCheckDestroy := c.hasCheckDestroy || t.hasCheckDestroy
                  hasImportTest := c.hasImportTest || t.hasImportStep
                  hasErrorTest := c.hasErrorTest || t.hasErrorCase
                  stepCount := c.stepCount + t.steps.length }
    for s in t.steps do
      c := { c with hasStateCheck := c.hasStateCheck || s.hasStateCheck
                    hasPlanCheck := c.hasPlanCheck || s.hasPlanCheck }
      if s.isRealUpdate then
        c := { c with hasUpdateTest := true, updateStepCount := c.updateStepCount + 1 }
      if s.importState then
        c := { c with importStepCount := c.importStepCount + 1 }
  return c

/-- Tested, but nothing checks state or plan. -/
def missingStateChecks (c : EntityCoverage) : Bool :=
  c.hasBasicTest && !c.hasStateCheck && !c.hasPlanCheck

end EntityCoverage

/-- The coverage of one entity, with the entity. -/
structure CoverageEntry where
  entity : Entity
  coverage : EntityCoverage
  deriving Repr

/-- Tested but never destroy-checked; data sources are never destroyed. -/
def CoverageEntry.missingCheckDestroy (e : CoverageEntry) : Bool :=
  e.entity.kind != .dataSource && e.coverage.hasBasicTest && !e.coverage.hasCheckDestroy

/-- The coverage of every entity of a registry, in key order. -/
structure CoverageReport where
  entries : List CoverageEntry := []
  deriving Repr

namespace CoverageReport

def ofRegistry (r : Registry) : CoverageReport :=
  ⟨r.entities.map fun e => ⟨e, EntityCoverage.compute (r.testsFor e.key)⟩⟩

def get? (c : CoverageReport) (k : EntityKey) : Option EntityCoverage :=
  (c.entries.find? (·.entity.key == k)).map (·.coverage)

/-- The entries without a test. -/
def untested (c : CoverageReport) : List CoverageEntry :=
  c.entries.filter (!·.coverage.hasBasicTest)

/-- The tested entries none of whose tests check state or plan. -/
def missingStateChecks (c : CoverageReport) : List CoverageEntry :=
  c.entries.filter (·.coverage.missingStateChecks)

/-- The tested resources and actions without a destroy check. -/
def missingCheckDestroy (c : CoverageReport) : List CoverageEntry :=
  c.entries.filter (·.missingCheckDestroy)

end CoverageReport

end ProviderCoverage
