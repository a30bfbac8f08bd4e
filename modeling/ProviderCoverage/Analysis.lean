import ProviderCoverage.Sources
import ProviderCoverage.Extraction.Extractor
import ProviderCoverage.TestDiscovery
import ProviderCoverage.Linker
import ProviderCoverage.Findings

/-!
# One analysis

Building a registry from loaded files, and what an analysis keeps of it for its reports.

A registry is built in a fixed order, so that one set of files always gives one registry: the
settings are checked; the entities of the files without tests are registered in file order; the
local harness helpers of the test files are collected, and the tests of each test file are
parsed and registered in file order; every file that registers sweepers is noted; last, every
test is linked. The first settings error refuses the build.

An analysis is the registry's counts, its coverage report, the tests of each entity, the
unlinked tests, the findings and the warnings of the loading. The tested share of an empty
analysis is a full hundred per cent: nothing is left untested.
-/

namespace ProviderCoverage

/-- Why an analysis could not be built. -/
inductive AnalysisError where
  | config (e : ConfigError)
  | registry (e : RegistryError)

/-- Registers every entity of the files without tests, in file order. -/
def registerEntities (x : Extraction.Extractor) (files : List Go.File) (r : Registry) :
    Registry × List Event :=
  files.foldl (fun (r, events) f =>
    let (entities, found) := x.extract f
    entities.foldl (fun (r, events) e =>
      let ((r, _), registered) := r.registerEntity e
      (r, events ++ registered)) (r, events ++ found)) (r, [])

/-- Parses and registers the tests of the test files, in file order. -/
def registerTests (s : Settings) (files : List Go.File) (r : Registry) : Registry × List Event :=
  let (helpers, found) := TestDiscovery.findLocalHelpers files
  let d := TestDiscovery.Discoverer.new s helpers
  files.foldl (fun (r, events) f =>
    let (tests, parsed) := d.parse f
    (tests.foldl (fun r t => (r.registerTest t).1) r, events ++ parsed)) (r, found)

def registerSweepers (files : List Go.File) (r : Registry) : Registry × List Event :=
  files.foldl (fun (r, events) f =>
    if TestDiscovery.registersSweepers f then
      (r.registerSweeperFile f.path, events ++ [Event.debug .analysis (f.path ++ " registers test sweepers")])
    else (r, events)) (r, [])

def discoveredEvent (stats : RegistryStats) (linked : Nat) : Event :=
  Event.info .analysis ("discovered " ++ toString stats.resources ++ " resources, " ++
    toString stats.dataSources ++ " data sources, " ++ toString stats.actions ++
    " actions; linked " ++ toString linked ++ "/" ++ toString stats.testFunctions ++
    " test functions")

/-- The registry of a set of files: entities, tests, sweeper files and links. -/
def buildRegistry (files : List Go.File) (s : Settings) :
    Except AnalysisError Registry × List Event :=
  match s.validate, Extraction.Extractor.new s with
  | .error e, _ | _, .error e => (.error (.config e), [])
  | .ok (), .ok x =>
    let (r, extracted) := registerEntities x (files.filter (!·.isTest)) {}
    let (r, parsed) := registerTests s (files.filter (·.isTest)) r
    let (r, sweepers) := registerSweepers files r
    let before := extracted ++ parsed ++ sweepers
    match Linker.new r s with
    | .error e => (.error (.config e), before)
    | .ok l =>
      match l.linkAll r with
      | (.error e, linking) => (.error (.registry e), before ++ linking)
      | (.ok (r, linked), linking) =>
        (.ok r, before ++ linking ++ [discoveredEvent r.stats linked])

/-- Loads files given by path and content, then builds their registry. -/
def analyzeSources (sources : List (String × String)) (s : Settings) :
    Except AnalysisError (LoadResult × Registry) × List Event :=
  match FileFilter.ofSettings s with
  | .error e => (.error (.config e), [])
  | .ok filter =>
    let (loaded, loading) := LoadResult.ofMemory filter sources
    let counted := Event.debug .analysis ("loaded " ++ toString loaded.files.length ++ " files (" ++
      toString loaded.warnings.length ++ " warnings)")
    let (built, building) := buildRegistry loaded.files s
    (built.map (loaded, ·), loading ++ [counted] ++ building)

/-- What the reports show of one analysis. -/
structure Analysis where
  /-- The analysed directory, as given. -/
  root : String
  stats : RegistryStats
  coverage : CoverageReport
  /-- The tests linked to each entity, in key order. -/
  tests : List (EntityKey × List TestFunction)
  unmatched : List TestFunction
  findings : List Finding
  warnings : List String := []

namespace Analysis

/-- The analysis of a built registry, with the events of its evaluation. -/
def ofRegistry (root : String) (r : Registry) (s : Settings) :
    Except ConfigError Analysis × List Event :=
  match evaluate r s with
  | .error e => (.error e, [])
  | .ok (findings, events) =>
    let coverage := CoverageReport.ofRegistry r
    let tests := coverage.entries.map fun entry => (entry.entity.key, r.testsFor entry.entity.key)
    (.ok ⟨root, r.stats, coverage, tests, r.unmatched, findings, []⟩, events)

def testsOf (a : Analysis) (k : EntityKey) : List TestFunction :=
  ((a.tests.find? (·.1 == k)).map (·.2)).getD []

def entityCount (a : Analysis) : Nat := a.coverage.entries.length

def testedCount (a : Analysis) : Nat := a.entityCount - a.coverage.untested.length

/-- The share of entities with at least one test, from 0 to 100; 100 without entities. -/
def testedPercent (a : Analysis) : Float :=
  if a.entityCount == 0 then 100.0
  else Float.ofNat a.testedCount / Float.ofNat a.entityCount * 100.0

def hasErrors (a : Analysis) : Bool := a.findings.any (·.severity == .error)

end Analysis

end ProviderCoverage
