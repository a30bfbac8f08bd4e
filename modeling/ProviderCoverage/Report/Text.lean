import ProviderCoverage.Analysis
import ProviderCoverage.Report.Style
import ProviderCoverage.Decimal.Layout

/-!
# The text report

An analysis written for a terminal. It opens with the analysed directory and the tested share
of entities, coloured green from 80 per cent, yellow from 50 per cent and red below, then the
registry's counts. The warnings of the loading follow when there are any; with `verbose`,
every entity with a summary of its coverage and its tests; then every finding with its
location and suggestions; and with `showUnmatched`, the tests linked to no entity.
-/

namespace ProviderCoverage.Report

/-- What the text report shows beyond the summary. -/
structure TextOptions where
  /-- List every entity with its linked tests. -/
  verbose : Bool := false
  showUnmatched : Bool := false
  /-- Show how each test was linked, and with what confidence. -/
  showConfidence : Bool := false
  deriving Repr, DecidableEq

/-- What the tests of an entity cover, in brackets: `(no tests)` for an untested entity, else
the counts and the kinds of step present. -/
def coverageTags (c : EntityCoverage) : String :=
  if !c.hasBasicTest then "(no tests)"
  else
    let tags := [(c.hasUpdateTest, "update"), (c.hasImportTest, "import"),
      (c.hasErrorTest, "error"), (c.hasStateCheck || c.hasPlanCheck, "checks"),
      (c.hasCheckDestroy, "destroy")]
    let present := (tags.filter (·.1)).map (·.2)
    "(" ++ toString c.testCount ++ " tests, " ++ toString c.stepCount ++ " steps; " ++
      (if present.isEmpty then "basic only" else ", ".intercalate present) ++ ")"

/-- A linked test, with how it was linked when asked. -/
def testLine (t : TestFunction) (showConfidence : Bool) : String :=
  if showConfidence then
    t.name ++ " " ++ dimmed ("[" ++ t.matchType.name ++ " " ++ Decimal.fixed t.matchConfidence 2 ++ "]")
  else t.name

/-- The severity of a finding, styled by how much it matters. -/
def severityText : Severity → String
  | .error => boldColoured .red "error"
  | .warning => boldColoured .yellow "warning"
  | .info => coloured .blue "info"

/-- A finding with its location, when it has a file, and its suggestions. -/
def findingLines (f : Finding) : String :=
  "  " ++ severityText f.severity ++ " [" ++ dimmed f.analyzer.name ++ "] " ++ f.message ++ "\n" ++
    (if f.location.file.isEmpty then "" else "      at " ++ dimmed f.location.render ++ "\n") ++
    String.join (f.suggestions.map fun s => "      " ++ coloured .blue "->" ++ " " ++ s ++ "\n")

/-- The tested share, to one decimal. -/
def percentText (percent : Float) : String :=
  let text := Decimal.fixed percent 1 ++ "%"
  if percent ≥ 80.0 then coloured .green text
  else if percent ≥ 50.0 then coloured .yellow text
  else coloured .red text

/-- The heading, the tested share and the counts. -/
def summaryLines (a : Analysis) : String :=
  let s := a.stats
  "\n" ++ bold "##" ++ " " ++ boldColoured .cyan a.root ++ " Test Coverage\n\n" ++
    "Tested: " ++ percentText a.testedPercent ++ " (" ++ toString a.testedCount ++ "/" ++
    toString a.entityCount ++ " entities)\n" ++
    "  " ++ dimmed (toString s.resources ++ " resources, " ++ toString s.dataSources ++
      " data sources, " ++ toString s.actions ++ " actions; " ++ toString s.linkedTestFunctions ++
      "/" ++ toString s.testFunctions ++ " test functions linked") ++ "\n"

/-- The files that could not be read. -/
def warningLines (a : Analysis) : String :=
  if a.warnings.isEmpty then ""
  else
    "\n" ++ boldColoured .yellow "!" ++ " " ++ toString a.warnings.length ++
      " files could not be read:\n" ++
      String.join (a.warnings.map fun w => "  " ++ coloured .yellow "-" ++ " " ++ dimmed w ++ "\n")

def entityLines (a : Analysis) (showConfidence : Bool) : String :=
  "\n" ++ bold "#" ++ " Entities:\n" ++
    String.join (a.coverage.entries.map fun entry =>
      let key := entry.entity.key
      let marker := if entry.coverage.hasBasicTest then boldColoured .green "+"
        else boldColoured .red "-"
      "  " ++ marker ++ " " ++ dimmed key.kind.name ++ " " ++ coloured .cyan entry.entity.name ++
        " " ++ dimmed (coverageTags entry.coverage) ++ "\n" ++
        String.join ((a.testsOf key).map fun t => "      " ++ testLine t showConfidence ++ "\n"))

def findingsLines (a : Analysis) : String :=
  if a.findings.isEmpty then ""
  else
    "\n" ++ boldColoured .red "!" ++ " " ++ toString a.findings.length ++ " findings:\n" ++
      String.join (a.findings.map findingLines)

/-- The tests linked to no entity. -/
def unmatchedLines (a : Analysis) : String :=
  if a.unmatched.isEmpty then ""
  else
    "\n" ++ boldColoured .yellow "?" ++ " " ++ toString a.unmatched.length ++
      " test functions not linked to any entity:\n" ++
      String.join (a.unmatched.map fun t => "  " ++ coloured .yellow "-" ++ " " ++ t.name ++ " " ++
        dimmed ("(" ++ t.location.render ++ ", " ++ t.category.name ++ ")") ++ "\n")

def text (a : Analysis) (o : TextOptions) : String :=
  summaryLines a ++ warningLines a ++
    (if o.verbose then entityLines a o.showConfidence else "") ++
    findingsLines a ++
    (if o.showUnmatched then unmatchedLines a else "")

end ProviderCoverage.Report
