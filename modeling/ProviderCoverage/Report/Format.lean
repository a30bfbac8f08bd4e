import ProviderCoverage.Report.Text
import ProviderCoverage.Report.Json

/-!
# Report formats

A report is written as text for a terminal or as a JSON document. A format is named `text` or
`json`, in any case.
-/

namespace ProviderCoverage.Report

/-- How a report is written. -/
inductive Format where
  | text
  | json
  deriving Repr, DecidableEq, Inhabited

/-- The format a name gives, in any case. -/
def Format.ofName? (name : String) : Option Format :=
  match name.toLower with
  | "text" => some .text
  | "json" => some .json
  | _ => none

/-- The report of an analysis in a format; the JSON document leaves the options aside. -/
def render (a : Analysis) (f : Format) (o : TextOptions) : String :=
  match f with
  | .text => text a o
  | .json => json a

end ProviderCoverage.Report
