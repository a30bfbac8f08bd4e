import ProviderCoverage.Go.File
import ProviderCoverage.Settings.FileFilter
import ProviderCoverage.Log

/-!
# Loading source files

The files of one analysis, with the warnings of the files that could not be read. Each file is
told a test file or not by the filter; a file without tests that the filter excludes is dropped
with a debug event. Files whose syntax is broken are kept, since the reader recovers and the
strategies simply find less in them. The files that are kept are sorted by path, stably, so
that two files of one path stay in the order they were given.
-/

namespace ProviderCoverage

/-- What became of one file. -/
inductive Loaded where
  | file (f : Go.File)
  | excluded
  | unreadable (warning : String)

/-- The parsed files of one analysis, sorted by path, and the warnings of unreadable files. -/
structure LoadResult where
  files : List Go.File := []
  warnings : List String := []

namespace Loaded

/-- A file read from `path`: a test file, an excluded file, or a file to extract from. -/
def ofSource (filter : FileFilter) (path content : String) : Loaded × List Event :=
  let isTest := filter.isTestFile path
  if !isTest && filter.isExcluded path then (.excluded, [Event.debug .sources ("excluding " ++ path)])
  else (.file (Go.File.parse path content isTest), [])

end Loaded

namespace LoadResult

/-- The kept files, stably sorted by path, and the warnings in the order they arose. -/
def collect (outcomes : List Loaded) : LoadResult :=
  let files := outcomes.filterMap fun | .file f => some f | _ => none
  let warnings := outcomes.filterMap fun | .unreadable w => some w | _ => none
  ⟨files.mergeSort fun a b => a.path ≤ b.path, warnings⟩

def ofMemory (filter : FileFilter) (sources : List (String × String)) :
    LoadResult × List Event :=
  let outcomes := sources.map fun (path, content) => Loaded.ofSource filter path content
  (collect (outcomes.map (·.1)), outcomes.flatMap (·.2))

def testFiles (r : LoadResult) : List Go.File := r.files.filter (·.isTest)

/-- The files that hold no tests. -/
def sourceFiles (r : LoadResult) : List Go.File := r.files.filter (!·.isTest)

end LoadResult

end ProviderCoverage
