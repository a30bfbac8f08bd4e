import ProviderCoverage.Disk.Walk
import ProviderCoverage.Sources

/-!
# Loading source files from a directory tree

Files are loaded from a list of paths, or from a walk of a root that keeps the regular files
whose extension is `go`. A path is shown with its backslashes written as `/`. A file that
cannot be read as UTF-8 text is left out with the warning `Failed to read <path>: <error>`;
a walk's own failures are warnings too, and come before those of reading.
-/

namespace ProviderCoverage

open Disk

/-- Whether the last name of a path has the extension `go`: a `.go` after a non-empty stem. -/
def isGoPath (path : String) : Bool :=
  let name := lastName path
  match Text.splitLast name '.' with
  | some (stem, ext) => !stem.isEmpty && ext == "go"
  | none => false

namespace LoadResult

def loadPath (d : Disk) (filter : FileFilter) (path : String) : Loaded × List Event :=
  let shown := String.map (fun c => if c == '\\' then '/' else c) path
  match d.readText path with
  | .ok content => Loaded.ofSource filter shown content
  | .error e =>
    let warning := "Failed to read " ++ shown ++ ": " ++ e.message
    (.unreadable warning, [Event.warn .sources warning])

def ofPaths (d : Disk) (filter : FileFilter) (paths : List String) : LoadResult × List Event :=
  let outcomes := paths.map (loadPath d filter)
  (collect (outcomes.map (·.1)), outcomes.flatMap (·.2))

/-- The Go files of a walk of `root`, with the walk's failures as the first warnings. -/
def ofWalk (d : Disk) (filter : FileFilter) (root : String) : LoadResult × List Event :=
  let items := walk d root
  let failures := items.filterMap fun | .failure m => some m | _ => none
  let paths := items.filterMap fun
    | .entry path .file => if isGoPath path then some path else none
    | _ => none
  let skipped := failures.map fun m => Event.warn .sources ("Skipping walk entry under " ++ root ++ ": " ++ m)
  let found := Event.debug .sources ("found " ++ toString paths.length ++ " Go files under " ++ root)
  let (loaded, events) := ofPaths d filter paths
  ({ loaded with warnings := failures ++ loaded.warnings }, skipped ++ [found] ++ events)

end LoadResult

end ProviderCoverage
