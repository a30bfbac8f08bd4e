import ProviderCoverage.Settings.Basic
import ProviderCoverage.Settings.Error
import ProviderCoverage.Text.Basic

/-!
# Telling files apart

A file holds tests when its name matches the test-file glob. A file without tests is left out
of entity extraction when it is a base file (`base_` or `base.`), a sweeper or migration file
(each as its setting asks), when an excluded path equals its path or name or occurs in its
path, or when its name matches an exclusion glob. The stem of a test file is its name without
the literal text before the first and after the last `*` of the test-file glob.
-/

namespace ProviderCoverage

/-- Compiles the globs of a setting; the first that cannot be read refuses the settings. -/
def compileGlobs (setting : String) (patterns : List String) :
    Except ConfigError (List Glob.Glob) :=
  patterns.mapM fun p => (Glob.Glob.parse p).mapError (.invalidGlob setting)

def anyGlobMatches (globs : List Glob.Glob) (s : String) : Bool :=
  globs.any (·.matches s)

/-- Decides which files hold tests and which files without tests are skipped. -/
structure FileFilter where
  testFile : Glob.Glob
  excludePatterns : List Glob.Glob
  excludePaths : List String
  excludeBaseClasses : Bool
  excludeSweeperFiles : Bool
  excludeMigrationFiles : Bool

namespace FileFilter

/-- The filter the settings describe, or the first glob that cannot be read. -/
def ofSettings (s : Settings) : Except ConfigError FileFilter := do
  let pattern := if s.testFilePattern.isEmpty then "*_test.go" else s.testFilePattern
  let testFile ← (Glob.Glob.parse pattern).mapError (.invalidGlob "test-file-pattern")
  let excludes ← compileGlobs "exclude-patterns" s.excludePatterns
  pure ⟨testFile, excludes, s.excludePaths, s.excludeBaseClasses, s.excludeSweeperFiles,
    s.excludeMigrationFiles⟩

def isTestFile (f : FileFilter) (path : String) : Bool :=
  f.testFile.matches (Text.fileName path)

/-- The name of a test file without the literal text around the glob's wildcards, when that
leaves something. -/
def testFileStem (f : FileFilter) (path : String) : Option String :=
  let name := Text.fileName path
  if !f.testFile.matches name then none
  else
    let pat := f.testFile.text.toList
    if !pat.contains '*' then none
    else
      let head := String.ofList (pat.takeWhile (· != '*'))
      let tail := String.ofList ((pat.reverse.takeWhile (· != '*')).reverse)
      match Text.stripPrefix? name head with
      | none => none
      | some rest =>
        match Text.stripSuffix? rest tail with
        | some stem => if stem.isEmpty then none else some stem
        | none => none

/-- Whether a file without tests is left out of entity extraction. -/
def isExcluded (f : FileFilter) (path : String) : Bool :=
  let name := Text.fileName path
  (f.excludeBaseClasses && (name.startsWith "base_" || name.startsWith "base.")) ||
  (f.excludeSweeperFiles && name.endsWith "_sweeper.go") ||
  (f.excludeMigrationFiles && (name.endsWith "_migrate.go" || Text.contains name "_migration" ||
    name.endsWith "_state_upgrader.go")) ||
  f.excludePaths.any (fun p => !p.isEmpty && (path == p || name == p || Text.contains path p)) ||
  anyGlobMatches f.excludePatterns name

end FileFilter

end ProviderCoverage
