import ProviderCoverage.Settings.FileFilter

/-!
# Checking settings

Settings are checked in a fixed order: the fuzzy threshold lies in `[0, 1]`, it is at least
one half when fuzzy matching is on, some analyzer is enabled, the cache lifetime reads as a
duration, the naming pattern reads as a regular expression, the test-file and exclusion globs
read, the prefix and suffix tables read, the nested-schema globs read, and every custom test
helper names a package and a function. The first failure is the answer.
-/

namespace ProviderCoverage

/-- A file-name convention: a marker in a test file's stem and whether it means a data source. -/
structure FileConvention where
  marker : String
  dataSource : Bool
  deriving Repr, DecidableEq

/-- Reads `marker:true` / `marker:false` entries, split at the last colon, the flag trimmed; an
entry without a colon is a marker meaning a resource. -/
def parseConventions (setting : String) (entries : List String) :
    Except ConfigError (List FileConvention) :=
  entries.mapM fun entry =>
    let (marker, flag) := match Text.splitLast entry ':' with
      | some (m, f) => (m, Text.trim f)
      | none => (entry, "false")
    if flag == "true" then .ok ⟨marker, true⟩
    else if flag == "false" then .ok ⟨marker, false⟩
    else .error (.invalidEntry setting entry "marker:true or marker:false")

namespace Settings

/-- The default cache lifetime, five minutes in nanoseconds. -/
def defaultCacheTtl : Nat := 300000000000

/-- The cache lifetime in nanoseconds; `none` when expiry is off (a zero duration). -/
def cacheTtlNanos (s : Settings) : Except ConfigError (Option Nat) :=
  let value := Text.trim s.cacheTtl
  if value.isEmpty then .ok (some defaultCacheTtl)
  else match Duration.parse value with
    | .ok 0 => .ok none
    | .ok n => .ok (some n)
    | .error reason => .error (.invalidCacheTtl value reason)

/-- The naming pattern; `none` when it is empty. -/
def namingPattern (s : Settings) : Except ConfigError (Option Regex.Regex) :=
  if s.resourceNamingPattern.isEmpty then .ok none
  else match Regex.Regex.ofPattern s.resourceNamingPattern with
    | .ok r => .ok (some r)
    | .error e => .error (.invalidNamingPattern s.resourceNamingPattern e)

/-- Checks the settings in the order described above. -/
def validate (s : Settings) : Except ConfigError Unit := do
  let x := s.fuzzyMatchThreshold
  if !(0.0 ≤ x && x ≤ 1.0) then throw (.thresholdOutOfRange x)
  if s.enableFuzzyMatching && x < 0.5 then throw (.thresholdTooLowForFuzzy x)
  if !s.anyAnalyzerEnabled then throw .noAnalyzerEnabled
  let _ ← s.cacheTtlNanos
  let _ ← s.namingPattern
  let _ ← FileFilter.ofSettings s
  let _ ← parseConventions "test-file-prefix-patterns" s.testFilePrefixPatterns
  let _ ← parseConventions "test-file-suffix-patterns" s.testFileSuffixPatterns
  let _ ← compileGlobs "nested-schema-patterns" s.nestedSchemaPatterns
  for helper in s.customTestHelpers do
    if !helper.toList.contains '.' then
      throw (.invalidEntry "custom-test-helpers" helper "package.Function")

end Settings

end ProviderCoverage
