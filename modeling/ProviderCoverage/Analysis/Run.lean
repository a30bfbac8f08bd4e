import ProviderCoverage.Analysis
import ProviderCoverage.Disk.Load
import ProviderCoverage.Failure
import ProviderCoverage.Cache
import ProviderCoverage.Settings.Yaml
import ProviderCoverage.Settings.Check

/-!
# Analysing a directory

The settings of an analysis come from a named file, else from the settings file of the analysed
directory when it has one, else from the defaults, and they are checked before anything else
is done. A file that cannot be read or parsed, and settings that do not check, are failures
whose causes say why.

A run walks the directory, builds the registry of its Go files through the registry cache under
a session of its own, releases the session, and evaluates the registry. The warnings of the
walk become the analysis's warnings.
-/

namespace ProviderCoverage

/-- The settings file looked up in the analysed directory when none is named. -/
def settingsFileName : String := ".tfcov.yaml"

namespace Settings

def load (d : Disk) (path : String) : Except Failure Settings :=
  match d.readText path with
  | .error e => .error ⟨"Failed to read settings from " ++ path, [e.message]⟩
  | .ok text =>
    match Settings.ofYaml text with
    | .ok s => .ok s
    | .error y => .error ⟨"Failed to parse settings from " ++ path, [y.message, y.cause]⟩

/-- The checked settings of an analysis of `root`: from the file `named`, else from the root's
settings file when it is a file, else the defaults. -/
def forRoot (d : Disk) (root : String) (named : Option String) :
    Except Failure Settings × List Event :=
  let (loaded, events) := match named with
    | some path => (load d path, [])
    | none =>
      let candidate := Disk.join root settingsFileName
      if d.isFile candidate then
        (load d candidate, [Event.debug .command ("using settings from " ++ candidate)])
      else (.ok default, [])
  let checked := loaded.bind fun s =>
    match s.validate with
    | .ok () => .ok s
    | .error e => .error ⟨"Invalid settings", [e.message]⟩
  (checked, events)

end Settings

/-- The cache the settings ask for: entries live as long as the cache lifetime, or for ever
when it is zero. -/
def RegistryCache.ofSettings (s : Settings) : Except ConfigError RegistryCache :=
  s.cacheTtlNanos.map fun ttl => { ttl := ttl }

def CacheStats.describe (s : CacheStats) : String :=
  let age := match s.oldestEntryAge with
    | some a => "Some(" ++ durationText a ++ ")"
    | none => "None"
  "CacheStats \x7b total_entries: " ++ toString s.totalEntries ++ ", oldest_entry_age: " ++ age ++
    ", expired_entries: " ++ toString s.expiredEntries ++ " \x7d"

/-- What a run leaves behind: the analysis or why there is none, and the cache. -/
structure RunOutcome where
  analysis : Except Failure Analysis
  cache : RegistryCache

/-- Analyses the directory `root` with the cache, under the session `session` at time `now`. -/
def Analysis.run (d : Disk) (root : String) (s : Settings) (cache : RegistryCache)
    (session now : Nat) : RunOutcome × List Event :=
  match FileFilter.ofSettings s with
  | .error e => (⟨.error ⟨e.message, []⟩, cache⟩, [])
  | .ok filter =>
    let (loaded, loading) := LoadResult.ofWalk d filter root
    let build (_ : Unit) : BuildOutcome × List Event :=
      match buildRegistry loaded.files s with
      | (.ok r, events) => (.built r, events)
      | (.error (.config e), events) => (.failed e.message, events)
      | (.error (.registry e), events) => (.failed e.message, events)
    let (cache, built, _, building) := cache.getOrBuild session now build
    match built with
    -- a run's session is its own, so no build of another caller is ever waited on
    | none => (⟨.error ⟨"registry build of " ++ sessionName session ++ " still running", []⟩, cache⟩,
        loading ++ building)
    | some (.error e) => (⟨.error ⟨e.render, []⟩, cache⟩, loading ++ building)
    | some (.ok r) =>
      let afterBuild := Event.debug .command ("cache after build: " ++ (cache.stats now).describe)
      let (cache, _) := cache.release session
      match Analysis.ofRegistry root r s with
      | (.error e, evaluating) =>
        (⟨.error ⟨e.message, []⟩, cache⟩, loading ++ building ++ [afterBuild] ++ evaluating)
      | (.ok a, evaluating) =>
        (⟨.ok { a with warnings := loaded.warnings }, cache⟩,
          loading ++ building ++ [afterBuild] ++ evaluating)

end ProviderCoverage
