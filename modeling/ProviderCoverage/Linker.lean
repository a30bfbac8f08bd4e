import ProviderCoverage.Registry
import ProviderCoverage.Settings.Check
import ProviderCoverage.Naming
import ProviderCoverage.Similarity

/-!
# Linking tests to entities

Each unlinked test goes through four strategies in strict priority; the first that finds a
registered entity wins:

1. the entity name in the test function's name (confidence 1.0);
2. the naming convention of the test's file (0.9);
3. the first typed block of the test's configurations naming a known entity (0.8);
4. similarity of names, when fuzzy matching is on (the similarity is the confidence).

A linker works on the keys registered when it was made. A name resolves to the entity of the
hinted kind if there is one, else to the first of resource, data source and action.
-/

namespace ProviderCoverage

/-- Test-name prefixes, longest first so that the most specific one is stripped. -/
def testFunctionPrefixes : List String :=
  ["TestAccDataSource", "TestAccResource", "TestAcc", "TestDataSource", "TestResource", "Test"]

def actionLifecycleSuffixes : List String :=
  ["AfterCreate", "AfterUpdate", "AfterDelete", "BeforeCreate", "BeforeUpdate", "BeforeDelete",
    "DoesNotTrigger", "Unrelated"]

def kindSuffixes : List (String × EntityKind) :=
  [("DataSource", .dataSource), ("Resource", .resource), ("Action", .action)]

/-- A match of a test to an entity. -/
structure Match where
  key : EntityKey
  matchType : MatchType
  confidence : Float
  deriving Repr

/-- The entity-name part of a test function name. -/
structure NamePortion where
  /-- The text between the prefix and the first underscore. -/
  raw : String
  /-- `raw` without lifecycle and kind suffixes. -/
  trimmed : String
  hint : Option EntityKind
  deriving Repr, DecidableEq

def FileConvention.kind? (c : FileConvention) : Option EntityKind :=
  if c.dataSource then some .dataSource
  else if Text.contains c.marker "action" then some .action
  else if Text.contains c.marker "resource" then some .resource
  else none

/-- `s` with its first occurrence of `part` removed. -/
def removeFirst (s part : String) : String :=
  match (s.toList.zipIdx.findSome? fun (_, i) =>
      if part.toList.isPrefixOf (s.toList.drop i) then some i else none) with
  | some i => String.ofList (s.toList.take i ++ s.toList.drop (i + part.length))
  | none => s

/-- The parts of `s` between underscores, empty parts kept. -/
def underscoreParts (s : String) : List String := (s.toList.splitOn '_').map String.ofList

/-- Matches test functions against the entities of a registry. -/
structure Linker where
  keys : List EntityKey
  names : List String
  files : FileFilter
  filePrefixes : List FileConvention
  fileSuffixes : List FileConvention
  fileSuffixStrip : List String
  functionSuffixes : List String
  keywords : List String
  providerPrefix : String
  fuzzyThreshold : Option Float

namespace Linker

/-- A linker over the registry's current entities, or the setting that cannot be read. -/
def new (r : Registry) (s : Settings) : Except ConfigError Linker := do
  let files ← FileFilter.ofSettings s
  let prefixes ← parseConventions "test-file-prefix-patterns" s.testFilePrefixPatterns
  let suffixes ← parseConventions "test-file-suffix-patterns" s.testFileSuffixPatterns
  pure ⟨r.keys, r.simpleNames, files, prefixes, suffixes, s.testFileSuffixStrip, s.testSuffixes,
    s.functionNameKeywordsToStrip, s.providerPrefix,
    if s.enableFuzzyMatching then some s.effectiveFuzzyThreshold else none⟩

/-- The key a name resolves to: the hinted kind first, then the usual order. -/
def resolve (l : Linker) (name : String) (hint : Option EntityKind) : Option EntityKey :=
  ((hint.toList ++ EntityKind.all).map fun k => (⟨k, name⟩ : EntityKey)).find? l.keys.contains

/-- A name without its provider segment: the configured prefix and an underscore, else the
first segment. -/
def unprefixed (l : Linker) (name : String) : Option String :=
  let configured := if l.providerPrefix.isEmpty then none
    else match (Text.stripPrefix? name l.providerPrefix).bind (Text.stripPrefix? · "_") with
      | some rest => if rest.isEmpty then none else some rest
      | none => none
  configured.orElse fun _ => Naming.stripProviderPrefix name

/-- `resolve`, then `resolve` of the unprefixed name. -/
def resolveOrUnprefixed (l : Linker) (name : String) (hint : Option EntityKind) :
    Option EntityKey :=
  (l.resolve name hint).orElse fun _ => (l.unprefixed name).bind (l.resolve · hint)

/-- Names with interior words dropped: `a_b_c_d_e` tries `a_e`, `a_b_e`, `a_d_e` and `a_b_c_e`. -/
def matchSegments (l : Linker) (snake : String) (hint : Option EntityKind) : Option EntityKey :=
  let parts := underscoreParts snake
  let n := parts.length
  if n < 3 then none
  else
    let p (i : Nat) := parts.getD i ""
    let join (xs : List String) := "_".intercalate xs
    let candidates := [join [p 0, p (n - 1)], join [p 0, p 1, p (n - 1)],
      join [p 0, p (n - 2), p (n - 1)]] ++ (if n ≥ 5 then [join [p 0, p 1, p 2, p (n - 1)]] else [])
    candidates.findSome? (l.resolve · hint)

/-- Matches one CamelCase part of a test name: as it is, without the configured keywords, and
with interior words dropped. -/
def matchCamelPart (l : Linker) (part : String) (hint : Option EntityKind) :
    Option EntityKey × List Event :=
  let snake := Naming.snakeCase part
  match l.resolveOrUnprefixed snake hint with
  | some k => (some k, [])
  | none =>
    let stripped := l.keywords.foldl (fun s kw =>
      if !kw.isEmpty && Text.contains s kw then removeFirst s kw else s) part
    let viaKeywords := if stripped != part && !stripped.isEmpty then
        l.resolveOrUnprefixed (Naming.snakeCase stripped) hint
      else none
    match viaKeywords with
    | some k => (some k, [Event.debug .linker (part ++ " matched after keyword stripping")])
    | none =>
      ((l.matchSegments snake hint).orElse fun _ =>
        (l.unprefixed snake).bind (l.matchSegments · hint), [])

/-- A test function name without its test prefix, with the kind the prefix names. -/
def stripTestPrefix (function : String) : String × Option EntityKind :=
  match testFunctionPrefixes.findSome? fun p => (Text.stripPrefix? function p).map (·, p) with
  | some (r, p) =>
    (r, if p.endsWith "DataSource" then some EntityKind.dataSource
      else if p.endsWith "Resource" then some .resource else none)
  | none => (function, none)

/-- The text after the test prefix, without a leading underscore and without the first
configured suffix whose removal leaves a name not ending in an underscore. -/
def nameRest (l : Linker) (function : String) : String :=
  let rest := (stripTestPrefix function).1
  let rest := (Text.stripPrefix? rest "_").getD rest
  (l.functionSuffixes.findSome? fun suffix =>
      (Text.stripSuffix? rest suffix).bind fun s =>
        if !s.isEmpty && !s.endsWith "_" then some s else none).getD rest

/-- A name part without a lifecycle suffix, then without a kind suffix, which names the kind. -/
def trimSuffixes (raw : String) (hint : Option EntityKind) : String × Option EntityKind :=
  let trimmed := match actionLifecycleSuffixes.findSome? (Text.stripSuffix? raw ·) with
    | some s => if s.isEmpty then raw else s
    | none => raw
  match kindSuffixes.findSome? fun (suffix, k) =>
      (Text.stripSuffix? trimmed suffix).bind fun s => if s.isEmpty then none else some (s, k) with
  | some (s, k) => (s, some k)
  | none => (trimmed, hint)

/-- The entity-name part of a test function name: the text up to the first underscore after
the prefix and suffix are removed. -/
def namePortion (l : Linker) (function : String) : Option NamePortion :=
  let rest := l.nameRest function
  let raw := (underscoreParts rest).headD rest
  if raw.isEmpty then none
  else
    let (trimmed, hint) := trimSuffixes raw (stripTestPrefix function).2
    some ⟨raw, trimmed, hint⟩

def matchByFunctionName (l : Linker) (function : String) : Option EntityKey × List Event :=
  match l.namePortion function with
  | none => (none, [])
  | some p =>
    let parts := if p.raw != p.trimmed then [p.trimmed, p.raw] else [p.trimmed]
    parts.foldl (fun (acc : Option EntityKey × List Event) part =>
      match acc.1 with
      | some _ => acc
      | none =>
        let (k, events) := l.matchCamelPart part p.hint
        (k, acc.2 ++ events)) (none, [])

/-- The entity a test file's name points to by the naming conventions. -/
def matchByFileProximity (l : Linker) (path : String) : Option EntityKey := do
  let stem ← l.files.testFileStem path
  let stem := (l.fileSuffixStrip.findSome? (Text.stripSuffix? stem ·)).getD stem
  let candidates :=
    (l.filePrefixes.filterMap fun c => (Text.stripPrefix? stem c.marker).map (·, c.kind?)) ++
    (l.fileSuffixes.filterMap fun c => (Text.stripSuffix? stem c.marker).map (·, c.kind?)) ++
    [(stem, none)]
  (candidates.filter (!·.1.isEmpty)).findSome? fun (name, hint) => l.resolve name hint

/-- The first typed block of a test naming a known entity, as written or unprefixed. -/
def matchByInferredConfig (l : Linker) (t : TestFunction) : Option EntityKey :=
  t.inferredBlocks.findSome? fun b =>
    ([b.typeName] ++ (l.unprefixed b.typeName).toList).findSome? (l.resolve · (some b.kind))

/-- The most similar entity name, when fuzzy matching is on. -/
def matchBySimilarity (l : Linker) (function : String) : Option (EntityKey × Float) × List Event :=
  match l.fuzzyThreshold, l.namePortion function with
  | some threshold, some p =>
    match Similarity.bestMatch (Naming.snakeCase p.raw) l.names threshold with
    | some (name, score) =>
      ((l.resolve name p.hint).map (·, score),
        [Event.debug .linker (function ++ " is " ++ Decimal.fixed score 2 ++ " similar to " ++ name)])
    | none => (none, [])
  | _, _ => (none, [])

/-- The highest-priority match of a test, if a strategy succeeds. -/
def matchTest (l : Linker) (t : TestFunction) : Option Match × List Event :=
  let (byName, e1) := l.matchByFunctionName t.name
  match byName with
  | some k => (some ⟨k, .functionName, 1.0⟩, e1)
  | none =>
    match l.matchByFileProximity t.location.file with
    | some k => (some ⟨k, .fileProximity, 0.9⟩, e1)
    | none =>
      match l.matchByInferredConfig t with
      | some k => (some ⟨k, .inferredFromConfig, 0.8⟩, e1)
      | none =>
        let (bySimilarity, e2) := l.matchBySimilarity t.name
        (bySimilarity.map fun (k, score) => ⟨k, .fuzzy, score⟩, e1 ++ e2)

/-- Links every test not linked yet; the count of newly linked tests. -/
def linkAll (l : Linker) (r : Registry) : Except RegistryError (Registry × Nat) × List Event :=
  (List.range r.tests.size).foldl (fun (acc : Except RegistryError (Registry × Nat) × List Event) id =>
    match acc.1 with
    | .error _ => acc
    | .ok (r, n) =>
      match r.testFunction? id with
      | none => acc
      | some t =>
        if t.linked.isSome then acc
        else
          let (m, events) := l.matchTest t
          match m with
          | some m =>
            let (res, linkEvents) := r.linkTest id m.key m.matchType m.confidence
            (res.map (·, n + 1), acc.2 ++ events ++ linkEvents)
          | none =>
            (.ok (r, n), acc.2 ++ events ++
              [Event.debug .linker ("no entity found for " ++ t.name ++ " (" ++ t.category.name ++ ")")]))
    (.ok (r, 0), [])

end Linker

end ProviderCoverage
