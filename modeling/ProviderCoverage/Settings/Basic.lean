/-!
# Settings

What an analysis run is configured by: which analyzers run, how files are told apart and
filtered, how test functions are recognised and linked, what the output shows, and how long
a cached registry lives. Every setting has a kebab-case key and a default; a settings file or a
request names keys to override.
-/

namespace ProviderCoverage

/-- Analysis settings. -/
structure Settings where
  enableBasicTest : Bool := true
  enableUpdateTest : Bool := true
  enableImportTest : Bool := true
  enableErrorTest : Bool := true
  enableStateCheck : Bool := true
  resourcePathPattern : String := "resource_*.go"
  dataSourcePathPattern : String := "data_source_*.go"
  /-- A glob on the file name deciding whether a file holds tests. -/
  testFilePattern : String := "*_test.go"
  /-- Excluded when equal to the path or the file name, or contained in the path. -/
  excludePaths : List String := []
  excludeBaseClasses : Bool := true
  excludeSweeperFiles : Bool := true
  excludeMigrationFiles : Bool := true
  /-- Globs on the file name. -/
  excludePatterns : List String := ["*_sweeper.go", "*_test_helpers.go"]
  /-- `Prefix*` or exact names; when not empty a test's name must match one. -/
  testNamePatterns : List String := []
  /-- `package.Function` wrappers of the test harness. -/
  customTestHelpers : List String := []
  enableFuzzyMatching : Bool := false
  fuzzyMatchThreshold : Float := 0.7
  /-- `prefix:is_data_source` entries for matching by file name. -/
  testFilePrefixPatterns : List String :=
    ["resource_:false", "data_source_:true", "ephemeral_:false", "action_:false", "iam_:false"]
  /-- `suffix:is_data_source` entries for matching by file name. -/
  testFileSuffixPatterns : List String :=
    ["_resource:false", "_data_source:true", "_datasource:true", "_action:false"]
  /-- Removed from test file stems before the tables apply. -/
  testFileSuffixStrip : List String := ["_generated", "_gen"]
  /-- Entity names matching these are composition helpers, not entities. -/
  nestedSchemaPatterns : List String := ["*_schema", "*_schema_*"]
  /-- Camel-case words removed from test names before a second lookup. -/
  functionNameKeywordsToStrip : List String :=
    ["IamBinding", "IamMember", "IamPolicy", "Iam", "Generated"]
  /-- Empty means the built-in list; `["-"]` turns suffix stripping off. -/
  testFunctionSuffixes : List String := []
  providerPrefix : String := ""
  /-- Entities whose name does not match are left out of findings. -/
  resourceNamingPattern : String := ""
  verbose : Bool := false
  showMatchConfidence : Bool := false
  showUnmatchedTests : Bool := false
  showOrphanedResources : Bool := false
  /-- A duration; empty means five minutes, zero turns expiry off. -/
  cacheTtl : String := "5m"
  deriving Inhabited

/-- The value of one setting. -/
inductive SettingValue where
  | flag (b : Bool)
  | text (s : String)
  | texts (ss : List String)
  | number (x : Float)
  deriving Inhabited

/-- The type a setting's values have. -/
inductive SettingType where
  | flag
  | text
  | texts
  | number
  deriving DecidableEq

def SettingValue.type : SettingValue → SettingType
  | .flag _ => .flag
  | .text _ => .text
  | .texts _ => .texts
  | .number _ => .number

namespace Settings

/-- The built-in test function suffixes, stripped when none are configured. -/
def defaultSuffixes : List String :=
  ["_basic", "_generated", "_complete", "_update", "_import", "_disappears", "_migrate",
    "_full", "_minimal"]

/-- Every key with the value it has in `s`, in the order of the fields. -/
def entries (s : Settings) : List (String × SettingValue) :=
  [("enable-basic-test", .flag s.enableBasicTest),
   ("enable-update-test", .flag s.enableUpdateTest),
   ("enable-import-test", .flag s.enableImportTest),
   ("enable-error-test", .flag s.enableErrorTest),
   ("enable-state-check", .flag s.enableStateCheck),
   ("resource-path-pattern", .text s.resourcePathPattern),
   ("data-source-path-pattern", .text s.dataSourcePathPattern),
   ("test-file-pattern", .text s.testFilePattern),
   ("exclude-paths", .texts s.excludePaths),
   ("exclude-base-classes", .flag s.excludeBaseClasses),
   ("exclude-sweeper-files", .flag s.excludeSweeperFiles),
   ("exclude-migration-files", .flag s.excludeMigrationFiles),
   ("exclude-patterns", .texts s.excludePatterns),
   ("test-name-patterns", .texts s.testNamePatterns),
   ("custom-test-helpers", .texts s.customTestHelpers),
   ("enable-fuzzy-matching", .flag s.enableFuzzyMatching),
   ("fuzzy-match-threshold", .number s.fuzzyMatchThreshold),
   ("test-file-prefix-patterns", .texts s.testFilePrefixPatterns),
   ("test-file-suffix-patterns", .texts s.testFileSuffixPatterns),
   ("test-file-suffix-strip", .texts s.testFileSuffixStrip),
   ("nested-schema-patterns", .texts s.nestedSchemaPatterns),
   ("function-name-keywords-to-strip", .texts s.functionNameKeywordsToStrip),
   ("test-function-suffixes", .texts s.testFunctionSuffixes),
   ("provider-prefix", .text s.providerPrefix),
   ("resource-naming-pattern", .text s.resourceNamingPattern),
   ("verbose", .flag s.verbose),
   ("show-match-confidence", .flag s.showMatchConfidence),
   ("show-unmatched-tests", .flag s.showUnmatchedTests),
   ("show-orphaned-resources", .flag s.showOrphanedResources),
   ("cache-ttl", .text s.cacheTtl)]

/-- The type of the setting a key names, if it names one. -/
def typeOf (key : String) : Option SettingType :=
  ((default : Settings).entries.find? (·.1 == key)).map (·.2.type)

/-- `s` with the setting `key` given the value `v`; unchanged when the key is unknown or the
value has another type. -/
def set (s : Settings) (key : String) (v : SettingValue) : Settings :=
  match key, v with
  | "enable-basic-test", .flag b => { s with enableBasicTest := b }
  | "enable-update-test", .flag b => { s with enableUpdateTest := b }
  | "enable-import-test", .flag b => { s with enableImportTest := b }
  | "enable-error-test", .flag b => { s with enableErrorTest := b }
  | "enable-state-check", .flag b => { s with enableStateCheck := b }
  | "resource-path-pattern", .text t => { s with resourcePathPattern := t }
  | "data-source-path-pattern", .text t => { s with dataSourcePathPattern := t }
  | "test-file-pattern", .text t => { s with testFilePattern := t }
  | "exclude-paths", .texts ts => { s with excludePaths := ts }
  | "exclude-base-classes", .flag b => { s with excludeBaseClasses := b }
  | "exclude-sweeper-files", .flag b => { s with excludeSweeperFiles := b }
  | "exclude-migration-files", .flag b => { s with excludeMigrationFiles := b }
  | "exclude-patterns", .texts ts => { s with excludePatterns := ts }
  | "test-name-patterns", .texts ts => { s with testNamePatterns := ts }
  | "custom-test-helpers", .texts ts => { s with customTestHelpers := ts }
  | "enable-fuzzy-matching", .flag b => { s with enableFuzzyMatching := b }
  | "fuzzy-match-threshold", .number x => { s with fuzzyMatchThreshold := x }
  | "test-file-prefix-patterns", .texts ts => { s with testFilePrefixPatterns := ts }
  | "test-file-suffix-patterns", .texts ts => { s with testFileSuffixPatterns := ts }
  | "test-file-suffix-strip", .texts ts => { s with testFileSuffixStrip := ts }
  | "nested-schema-patterns", .texts ts => { s with nestedSchemaPatterns := ts }
  | "function-name-keywords-to-strip", .texts ts => { s with functionNameKeywordsToStrip := ts }
  | "test-function-suffixes", .texts ts => { s with testFunctionSuffixes := ts }
  | "provider-prefix", .text t => { s with providerPrefix := t }
  | "resource-naming-pattern", .text t => { s with resourceNamingPattern := t }
  | "verbose", .flag b => { s with verbose := b }
  | "show-match-confidence", .flag b => { s with showMatchConfidence := b }
  | "show-unmatched-tests", .flag b => { s with showUnmatchedTests := b }
  | "show-orphaned-resources", .flag b => { s with showOrphanedResources := b }
  | "cache-ttl", .text t => { s with cacheTtl := t }
  | _, _ => s

def anyAnalyzerEnabled (s : Settings) : Bool :=
  s.enableBasicTest || s.enableUpdateTest || s.enableImportTest || s.enableErrorTest ||
    s.enableStateCheck

/-- The fuzzy threshold with its floor of one half (which a NaN threshold also gets). -/
def effectiveFuzzyThreshold (s : Settings) : Float :=
  if s.fuzzyMatchThreshold ≥ 0.5 then s.fuzzyMatchThreshold else 0.5

/-- The suffixes stripped from test names: the built-in list when none are configured, none
for `["-"]`. -/
def testSuffixes (s : Settings) : List String :=
  match s.testFunctionSuffixes with
  | [] => defaultSuffixes
  | ["-"] => []
  | custom => custom

/-- Whether a test function name passes the name patterns: a pattern ending in `*` is a prefix,
any other the whole name; no patterns pass every name. -/
def matchesTestNamePatterns (s : Settings) (name : String) : Bool :=
  s.testNamePatterns.isEmpty ||
    s.testNamePatterns.any fun p =>
      if p.endsWith "*" then name.startsWith (String.ofList (p.toList.dropLast)) else name == p

end Settings

end ProviderCoverage
