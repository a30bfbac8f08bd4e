import Mathlib
import ProviderCoverage.Proofs.TestFileGlob
import ProviderCoverage.Proofs.Suggestion
import ProviderCoverage.Proofs.ProviderPrefix

/-!
# Linking a test file by its name

Under the default settings a test file named `resource_<n>_test.go`, `data_source_<n>_test.go`
or `<n>_action_test.go`, in any directory, is linked to the resource, data source or action `n`
(`matchByFileProximity_conventionFileName`). The link goes through a chain of steps. The default
glob leaves the stem before `_test.go` (`FileFilter.testFileStem_of_name`). A generated-file
suffix is stripped. Each prefix and suffix convention then proposes the name it leaves, with its
kind as the hint, and the first proposal that resolves wins (`matchByFileProximity_of_candidates`).

Two things can make the convention miss, and the theorem excludes both. A resource or data source
stem may end in `_gen` or `_generated`, and then loses that tail. An action stem may begin with
another convention's prefix, and that prefix is tried first. If the rest of the stem names some
entity, the file is linked there (`conventionFileName_missed`). A nonempty name is needed too.
-/

namespace ProviderCoverage

/-- The stem the naming convention gives the test file of an entity. -/
def conventionStem : EntityKey → String
  | ⟨.resource, n⟩ => "resource_" ++ n
  | ⟨.dataSource, n⟩ => "data_source_" ++ n
  | ⟨.action, n⟩ => n ++ "_action"

/-- The name of the test file of an entity by the naming convention. -/
def conventionFileName (k : EntityKey) : String := conventionStem k ++ "_test.go"

def defaultFilePrefixes : List FileConvention :=
  [⟨"resource_", false⟩, ⟨"data_source_", true⟩, ⟨"ephemeral_", false⟩, ⟨"action_", false⟩,
    ⟨"iam_", false⟩]

def defaultFileSuffixes : List FileConvention :=
  [⟨"_resource", false⟩, ⟨"_data_source", true⟩, ⟨"_datasource", true⟩, ⟨"_action", false⟩]

theorem parseConventions_defaultPrefixes :
    parseConventions "test-file-prefix-patterns" ({} : Settings).testFilePrefixPatterns =
      .ok defaultFilePrefixes := rfl

theorem parseConventions_defaultSuffixes :
    parseConventions "test-file-suffix-patterns" ({} : Settings).testFileSuffixPatterns =
      .ok defaultFileSuffixes := rfl

theorem Text.stripPrefix?_append_self (p n : String) : Text.stripPrefix? (p ++ n) p = some n := by
  simpa using Text.stripPrefix?_eq_some (String.toList_append (s := p) (t := n))

theorem Text.stripSuffix?_append_self (n p : String) : Text.stripSuffix? (n ++ p) p = some n := by
  simpa using Text.stripSuffix?_eq_some (String.toList_append (s := n) (t := p))

theorem FileFilter.testFile_of_ofSettings {s : Settings} {f : FileFilter}
    (h : FileFilter.ofSettings s = .ok f)
    (hpattern : s.testFilePattern = ({} : Settings).testFilePattern) :
    f.testFile = Glob.testFileGlob := by
  have hparse :
      (Glob.Glob.parse "*_test.go").mapError (ConfigError.invalidGlob "test-file-pattern") =
        .ok Glob.testFileGlob := by
    rw [Glob.parse_testFileGlob]
    rfl
  unfold FileFilter.ofSettings at h
  simp only [hpattern, show "*_test.go".isEmpty = false from rfl, Bool.false_eq_true, if_false,
    hparse] at h
  obtain ⟨_, htest, h⟩ := ok_of_bind_eq_ok h
  obtain ⟨_, -, h⟩ := ok_of_bind_eq_ok h
  cases htest
  cases h
  rfl

theorem FileFilter.testFileStem_of_name {f : FileFilter} (hf : f.testFile = Glob.testFileGlob)
    {path stem : String} (hname : Text.fileName path = stem ++ "_test.go") (hstem : stem ≠ "") :
    f.testFileStem path = some stem := by
  have hhead : Text.stripPrefix? (stem ++ "_test.go") "" = some (stem ++ "_test.go") := by
    simp [Text.stripPrefix?]
  have hempty : stem.isEmpty = false := by simpa using hstem
  unfold testFileStem
  rw [hf, hname]
  dsimp only
  rw [Glob.testFileGlob_matches]
  simp only [Glob.testFileGlob, show "*_test.go".toList.contains '*' = true by decide,
    show String.ofList ("*_test.go".toList.takeWhile (· != '*')) = "" by decide,
    show String.ofList (("*_test.go".toList.reverse.takeWhile (· != '*')).reverse) = "_test.go" by
      decide,
    hhead, Text.stripSuffix?_append_self, hempty]
  rfl

namespace Linker

variable {l : Linker}

theorem new_fileConventions {r : Registry} {s : Settings} (hl : Linker.new r s = .ok l) :
    FileFilter.ofSettings s = .ok l.files ∧
    parseConventions "test-file-prefix-patterns" s.testFilePrefixPatterns = .ok l.filePrefixes ∧
    parseConventions "test-file-suffix-patterns" s.testFileSuffixPatterns = .ok l.fileSuffixes ∧
    l.fileSuffixStrip = s.testFileSuffixStrip := by
  obtain ⟨_, _, _, hf, hp, hs, rfl⟩ := Linker.eq_of_new hl
  exact ⟨hf, hp, hs, rfl⟩

/-- A linker made with the default test-file pattern, conventions and strip suffixes works with
the glob `*_test.go`, the default conventions and the registry's keys. -/
theorem fileConventions_of_defaults {r : Registry} {s : Settings} (hl : Linker.new r s = .ok l)
    (hpattern : s.testFilePattern = ({} : Settings).testFilePattern)
    (hprefixes : s.testFilePrefixPatterns = ({} : Settings).testFilePrefixPatterns)
    (hsuffixes : s.testFileSuffixPatterns = ({} : Settings).testFileSuffixPatterns)
    (hstripList : s.testFileSuffixStrip = ({} : Settings).testFileSuffixStrip) :
    l.files.testFile = Glob.testFileGlob ∧ l.filePrefixes = defaultFilePrefixes ∧
      l.fileSuffixes = defaultFileSuffixes ∧
      l.fileSuffixStrip = ({} : Settings).testFileSuffixStrip ∧ l.keys = r.keys := by
  obtain ⟨hfiles, hpre, hsuf, hstripEq⟩ := new_fileConventions hl
  rw [hprefixes, parseConventions_defaultPrefixes] at hpre
  rw [hsuffixes, parseConventions_defaultSuffixes] at hsuf
  exact ⟨FileFilter.testFile_of_ofSettings hfiles hpattern, (Except.ok.inj hpre).symm,
    (Except.ok.inj hsuf).symm, hstripEq.trans hstripList, (Linker.new_eq_ok hl).1⟩

/-- A test file is linked to the first name its conventions propose that resolves. When no strip
suffix applies to the stem and the proposals before `n` with the hint `k` name no entity, the file
is linked to `(k, n)`. -/
theorem matchByFileProximity_of_candidates {path stem : String}
    (hstem : l.files.testFileStem path = some stem)
    (hstrip : ∀ x ∈ l.fileSuffixStrip, ¬x.toList <:+ stem.toList)
    (pre : List (String × Option EntityKind)) {n : String} {k : EntityKind}
    (hcand : pre ++ [(n, some k)] <+:
      (l.filePrefixes.filterMap fun c => (Text.stripPrefix? stem c.marker).map (·, c.kind?)) ++
        (l.fileSuffixes.filterMap fun c => (Text.stripSuffix? stem c.marker).map (·, c.kind?)))
    (hpre : ∀ x ∈ pre, ∀ kind, (⟨kind, x.1⟩ : EntityKey) ∉ l.keys) (hn : n ≠ "")
    (hk : ⟨k, n⟩ ∈ l.keys) :
    l.matchByFileProximity path = some ⟨k, n⟩ := by
  have hnostrip : l.fileSuffixStrip.findSome? (Text.stripSuffix? stem ·) = none :=
    List.findSome?_eq_none_iff.mpr fun x hx => Text.stripSuffix?_eq_none (hstrip x hx)
  have hempty : n.isEmpty = false := by simpa using hn
  unfold matchByFileProximity
  simp only [hstem, Option.bind_eq_bind, Option.bind_some]
  obtain ⟨post, hpost⟩ := hcand
  rw [hnostrip, Option.getD_none, ← hpost]
  have hnone : (pre.filter fun x => !x.1.isEmpty).findSome? (fun x => l.resolve x.1 x.2) = none :=
    List.findSome?_eq_none_iff.mpr fun x hx =>
      resolve_eq_none (hpre x (List.mem_of_mem_filter hx)) x.2
  simp [List.filter_append, List.findSome?_append, hempty, resolve_hinted hk, hnone]

theorem exists_marker_of_mem_prefixCandidates {stem : String} {cs : List FileConvention}
    {x : String × Option EntityKind}
    (hx : x ∈ cs.filterMap fun c => (Text.stripPrefix? stem c.marker).map (·, c.kind?)) :
    ∃ c ∈ cs, stem.toList = c.marker.toList ++ x.1.toList := by
  obtain ⟨c, hc, hcx⟩ := List.mem_filterMap.mp hx
  obtain ⟨rest, hrest, rfl⟩ := Option.map_eq_some_iff.mp hcx
  exact ⟨c, hc, Text.stripPrefix?_eq_some_iff.mp hrest⟩

theorem not_suffix_append_action {x : String} (h1 : ¬x.toList <:+ "_action".toList)
    (h2 : ¬"_action".toList <:+ x.toList) (n : String) : ¬x.toList <:+ (n ++ "_action").toList := by
  rw [String.toList_append]
  exact not_suffix_append h1 h2

theorem suffixCandidates_action (n : String) :
    (defaultFileSuffixes.filterMap fun c =>
      (Text.stripSuffix? (n ++ "_action") c.marker).map (·, c.kind?)) = [(n, some .action)] := by
  have hnone : ∀ x ∈ ["_resource", "_data_source", "_datasource"],
      Text.stripSuffix? (n ++ "_action") x = none := fun x hx =>
    Text.stripSuffix?_eq_none
      (not_suffix_append_action (by revert x; decide) (by revert x; decide) n)
  simp only [defaultFileSuffixes, List.filterMap_cons, List.filterMap_nil,
    Text.stripSuffix?_append_self,
    hnone "_resource" (by simp), hnone "_data_source" (by simp), hnone "_datasource" (by simp),
    Option.map_none, Option.map_some]
  rfl

theorem matchByFileProximity_conventionStem {path : String} {k : EntityKey} (hk : k ∈ l.keys)
    (hname : k.name ≠ "") (hstem : l.files.testFileStem path = some (conventionStem k))
    (hprefixes : l.filePrefixes = defaultFilePrefixes)
    (hsuffixes : l.fileSuffixes = defaultFileSuffixes)
    (hstripList : l.fileSuffixStrip = ({} : Settings).testFileSuffixStrip)
    (hstrip : k.kind ≠ .action →
      ∀ x ∈ ({} : Settings).testFileSuffixStrip, ¬x.toList <:+ (conventionStem k).toList)
    (hshadow : k.kind = .action → ∀ c ∈ defaultFilePrefixes, ∀ rest : String,
      (conventionStem k).toList = c.marker.toList ++ rest.toList →
        ∀ kind, (⟨kind, rest⟩ : EntityKey) ∉ l.keys) :
    l.matchByFileProximity path = some k := by
  obtain ⟨kind, n⟩ := k
  cases kind with
  | resource =>
    refine matchByFileProximity_of_candidates hstem (hstripList ▸ hstrip nofun) []
      ⟨_, by rw [hprefixes, conventionStem, defaultFilePrefixes, List.filterMap_cons,
        Text.stripPrefix?_append_self]; rfl⟩ (by simp) hname hk
  | dataSource =>
    have hres : Text.stripPrefix? ("data_source_" ++ n) "resource_" = none :=
      Text.stripPrefix?_eq_none (by simp [List.cons_prefix_cons])
    refine matchByFileProximity_of_candidates hstem (hstripList ▸ hstrip nofun) []
      ⟨_, by rw [hprefixes, conventionStem, defaultFilePrefixes, List.filterMap_cons, hres,
        Option.map_none, List.filterMap_cons, Text.stripPrefix?_append_self]; rfl⟩
      (by simp) hname hk
  | action =>
    have hnostrip : ∀ x ∈ l.fileSuffixStrip, ¬x.toList <:+ (n ++ "_action").toList := by
      rw [hstripList]
      intro x hx
      exact not_suffix_append_action (by revert x; decide) (by revert x; decide) n
    have hpre : ∀ x ∈ defaultFilePrefixes.filterMap (fun c =>
        (Text.stripPrefix? (n ++ "_action") c.marker).map (·, c.kind?)),
        ∀ kind, (⟨kind, x.1⟩ : EntityKey) ∉ l.keys := by
      intro x hx
      obtain ⟨c, hc, hstem⟩ := exists_marker_of_mem_prefixCandidates hx
      exact hshadow rfl c hc x.1 hstem
    refine matchByFileProximity_of_candidates hstem hnostrip _ ?_ hpre hname hk
    rw [hprefixes, hsuffixes, conventionStem, suffixCandidates_action]

/-- **The file-naming convention links tests to their entity.** Under the default test-file
pattern, conventions and strip suffixes, a test file whose name (after the last `/` or `\`) is
`resource_<n>_test.go`, `data_source_<n>_test.go` or `<n>_action_test.go` is linked to the
registered resource, data source or action `n`. The name must not be empty. A resource or data
source stem must not end in a strip suffix. For an action, every default prefix its stem begins
with must leave a name that no entity has. -/
theorem matchByFileProximity_conventionFileName {r : Registry} {s : Settings} {l : Linker}
    (hl : Linker.new r s = .ok l)
    (hpattern : s.testFilePattern = ({} : Settings).testFilePattern)
    (hprefixes : s.testFilePrefixPatterns = ({} : Settings).testFilePrefixPatterns)
    (hsuffixes : s.testFileSuffixPatterns = ({} : Settings).testFileSuffixPatterns)
    (hstripList : s.testFileSuffixStrip = ({} : Settings).testFileSuffixStrip)
    {e : Entity} (he : e ∈ r.entities) (hname : e.name ≠ "")
    (hstrip : e.kind ≠ .action →
      ∀ x ∈ ({} : Settings).testFileSuffixStrip, ¬x.toList <:+ (conventionStem e.key).toList)
    (hshadow : e.kind = .action → ∀ c ∈ defaultFilePrefixes, ∀ rest : String,
      (conventionStem e.key).toList = c.marker.toList ++ rest.toList →
        ∀ kind, (⟨kind, rest⟩ : EntityKey) ∉ r.keys)
    {path : String} (hpath : Text.fileName path = conventionFileName e.key) :
    l.matchByFileProximity path = some e.key := by
  obtain ⟨hfile, hprefixesEq, hsuffixesEq, hstripEq, hkeys⟩ :=
    fileConventions_of_defaults hl hpattern hprefixes hsuffixes hstripList
  have hkey : e.key ∈ l.keys := hkeys ▸ List.mem_map_of_mem he
  have hstem : l.files.testFileStem path = some (conventionStem e.key) :=
    FileFilter.testFileStem_of_name hfile hpath
      (by obtain ⟨kind, n⟩ := e.key; cases kind <;> simp [conventionStem])
  exact matchByFileProximity_conventionStem hkey hname hstem hprefixesEq hsuffixesEq hstripEq
    hstrip (hkeys ▸ hshadow)

end Linker

def widget : Entity := { kind := .resource, name := "widget", location := default }

theorem widget_test_file_linked :
    ∃ l, Linker.new { entities := [widget] } {} = .ok l ∧
      l.matchByFileProximity "internal/provider/resource_widget_test.go" = some widget.key := by
  obtain ⟨l, hl⟩ : ∃ l, Linker.new { entities := [widget] } {} = .ok l := ⟨_, rfl⟩
  exact ⟨l, hl, Linker.matchByFileProximity_conventionFileName hl rfl rfl rfl rfl (by simp)
    (by decide) (fun _ => by decide) (fun h => absurd h (by decide)) (by decide)⟩

def generatedName : Entity := { kind := .resource, name := "x_gen", location := default }

def shadowedAction : Entity := { kind := .action, name := "resource_foo", location := default }

/-- The resource that the resource prefix leaves of `shadowedAction`'s stem. -/
def shadowingResource : Entity := { kind := .resource, name := "foo_action", location := default }

/-- The file `resource_x_gen_test.go` of `x_gen` is linked to nothing, and the file
`resource_foo_action_test.go` of the action `resource_foo` is linked to the resource
`foo_action`. -/
theorem conventionFileName_missed :
    (∃ l, Linker.new { entities := [generatedName] } {} = .ok l ∧
      l.matchByFileProximity "internal/provider/resource_x_gen_test.go" = none) ∧
    ∃ l, Linker.new { entities := [shadowingResource, shadowedAction] } {} = .ok l ∧
      l.matchByFileProximity "internal/provider/resource_foo_action_test.go" =
        some shadowingResource.key := by
  -- the stems come from the glob lemma, so only the conventions are evaluated
  constructor
  · obtain ⟨l, hl⟩ : ∃ l, Linker.new { entities := [generatedName] } {} = .ok l := ⟨_, rfl⟩
    obtain ⟨hfile, hprefixes, hsuffixes, hstrip, hkeys⟩ :=
      Linker.fileConventions_of_defaults hl rfl rfl rfl rfl
    have hstem : l.files.testFileStem "internal/provider/resource_x_gen_test.go" =
        some "resource_x_gen" :=
      FileFilter.testFileStem_of_name hfile (by decide) (by decide)
    refine ⟨l, hl, ?_⟩
    simp only [Linker.matchByFileProximity, hstem, Option.bind_eq_bind, Option.bind_some, hprefixes,
      hsuffixes, hstrip, Linker.resolve, hkeys]
    decide
  · obtain ⟨l, hl⟩ :
        ∃ l, Linker.new { entities := [shadowingResource, shadowedAction] } {} = .ok l :=
      ⟨_, rfl⟩
    obtain ⟨hfile, hprefixes, hsuffixes, hstrip, hkeys⟩ :=
      Linker.fileConventions_of_defaults hl rfl rfl rfl rfl
    have hstem : l.files.testFileStem "internal/provider/resource_foo_action_test.go" =
        some "resource_foo_action" :=
      FileFilter.testFileStem_of_name hfile (by decide) (by decide)
    refine ⟨l, hl, ?_⟩
    simp only [Linker.matchByFileProximity, hstem, Option.bind_eq_bind, Option.bind_some, hprefixes,
      hsuffixes, hstrip, Linker.resolve, hkeys]
    decide

end ProviderCoverage
