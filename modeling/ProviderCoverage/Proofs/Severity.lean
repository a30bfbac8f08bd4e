import Mathlib
import ProviderCoverage.Analysis
import ProviderCoverage.Proofs.Coverage
import ProviderCoverage.Proofs.FloatOrder
import ProviderCoverage.Proofs.FileOrder
import ProviderCoverage.Proofs.FindingsReport
import ProviderCoverage.Proofs.LinkOutcome
import ProviderCoverage.Proofs.TestSteps

/-!
# How sure a finding is

The findings about a tested entity (update, import, error, state check, destroy check) carry
the severity of the best confidence among the entity's tests: an error from 0.9, a warning from
0.7, informational below. The linker fixes what a confidence can be: 1.0 for a match by
function name, 0.9 by file proximity, 0.8 by inferred configuration, and for a fuzzy match its
similarity score, anywhere between the effective threshold (at least 0.5) and one.

So such a finding is an error exactly when some test of its entity was matched by name or by
file, or fuzzily with a score of at least 0.9; a warning when none was, but some was matched by
configuration or fuzzily from 0.7; and informational exactly when every test was matched
fuzzily below 0.7 (`evaluate_severity_of_links`). A fuzzy match alone can make an error: a test
named for the plural of a resource is linked to it at 16/17 and its findings are errors
(`fuzzy_match_reported_as_error`).

On the way: a registry is built with its tests unlinked and unmatched until linking, and it
stays consistent through linking, so the tests of an entity are exactly those linked to it,
each with a recorded match (`buildRegistry_testsFor`).
-/

namespace ProviderCoverage

/-! ### Grading a confidence -/

namespace Severity

variable {c : Float}

theorem ofConfidence_eq_error : ofConfidence c = .error ↔ 0.9 ≤ c := by
  unfold ofConfidence
  split_ifs <;> simp_all

theorem ofConfidence_eq_warning : ofConfidence c = .warning ↔ ¬0.9 ≤ c ∧ 0.7 ≤ c := by
  unfold ofConfidence
  split_ifs <;> simp_all

theorem ofConfidence_eq_info : ofConfidence c = .info ↔ ¬0.9 ≤ c ∧ ¬0.7 ≤ c := by
  unfold ofConfidence
  split_ifs <;> simp_all

end Severity

/-! ### The levels of a recorded match -/

namespace Settings.RecordedMatch

variable {s : Settings} {mt : MatchType} {c : Float}

theorem isNaN (h : s.RecordedMatch mt c) : c.isNaN = false := by
  rcases h with ⟨-, rfl⟩ | ⟨-, rfl⟩ | ⟨-, rfl⟩ | ⟨-, hlow, -⟩
  · decide
  · decide
  · decide
  · exact (Confidence.isNaN_eq_false_of_le hlow).2

theorem confidence_of_inferred (h : s.RecordedMatch mt c) (hmt : mt = .inferredFromConfig) :
    c = 0.8 := by
  rcases h with ⟨rfl, -⟩ | ⟨rfl, -⟩ | ⟨-, hc⟩ | ⟨rfl, -⟩
  · cases hmt
  · cases hmt
  · exact hc
  · cases hmt

theorem errorLevel_iff (h : s.RecordedMatch mt c) :
    0.9 ≤ c ↔ mt = .functionName ∨ mt = .fileProximity ∨ (mt = .fuzzy ∧ 0.9 ≤ c) := by
  rcases h with ⟨rfl, rfl⟩ | ⟨rfl, rfl⟩ | ⟨rfl, rfl⟩ | ⟨rfl, -⟩
  · exact iff_of_true (by decide) (.inl rfl)
  · exact iff_of_true (by decide) (.inr (.inl rfl))
  · exact iff_of_false (by decide) (by simp)
  · simp

theorem below_errorLevel_iff (h : s.RecordedMatch mt c) :
    ¬0.9 ≤ c ↔ mt = .inferredFromConfig ∨ (mt = .fuzzy ∧ c < 0.9) := by
  have hc := h.isNaN
  rcases h with ⟨rfl, rfl⟩ | ⟨rfl, rfl⟩ | ⟨rfl, rfl⟩ | ⟨rfl, -⟩
  · exact iff_of_false (by decide) (by simp)
  · exact iff_of_false (by decide) (by simp)
  · exact iff_of_true (by decide) (.inl rfl)
  · simpa using FloatOrder.not_le_iff_lt (by decide) hc

theorem below_warningLevel_iff (h : s.RecordedMatch mt c) :
    ¬0.7 ≤ c ↔ mt = .fuzzy ∧ c < 0.7 := by
  have hc := h.isNaN
  rcases h with ⟨rfl, rfl⟩ | ⟨rfl, rfl⟩ | ⟨rfl, rfl⟩ | ⟨rfl, -⟩
  · exact iff_of_false (by decide) (by simp)
  · exact iff_of_false (by decide) (by simp)
  · exact iff_of_false (by decide) (by simp)
  · simpa using FloatOrder.not_le_iff_lt (by decide) hc

end Settings.RecordedMatch

/-! ### Grading the best of a list of tests -/

section Grading

variable {s : Settings} {tests : List TestFunction}

theorem le_best_iff {x : Float} (hx : x.isNaN = false) (hpos : ¬x ≤ 0.0) :
    x ≤ tests.foldl (fun m t => max m t.matchConfidence) 0.0 ↔ ∃ t ∈ tests, x ≤ t.matchConfidence := by
  rw [FloatOrder.le_foldl_max_iff _ hx tests (by decide)]
  simp [hpos]

variable (h : ∀ t ∈ tests, s.RecordedMatch t.matchType t.matchConfidence)
include h

theorem ofConfidence_best_eq_error :
    Severity.ofConfidence (tests.foldl (fun m t => max m t.matchConfidence) 0.0) = .error ↔
      ∃ t ∈ tests, t.matchType = .functionName ∨ t.matchType = .fileProximity ∨
        (t.matchType = .fuzzy ∧ 0.9 ≤ t.matchConfidence) := by
  rw [Severity.ofConfidence_eq_error, le_best_iff (by decide) (by decide)]
  exact exists_congr fun t => and_congr_right fun ht => (h t ht).errorLevel_iff

theorem ofConfidence_best_eq_warning :
    Severity.ofConfidence (tests.foldl (fun m t => max m t.matchConfidence) 0.0) = .warning ↔
      (∀ t ∈ tests, t.matchType = .inferredFromConfig ∨
        (t.matchType = .fuzzy ∧ t.matchConfidence < 0.9)) ∧
      ∃ t ∈ tests, t.matchType = .inferredFromConfig ∨
        (t.matchType = .fuzzy ∧ 0.7 ≤ t.matchConfidence) := by
  rw [Severity.ofConfidence_eq_warning, le_best_iff (by decide) (by decide),
    le_best_iff (by decide) (by decide), not_exists]
  have hbelow : ∀ t ∈ tests, ¬0.9 ≤ t.matchConfidence ↔ t.matchType = .inferredFromConfig ∨
      (t.matchType = .fuzzy ∧ t.matchConfidence < 0.9) := fun t ht => (h t ht).below_errorLevel_iff
  constructor
  · rintro ⟨hnone, t, ht, hwarn⟩
    have hnot : ¬0.9 ≤ t.matchConfidence := fun h9 => hnone t ⟨ht, h9⟩
    refine ⟨fun u hu => (hbelow u hu).mp fun h9 => hnone u ⟨hu, h9⟩, t, ht, ?_⟩
    rcases (hbelow t ht).mp hnot with hcfg | ⟨hfuzzy, -⟩
    · exact .inl hcfg
    · exact .inr ⟨hfuzzy, hwarn⟩
  · rintro ⟨hall, t, ht, hwarn⟩
    refine ⟨fun u ⟨hu, h9⟩ => (hbelow u hu).mpr (hall u hu) h9, t, ht, ?_⟩
    rcases hwarn with hcfg | ⟨-, h7⟩
    · rw [(h t ht).confidence_of_inferred hcfg]
      decide
    · exact h7

theorem ofConfidence_best_eq_info :
    Severity.ofConfidence (tests.foldl (fun m t => max m t.matchConfidence) 0.0) = .info ↔
      ∀ t ∈ tests, t.matchType = .fuzzy ∧ t.matchConfidence < 0.7 := by
  rw [Severity.ofConfidence_eq_info, le_best_iff (by decide) (by decide),
    le_best_iff (by decide) (by decide), not_exists, not_exists]
  constructor
  · rintro ⟨-, hnone⟩ t ht
    exact (h t ht).below_warningLevel_iff.mp fun h7 => hnone t ⟨ht, h7⟩
  · intro hall
    have h7 : ∀ t ∈ tests, ¬0.7 ≤ t.matchConfidence := fun t ht =>
      (h t ht).below_warningLevel_iff.mpr (hall t ht)
    exact ⟨fun t ⟨ht, h9⟩ => h7 t ht (FloatOrder.le_trans (by decide) h9),
      fun t ⟨ht, h7'⟩ => h7 t ht h7'⟩

end Grading

/-! ### Where findings come from -/

section Findings

variable {s : Settings}

/-- A finding about an entry names its entity; but for the basic one, it has the severity it
was given and the entity is tested. -/
theorem mem_entityFindings {entry : CoverageEntry} {sev : Severity} {f : Finding}
    (hf : f ∈ entityFindings s entry sev) :
    f.entity = some entry.entity.key ∧
      (f.analyzer = .basic ∨ (f.severity = sev ∧ entry.coverage.hasBasicTest = true)) := by
  obtain ⟨hfired, hentity, hsev⟩ := of_mem_entityFindings hf
  refine ⟨hentity, ?_⟩
  by_cases hbasic : f.analyzer = .basic
  · exact .inl hbasic
  · exact .inr ⟨by simpa [hbasic] using hsev, ((mem_firedAnalyzers_of_ne_basic hbasic).mp hfired).1⟩

/-- Every finding of an evaluation is the sweeper finding or one of an entity's findings, graded
by the best confidence among the entity's tests. -/
theorem mem_evaluate {r : Registry} {fs : List Finding} {evs : List Event}
    (h : evaluate r s = .ok (fs, evs)) :
    ∀ f ∈ fs, f.analyzer = .sweeper ∨ ∃ e ∈ r.entities,
      f ∈ entityFindings s ⟨e, EntityCoverage.compute (r.testsFor e.key)⟩
        (Severity.ofConfidence ((r.testsFor e.key).foldl (fun m t => max m t.matchConfidence) 0.0)) := by
  obtain ⟨naming, hnaming, -⟩ := ok_of_bind_eq_ok (by unfold evaluate at h; exact h)
  obtain ⟨sweeper, events, heval, hsweeper⟩ := evaluate_eq_ok (r := r) hnaming
  rw [heval, Except.ok.injEq, Prod.mk.injEq] at h
  obtain ⟨rfl, -⟩ := h
  intro f hf
  rcases List.mem_append.mp hf with hf | hf
  · obtain ⟨entry, hentry, hf⟩ := List.mem_flatMap.mp hf
    simp only [CoverageReport.ofRegistry, List.mem_filter, List.mem_map] at hentry
    obtain ⟨⟨e, he, rfl⟩, -⟩ := hentry
    exact .inr ⟨e, he, hf⟩
  · exact .inl (analyzer_of_mem_sweeper hsweeper hf)

end Findings

/-! ### The tests of a built registry -/

namespace Registry

variable {r : Registry}

/-- What registration builds before linking: consistent links, and every test unlinked and
unmatched. -/
structure Fresh (r : Registry) : Prop where
  consistent : r.Consistent
  unlinked : ∀ t ∈ r.tests, t.linked = none ∧ t.matchType = .none

theorem fresh_empty : ({} : Registry).Fresh := ⟨consistent_empty, by simp⟩

theorem Fresh.registerEntity (h : r.Fresh) (e : Entity) : (r.registerEntity e).1.1.Fresh := by
  refine ⟨h.consistent.registerEntity e, ?_⟩
  rw [registerEntity_fst]
  split
  · exact h.unlinked
  · exact h.unlinked

theorem Fresh.registerTest (h : r.Fresh) {t : TestFunction}
    (ht : t.linked = none ∧ t.matchType = .none) : (r.registerTest t).1.Fresh := by
  refine ⟨h.consistent.registerTest ht.1, fun u hu => ?_⟩
  simp only [registerTest_fst, Array.mem_push] at hu
  rcases hu with hu | rfl
  · exact h.unlinked u hu
  · exact ht

theorem Fresh.registerSweeperFile (h : r.Fresh) (file : String) :
    (r.registerSweeperFile file).Fresh :=
  ⟨h.consistent.registerSweeperFile file, h.unlinked⟩

end Registry

theorem registerEntities_fresh (x : Extraction.Extractor) (files : List Go.File) {r : Registry}
    (h : r.Fresh) : (registerEntities x files r).1.Fresh := by
  rw [registerEntities_fst]
  exact List.foldlRecOn (motive := Registry.Fresh) _ _ h fun r hr e _ => hr.registerEntity e

theorem registerTests_fresh (s : Settings) (files : List Go.File) {r : Registry} (h : r.Fresh) :
    (registerTests s files r).1.Fresh := by
  rw [registerTests_fst]
  refine List.foldlRecOn (motive := Registry.Fresh) _ _ h fun r hr t ht => ?_
  obtain ⟨f, -, ht⟩ := List.mem_flatMap.mp ht
  exact hr.registerTest (TestDiscovery.parse_fresh ht)

theorem registerSweepers_fresh (files : List Go.File) {r : Registry} (h : r.Fresh) :
    (registerSweepers files r).1.Fresh := by
  rw [registerSweepers_fst]
  exact List.foldlRecOn (motive := Registry.Fresh) _ _ h fun r hr f _ =>
    hr.registerSweeperFile f.path

namespace Linker

variable {l : Linker}

theorem name_linkedForm (t : TestFunction) : (l.linkedForm t).name = t.name := by
  unfold linkedForm
  split <;> rfl

/-- One linking step keeps the links consistent when the test it may link is matched with a
number. -/
theorem linkStep_consistent {acc : Except RegistryError (Registry × Nat) × List Event}
    {r₁ : Registry} {n₁ : Nat} (hacc : acc.1 = .ok (r₁, n₁)) (hc : r₁.Consistent) {j : Nat}
    (hnan : ∀ t, r₁.tests[j]? = some t → ∀ m, (l.matchTest t).1 = some m →
      m.confidence.isNaN = false)
    {r₂ : Registry} {n₂ : Nat} (hstep : (l.linkStep acc j).1 = .ok (r₂, n₂)) : r₂.Consistent := by
  rcases linkStep_cases (l := l) hacc j with ⟨hkeep, -⟩ | ⟨t, m, ht, -, hm, hlink⟩
  · rw [hkeep, Except.ok.injEq, Prod.mk.injEq] at hstep
    exact hstep.1 ▸ hc
  · rw [hlink] at hstep
    cases hres : (r₁.linkTest j m.key m.matchType m.confidence).1 with
    | error e => simp [hres, Except.map] at hstep
    | ok r' =>
      simp only [hres, Except.map, Except.ok.injEq, Prod.mk.injEq] at hstep
      exact hstep.1 ▸ hc.linkTest (hnan t ht m hm) hres

/-- **Linking keeps the links consistent**, when every match it may record is a number. -/
theorem linkAll_consistent {r : Registry} (hkeys : ∀ k ∈ l.keys, r.contains k)
    (hc : r.Consistent)
    (hnan : ∀ t ∈ r.tests, ∀ m, (l.matchTest t).1 = some m → m.confidence.isNaN = false)
    {r' : Registry} {n : Nat} (hrun : (l.linkAll r).1 = .ok (r', n)) : r'.Consistent := by
  -- the run over the first `j` tests passes through consistent registries only
  have hupto : ∀ j ≤ r.tests.size, ∀ r₁ n₁,
      ((List.range j).foldl l.linkStep (.ok (r, 0), [])).1 = .ok (r₁, n₁) → r₁.Consistent := by
    intro j
    induction j with
    | zero =>
      intro _ r₁ n₁ h
      simp only [List.range_zero, List.foldl_nil, Except.ok.injEq, Prod.mk.injEq] at h
      exact h.1 ▸ hc
    | succ j ih =>
      intro hj r₂ n₂ h
      rw [List.range_succ, List.foldl_append, List.foldl_cons, List.foldl_nil] at h
      obtain ⟨r₁, hacc, -, -, htests⟩ := linkedUpTo_foldl hkeys (Nat.le_of_succ_le hj)
      refine linkStep_consistent hacc (ih (by omega) _ _ hacc) (fun t ht m hm => ?_) h
      have hj' : r.tests[j]? = some t := by simpa [htests] using ht
      exact hnan t (Array.mem_of_getElem? hj') m hm
  exact hupto _ le_rfl r' n (by rw [← linkAll_eq_foldl]; exact hrun)

end Linker

/-- **The tests of an entity in a built registry** are linked to it, each with a recorded match.
Names are shorter than `2 ^ 63` characters, as a program's strings are. -/
theorem buildRegistry_testsFor {files : List Go.File} {s : Settings} {r : Registry}
    (h : (buildRegistry files s).1 = .ok r)
    (hnames : ∀ e ∈ r.entities, e.name.length < 2 ^ 63)
    (htests : ∀ t ∈ r.tests, t.name.length < 2 ^ 63) (k : EntityKey) :
    ∀ t ∈ r.testsFor k, t.linked = some k ∧ s.RecordedMatch t.matchType t.matchConfidence := by
  obtain ⟨x, r₀, l, n, hs, -, hr₀, hl, hrun⟩ := buildRegistry_eq_ok h
  have hfresh : r₀.Fresh := hr₀ ▸ registerSweepers_fresh _
    (registerTests_fresh _ _ (registerEntities_fresh _ _ Registry.fresh_empty))
  obtain ⟨hent, -, hmap⟩ := Linker.linkAll_of_new hl hrun
  have hnames₀ : ∀ e ∈ r₀.entities, e.name.length < 2 ^ 63 := hent ▸ hnames
  have htests₀ : ∀ t ∈ r₀.tests, t.name.length < 2 ^ 63 := fun t ht => by
    simpa [Linker.name_linkedForm] using
      htests (l.linkedForm t) (by rw [hmap]; exact Array.mem_map_of_mem ht)
  have hcons : r.Consistent := Linker.linkAll_consistent (Linker.contains_of_new hl) hfresh.consistent
    (fun t ht m hm => matchTest_confidence_isNaN hl hnames₀ (htests₀ t ht) hm) hrun
  intro t ht
  simp only [Registry.testsFor, List.mem_filterMap, Registry.testFunction?] at ht
  obtain ⟨i, hi, hti⟩ := ht
  have hlt : i < r.tests.size := hcons.idsLt k i hi
  have hget : r.tests[i] = t := by simpa [hlt] using hti
  have hlinked : t.linked = some k := hget ▸ (hcons.linkedIff i hlt k).mpr hi
  refine ⟨hlinked, ?_⟩
  have hmem : t ∈ r.tests := hget ▸ Array.getElem_mem hlt
  rw [hmap] at hmem
  obtain ⟨t₀, ht₀, rfl⟩ := Array.mem_map.mp hmem
  exact (linkedForm_outcome (Settings.checked_of_validate hs) hl hnames₀
    (hfresh.unlinked t₀ ht₀) (htests₀ t₀ ht₀)).2.2 (by simp [hlinked])

/-! ### Severity follows the links -/

/-- **Severity follows how the tests were linked.** Over a registry built from files, a finding
about a tested entity (update, import, error, state check or destroy check) names an entity
with tests, each linked to it with a recorded match; it is an error exactly when some test was
matched by function name or file proximity, or fuzzily at 0.9 or more; a warning exactly when
every test was matched by configuration or fuzzily below 0.9, and some by configuration or
fuzzily from 0.7; and informational exactly when every test was matched fuzzily below 0.7. -/
theorem evaluate_severity_of_links {files : List Go.File} {s s' : Settings} {r : Registry}
    (hbuild : (buildRegistry files s).1 = .ok r)
    (hnames : ∀ e ∈ r.entities, e.name.length < 2 ^ 63)
    (htests : ∀ t ∈ r.tests, t.name.length < 2 ^ 63)
    {findings : List Finding} {events : List Event}
    (heval : evaluate r s' = .ok (findings, events)) {f : Finding} (hf : f ∈ findings)
    (ha : f.analyzer ∈ [.update, .import, .error, .stateCheck, .checkDestroy]) :
    ∃ k, f.entity = some k ∧ r.testsFor k ≠ [] ∧
      (∀ t ∈ r.testsFor k, t.linked = some k ∧ s.RecordedMatch t.matchType t.matchConfidence) ∧
      (f.severity = .error ↔ ∃ t ∈ r.testsFor k, t.matchType = .functionName ∨
        t.matchType = .fileProximity ∨ (t.matchType = .fuzzy ∧ 0.9 ≤ t.matchConfidence)) ∧
      (f.severity = .warning ↔
        (∀ t ∈ r.testsFor k, t.matchType = .inferredFromConfig ∨
          (t.matchType = .fuzzy ∧ t.matchConfidence < 0.9)) ∧
        ∃ t ∈ r.testsFor k, t.matchType = .inferredFromConfig ∨
          (t.matchType = .fuzzy ∧ 0.7 ≤ t.matchConfidence)) ∧
      (f.severity = .info ↔ ∀ t ∈ r.testsFor k, t.matchType = .fuzzy ∧ t.matchConfidence < 0.7) := by
  rcases mem_evaluate heval f hf with hsweeper | ⟨e, -, hfe⟩
  · simp [hsweeper] at ha
  obtain ⟨hentity, hbasic | ⟨hsev, htested⟩⟩ := mem_entityFindings hfe
  · simp [hbasic] at ha
  have hrec := buildRegistry_testsFor hbuild hnames htests e.key
  have hmatch : ∀ t ∈ r.testsFor e.key, s.RecordedMatch t.matchType t.matchConfidence :=
    fun t ht => (hrec t ht).2
  refine ⟨e.key, hentity, (EntityCoverage.hasBasicTest_compute _).mp htested, hrec, ?_, ?_, ?_⟩
  · rw [hsev]
    exact ofConfidence_best_eq_error hmatch
  · rw [hsev]
    exact ofConfidence_best_eq_warning hmatch
  · rw [hsev]
    exact ofConfidence_best_eq_info hmatch

/-! ### Two builds -/

/-- A provider file declaring only `func (r *R) Schema(…) {}` for the receiver type `R`: the
nodes extraction reads, over the text `R Schema`. -/
def schemaMethodFile (path receiver : String) : Go.File where
  path := path
  source := receiver ++ " Schema"
  chars := (receiver ++ " Schema").toList.toArray
  isTest := false
  root :=
    let n := receiver.length
    ⟨.sourceFile, none, ⟨0, n + 7, 0, 0⟩, "", [
      ⟨.methodDeclaration, none, ⟨0, n + 7, 0, 0⟩, "", [
        ⟨.parameterList, some .receiver, ⟨0, n, 0, 0⟩, "", [
          ⟨.parameterDeclaration, none, ⟨0, n, 0, 0⟩, "", [
            ⟨.pointerType, some .type, ⟨0, n, 0, 0⟩, "", [
              ⟨.typeIdentifier, none, ⟨0, n, 0, 0⟩, "", []⟩]⟩]⟩]⟩,
        ⟨.fieldIdentifier, some .name, ⟨n + 1, n + 7, 0, n + 1⟩, "", []⟩,
        ⟨.block, some .body, ⟨n + 7, n + 7, 0, n + 7⟩, "", []⟩]⟩]⟩

def harnessImport : String := "\"github.com/hashicorp/terraform-plugin-testing/helper/resource\""

/-- A test file importing the harness and declaring only the test `name`, whose body calls
`resource.Test` with no test case, over the text `"…/helper/resource" name resource.Test`. -/
def harnessTestFile (path name : String) : Go.File where
  path := path
  source := harnessImport ++ " " ++ name ++ " resource.Test"
  chars := (harnessImport ++ " " ++ name ++ " resource.Test").toList.toArray
  isTest := true
  root :=
    let e := 64 + name.length
    ⟨.sourceFile, none, ⟨0, e + 14, 0, 0⟩, "", [
      ⟨.importSpec, none, ⟨0, 63, 0, 0⟩, "", [
        ⟨.interpretedStringLiteral, some .path, ⟨0, 63, 0, 0⟩, "", []⟩]⟩,
      ⟨.functionDeclaration, none, ⟨64, e + 14, 0, 64⟩, "", [
        ⟨.identifier, some .name, ⟨64, e, 0, 64⟩, "", []⟩,
        ⟨.block, some .body, ⟨e + 1, e + 14, 0, e + 1⟩, "", [
          ⟨.callExpression, none, ⟨e + 1, e + 14, 0, e + 1⟩, "", [
            ⟨.selectorExpression, some .function, ⟨e + 1, e + 14, 0, e + 1⟩, "", [
              ⟨.identifier, some .operand, ⟨e + 1, e + 9, 0, e + 1⟩, "", []⟩,
              ⟨.fieldIdentifier, some .field, ⟨e + 10, e + 14, 0, e + 10⟩, "", []⟩]⟩,
            ⟨.argumentList, some .arguments, ⟨e + 14, e + 14, 0, e + 14⟩, "", []⟩]⟩]⟩]⟩]⟩

def widgetFiles : List Go.File :=
  [schemaMethodFile "widget_resource.go" "WidgetResource",
    harnessTestFile "widget_resource_test.go" "TestAccWidget_basic"]

/-- The test of `widget` is matched by its name, and the state check finding is an error. -/
theorem widget_state_check_is_error :
    ∃ r fs evs, (buildRegistry widgetFiles { cacheTtl := "" }).1 = .ok r ∧
      evaluate r { cacheTtl := "" } = .ok (fs, evs) ∧
      ∃ f ∈ fs, f.analyzer = .stateCheck ∧ f.severity = .error ∧
        ∃ k, f.entity = some k ∧ ∃ t ∈ r.testsFor k, t.matchType = .functionName ∨
          t.matchType = .fileProximity ∨ (t.matchType = .fuzzy ∧ 0.9 ≤ t.matchConfidence) := by
  obtain ⟨r, hr⟩ := buildRegistry_ok (s := { cacheTtl := "" }) rfl widgetFiles
  obtain ⟨⟨fs, evs⟩, hev⟩ :=
    evaluate_ok (Settings.checked_of_validate (s := { cacheTtl := "" }) rfl) r
  have hrun : ((buildRegistry widgetFiles { cacheTtl := "" }).1.toOption.map fun r =>
      decide (∀ e ∈ r.entities, e.name.length < 2 ^ 63) &&
        decide (∀ t ∈ r.tests.toList, t.name.length < 2 ^ 63) &&
        (evaluate r { cacheTtl := "" }).toOption.any fun out =>
          out.1.any fun f => f.analyzer == .stateCheck && f.severity == .error) = some true := by
    decide +kernel
  simp only [hr, hev, Except.toOption, Option.map_some, Option.any_some, Option.some.injEq,
    Bool.and_eq_true, decide_eq_true_eq, List.any_eq_true, beq_iff_eq] at hrun
  obtain ⟨⟨hnames, htests⟩, f, hf, hsc, herr⟩ := hrun
  obtain ⟨k, hk, -, -, hsev, -, -⟩ := evaluate_severity_of_links hr hnames
    (fun t ht => htests t (Array.mem_toList_iff.mpr ht)) hev hf (by simp [hsc])
  exact ⟨r, fs, evs, hr, hev, f, hf, hsc, herr, k, hk, hsev.mp herr⟩

/-- A resource `compute_instance` and a test `TestAccComputeInstances_basic` in `misc_test.go`,
which neither its name nor its file nor a block links. -/
def computeInstanceFiles : List Go.File :=
  [schemaMethodFile "compute_instance_resource.go" "ComputeInstanceResource",
    harnessTestFile "misc_test.go" "TestAccComputeInstances_basic"]

/-- With fuzzy matching on, the only test of `compute_instance` is linked to it by a fuzzy match
(at 16/17), and the entity's state check finding is an error, not informational. -/
theorem fuzzy_match_reported_as_error :
    ∃ r fs evs,
      (buildRegistry computeInstanceFiles { cacheTtl := "", enableFuzzyMatching := true }).1 =
        .ok r ∧
      evaluate r { cacheTtl := "", enableFuzzyMatching := true } = .ok (fs, evs) ∧
      r.testsFor ⟨.resource, "compute_instance"⟩ ≠ [] ∧
      (∀ t ∈ r.testsFor ⟨.resource, "compute_instance"⟩, t.matchType = .fuzzy) ∧
      ∃ f ∈ fs, f.entity = some ⟨.resource, "compute_instance"⟩ ∧ f.analyzer = .stateCheck ∧
        f.severity = .error := by
  obtain ⟨r, hr⟩ := buildRegistry_ok (s := { cacheTtl := "", enableFuzzyMatching := true }) rfl
    computeInstanceFiles
  obtain ⟨⟨fs, evs⟩, hev⟩ := evaluate_ok
    (Settings.checked_of_validate (s := { cacheTtl := "", enableFuzzyMatching := true }) rfl) r
  have hrun : ((buildRegistry computeInstanceFiles
      { cacheTtl := "", enableFuzzyMatching := true }).1.toOption.map fun r =>
      !(r.testsFor ⟨.resource, "compute_instance"⟩).isEmpty &&
        (r.testsFor ⟨.resource, "compute_instance"⟩).all (·.matchType == .fuzzy) &&
        (evaluate r { cacheTtl := "", enableFuzzyMatching := true }).toOption.any fun out =>
          out.1.any fun f => f.entity == some ⟨.resource, "compute_instance"⟩ &&
            f.analyzer == .stateCheck && f.severity == .error) = some true := by
    decide +kernel
  simp only [hr, hev, Except.toOption, Option.map_some, Option.any_some, Option.some.injEq,
    Bool.and_eq_true, Bool.not_eq_true', List.isEmpty_eq_false_iff, List.all_eq_true,
    List.any_eq_true, beq_iff_eq] at hrun
  obtain ⟨⟨hne, hfuzzy⟩, f, hf, ⟨hentity, hsc⟩, herr⟩ := hrun
  exact ⟨r, fs, evs, hr, hev, hne, hfuzzy, f, hf, hentity, hsc, herr⟩

end ProviderCoverage
