import ProviderCoverage.Analysis
import ProviderCoverage.Proofs.Linking

/-!
# Checked settings build

`Settings.validate` checks, in one place, every setting that a later constructor reads: the
file filter, the extractor's nested-schema globs, the linker's file conventions, the naming
pattern and the cache lifetime. What a successful check guarantees is `Settings.Checked`; from
it none of those constructors fails, and since a linker made from a registry links only keys of
that registry, building a registry from checked settings always succeeds, whatever the files,
and so does evaluating any registry.
-/

namespace ProviderCoverage

theorem ok_of_bind_eq_ok {ε α β : Type} {x : Except ε α} {f : α → Except ε β} {b : β}
    (h : (x >>= f) = .ok b) : ∃ a, x = .ok a ∧ f a = .ok b := by
  cases x with
  | error e => cases h
  | ok a => exact ⟨a, rfl, h⟩

namespace Settings

/-- What a successful check of the settings guarantees: the fuzzy threshold lies in `[0, 1]`,
and every setting that a later constructor reads does read. -/
structure Checked (s : Settings) : Prop where
  thresholdMem : 0.0 ≤ s.fuzzyMatchThreshold ∧ s.fuzzyMatchThreshold ≤ 1.0
  cacheTtl : ∃ t, s.cacheTtlNanos = .ok t
  namingPattern : ∃ p, s.namingPattern = .ok p
  fileFilter : ∃ f, FileFilter.ofSettings s = .ok f
  prefixes : ∃ cs, parseConventions "test-file-prefix-patterns" s.testFilePrefixPatterns = .ok cs
  suffixes : ∃ cs, parseConventions "test-file-suffix-patterns" s.testFileSuffixPatterns = .ok cs
  nestedSchema : ∃ gs, compileGlobs "nested-schema-patterns" s.nestedSchemaPatterns = .ok gs

theorem checked_of_validate {s : Settings} (h : s.validate = .ok ()) : s.Checked := by
  unfold validate at h
  dsimp only at h
  split at h
  · cases h
  rename_i hrange
  split at h
  · cases h
  split at h
  · cases h
  obtain ⟨_, httl, h⟩ := ok_of_bind_eq_ok h
  obtain ⟨_, hpattern, h⟩ := ok_of_bind_eq_ok h
  obtain ⟨_, hfilter, h⟩ := ok_of_bind_eq_ok h
  obtain ⟨_, hprefixes, h⟩ := ok_of_bind_eq_ok h
  obtain ⟨_, hsuffixes, h⟩ := ok_of_bind_eq_ok h
  obtain ⟨_, hnested, -⟩ := ok_of_bind_eq_ok h
  exact ⟨by simpa using hrange, ⟨_, httl⟩, ⟨_, hpattern⟩, ⟨_, hfilter⟩, ⟨_, hprefixes⟩,
    ⟨_, hsuffixes⟩, ⟨_, hnested⟩⟩

end Settings

variable {s : Settings}

theorem Extraction.Extractor.new_ok (h : s.Checked) : ∃ x, Extraction.Extractor.new s = .ok x := by
  obtain ⟨gs, hgs⟩ := h.nestedSchema
  exact ⟨⟨gs, s⟩, by simp [Extraction.Extractor.new, hgs, bind, Except.bind, pure, Except.pure]⟩

/-- A linker made from a registry holds the registry's keys and names, the test-file filter and
file conventions it read from the settings, and the settings' other matching options. -/
theorem Linker.eq_of_new {r : Registry} {l : Linker} (h : Linker.new r s = .ok l) :
    ∃ files prefixes suffixes, FileFilter.ofSettings s = .ok files ∧
      parseConventions "test-file-prefix-patterns" s.testFilePrefixPatterns = .ok prefixes ∧
      parseConventions "test-file-suffix-patterns" s.testFileSuffixPatterns = .ok suffixes ∧
      l = ⟨r.keys, r.simpleNames, files, prefixes, suffixes, s.testFileSuffixStrip,
        s.testSuffixes, s.functionNameKeywordsToStrip, s.providerPrefix,
        if s.enableFuzzyMatching then some s.effectiveFuzzyThreshold else none⟩ := by
  unfold Linker.new at h
  obtain ⟨files, hf, h⟩ := ok_of_bind_eq_ok h
  obtain ⟨prefixes, hp, h⟩ := ok_of_bind_eq_ok h
  obtain ⟨suffixes, hs, h⟩ := ok_of_bind_eq_ok h
  cases h
  exact ⟨files, prefixes, suffixes, hf, hp, hs, rfl⟩

/-- A linker made from a registry works on its keys and names, with the configured suffixes
and, when fuzzy matching is on, the effective threshold. -/
theorem Linker.new_eq_ok {r : Registry} {l : Linker} (h : Linker.new r s = .ok l) :
    l.keys = r.keys ∧ l.names = r.simpleNames ∧ l.functionSuffixes = s.testSuffixes ∧
      l.fuzzyThreshold = if s.enableFuzzyMatching then some s.effectiveFuzzyThreshold else none := by
  obtain ⟨_, _, _, -, -, -, rfl⟩ := Linker.eq_of_new h
  exact ⟨rfl, rfl, rfl, rfl⟩

theorem Linker.contains_of_new {r : Registry} {l : Linker} (hl : Linker.new r s = .ok l) :
    ∀ k ∈ l.keys, r.contains k := fun k hk => by
  simpa [(Linker.new_eq_ok hl).1] using hk

/-- A linker made from a registry links it to the registry with each test in its linked form,
the entities and sweeper files kept. -/
theorem Linker.linkAll_of_new {r r' : Registry} {l : Linker} {n : Nat} (hl : Linker.new r s = .ok l)
    (h : (l.linkAll r).1 = .ok (r', n)) :
    r'.entities = r.entities ∧ r'.sweeperFiles = r.sweeperFiles ∧
      r'.tests = r.tests.map l.linkedForm := by
  obtain ⟨r₁, hr₁, hent, hsweep, htests⟩ := l.linkAll_eq_ok (Linker.contains_of_new hl)
  obtain rfl : r₁ = r' := congrArg Prod.fst (Except.ok.inj (hr₁.symm.trans h))
  exact ⟨hent, hsweep, htests⟩

theorem Linker.new_ok (h : s.Checked) (r : Registry) :
    ∃ l, Linker.new r s = .ok l ∧ l.keys = r.keys := by
  obtain ⟨f, hf⟩ := h.fileFilter
  obtain ⟨ps, hps⟩ := h.prefixes
  obtain ⟨ss, hss⟩ := h.suffixes
  exact ⟨_, by simp only [Linker.new, hf, hps, hss]; rfl, rfl⟩

theorem evaluate_ok (h : s.Checked) (r : Registry) : ∃ out, evaluate r s = .ok out := by
  obtain ⟨p, hp⟩ := h.namingPattern
  exact ⟨_, by simp only [evaluate, hp]; rfl⟩

theorem linkAll_ok_of_new {r : Registry} {l : Linker} (h : s.Checked) (hl : Linker.new r s = .ok l) :
    ∃ r' n, (l.linkAll r).1 = .ok (r', n) := by
  obtain ⟨l', hl', hkeys⟩ := Linker.new_ok h r
  obtain rfl : l = l' := by simpa [hl] using hl'
  obtain ⟨r', hr', -⟩ := Linker.linkAll_eq_ok (l := l) (r := r) fun k hk => by
    simpa [hkeys] using hk
  exact ⟨r', _, hr'⟩

theorem buildRegistry_ok (hs : s.validate = .ok ()) (files : List Go.File) :
    ∃ r, (buildRegistry files s).1 = .ok r := by
  have h := Settings.checked_of_validate hs
  obtain ⟨x, hx⟩ := Extraction.Extractor.new_ok h
  unfold buildRegistry
  rw [hs, hx]
  dsimp only
  split
  · rename_i e he
    obtain ⟨l, hl, -⟩ := Linker.new_ok h _
    rw [hl] at he
    cases he
  · rename_i l hl
    split
    · rename_i e linking he
      obtain ⟨r', n, hr'⟩ := linkAll_ok_of_new h hl
      rw [he] at hr'
      cases hr'
    · exact ⟨_, rfl⟩

/-- A registry is built in four steps: the settings pass their check, an extractor is made, and a
linker over the registered entities, tests and sweeper files links them. -/
theorem buildRegistry_eq_ok {files : List Go.File} {r : Registry}
    (h : (buildRegistry files s).1 = .ok r) :
    ∃ x r₀ l n, s.validate = .ok () ∧ Extraction.Extractor.new s = .ok x ∧
      r₀ = (registerSweepers files (registerTests s (files.filter (·.isTest))
        (registerEntities x (files.filter (!·.isTest)) {}).1).1).1 ∧
      Linker.new r₀ s = .ok l ∧ (l.linkAll r₀).1 = .ok (r, n) := by
  unfold buildRegistry at h
  cases hs : s.validate with
  | error e => simp [hs] at h
  | ok u =>
    cases hx : Extraction.Extractor.new s with
    | error e => simp [hs, hx] at h
    | ok x =>
      rw [hs, hx] at h
      dsimp only at h
      split at h
      · cases h
      · rename_i l hl
        split at h
        · cases h
        · rename_i r' n linking hla
          cases h
          exact ⟨x, _, l, n, rfl, rfl, rfl, hl, by rw [hla]⟩

/-- **Checked settings never fail later.** Once the settings pass their check, the file filter,
the extractor, the naming pattern and the cache lifetime all read; over every registry a linker
is made and links it without a registry error; a registry is built from any files; and every
registry is evaluated. -/
theorem validated_settings_never_fail (hs : s.validate = .ok ()) :
    (∃ f, FileFilter.ofSettings s = .ok f) ∧ (∃ x, Extraction.Extractor.new s = .ok x) ∧
    (∃ p, s.namingPattern = .ok p) ∧ (∃ t, s.cacheTtlNanos = .ok t) ∧
    (∀ r : Registry, ∃ l, Linker.new r s = .ok l ∧ ∃ r' n, (l.linkAll r).1 = .ok (r', n)) ∧
    (∀ files, ∃ r, (buildRegistry files s).1 = .ok r) ∧
    ∀ r : Registry, ∃ out, evaluate r s = .ok out := by
  have h := Settings.checked_of_validate hs
  refine ⟨h.fileFilter, Extraction.Extractor.new_ok h, h.namingPattern, h.cacheTtl, ?_,
    buildRegistry_ok hs, evaluate_ok h⟩
  intro r
  obtain ⟨l, hl, -⟩ := Linker.new_ok h r
  exact ⟨l, hl, linkAll_ok_of_new h hl⟩

/-- The defaults with the default cache lifetime written as the empty text pass the check, and
build a registry from any files. -/
theorem defaults_build_any_files :
    ({ cacheTtl := "" } : Settings).validate = .ok () ∧
      ∀ files, ∃ r, (buildRegistry files { cacheTtl := "" }).1 = .ok r :=
  ⟨rfl, (validated_settings_never_fail rfl).2.2.2.2.2.1⟩

end ProviderCoverage
