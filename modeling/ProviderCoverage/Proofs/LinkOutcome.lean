import ProviderCoverage.Proofs.Build
import ProviderCoverage.Proofs.Similarity
import ProviderCoverage.Proofs.NamePortion
import ProviderCoverage.Proofs.Naming

/-!
# What linking records

A strategy that matches a test names how: by the function name at confidence `1`, by the file's
naming convention at `0.9`, by the configuration's typed blocks at `0.8`, or by similarity at a
score not below the threshold (`matchTest_cases`). Linking stores the clamped confidence, so a
linked test carries one of the first three, or a fuzzy confidence between the effective
threshold and one: the threshold lies in `[0, 1]` once the settings are checked, and a
similarity of names that a program can hold is never NaN.

Linking fresh tests (unlinked, with no match type, as test discovery makes them) therefore
links exactly the tests some strategy matches, counts them, splits every test into linked,
unmatched, or exempt from matching by its category, and leaves nothing for a second run.
-/

namespace ProviderCoverage

theorem mem_insertSortedString {x y : String} {l : List String}
    (h : x ∈ insertSortedString y l) : x = y ∨ x ∈ l := by
  induction l with
  | nil => simpa [insertSortedString] using h
  | cons z zs ih =>
    unfold insertSortedString at h
    split at h
    · rename_i hyz
      rcases List.mem_cons.mp h with rfl | h
      · exact .inl (beq_iff_eq.mp hyz).symm
      · exact .inr (List.mem_cons_of_mem _ h)
    · split at h
      · simpa using h
      · rcases List.mem_cons.mp h with rfl | h
        · exact .inr (List.mem_cons_self ..)
        · exact (ih h).imp_right (List.mem_cons_of_mem _)

theorem Registry.mem_simpleNames {r : Registry} {name : String} (h : name ∈ r.simpleNames) :
    ∃ e ∈ r.entities, e.name = name := by
  unfold simpleNames at h
  have hfold : ∀ (es : List Entity) (acc : List String),
      name ∈ es.foldl (fun acc e => insertSortedString e.name acc) acc →
        name ∈ acc ∨ ∃ e ∈ es, e.name = name := by
    intro es
    induction es with
    | nil => exact fun _ h => .inl h
    | cons e es ih =>
      intro acc h
      rcases ih _ h with h | ⟨e', he', rfl⟩
      · rcases mem_insertSortedString h with rfl | h
        · exact .inr ⟨e, List.mem_cons_self .., rfl⟩
        · exact .inl h
      · exact .inr ⟨e', List.mem_cons_of_mem _ he', rfl⟩
  simpa using hfold r.entities [] h

theorem Settings.effectiveFuzzyThreshold_mem {s : Settings} (h : s.Checked) :
    0.0 ≤ s.effectiveFuzzyThreshold ∧ s.effectiveFuzzyThreshold ≤ 1.0 := by
  unfold Settings.effectiveFuzzyThreshold
  split
  · exact h.thresholdMem
  · decide

theorem Linker.fuzzyThreshold_of_new {r : Registry} {s : Settings} {l : Linker}
    (hl : Linker.new r s = .ok l) {threshold : Float} (h : l.fuzzyThreshold = some threshold) :
    s.enableFuzzyMatching = true ∧ threshold = s.effectiveFuzzyThreshold := by
  obtain ⟨-, -, -, hfuzzy⟩ := Linker.new_eq_ok hl
  rw [hfuzzy] at h
  split at h
  · exact ⟨‹_›, (Option.some.inj h).symm⟩
  · cases h

theorem fuzzy_confidence_mem {threshold score : Float} (h0 : 0.0 ≤ threshold)
    (h1 : threshold ≤ 1.0) (hscore : score.isNaN = false) (hkept : ¬score < threshold) :
    threshold ≤ Registry.clampConfidence score ∧ Registry.clampConfidence score ≤ 1.0 :=
  ⟨Registry.le_clampConfidence h0 h1
      (Confidence.le_of_not_lt (Confidence.isNaN_eq_false_of_le h0).2 hscore hkept),
    (Registry.clampConfidence_mem hscore).2⟩

namespace Linker

variable {l : Linker}

theorem matchBySimilarity_eq_some {function : String} {k : EntityKey} {score : Float}
    (h : (l.matchBySimilarity function).1 = some (k, score)) :
    ∃ threshold p name, l.fuzzyThreshold = some threshold ∧ l.namePortion function = some p ∧
      Similarity.bestMatch (Naming.snakeCase p.raw) l.names threshold = some (name, score) ∧
      l.resolve name p.hint = some k := by
  unfold matchBySimilarity at h
  split at h
  · rename_i threshold p hthreshold hp
    split at h
    · rename_i name score' hbest
      simp only [Option.map_eq_some_iff, Prod.mk.injEq] at h
      obtain ⟨_, hk, rfl, rfl⟩ := h
      exact ⟨threshold, p, name, hthreshold, hp, hbest, hk⟩
    · cases h
  · cases h

theorem matchBySimilarity_admitted {function : String} {k : EntityKey} {score : Float}
    (h : (l.matchBySimilarity function).1 = some (k, score)) :
    ∃ threshold p name, l.fuzzyThreshold = some threshold ∧ l.namePortion function = some p ∧
      Similarity.Admitted (Naming.snakeCase p.raw) l.names threshold name score := by
  obtain ⟨threshold, p, name, hthreshold, hp, hbest, -⟩ := matchBySimilarity_eq_some h
  exact ⟨threshold, p, name, hthreshold, hp, Similarity.bestMatch_admitted hbest⟩

/-- **The four ways a test is matched**, with the confidence each gives. -/
theorem matchTest_cases {t : TestFunction} {m : Match} (h : (l.matchTest t).1 = some m) :
    (m.matchType = .functionName ∧ m.confidence = 1.0) ∨
    (m.matchType = .fileProximity ∧ m.confidence = 0.9) ∨
    (m.matchType = .inferredFromConfig ∧ m.confidence = 0.8) ∨
    (m.matchType = .fuzzy ∧ ∃ threshold p name, l.fuzzyThreshold = some threshold ∧
      l.namePortion t.name = some p ∧
      Similarity.Admitted (Naming.snakeCase p.raw) l.names threshold name m.confidence) := by
  unfold matchTest at h
  dsimp only at h
  split at h
  · cases h
    exact .inl ⟨rfl, rfl⟩
  · split at h
    · cases h
      exact .inr (.inl ⟨rfl, rfl⟩)
    · split at h
      · cases h
        exact .inr (.inr (.inl ⟨rfl, rfl⟩))
      · simp only [Option.map_eq_some_iff] at h
        obtain ⟨⟨k, score⟩, hk, rfl⟩ := h
        exact .inr (.inr (.inr ⟨rfl, matchBySimilarity_admitted hk⟩))

theorem matchType_ne_none {t : TestFunction} {m : Match} (h : (l.matchTest t).1 = some m) :
    m.matchType ≠ .none := by
  rcases matchTest_cases h with ⟨h, -⟩ | ⟨h, -⟩ | ⟨h, -⟩ | ⟨h, -⟩ <;> simp [h]

theorem linkedForm_of_match {t : TestFunction} {m : Match} (ht : t.linked = none)
    (hm : (l.matchTest t).1 = some m) :
    l.linkedForm t = Registry.linkedTest t m.key m.matchType m.confidence := by
  simp [linkedForm, ht, hm]

theorem linkedForm_of_no_match {t : TestFunction} (hm : (l.matchTest t).1 = none) :
    l.linkedForm t = t :=
  linkedForm_eq_self (by simp [linksTest, hm])

theorem linksTest_of_unlinked {t : TestFunction} (ht : t.linked = none) :
    l.linksTest t = (l.matchTest t).1.isSome := by
  simp [linksTest, ht]

theorem isSome_linked_linkedForm {t : TestFunction} (ht : t.linked = none) :
    (l.linkedForm t).linked.isSome = (l.matchTest t).1.isSome := by
  cases hm : (l.matchTest t).1 with
  | none => simp [linkedForm_of_no_match hm, ht]
  | some m => simp [linkedForm_of_match ht hm, Registry.linkedTest]

theorem isMatched_linkedForm {t : TestFunction} (ht : t.linked = none ∧ t.matchType = .none) :
    (l.linkedForm t).isMatched = (l.linkedForm t).linked.isSome := by
  cases hm : (l.matchTest t).1 with
  | none => simp [linkedForm_of_no_match hm, ht, TestFunction.isMatched]
  | some m =>
    simp [linkedForm_of_match ht.1 hm, Registry.linkedTest, TestFunction.isMatched,
      matchType_ne_none hm]

/-- After linking, a test is linked already or no strategy matches it: linking again does
nothing to it. -/
theorem linkedForm_settled (t : TestFunction) :
    (l.linkedForm t).linked.isSome ∨ (l.matchTest (l.linkedForm t)).1 = none := by
  unfold linkedForm
  split
  · left
    rfl
  · rename_i hne
    by_cases ht : t.linked = none
    · right
      cases hm : (l.matchTest t).1 with
      | none => rfl
      | some m => exact (hne m ht hm).elim
    · left
      simpa [Option.isSome_iff_ne_none] using ht

end Linker

/-- The match types and confidences that linking records under the settings. -/
def Settings.RecordedMatch (s : Settings) (mt : MatchType) (c : Float) : Prop :=
  (mt = .functionName ∧ c = 1.0) ∨ (mt = .fileProximity ∧ c = 0.9) ∨
    (mt = .inferredFromConfig ∧ c = 0.8) ∨
    (mt = .fuzzy ∧ s.effectiveFuzzyThreshold ≤ c ∧ c ≤ 1.0)

theorem Registry.clampConfidence_eq_self {c : Float} (h0 : ¬c < 0.0) (h1 : ¬c > 1.0) :
    Registry.clampConfidence c = c := by
  simp [Registry.clampConfidence, h0, h1]

section Recorded

variable {r : Registry} {s : Settings} {l : Linker}

/-- A name held by a program is shorter than `2 ^ 63` characters; its snake case and its
similarity scores stay far inside the range where a float length is finite. -/
theorem similarity_isNaN_of_names {t : TestFunction} {p : NamePortion} {name : String}
    (hp : l.namePortion t.name = some p) (ht : t.name.length < 2 ^ 63)
    (hname : name.length < 2 ^ 63) :
    (Similarity.similarity (Naming.snakeCase p.raw) name).isNaN = false := by
  have hsnake : (Naming.snakeCase p.raw).length < 2 ^ 256 := calc
    (Naming.snakeCase p.raw).length ≤ 3 * p.raw.length := Naming.snakeCase_length_le _
    _ ≤ 3 * t.name.length := Nat.mul_le_mul_left 3 (Linker.namePortion_raw_length hp)
    _ < 2 ^ 256 := by omega
  exact Similarity.similarity_isNaN _ _ hsnake (by omega)

theorem Linker.similarity_names_isNaN (hl : Linker.new r s = .ok l)
    (hnames : ∀ e ∈ r.entities, e.name.length < 2 ^ 63) {t : TestFunction}
    (ht : t.name.length < 2 ^ 63) {p : NamePortion} (hp : l.namePortion t.name = some p) :
    ∀ c ∈ l.names, (Similarity.similarity (Naming.snakeCase p.raw) c).isNaN = false := by
  intro c hc
  obtain ⟨-, hnamesEq, -, -⟩ := Linker.new_eq_ok hl
  obtain ⟨e, he, rfl⟩ := Registry.mem_simpleNames (hnamesEq ▸ hc)
  exact similarity_isNaN_of_names hp ht (hnames e he)

theorem matchTest_confidence_isNaN (hl : Linker.new r s = .ok l)
    (hnames : ∀ e ∈ r.entities, e.name.length < 2 ^ 63) {t : TestFunction}
    (ht : t.name.length < 2 ^ 63) {m : Match} (hm : (l.matchTest t).1 = some m) :
    m.confidence.isNaN = false := by
  rcases Linker.matchTest_cases hm with ⟨-, hc⟩ | ⟨-, hc⟩ | ⟨-, hc⟩ |
    ⟨-, threshold, p, name, -, hp, hname, hscore, -⟩
  · rw [hc]; decide
  · rw [hc]; decide
  · rw [hc]; decide
  · exact hscore ▸ Linker.similarity_names_isNaN hl hnames ht hp name hname

/-- **What a link records.** A match of a linker built from checked settings is stored as one of
the three fixed confidences of its strategy, or as a fuzzy score between the effective
threshold and one. -/
theorem recordedMatch_of_matchTest (hs : s.Checked) (hl : Linker.new r s = .ok l)
    (hnames : ∀ e ∈ r.entities, e.name.length < 2 ^ 63) {t : TestFunction}
    (ht : t.name.length < 2 ^ 63) {m : Match} (hm : (l.matchTest t).1 = some m) :
    s.RecordedMatch m.matchType (Registry.clampConfidence m.confidence) := by
  rcases Linker.matchTest_cases hm with ⟨hmt, hc⟩ | ⟨hmt, hc⟩ | ⟨hmt, hc⟩ |
    ⟨hmt, threshold, -, -, hthreshold, -, -, -, hkept⟩
  · exact .inl ⟨hmt, by rw [hc, Registry.clampConfidence_eq_self (by decide) (by decide)]⟩
  · exact .inr (.inl ⟨hmt, by
      rw [hc, Registry.clampConfidence_eq_self (by decide) (by decide)]⟩)
  · exact .inr (.inr (.inl ⟨hmt, by
      rw [hc, Registry.clampConfidence_eq_self (by decide) (by decide)]⟩))
  · have heff : threshold = s.effectiveFuzzyThreshold :=
      (Linker.fuzzyThreshold_of_new hl hthreshold).2
    have hnan : m.confidence.isNaN = false := matchTest_confidence_isNaN hl hnames ht hm
    obtain ⟨h0, h1⟩ := Settings.effectiveFuzzyThreshold_mem hs
    exact .inr (.inr (.inr ⟨hmt, fuzzy_confidence_mem h0 h1 hnan (heff ▸ hkept)⟩))

/-- What linking leaves of a test that arrives unlinked and unmatched: it is linked exactly when
it is matched, exactly when a strategy matches it, and then with a recorded match. -/
theorem linkedForm_outcome (hs : s.Checked) (hl : Linker.new r s = .ok l)
    (hnames : ∀ e ∈ r.entities, e.name.length < 2 ^ 63) {t : TestFunction}
    (hfresh : t.linked = none ∧ t.matchType = .none) (ht : t.name.length < 2 ^ 63) :
    ((l.linkedForm t).linked.isSome ↔ (l.linkedForm t).matchType ≠ .none) ∧
    ((l.linkedForm t).linked.isSome ↔ (l.matchTest t).1.isSome) ∧
    ((l.linkedForm t).linked.isSome →
      s.RecordedMatch (l.linkedForm t).matchType (l.linkedForm t).matchConfidence) := by
  cases hm : (l.matchTest t).1 with
  | none => simp [Linker.linkedForm_of_no_match hm, hfresh]
  | some m =>
    rw [Linker.linkedForm_of_match hfresh.1 hm]
    exact ⟨by simp [Registry.linkedTest, Linker.matchType_ne_none hm],
      by simp [Registry.linkedTest], fun _ => recordedMatch_of_matchTest hs hl hnames ht hm⟩

end Recorded

theorem TestCategory.exempt_eq_not_expectsEntity (c : TestCategory) :
    (c == .providerConfig || c == .function) = !c.expectsEntity := by
  cases c <;> rfl

theorem length_filter_split {α : Type} (p q : α → Bool) (xs : List α) :
    (xs.filter p).length + (xs.filter fun x => q x && !p x).length +
      (xs.filter fun x => !q x && !p x).length = xs.length := by
  have hp := xs.length_eq_length_filter_add p
  have hq := (xs.filter (!p ·)).length_eq_length_filter_add q
  rw [List.filter_filter, List.filter_filter] at hq
  omega

section Outcome

variable {r r' : Registry} {s : Settings} {l : Linker} {n : Nat}

/-- **Linking fresh tests.** For a registry whose tests arrive unlinked and unmatched and checked
settings, a run of `linkAll` that succeeds links exactly the tests some strategy matches, each
with a recorded match, and counts them; each test is then linked, unmatched, or exempt from
matching by its category; and a second run links nothing and changes nothing. Names are shorter
than `2 ^ 63` characters, as a program's strings are. -/
theorem linkAll_links_exactly_matched (hs : s.validate = .ok ())
    (hfresh : ∀ t ∈ r.tests, t.linked = none ∧ t.matchType = .none)
    (hnames : ∀ e ∈ r.entities, e.name.length < 2 ^ 63)
    (htests : ∀ t ∈ r.tests, t.name.length < 2 ^ 63)
    (hl : Linker.new r s = .ok l) (hrun : (l.linkAll r).1 = .ok (r', n)) :
    n = r'.stats.linkedTestFunctions ∧ r'.tests.size = r.tests.size ∧
    (∀ (i : Nat) (t : TestFunction), r.tests[i]? = some t →
      ∃ t' : TestFunction, r'.tests[i]? = some t' ∧
      (t'.linked.isSome ↔ t'.matchType ≠ .none) ∧
      (t'.linked.isSome ↔ (l.matchTest t).1.isSome) ∧
      (t'.linked.isSome → s.RecordedMatch t'.matchType t'.matchConfidence)) ∧
    r'.stats.linkedTestFunctions + r'.unmatched.length +
        (r'.tests.toList.filter fun t =>
          t.linked.isNone && (t.category == .providerConfig || t.category == .function)).length =
      r'.stats.testFunctions ∧
    (l.linkAll r').1 = .ok (r', 0) := by
  obtain ⟨hkeys, -⟩ := Linker.new_eq_ok hl
  obtain ⟨r₁, hr₁, -, -, hmap⟩ := l.linkAll_eq_ok fun k hk => by simpa [hkeys] using hk
  obtain ⟨rfl, rfl⟩ : r₁ = r' ∧ (r.tests.toList.filter l.linksTest).length = n := by
    simpa [hr₁] using hrun
  have hform : ∀ t ∈ r₁.tests.toList, ∃ t₀ ∈ r.tests, l.linkedForm t₀ = t := by
    simp [hmap]
  have hmatched : ∀ t ∈ r₁.tests.toList, t.isMatched = t.linked.isSome := by
    intro t ht
    obtain ⟨t₀, ht₀, rfl⟩ := hform t ht
    exact Linker.isMatched_linkedForm (hfresh t₀ ht₀)
  refine ⟨?count, by simp [hmap], ?perTest, ?partition, ?again⟩
  case count =>
    simp only [Registry.stats, hmap, Array.toList_map, List.filter_map, List.length_map]
    congr 1
    refine List.filter_congr fun t ht => ?_
    have ht' := (hfresh t (Array.mem_toList_iff.mp ht)).1
    simp [Linker.linksTest_of_unlinked ht', Linker.isSome_linked_linkedForm ht']
  case perTest =>
    intro i t hi
    have ht := Array.mem_of_getElem? hi
    exact ⟨l.linkedForm t, by simp [hmap, hi],
      linkedForm_outcome (Settings.checked_of_validate hs) hl hnames (hfresh t ht) (htests t ht)⟩
  case partition =>
    have hunmatched : r₁.unmatched =
        r₁.tests.toList.filter fun t => t.category.expectsEntity && !t.linked.isSome :=
      List.filter_congr fun t ht => by rw [hmatched t ht, Bool.and_comm]
    have hexempt : (r₁.tests.toList.filter fun t =>
          t.linked.isNone && (t.category == .providerConfig || t.category == .function)) =
        r₁.tests.toList.filter fun t => !t.category.expectsEntity && !t.linked.isSome :=
      List.filter_congr fun t _ => by
        rw [TestCategory.exempt_eq_not_expectsEntity, ← Option.not_isSome, Bool.and_comm]
    rw [hunmatched, hexempt]
    simpa [Registry.stats] using
      length_filter_split (·.linked.isSome) (·.category.expectsEntity) r₁.tests.toList
  case again =>
    refine Linker.linkAll_settled fun t ht => ?_
    obtain ⟨t₀, -, rfl⟩ := hform t (Array.mem_toList_iff.mpr ht)
    exact Linker.linkedForm_settled t₀

/-- A resource and three fresh tests: one named for the resource, one for a resource that does
not exist, and one of the provider's configuration. -/
def sampleLinkRegistry : Registry where
  entities := [{ kind := .resource, name := "widget", location := default }]
  tests := #[{ name := "TestAccWidget_basic", location := default },
    { name := "TestAccGadget_basic", location := default },
    { name := "TestProvider", location := default, category := .providerConfig }]

theorem sampleLinkRegistry_partition :
    ∃ l r' n,
      Linker.new sampleLinkRegistry { cacheTtl := "", enableFuzzyMatching := true } = .ok l ∧
      (l.linkAll sampleLinkRegistry).1 = .ok (r', n) ∧
      r'.stats.linkedTestFunctions + r'.unmatched.length +
          (r'.tests.toList.filter fun t =>
            t.linked.isNone && (t.category == .providerConfig || t.category == .function)).length =
        r'.stats.testFunctions := by
  obtain ⟨l, hl⟩ : ∃ l, Linker.new sampleLinkRegistry
      { cacheTtl := "", enableFuzzyMatching := true } = .ok l := ⟨_, rfl⟩
  obtain ⟨r', n, hrun⟩ := linkAll_ok_of_new (Settings.checked_of_validate rfl) hl
  exact ⟨l, r', n, hl, hrun,
    (linkAll_links_exactly_matched rfl (by decide) (by decide) (by decide) hl hrun).2.2.2.1⟩

/-- A resource and one unlinked test that already carries a fuzzy match, and that no strategy
matches. -/
def staleMatchRegistry : Registry where
  entities := [{ kind := .resource, name := "widget", location := default }]
  tests := #[
    { name := "TestAccGadget_basic", location := default, matchType := .fuzzy,
      matchConfidence := 0.75 }]

/-- Linking leaves that test unlinked and matched: it is then neither linked, nor unmatched, nor
exempt from matching, so the three counts miss it. -/
theorem unlinked_fuzzy_test_escapes_partition :
    ({ cacheTtl := "" } : Settings).validate = .ok () ∧
    (∀ t ∈ staleMatchRegistry.tests.toList, t.linked = none) ∧
    ∃ l r' n, Linker.new staleMatchRegistry { cacheTtl := "" } = .ok l ∧
      (l.linkAll staleMatchRegistry).1 = .ok (r', n) ∧
      (∃ t ∈ r'.tests.toList, t.linked = none ∧ t.matchType = .fuzzy) ∧
      r'.stats.linkedTestFunctions + r'.unmatched.length +
          (r'.tests.toList.filter fun t =>
            t.linked.isNone && (t.category == .providerConfig || t.category == .function)).length ≠
        r'.stats.testFunctions := by
  have hrun : ((Linker.new staleMatchRegistry { cacheTtl := "" }).toOption.bind fun l =>
      (l.linkAll staleMatchRegistry).1.toOption.map fun res =>
        res.1.tests.toList.any (fun t => t.linked == none && t.matchType == .fuzzy) &&
          res.1.stats.linkedTestFunctions + res.1.unmatched.length +
              (res.1.tests.toList.filter fun t =>
                t.linked.isNone && (t.category == .providerConfig || t.category == .function)).length !=
            res.1.stats.testFunctions) = some true := by
    decide +kernel
  refine ⟨rfl, by decide, ?_⟩
  cases hl : Linker.new staleMatchRegistry { cacheTtl := "" } with
  | error e => simp [hl, Except.toOption] at hrun
  | ok l =>
    cases hr : (l.linkAll staleMatchRegistry).1 with
    | error e => simp [hl, hr, Except.toOption] at hrun
    | ok res =>
      obtain ⟨r', n⟩ := res
      simp only [hl, hr, Except.toOption, Option.bind_some, Option.map_some, Option.some.injEq,
        Bool.and_eq_true, List.any_eq_true, beq_iff_eq, bne_iff_ne, ne_eq] at hrun
      exact ⟨l, r', n, rfl, hr, hrun.1, hrun.2⟩

end Outcome

end ProviderCoverage
