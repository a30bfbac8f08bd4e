import Mathlib
import ProviderCoverage.Proofs.FloatOrder
import ProviderCoverage.Proofs.LinkOutcome
import ProviderCoverage.Proofs.ProviderPrefix
import ProviderCoverage.Proofs.Suggestion

/-!
# Fuzzy matching

The best match of a needle is the candidate that scores highest against it, of those scoring
at least the threshold, the smallest name among equal scores: the fold of `bestMatch` keeps a
running best (`Running`) that knows this of the candidates seen so far (`running_step`). With
scores that are numbers, the floats compare by their keys in a linear order, and the fold
answers nothing only when no candidate reaches the threshold. At most one pair of a name and a
score is best (`IsBest.unique`), so the best match is that pair and does not depend on the order
of the candidates (`bestMatch_greatest_least`).

A linker reaches similarity last, after the function name, the file and the configuration. The
function name was tried with the same raw name portion through `resolve` over every kind, so the
needle of a fuzzy match is the name of no entity; the best name is a registered one, so the
final `resolve` always finds it, and picks the hinted kind when that kind has the name, else the
first kind in the usual order.
-/

namespace ProviderCoverage.Similarity

open FloatOrder

/-- What the running best of `bestMatch` knows after the candidates `seen`: either none of
them reached the threshold, or the best is admitted, scores at least every admitted candidate,
and is the smallest of the names scoring as much. -/
def Running (needle : String) (threshold : Float) (seen : List String) :
    Option (String × Float) → Prop
  | none => ∀ c ∈ seen, similarity needle c < threshold
  | some (name, score) => Admitted needle seen threshold name score ∧
      ∀ c ∈ seen, keyOf threshold ≤ keyOf (similarity needle c) →
        keyOf (similarity needle c) ≤ keyOf score ∧
          (keyOf score ≤ keyOf (similarity needle c) → name ≤ c)

theorem bestMatch_eq_foldl (needle : String) (candidates : List String) (threshold : Float) :
    bestMatch needle candidates threshold = candidates.foldl (fun best c =>
      if similarity needle c < threshold then best else better best c (similarity needle c))
      none := rfl

theorem Admitted.append {needle name : String} {seen : List String} {threshold score : Float}
    (h : Admitted needle seen threshold name score) (more : List String) :
    Admitted needle (seen ++ more) threshold name score :=
  ⟨List.mem_append_left _ h.1, h.2⟩

section Step

variable {needle c : String} {threshold : Float} {seen : List String}
  (hthr : threshold.isNaN = false) (hseen : ∀ c ∈ seen, (similarity needle c).isNaN = false)
  (hc : (similarity needle c).isNaN = false)
include hthr hseen hc

omit hseen in
theorem running_skip {best : Option (String × Float)} (h : Running needle threshold seen best)
    (hbelow : similarity needle c < threshold) : Running needle threshold (seen ++ [c]) best := by
  have hkey : keyOf (similarity needle c) < keyOf threshold := (lt_iff_key hc hthr).mp hbelow
  match best, h with
  | none, h =>
    intro c' hc'
    rcases List.mem_append.mp hc' with hc' | hc'
    · exact h c' hc'
    · rw [List.mem_singleton.mp hc']
      exact hbelow
  | some (name, score), ⟨hadm, hbest⟩ =>
    refine ⟨hadm.append _, fun c' hc' hkept => ?_⟩
    rcases List.mem_append.mp hc' with hc' | hc'
    · exact hbest c' hc' hkept
    · rw [List.mem_singleton.mp hc'] at hkept
      exact absurd hkept (not_le.mpr hkey)

omit hc in
theorem running_first (h : Running needle threshold seen none)
    (hkept : ¬similarity needle c < threshold) :
    Running needle threshold (seen ++ [c]) (some (c, similarity needle c)) := by
  refine ⟨⟨List.mem_append_right _ (List.mem_singleton_self c), rfl, hkept⟩, fun c' hc' hc'kept => ?_⟩
  rcases List.mem_append.mp hc' with hc' | hc'
  · exact absurd hc'kept (not_le.mpr ((lt_iff_key (hseen c' hc') hthr).mp (h c' hc')))
  · rw [List.mem_singleton.mp hc']
    exact ⟨le_rfl, fun _ => le_rfl⟩

omit hthr in
theorem running_better {name : String} {score : Float}
    (h : Running needle threshold seen (some (name, score)))
    (hkept : ¬similarity needle c < threshold) :
    Running needle threshold (seen ++ [c]) (better (some (name, score)) c (similarity needle c)) := by
  obtain ⟨hadm, hbest⟩ := h
  have hscore : score.isNaN = false := hadm.2.1 ▸ hseen name hadm.1
  dsimp only [better]
  split
  · rename_i hkeep
    have hkeep : keyOf (similarity needle c) < keyOf score ∨
        (keyOf score = keyOf (similarity needle c) ∧ name ≤ c) := by
      simpa [lt_iff_key hc hscore, beq_iff_key hscore hc] using hkeep
    refine ⟨hadm.append _, fun c' hc' hc'kept => ?_⟩
    rcases List.mem_append.mp hc' with hc' | hc'
    · exact hbest c' hc' hc'kept
    · rw [List.mem_singleton.mp hc']
      rcases hkeep with hlt | ⟨heq, hle⟩
      · exact ⟨hlt.le, fun hge => absurd hge (not_le.mpr hlt)⟩
      · exact ⟨heq.ge, fun _ => hle⟩
  · rename_i hreplace
    have hreplace : keyOf score ≤ keyOf (similarity needle c) ∧
        (keyOf score = keyOf (similarity needle c) → c < name) := by
      simp only [Bool.or_eq_true, decide_eq_true_eq, Bool.and_eq_true, beq_iff_key hscore hc,
        gt_iff_lt, lt_iff_key hc hscore, not_or, not_and, not_lt, not_le] at hreplace
      exact hreplace
    refine ⟨⟨List.mem_append_right _ (List.mem_singleton_self c), rfl, hkept⟩,
      fun c' hc' hc'kept => ?_⟩
    rcases List.mem_append.mp hc' with hc' | hc'
    · obtain ⟨hle, hleast⟩ := hbest c' hc' hc'kept
      refine ⟨hle.trans hreplace.1, fun hge => ?_⟩
      have heq : keyOf score = keyOf (similarity needle c) :=
        le_antisymm hreplace.1 (hge.trans hle)
      exact (hreplace.2 heq).le.trans (hleast (heq ▸ hge))
    · rw [List.mem_singleton.mp hc']
      exact ⟨le_rfl, fun _ => le_rfl⟩

/-- **One step of the fold** keeps the running best. -/
theorem running_step {best : Option (String × Float)} (h : Running needle threshold seen best) :
    Running needle threshold (seen ++ [c]) (if similarity needle c < threshold then best
      else better best c (similarity needle c)) := by
  split
  · exact running_skip hthr hc h ‹_›
  · rename_i hkept
    match best, h with
    | none, h => exact running_first hthr hseen h hkept
    | some (name, score), h => exact running_better hseen hc h hkept

end Step

variable {needle name : String} {candidates : List String} {threshold score : Float}

theorem running_foldl (hthr : threshold.isNaN = false) :
    ∀ (cs seen : List String) (best : Option (String × Float)),
      (∀ c ∈ seen ++ cs, (similarity needle c).isNaN = false) →
      Running needle threshold seen best →
      Running needle threshold (seen ++ cs) (cs.foldl (fun best c =>
        if similarity needle c < threshold then best
        else better best c (similarity needle c)) best) := by
  intro cs
  induction cs with
  | nil => simp
  | cons c cs ih =>
    intro seen best hnan h
    have hseen : ∀ c ∈ seen, (similarity needle c).isNaN = false :=
      fun c' hc' => hnan c' (List.mem_append_left _ hc')
    have hstep := running_step hthr hseen (hnan c (by simp)) h
    simpa using ih (seen ++ [c]) _ (by simpa using hnan) hstep

theorem running_bestMatch (hthr : threshold.isNaN = false)
    (hnan : ∀ c ∈ candidates, (similarity needle c).isNaN = false) :
    Running needle threshold candidates (bestMatch needle candidates threshold) := by
  rw [bestMatch_eq_foldl]
  simpa using running_foldl hthr candidates [] none (by simpa using hnan) (by simp [Running])

/-- **The best match is the greatest.** Over candidates whose scores are numbers, the best
match scores at least every candidate, and is the smallest name among those scoring as much. -/
theorem bestMatch_greatest (hthr : threshold.isNaN = false)
    (hnan : ∀ c ∈ candidates, (similarity needle c).isNaN = false)
    (h : bestMatch needle candidates threshold = some (name, score)) :
    Admitted needle candidates threshold name score ∧
      ∀ c ∈ candidates, similarity needle c ≤ score ∧
        (score ≤ similarity needle c → name ≤ c) := by
  have hrun := running_bestMatch hthr hnan
  rw [h] at hrun
  obtain ⟨hadm, hbest⟩ := hrun
  have hscore : score.isNaN = false := hadm.2.1 ▸ hnan name hadm.1
  have hreached : keyOf threshold ≤ keyOf score :=
    (le_iff_key hthr hscore).mp (Confidence.le_of_not_lt hthr hscore hadm.2.2)
  refine ⟨hadm, fun c hc => ?_⟩
  rw [le_iff_key (hnan c hc) hscore, le_iff_key hscore (hnan c hc)]
  by_cases hkept : keyOf threshold ≤ keyOf (similarity needle c)
  · exact hbest c hc hkept
  · have hbelow := (not_le.mp hkept).trans_le hreached
    exact ⟨hbelow.le, fun hge => absurd hge (not_le.mpr hbelow)⟩

theorem bestMatch_eq_some_of_kept (hthr : threshold.isNaN = false)
    (hnan : ∀ c ∈ candidates, (similarity needle c).isNaN = false) {c : String}
    (hc : c ∈ candidates) (hkept : ¬similarity needle c < threshold) :
    ∃ name score, bestMatch needle candidates threshold = some (name, score) := by
  have hrun := running_bestMatch hthr hnan
  cases hbest : bestMatch needle candidates threshold with
  | none =>
    rw [hbest] at hrun
    exact absurd (hrun c hc) hkept
  | some best => exact ⟨best.1, best.2, rfl⟩

/-! ### The best match, characterised

Of the candidates reaching the threshold, one scores highest and is the smallest name among
those scoring as much: `IsBest` says so of a name and a score, and at most one pair satisfies it
(`IsBest.unique`). So the best match is exactly that pair, or nothing when no candidate reaches
the threshold, and it depends on the candidates only through which names are among them.
-/

/-- `name`, scored `score`, is the best of `candidates`: a candidate reaching the threshold with
its score, scoring at least every candidate that reaches the threshold, and the smallest name of
those that score as much. -/
def IsBest (needle : String) (candidates : List String) (threshold : Float) (name : String)
    (score : Float) : Prop :=
  name ∈ candidates ∧ score = similarity needle name ∧ threshold ≤ score ∧
    ∀ c ∈ candidates, threshold ≤ similarity needle c →
      similarity needle c ≤ score ∧ (score ≤ similarity needle c → name ≤ c)

theorem isBest_congr {others : List String} (h : ∀ c, c ∈ others ↔ c ∈ candidates) :
    IsBest needle others threshold name score ↔ IsBest needle candidates threshold name score := by
  simp only [IsBest, h]

/-- Two best pairs are one: each scores at least the other, so the scores are equal and each
name is at most the other. -/
theorem IsBest.unique {name' : String} {score' : Float}
    (h : IsBest needle candidates threshold name score)
    (h' : IsBest needle candidates threshold name' score') : name = name' ∧ score = score' := by
  obtain ⟨hmem, rfl, hreach, hbest⟩ := h
  obtain ⟨hmem', rfl, hreach', hbest'⟩ := h'
  obtain ⟨hle', hleast⟩ := hbest name' hmem' hreach'
  obtain ⟨hle, hleast'⟩ := hbest' name hmem hreach
  have hname : name = name' := le_antisymm (hleast hle) (hleast' hle')
  exact ⟨hname, hname ▸ rfl⟩

section Characterised

variable (hthr : threshold.isNaN = false)
  (hnan : ∀ c ∈ candidates, (similarity needle c).isNaN = false)
include hthr hnan

theorem isBest_of_bestMatch (h : bestMatch needle candidates threshold = some (name, score)) :
    IsBest needle candidates threshold name score := by
  obtain ⟨⟨hmem, hscore, hkept⟩, hgreatest⟩ := bestMatch_greatest hthr hnan h
  have hreach : threshold ≤ score :=
    Confidence.le_of_not_lt hthr (hscore ▸ hnan name hmem) hkept
  exact ⟨hmem, hscore, hreach, fun c hc _ => hgreatest c hc⟩

theorem bestMatch_of_isBest (h : IsBest needle candidates threshold name score) :
    bestMatch needle candidates threshold = some (name, score) := by
  have hkept : ¬similarity needle name < threshold :=
    fun hlt => (not_le_iff_lt hthr (hnan name h.1)).mpr hlt (h.2.1 ▸ h.2.2.1)
  obtain ⟨name', score', hbest⟩ := bestMatch_eq_some_of_kept hthr hnan h.1 hkept
  obtain ⟨rfl, rfl⟩ := (isBest_of_bestMatch hthr hnan hbest).unique h
  exact hbest

theorem bestMatch_eq_none_iff :
    bestMatch needle candidates threshold = none ↔
      ∀ c ∈ candidates, ¬threshold ≤ similarity needle c := by
  constructor
  · intro hnone c hc hreach
    have hkept : ¬similarity needle c < threshold :=
      fun hlt => (not_le_iff_lt hthr (hnan c hc)).mpr hlt hreach
    obtain ⟨_, _, hsome⟩ := bestMatch_eq_some_of_kept hthr hnan hc hkept
    rw [hnone] at hsome
    cases hsome
  · intro hbelow
    cases hbest : bestMatch needle candidates threshold with
    | none => rfl
    | some best =>
      obtain ⟨hmem, hscore, hreach, -⟩ := isBest_of_bestMatch hthr hnan hbest
      exact absurd (hscore ▸ hreach) (hbelow best.1 hmem)

end Characterised

/-- **The best match is the greatest, whatever the order of the candidates.** For names shorter
than `2 ^ 63` characters and a threshold that is a number, the best match is nothing exactly when
no candidate reaches the threshold; otherwise it is a candidate with its own score, which scores
at least every candidate reaching the threshold and is the smallest name among those scoring as
much. So every reordering of the candidates, repeats included, has the same best match. -/
theorem bestMatch_greatest_least (needle : String) (candidates : List String) (threshold : Float)
    (hthr : threshold.isNaN = false) (hneedle : needle.length < 2 ^ 63)
    (hcandidates : ∀ c ∈ candidates, c.length < 2 ^ 63) :
    (bestMatch needle candidates threshold = none ↔
      ∀ c ∈ candidates, ¬threshold ≤ similarity needle c) ∧
    (∀ name score, bestMatch needle candidates threshold = some (name, score) ↔
      name ∈ candidates ∧ score = similarity needle name ∧ threshold ≤ score ∧
        ∀ c ∈ candidates, threshold ≤ similarity needle c →
          similarity needle c ≤ score ∧ (score ≤ similarity needle c → name ≤ c)) ∧
    ∀ others : List String, others.Perm candidates →
      bestMatch needle others threshold = bestMatch needle candidates threshold := by
  have hbound : ∀ c : String, c.length < 2 ^ 63 → c.length < 2 ^ 256 :=
    fun c hc => hc.trans (by norm_num)
  have hnan : ∀ c ∈ candidates, (similarity needle c).isNaN = false :=
    fun c hc => similarity_isNaN needle c (hbound _ hneedle) (hbound _ (hcandidates c hc))
  refine ⟨bestMatch_eq_none_iff hthr hnan, fun name score =>
    ⟨isBest_of_bestMatch hthr hnan, bestMatch_of_isBest hthr hnan⟩, fun others hperm => ?_⟩
  have hmem : ∀ c, c ∈ others ↔ c ∈ candidates := fun c => hperm.mem_iff
  have hnan' : ∀ c ∈ others, (similarity needle c).isNaN = false :=
    fun c hc => hnan c ((hmem c).mp hc)
  cases hbest : bestMatch needle candidates threshold with
  | none =>
    refine (bestMatch_eq_none_iff hthr hnan').mpr fun c hc => ?_
    exact (bestMatch_eq_none_iff hthr hnan).mp hbest c ((hmem c).mp hc)
  | some best =>
    exact bestMatch_of_isBest hthr hnan'
      ((isBest_congr hmem).mpr (isBest_of_bestMatch hthr hnan hbest))

/-- The needle `widget` among `widgets`, `widgetz` and `gadget` at threshold `0.7`: every order of
the three candidates gives the same best match. -/
theorem widget_bestMatch_any_order :
    (0.7 : Float).isNaN = false ∧ "widget".length < 2 ^ 63 ∧
      (∀ c ∈ ["widgets", "widgetz", "gadget"], c.length < 2 ^ 63) ∧
      ∀ others : List String, others.Perm ["widgets", "widgetz", "gadget"] →
        bestMatch "widget" others 0.7 = bestMatch "widget" ["widgets", "widgetz", "gadget"] 0.7 :=
  ⟨by decide, by decide, by decide,
    (bestMatch_greatest_least _ _ _ (by decide) (by decide) (by decide)).2.2⟩

end ProviderCoverage.Similarity

namespace ProviderCoverage

theorem Settings.half_le_effectiveFuzzyThreshold (s : Settings) :
    0.5 ≤ s.effectiveFuzzyThreshold := by
  unfold Settings.effectiveFuzzyThreshold
  split
  · assumption
  · decide

namespace Linker

variable {l : Linker} {name : String} {hint : Option EntityKind} {k : EntityKey}

theorem not_mem_keys_of_resolve_eq_none (h : l.resolve name hint = none) (kind : EntityKind) :
    ⟨kind, name⟩ ∉ l.keys := by
  have hmiss := List.find?_eq_none.mp h ⟨kind, name⟩ (by cases kind <;> simp [EntityKind.all])
  simpa using hmiss

theorem resolve_of_hint_missing (hmiss : ∀ kind, hint = some kind → ⟨kind, name⟩ ∉ l.keys) :
    l.resolve name hint = l.resolve name none := by
  cases hint with
  | none => rfl
  | some kind => simp [resolve, hmiss kind rfl]

theorem rank_le_of_resolve_none {kind : EntityKind} (h : l.resolve name none = some k)
    (hmem : ⟨kind, name⟩ ∈ l.keys) : k.kind.rank ≤ kind.rank := by
  simp only [resolve, Option.toList_none, List.nil_append, EntityKind.all, List.map_cons,
    List.map_nil, List.find?_cons, List.find?_nil] at h
  -- the search tries resource, then data source, then action
  split at h
  · cases h
    exact Nat.zero_le _
  · rename_i hres
    split at h
    · cases h
      cases kind with
      | resource => simp [hmem] at hres
      | dataSource | action => simp [EntityKind.rank]
    · rename_i hdata
      split at h
      · cases h
        cases kind with
        | resource => simp [hmem] at hres
        | dataSource => simp [hmem] at hdata
        | action => simp [EntityKind.rank]
      · cases h

/-- **What `resolve` answers**: a key of the linker with that name, of the hinted kind when that
kind has the name, else of the first kind that has it in the usual order. -/
theorem resolve_eq_some (h : l.resolve name hint = some k) :
    k.name = name ∧ k ∈ l.keys ∧
      (∀ kind, hint = some kind → ⟨kind, name⟩ ∈ l.keys → k.kind = kind) ∧
      ((∀ kind, hint = some kind → ⟨kind, name⟩ ∉ l.keys) →
        ∀ kind, ⟨kind, name⟩ ∈ l.keys → k.kind.rank ≤ kind.rank) := by
  refine ⟨?_, resolve_mem h, fun kind hkind hmem => ?_, fun hmiss kind hmem => ?_⟩
  · obtain ⟨kind, -, rfl⟩ := List.mem_map.mp (List.mem_of_find?_eq_some h)
    rfl
  · rw [hkind, resolve_hinted hmem] at h
    cases h
    rfl
  · rw [resolve_of_hint_missing hmiss] at h
    exact rank_le_of_resolve_none h hmem

theorem resolve_eq_some_of_mem {kind : EntityKind} (hmem : ⟨kind, name⟩ ∈ l.keys)
    (hint : Option EntityKind) : ∃ k, l.resolve name hint = some k := by
  cases hres : l.resolve name hint with
  | none => exact absurd hmem (not_mem_keys_of_resolve_eq_none hres kind)
  | some k => exact ⟨k, rfl⟩

theorem resolve_eq_none_of_matchCamelPart {part : String}
    (h : (l.matchCamelPart part hint).1 = none) :
    l.resolve (Naming.snakeCase part) hint = none := by
  cases hres : l.resolve (Naming.snakeCase part) hint with
  | none => rfl
  | some k => simp [matchCamelPart_of_resolve hres] at h

theorem matchCamelPart_raw_eq_none {function : String} {p : NamePortion}
    (h : (l.matchByFunctionName function).1 = none) (hp : l.namePortion function = some p) :
    (l.matchCamelPart p.raw p.hint).1 = none := by
  rw [matchByFunctionName_fst, hp, Option.bind_some, List.findSome?_eq_none_iff] at h
  apply h
  split
  · simp
  · rename_i hsame
    simp only [bne_iff_ne, ne_eq, Decidable.not_not] at hsame
    simp [hsame]

/-- A test is matched fuzzily only when the other three strategies miss, and then as similarity
matches its name. -/
theorem matchTest_eq_fuzzy {t : TestFunction} {m : Match} (h : (l.matchTest t).1 = some m)
    (hfuzzy : m.matchType = .fuzzy) :
    (l.matchByFunctionName t.name).1 = none ∧ l.matchByFileProximity t.location.file = none ∧
      l.matchByInferredConfig t = none ∧
      (l.matchBySimilarity t.name).1 = some (m.key, m.confidence) := by
  unfold matchTest at h
  dsimp only at h
  split at h
  · cases h
    cases hfuzzy
  · split at h
    · cases h
      cases hfuzzy
    · split at h
      · cases h
        cases hfuzzy
      · rename_i hname _ hfile _ hconfig
        simp only [Option.map_eq_some_iff] at h
        obtain ⟨⟨k, score⟩, hsim, rfl⟩ := h
        exact ⟨hname, hfile, hconfig, hsim⟩

theorem matchTest_of_matchBySimilarity {t : TestFunction} {score : Float}
    (hname : (l.matchByFunctionName t.name).1 = none)
    (hfile : l.matchByFileProximity t.location.file = none)
    (hconfig : l.matchByInferredConfig t = none)
    (hsim : (l.matchBySimilarity t.name).1 = some (k, score)) :
    (l.matchTest t).1 = some ⟨k, .fuzzy, score⟩ := by
  have hname' : l.matchByFunctionName t.name = (none, (l.matchByFunctionName t.name).2) :=
    Prod.ext hname rfl
  have hsim' : l.matchBySimilarity t.name = (some (k, score), (l.matchBySimilarity t.name).2) :=
    Prod.ext hsim rfl
  unfold matchTest
  rw [hname', hsim']
  simp [hfile, hconfig]

theorem matchBySimilarity_of_bestMatch {function name : String} {threshold score : Float}
    {p : NamePortion} (hthr : l.fuzzyThreshold = some threshold)
    (hp : l.namePortion function = some p)
    (hbest : Similarity.bestMatch (Naming.snakeCase p.raw) l.names threshold = some (name, score))
    (hres : l.resolve name p.hint = some k) :
    (l.matchBySimilarity function).1 = some (k, score) := by
  simp [matchBySimilarity, hthr, hp, hbest, hres]

end Linker

/-- **Fuzzy matches.** A test matched by similarity has a name portion whose needle, in snake
case, names no entity (matching by function name tried it over every kind); the matched name
scores highest against the needle among the registry's names, the smallest of those scoring as
much, at a score not below the effective threshold, itself at least one half; the key is the
entity of that name of the hinted kind when there is one, else of the first kind in the usual
order. Conversely, once the other strategies miss and a name reaches the threshold, the test is
matched fuzzily: the final lookup of the best name never fails. -/
theorem fuzzy_match_best_resolved {r : Registry} {s : Settings} {l : Linker}
    (hl : Linker.new r s = .ok l) (hnames : ∀ e ∈ r.entities, e.name.length < 2 ^ 63)
    (t : TestFunction) (ht : t.name.length < 2 ^ 63) :
    (∀ m, (l.matchTest t).1 = some m → m.matchType = .fuzzy →
      ∃ p, l.namePortion t.name = some p ∧
        (∀ e ∈ r.entities, e.name ≠ Naming.snakeCase p.raw) ∧
        m.key.name ∈ r.simpleNames ∧
        (∀ name ∈ r.simpleNames,
          Similarity.similarity (Naming.snakeCase p.raw) name ≤ m.confidence ∧
          (m.confidence ≤ Similarity.similarity (Naming.snakeCase p.raw) name →
            m.key.name ≤ name)) ∧
        m.confidence = Similarity.similarity (Naming.snakeCase p.raw) m.key.name ∧
        s.effectiveFuzzyThreshold ≤ m.confidence ∧ 0.5 ≤ s.effectiveFuzzyThreshold ∧
        m.key ∈ r.keys ∧
        (∀ kind, p.hint = some kind → ⟨kind, m.key.name⟩ ∈ r.keys → m.key.kind = kind) ∧
        ((∀ kind, p.hint = some kind → ⟨kind, m.key.name⟩ ∉ r.keys) →
          ∀ kind, ⟨kind, m.key.name⟩ ∈ r.keys → m.key.kind.rank ≤ kind.rank)) ∧
    ((l.matchByFunctionName t.name).1 = none → l.matchByFileProximity t.location.file = none →
      l.matchByInferredConfig t = none → s.enableFuzzyMatching = true →
      ∀ p, l.namePortion t.name = some p →
      (∃ name ∈ r.simpleNames,
        s.effectiveFuzzyThreshold ≤ Similarity.similarity (Naming.snakeCase p.raw) name) →
      ∃ m, (l.matchTest t).1 = some m ∧ m.matchType = .fuzzy) := by
  obtain ⟨hkeys, hnamesEq, -, -⟩ := Linker.new_eq_ok hl
  have hhalf := Settings.half_le_effectiveFuzzyThreshold s
  have heffNaN : s.effectiveFuzzyThreshold.isNaN = false := (Confidence.isNaN_eq_false_of_le hhalf).2
  refine ⟨fun m hm hfuzzy => ?_, fun hname hfile hconfig henable p hp hreach => ?_⟩
  · obtain ⟨hname, -, -, hsim⟩ := Linker.matchTest_eq_fuzzy hm hfuzzy
    obtain ⟨threshold, p, name, hthr, hp, hbest, hres⟩ := Linker.matchBySimilarity_eq_some hsim
    obtain ⟨-, rfl⟩ := Linker.fuzzyThreshold_of_new hl hthr
    have hnan := Linker.similarity_names_isNaN hl hnames ht hp
    obtain ⟨⟨hmem, hscore, hkept⟩, hgreatest⟩ := Similarity.bestMatch_greatest heffNaN hnan hbest
    have hconfNaN : m.confidence.isNaN = false := hscore ▸ hnan name hmem
    obtain ⟨rfl, hkey, hhinted, hfirst⟩ := Linker.resolve_eq_some hres
    have hunseen := Linker.not_mem_keys_of_resolve_eq_none
      (Linker.resolve_eq_none_of_matchCamelPart (Linker.matchCamelPart_raw_eq_none hname hp))
    rw [hkeys] at hunseen hkey hhinted hfirst
    rw [hnamesEq] at hmem hgreatest
    refine ⟨p, hp, fun e he hsame => hunseen e.kind ?_, hmem, hgreatest, hscore,
      Confidence.le_of_not_lt heffNaN hconfNaN hkept, hhalf, hkey, hhinted, hfirst⟩
    rw [← hsame]
    exact List.mem_map_of_mem he
  · obtain ⟨name, hmem, hname_reach⟩ := hreach
    have hthr : l.fuzzyThreshold = some s.effectiveFuzzyThreshold := by
      rw [(Linker.new_eq_ok hl).2.2.2, if_pos henable]
    have hnan := Linker.similarity_names_isNaN hl hnames ht hp
    have hkept : ¬Similarity.similarity (Naming.snakeCase p.raw) name < s.effectiveFuzzyThreshold :=
      fun hlt => (FloatOrder.not_le_iff_lt heffNaN (hnan name (hnamesEq ▸ hmem))).mpr hlt hname_reach
    obtain ⟨best, score, hbest⟩ :=
      Similarity.bestMatch_eq_some_of_kept heffNaN hnan (hnamesEq ▸ hmem) hkept
    obtain ⟨e, he, hename⟩ :=
      Registry.mem_simpleNames (hnamesEq ▸ (Similarity.bestMatch_admitted hbest).1)
    have hkey : (⟨e.kind, best⟩ : EntityKey) ∈ l.keys := hkeys ▸ hename ▸ List.mem_map_of_mem he
    obtain ⟨k, hres⟩ := Linker.resolve_eq_some_of_mem hkey p.hint
    exact ⟨_, Linker.matchTest_of_matchBySimilarity hname hfile hconfig
      (Linker.matchBySimilarity_of_bestMatch hthr hp hbest hres), rfl⟩

/-- One resource, and a test named for it in the plural. -/
def computeInstanceRegistry : Registry where
  entities := [{ kind := .resource, name := "compute_instance", location := default }]

def computeInstancesTest : TestFunction where
  name := "TestAccComputeInstances_basic"
  location := default

theorem computeInstances_matched_fuzzily :
    ∃ l, Linker.new computeInstanceRegistry { cacheTtl := "", enableFuzzyMatching := true } =
        .ok l ∧
      ∃ m, (l.matchTest computeInstancesTest).1 = some m ∧ m.matchType = .fuzzy ∧
        m.key ∈ computeInstanceRegistry.keys := by
  obtain ⟨l, hl⟩ : ∃ l, Linker.new computeInstanceRegistry
      { cacheTtl := "", enableFuzzyMatching := true } = .ok l := ⟨_, rfl⟩
  have hrun : ((Linker.new computeInstanceRegistry
      { cacheTtl := "", enableFuzzyMatching := true }).toOption.map fun l =>
        (l.matchByFunctionName computeInstancesTest.name).1.isNone &&
        (l.matchByFileProximity computeInstancesTest.location.file).isNone &&
        (l.matchByInferredConfig computeInstancesTest).isNone &&
        l.namePortion computeInstancesTest.name == some ⟨"ComputeInstances", "ComputeInstances", none⟩)
      = some true := by
    decide +kernel
  simp only [hl, Except.toOption, Option.map_some, Option.some.injEq, Bool.and_eq_true,
    Option.isNone_iff_eq_none, beq_iff_eq] at hrun
  obtain ⟨⟨⟨hname, hfile⟩, hconfig⟩, hp⟩ := hrun
  have hreach : Settings.effectiveFuzzyThreshold { cacheTtl := "", enableFuzzyMatching := true } ≤
      Similarity.similarity (Naming.snakeCase "ComputeInstances") "compute_instance" := by
    decide +kernel
  obtain ⟨hfwd, hconv⟩ := fuzzy_match_best_resolved hl (by decide) computeInstancesTest (by decide)
  obtain ⟨m, hm, hfuzzy⟩ := hconv hname hfile hconfig rfl _ hp
    ⟨"compute_instance", by decide, hreach⟩
  obtain ⟨-, -, -, -, -, -, -, -, hkey, -⟩ := hfwd m hm hfuzzy
  exact ⟨l, hl, m, hm, hfuzzy, hkey⟩

end ProviderCoverage
