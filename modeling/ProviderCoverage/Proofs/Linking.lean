import ProviderCoverage.Linker
import ProviderCoverage.Proofs.RegistryInvariant

/-!
# Linking every test

Every strategy of a linker ends in `Linker.resolve`, which only answers keys of the linker's
snapshot (`matchTest_key_mem`). So when the snapshot's keys are registered, `linkAll` never
meets an unknown entity, an unknown test or a test linked twice, and it computes exactly one
thing: each test that was unlinked and that a strategy matches is linked to its match, every
other test is left as it was (`linkAll_eq_ok`), and the count is the number of tests so linked.
-/

namespace ProviderCoverage.Linker

variable {l : Linker} {hint : Option EntityKind} {k : EntityKey}

theorem resolve_mem {name : String} (h : l.resolve name hint = some k) : k ∈ l.keys := by
  simpa using List.find?_some h

theorem resolveOrUnprefixed_mem {name : String} (h : l.resolveOrUnprefixed name hint = some k) :
    k ∈ l.keys := by
  unfold resolveOrUnprefixed at h
  cases hr : l.resolve name hint with
  | some k' =>
    rw [hr, Option.orElse_some] at h
    exact resolve_mem (hr.trans h)
  | none =>
    rw [hr, Option.orElse_none, Option.bind_eq_some_iff] at h
    obtain ⟨_, -, h⟩ := h
    exact resolve_mem h

theorem matchSegments_mem {snake : String} (h : l.matchSegments snake hint = some k) :
    k ∈ l.keys := by
  unfold matchSegments at h
  dsimp only at h
  split at h
  · cases h
  · obtain ⟨_, -, h⟩ := List.exists_of_findSome?_eq_some h
    exact resolve_mem h

theorem matchCamelPart_mem {part : String} (h : (l.matchCamelPart part hint).1 = some k) :
    k ∈ l.keys := by
  unfold matchCamelPart at h
  dsimp only at h
  split at h
  · rename_i k' hk'
    cases h
    exact resolveOrUnprefixed_mem hk'
  · split at h
    · rename_i k' hk'
      cases h
      split at hk'
      · exact resolveOrUnprefixed_mem hk'
      · cases hk'
    · cases hs : l.matchSegments (Naming.snakeCase part) hint with
      | some k' =>
        simp only [hs, Option.orElse_some, Option.some.injEq] at h
        exact h ▸ matchSegments_mem hs
      | none =>
        simp only [hs, Option.orElse_none, Option.bind_eq_some_iff] at h
        obtain ⟨_, -, h⟩ := h
        exact matchSegments_mem h

/-- A fold whose step answers as before once there is an answer, and otherwise with the
camel-case match of the part, answers with the first part that matches. -/
theorem foldl_firstMatch {hint : Option EntityKind}
    {f : Option EntityKey × List Event → String → Option EntityKey × List Event}
    (hf : ∀ acc part, (f acc part).1 = acc.1.orElse fun _ => (l.matchCamelPart part hint).1) :
    ∀ (parts : List String) (acc : Option EntityKey × List Event),
      (parts.foldl f acc).1 =
        acc.1.orElse fun _ => parts.findSome? fun part => (l.matchCamelPart part hint).1 := by
  intro parts
  induction parts with
  | nil => intro acc; rcases acc with ⟨_ | k, events⟩ <;> rfl
  | cons part parts ih =>
    intro acc
    rw [List.foldl_cons, ih, hf, List.findSome?_cons]
    cases acc.1 <;> cases (l.matchCamelPart part hint).1 <;> rfl

/-- Matching by function name answers with the first name part, trimmed then raw, that a
camel-case match finds. -/
theorem matchByFunctionName_fst (function : String) :
    (l.matchByFunctionName function).1 = (l.namePortion function).bind fun p =>
      (if p.raw != p.trimmed then [p.trimmed, p.raw] else [p.trimmed]).findSome? fun part =>
        (l.matchCamelPart part p.hint).1 := by
  unfold matchByFunctionName
  cases l.namePortion function with
  | none => rfl
  | some p =>
    exact foldl_firstMatch (fun acc part => by rcases acc with ⟨_ | k, events⟩ <;> rfl) _ _

theorem matchByFunctionName_mem {function : String}
    (h : (l.matchByFunctionName function).1 = some k) : k ∈ l.keys := by
  rw [matchByFunctionName_fst] at h
  obtain ⟨p, -, h⟩ := Option.bind_eq_some_iff.mp h
  obtain ⟨part, -, h⟩ := List.exists_of_findSome?_eq_some h
  exact matchCamelPart_mem h

theorem matchByFileProximity_mem {path : String} (h : l.matchByFileProximity path = some k) :
    k ∈ l.keys := by
  simp only [matchByFileProximity, Option.bind_eq_bind, Option.bind_eq_some_iff] at h
  obtain ⟨_, -, h⟩ := h
  obtain ⟨_, -, h⟩ := List.exists_of_findSome?_eq_some h
  exact resolve_mem h

theorem matchByInferredConfig_mem {t : TestFunction} (h : l.matchByInferredConfig t = some k) :
    k ∈ l.keys := by
  obtain ⟨_, -, h⟩ := List.exists_of_findSome?_eq_some h
  obtain ⟨_, -, h⟩ := List.exists_of_findSome?_eq_some h
  exact resolve_mem h

theorem matchBySimilarity_mem {function : String} {score : Float}
    (h : (l.matchBySimilarity function).1 = some (k, score)) : k ∈ l.keys := by
  unfold matchBySimilarity at h
  split at h
  · split at h
    · simp only [Option.map_eq_some_iff, Prod.mk.injEq] at h
      obtain ⟨_, hk, rfl, -⟩ := h
      exact resolve_mem hk
    · cases h
  · cases h

theorem matchTest_key_mem {t : TestFunction} {m : Match} (h : (l.matchTest t).1 = some m) :
    m.key ∈ l.keys := by
  unfold matchTest at h
  dsimp only at h
  split at h
  · cases h
    exact matchByFunctionName_mem ‹_›
  · split at h
    · cases h
      exact matchByFileProximity_mem ‹_›
    · split at h
      · cases h
        exact matchByInferredConfig_mem ‹_›
      · simp only [Option.map_eq_some_iff] at h
        obtain ⟨⟨k, score⟩, hk, rfl⟩ := h
        exact matchBySimilarity_mem hk

/-- Whether linking links the test: it is unlinked and some strategy matches it. -/
def linksTest (l : Linker) (t : TestFunction) : Bool :=
  t.linked.isNone && (l.matchTest t).1.isSome

/-- The test as linking leaves it: linked to its match if it was unlinked and matched. -/
def linkedForm (l : Linker) (t : TestFunction) : TestFunction :=
  match t.linked, (l.matchTest t).1 with
  | none, some m => Registry.linkedTest t m.key m.matchType m.confidence
  | _, _ => t

/-- One step of `linkAll`: the test at `id` of the registry so far. -/
def linkStep (l : Linker) (acc : Except RegistryError (Registry × Nat) × List Event) (id : Nat) :
    Except RegistryError (Registry × Nat) × List Event :=
  match acc.1 with
  | .error _ => acc
  | .ok (r, n) =>
    match r.testFunction? id with
    | none => acc
    | some t =>
      if t.linked.isSome then acc
      else
        let (m, events) := l.matchTest t
        match m with
        | some m =>
          let (res, linkEvents) := r.linkTest id m.key m.matchType m.confidence
          (res.map (·, n + 1), acc.2 ++ events ++ linkEvents)
        | none =>
          (.ok (r, n), acc.2 ++ events ++
            [Event.debug .linker ("no entity found for " ++ t.name ++ " (" ++ t.category.name ++ ")")])

theorem linkAll_eq_foldl (r : Registry) :
    l.linkAll r = (List.range r.tests.size).foldl l.linkStep (.ok (r, 0), []) := rfl

theorem linkedForm_eq_self {t : TestFunction} (h : l.linksTest t = false) : l.linkedForm t = t := by
  unfold linkedForm
  split
  · rename_i hfree hm
    simp [linksTest, hfree, hm] at h
  · rfl

variable {r : Registry}

/-- Every way one linking step can go from a registry and a count: it keeps both (there is no
test at `id`, or linking does not link it), or it links the unlinked test at `id` to its match
and counts one more. -/
theorem linkStep_cases {acc : Except RegistryError (Registry × Nat) × List Event} {n : Nat}
    (hacc : acc.1 = .ok (r, n)) (id : Nat) :
    ((l.linkStep acc id).1 = .ok (r, n) ∧ ∀ t, r.tests[id]? = some t → l.linksTest t = false) ∨
    ∃ t m, r.tests[id]? = some t ∧ t.linked = none ∧ (l.matchTest t).1 = some m ∧
      (l.linkStep acc id).1 = (r.linkTest id m.key m.matchType m.confidence).1.map (·, n + 1) := by
  unfold linkStep
  simp only [hacc, Registry.testFunction?]
  cases ht : r.tests[id]? with
  | none => exact .inl ⟨hacc, by simp⟩
  | some t =>
    dsimp only
    split
    · rename_i hlinked
      obtain ⟨k, hk⟩ := Option.isSome_iff_exists.mp hlinked
      refine .inl ⟨hacc, fun _ ht' => ?_⟩
      obtain rfl := Option.some.inj ht'
      simp [linksTest, hk]
    · rename_i hfree
      have hfree : t.linked = none := by simpa using hfree
      rcases hmt : l.matchTest t with ⟨_ | m, events⟩
      · refine .inl ⟨rfl, fun _ ht' => ?_⟩
        obtain rfl := Option.some.inj ht'
        simp [linksTest, hmt]
      · exact .inr ⟨t, m, rfl, hfree, by simp [hmt], rfl⟩

/-- What `linkAll` has done after the tests before `j`: those are in their linked form, the
later ones untouched, the entities and sweeper files kept, and the count is the number of
tests before `j` that it linked. -/
def LinkedUpTo (l : Linker) (r : Registry) (j : Nat)
    (acc : Except RegistryError (Registry × Nat) × List Event) : Prop :=
  ∃ r', acc.1 = .ok (r', ((r.tests.toList.take j).filter l.linksTest).length) ∧
    r'.entities = r.entities ∧ r'.sweeperFiles = r.sweeperFiles ∧
    ∀ i, r'.tests[i]? = r.tests[i]?.map fun t => if i < j then l.linkedForm t else t

/-- The step lemma: the test at `j` goes into its linked form, and the count grows exactly when
it is linked. -/
theorem LinkedUpTo.step (hkeys : ∀ k ∈ l.keys, r.contains k) {j : Nat} (hj : j < r.tests.size)
    {acc : Except RegistryError (Registry × Nat) × List Event} (h : LinkedUpTo l r j acc) :
    LinkedUpTo l r (j + 1) (l.linkStep acc j) := by
  obtain ⟨r', hacc, hent, hsweep, htests⟩ := h
  have hj' : r'.tests[j]? = some r.tests[j] := by simp [htests, hj]
  have hj'' : j < r'.tests.size := (Array.getElem?_eq_some_iff.mp hj').1
  have hget : r'.tests[j] = r.tests[j] := by simp [Array.getElem_eq_iff, hj']
  have htake : (r.tests.toList.take (j + 1)).filter l.linksTest =
      (r.tests.toList.take j).filter l.linksTest ++ [r.tests[j]].filter l.linksTest := by
    rw [List.take_add_one, List.filter_append]
    simp [hj]
  have hrest : ∀ (tests : Array TestFunction), tests[j]? = some (l.linkedForm r.tests[j]) →
      (∀ i, i ≠ j → tests[i]? = r'.tests[i]?) →
      ∀ i, tests[i]? = r.tests[i]?.map fun t => if i < j + 1 then l.linkedForm t else t := by
    intro tests hjt hother i
    by_cases hij : i = j
    · subst hij
      simp [hjt, hj]
    · rw [hother i hij, htests]
      congr 1
      funext t
      have : (i < j) = (i < j + 1) := by simp only [eq_iff_iff]; omega
      simp [this]
  rcases linkStep_cases (l := l) hacc j with ⟨hstep, hnot⟩ | ⟨t, m, ht, hfree, hm, hstep⟩
  · have hnot := hnot _ hj'
    exact ⟨r', by simp [hstep, htake, hnot], hent, hsweep,
      hrest _ (by simp [linkedForm_eq_self hnot, hj']) fun _ _ => rfl⟩
  · obtain rfl : t = r.tests[j] := Option.some.inj (ht.symm.trans hj')
    have hk : r'.contains m.key := by
      simpa [Registry.contains, hent] using hkeys _ (matchTest_key_mem hm)
    have hlink := @Registry.linkTest_of_unlinked r' j m.key m.matchType m.confidence hj'' hk
      (by rw [hget]; exact hfree)
    have hyes : l.linksTest r.tests[j] = true := by simp [linksTest, hfree, hm]
    refine ⟨{ r' with
        tests := r'.tests.set j (Registry.linkedTest r'.tests[j] m.key m.matchType m.confidence) hj''
        links := Registry.addLink r'.links m.key j },
      by simp [hstep, hlink, htake, hyes, Except.map], hent, hsweep, ?_⟩
    apply hrest
    · simp [hget, linkedForm, hfree, hm]
    · intro i hij
      simp [Ne.symm hij]

theorem linkedUpTo_foldl (hkeys : ∀ k ∈ l.keys, r.contains k) {j : Nat} (hj : j ≤ r.tests.size) :
    LinkedUpTo l r j ((List.range j).foldl l.linkStep (.ok (r, 0), [])) := by
  induction j with
  | zero => exact ⟨r, by simp, rfl, rfl, fun i => by simp⟩
  | succ j ih =>
    rw [List.range_succ, List.foldl_append, List.foldl_cons, List.foldl_nil]
    exact (ih (by omega)).step hkeys (by omega)

/-- **What linking does.** When the linker's keys are registered, `linkAll` succeeds: it puts
every test into its linked form, keeps the entities and sweeper files, and answers the number of
tests it linked. -/
theorem linkAll_eq_ok (hkeys : ∀ k ∈ l.keys, r.contains k) :
    ∃ r', (l.linkAll r).1 = .ok (r', (r.tests.toList.filter l.linksTest).length) ∧
      r'.entities = r.entities ∧ r'.sweeperFiles = r.sweeperFiles ∧
      r'.tests = r.tests.map l.linkedForm := by
  obtain ⟨r', hacc, hent, hsweep, htests⟩ := linkedUpTo_foldl hkeys (Nat.le_refl r.tests.size)
  refine ⟨r', ?_, hent, hsweep, ?_⟩
  · rw [linkAll_eq_foldl, hacc, List.take_of_length_le (by simp)]
  · apply Array.ext_getElem?
    intro i
    rw [htests, Array.getElem?_map]
    by_cases hi : i < r.tests.size <;> simp [hi]

/-- Linking leaves a registry as it is when each of its tests is linked already or matched by no
strategy: no step calls `linkTest`. -/
theorem linkAll_settled (hsettled : ∀ t ∈ r.tests, t.linked.isSome ∨ (l.matchTest t).1 = none) :
    (l.linkAll r).1 = .ok (r, 0) := by
  have hstep : ∀ (acc : Except RegistryError (Registry × Nat) × List Event) (id : Nat),
      acc.1 = .ok (r, 0) → (l.linkStep acc id).1 = .ok (r, 0) := by
    intro acc id hacc
    rcases linkStep_cases (l := l) hacc id with ⟨hkeep, -⟩ | ⟨t, m, ht, hfree, hm, -⟩
    · exact hkeep
    · have hnone := (hsettled t (Array.mem_of_getElem? ht)).resolve_left (by simp [hfree])
      simp [hm] at hnone
  have hfold : ∀ (ids : List Nat) (acc : Except RegistryError (Registry × Nat) × List Event),
      acc.1 = .ok (r, 0) → (ids.foldl l.linkStep acc).1 = .ok (r, 0) := by
    intro ids
    induction ids with
    | nil => exact fun _ h => h
    | cons id ids ih => exact fun acc h => ih _ (hstep acc id h)
  exact hfold _ _ rfl

end ProviderCoverage.Linker
