import ProviderCoverage.Proofs.Coverage
import ProviderCoverage.Proofs.Confidence

/-!
# The registry invariant

`Registry.Consistent` ties the entities, the tests and the links of a registry together: keys
are distinct, every linked id is the position of a test and stands once among the links, and a
test records a link to exactly the key whose links hold it. The empty registry has it and every
write path keeps it, a failing call included (`Consistent.apply`), so it holds after any run of
admissible calls (`run_registry_consistent`).
-/

namespace ProviderCoverage

theorem insertByKey_perm (e : Entity) (l : List Entity) : (insertByKey e l).Perm (e :: l) := by
  induction l with
  | nil => simp [insertByKey]
  | cons x xs ih =>
    unfold insertByKey
    split
    · exact .refl _
    · exact (ih.cons x).trans (.swap e x xs)

namespace Registry

variable {r r' : Registry}

def linkedTest (t : TestFunction) (k : EntityKey) (mt : MatchType) (c : Float) : TestFunction :=
  { t with matchType := mt, matchConfidence := clampConfidence c, linked := some k }

@[simp] theorem contains_iff (r : Registry) (k : EntityKey) : r.contains k = true ↔ k ∈ r.keys := by
  simp [contains, keys]

theorem linkedIds_eq (r : Registry) (k : EntityKey) :
    r.linkedIds k = ((r.links.find? (·.1 == k)).map (·.2)).getD [] := rfl

theorem find_addLink (links : List (EntityKey × List Nat)) (k k' : EntityKey) (id : Nat) :
    (((addLink links k id).find? (·.1 == k')).map (·.2)).getD [] =
      if k' = k then (((links.find? (·.1 == k')).map (·.2)).getD []) ++ [id]
      else ((links.find? (·.1 == k')).map (·.2)).getD [] := by
  unfold addLink
  split
  · rename_i hany
    rw [List.find?_map]
    have hkey : ((fun p : EntityKey × List Nat => p.1 == k') ∘
        fun (p : EntityKey × List Nat) => if p.1 == k then (p.1, p.2 ++ [id]) else (p.1, p.2)) =
        fun p => p.1 == k' := by
      funext p
      simp only [Function.comp]
      split <;> rfl
    rw [hkey]
    cases hfind : links.find? (·.1 == k') with
    | none =>
      split
      · rename_i h
        simp only [List.any_eq_true] at hany
        obtain ⟨x, hx, hxk⟩ := hany
        have : (links.find? (·.1 == k')).isSome := List.find?_isSome.mpr ⟨x, hx, by simpa [h] using hxk⟩
        simp [hfind] at this
      · rfl
    | some x =>
      have hx : x.1 = k' := by simpa using List.find?_some hfind
      by_cases h : k' = k
      · simp [hx, h]
      · simp [hx, h]
  · rename_i hany
    simp only [Bool.not_eq_true, List.any_eq_false, beq_iff_eq] at hany
    rw [List.find?_append]
    by_cases h : k' = k
    · have hnone : links.find? (·.1 == k) = none := by
        rw [List.find?_eq_none]
        intro p hp
        simpa using hany p hp
      simp [h, hnone]
    · cases hfind : links.find? (·.1 == k') with
      | none =>
        have : (k == k') = false := by simpa using Ne.symm h
        simp [h, this]
      | some x => simp [h]

theorem entity?_key {k : EntityKey} {e : Entity} (h : r.entity? k = some e) : e.key = k := by
  simpa using List.find?_some h

@[simp] theorem registerTest_fst (t : TestFunction) :
    (r.registerTest t).1 = { r with tests := r.tests.push t } := rfl

theorem registerEntity_fst (e : Entity) :
    (r.registerEntity e).1.1 =
      if r.contains e.key then r else { r with entities := insertByKey e r.entities } := by
  unfold registerEntity
  split <;> rfl

theorem keys_insertByKey (e : Entity) :
    ({ r with entities := insertByKey e r.entities } : Registry).keys.Perm (e.key :: r.keys) :=
  (insertByKey_perm e r.entities).map _

/-- A successful link found the entity, then an unlinked test, and changed only that test and
the links of the key. -/
theorem linkTest_eq_ok {id : Nat} {k : EntityKey} {mt : MatchType} {c : Float}
    (h : (r.linkTest id k mt c).1 = .ok r') :
    ∃ (hid : id < r.tests.size), r.contains k ∧ r.tests[id].linked = none ∧
      r' = { r with
        tests := r.tests.set id (linkedTest r.tests[id] k mt c) hid
        links := addLink r.links k id } := by
  unfold linkTest at h
  split at h
  · cases h
  · rename_i hk
    split at h
    · cases h
    · rename_i t ht
      split at h
      · cases h
      · rename_i hlinked
        obtain ⟨hid, rfl⟩ := Array.getElem?_eq_some_iff.mp ht
        refine ⟨hid, by simpa using hk, hlinked, ?_⟩
        cases h
        simp [Array.setIfInBounds, hid, linkedTest]

theorem linkTest_of_unlinked {id : Nat} {k : EntityKey} {mt : MatchType} {c : Float}
    (hid : id < r.tests.size) (hk : r.contains k) (hfree : r.tests[id].linked = none) :
    (r.linkTest id k mt c).1 = .ok { r with
      tests := r.tests.set id (linkedTest r.tests[id] k mt c) hid
      links := addLink r.links k id } := by
  simp [linkTest, hk, hid, hfree, Array.setIfInBounds, linkedTest]

theorem linkTestToResource_eq_ok {id : Nat} {name : String} {mt : MatchType} {c : Float}
    {k : EntityKey} (h : (r.linkTestToResource id name mt c).1 = .ok (r', k)) :
    r.contains k ∧ (r.linkTest id k mt c).1 = .ok r' := by
  unfold linkTestToResource at h
  split at h
  · cases h
  · rename_i k' hk'
    have hres := List.find?_some hk'
    cases hlink : (r.linkTest id k' mt c).1 with
    | error e => simp [hlink, Except.map] at h
    | ok r'' =>
      simp only [hlink, Except.map] at h
      cases h
      exact ⟨hres, hlink⟩

theorem linkedIds_addLink (tests : Array TestFunction) (k k' : EntityKey) (id : Nat) :
    ({ r with tests := tests, links := addLink r.links k id } : Registry).linkedIds k' =
      if k' = k then r.linkedIds k ++ [id] else r.linkedIds k' := by
  simp only [linkedIds_eq, find_addLink]
  split <;> simp_all

/-- **The registry invariant.** No two entities share a key; every id linked to a key is the
position of a test and stands once in the key's links; a test records a link to exactly the
key whose links hold it, and that key is registered; a linked test's confidence lies in
`[0, 1]`. -/
structure Consistent (r : Registry) : Prop where
  keysNodup : r.keys.Nodup
  idsLt : ∀ k, ∀ i ∈ r.linkedIds k, i < r.tests.size
  idsNodup : ∀ k, (r.linkedIds k).Nodup
  linkedIff : ∀ i (h : i < r.tests.size) k, r.tests[i].linked = some k ↔ i ∈ r.linkedIds k
  linksRegistered : ∀ k, r.linkedIds k ≠ [] → r.contains k
  confidenceMem : ∀ t ∈ r.tests, t.linked.isSome → 0.0 ≤ t.matchConfidence ∧ t.matchConfidence ≤ 1.0

theorem consistent_empty : ({} : Registry).Consistent where
  keysNodup := List.nodup_nil
  idsLt _ _ h := by simp [linkedIds_eq] at h
  idsNodup _ := by simp [linkedIds_eq]
  linkedIff _ h := by simp at h
  linksRegistered _ h := by simp [linkedIds_eq] at h
  confidenceMem _ h := by simp at h

namespace Consistent

theorem registerEntity (h : r.Consistent) (e : Entity) : (r.registerEntity e).1.1.Consistent := by
  rw [registerEntity_fst]
  split
  · exact h
  · rename_i hnew
    have hperm := keys_insertByKey (r := r) e
    refine ⟨hperm.nodup_iff.mpr (List.nodup_cons.mpr ⟨by simpa using hnew, h.keysNodup⟩),
      h.idsLt, h.idsNodup, h.linkedIff, fun k hk => ?_, h.confidenceMem⟩
    have hmem := (contains_iff r k).mp (h.linksRegistered k hk)
    simpa using hperm.mem_iff.mpr (List.mem_cons_of_mem _ hmem)

theorem registerTest (h : r.Consistent) {t : TestFunction} (ht : t.linked = none) :
    (r.registerTest t).1.Consistent := by
  refine ⟨h.keysNodup, fun k i hi => ?_, h.idsNodup, fun i hi k => ?_, h.linksRegistered,
    fun u hu hlinked => ?_⟩
  · simpa using Nat.lt_succ_of_lt (h.idsLt k i hi)
  · simp only [registerTest_fst, Array.size_push] at hi ⊢
    rw [Array.getElem_push]
    split
    · exact h.linkedIff i ‹_› k
    · have hi' : i = r.tests.size := by omega
      subst hi'
      simp only [ht, reduceCtorEq, false_iff]
      exact fun hmem => Nat.lt_irrefl _ (h.idsLt k _ hmem)
  · simp only [registerTest_fst, Array.mem_push] at hu
    rcases hu with hu | rfl
    · exact h.confidenceMem u hu hlinked
    · simp [ht] at hlinked

theorem registerSweeperFile (h : r.Consistent) (file : String) :
    (r.registerSweeperFile file).Consistent :=
  ⟨h.keysNodup, h.idsLt, h.idsNodup, h.linkedIff, h.linksRegistered, h.confidenceMem⟩

theorem not_mem_linkedIds (h : r.Consistent) {id : Nat} (hid : id < r.tests.size)
    (hnone : r.tests[id].linked = none) (k : EntityKey) : id ∉ r.linkedIds k := by
  rw [← h.linkedIff id hid k, hnone]
  exact (Option.some_ne_none k).symm

theorem linkTest (h : r.Consistent) {id : Nat} {k : EntityKey} {mt : MatchType} {c : Float}
    (hc : c.isNaN = false) (hok : (r.linkTest id k mt c).1 = .ok r') : r'.Consistent := by
  obtain ⟨hid, hk, hnone, rfl⟩ := linkTest_eq_ok hok
  have hfresh := h.not_mem_linkedIds hid hnone
  refine ⟨h.keysNodup, fun k' i hi => ?_, fun k' => ?_, fun i hi k' => ?_, fun k' hk' => ?_,
    fun u hu hlinked => ?_⟩
  · rw [linkedIds_addLink] at hi
    rw [Array.size_set]
    split at hi
    · rcases List.mem_append.mp hi with hi | hi
      · exact h.idsLt k i hi
      · simp only [List.mem_singleton] at hi
        exact hi ▸ hid
    · exact h.idsLt k' i hi
  · rw [linkedIds_addLink]
    split
    · exact List.nodup_append.mpr ⟨h.idsNodup k, List.nodup_cons.mpr ⟨List.not_mem_nil, .nil⟩,
        fun a ha b hb => by simp only [List.mem_singleton] at hb; subst hb; exact fun e => hfresh k (e ▸ ha)⟩
    · exact h.idsNodup k'
  · rw [Array.size_set] at hi
    rw [Array.getElem_set, linkedIds_addLink]
    by_cases hi' : id = i
    · subst hi'
      simp only [if_true, linkedTest, Option.some.injEq]
      by_cases hk' : k' = k
      · simp [hk']
      · simp only [hk', if_false, eq_comm (a := k), false_iff]
        exact hfresh k'
    · simp only [hi', if_false]
      rw [h.linkedIff i hi k']
      split
      · rename_i hkk
        subst hkk
        simp [Ne.symm hi']
      · rfl
  · rw [linkedIds_addLink] at hk'
    split at hk'
    · subst k'
      exact hk
    · exact h.linksRegistered k' hk'
  · rcases @Array.mem_or_eq_of_mem_set _ _ _ _ _ hid hu with hu | rfl
    · exact h.confidenceMem u hu hlinked
    · exact clampConfidence_mem hc

theorem linkTestToResource (h : r.Consistent) {id : Nat} {name : String} {mt : MatchType}
    {c : Float} {k : EntityKey} (hc : c.isNaN = false)
    (hok : (r.linkTestToResource id name mt c).1 = .ok (r', k)) : r'.Consistent :=
  h.linkTest hc (linkTestToResource_eq_ok hok).2

end Consistent

end Registry

/-- One call of the registry's write path, with its arguments. -/
inductive RegistryCall where
  | registerEntity (e : Entity)
  | registerTest (t : TestFunction)
  | registerSweeperFile (file : String)
  | linkTest (id : Nat) (key : EntityKey) (mt : MatchType) (confidence : Float)
  | linkTestToResource (id : Nat) (name : String) (mt : MatchType) (confidence : Float)

namespace RegistryCall

/-- The registry after the call; a call that fails leaves it as it was. -/
def apply (r : Registry) : RegistryCall → Registry
  | registerEntity e => (r.registerEntity e).1.1
  | registerTest t => (r.registerTest t).1
  | registerSweeperFile file => r.registerSweeperFile file
  | linkTest id k mt c =>
    match (r.linkTest id k mt c).1 with
    | .ok r' => r'
    | .error _ => r
  | linkTestToResource id name mt c =>
    match (r.linkTestToResource id name mt c).1 with
    | .ok (r', _) => r'
    | .error _ => r

/-- What callers promise of a call: a test is registered unlinked, as the test parser makes it,
and a confidence is a number. -/
def admissible : RegistryCall → Bool
  | registerTest t => t.linked.isNone
  | linkTest _ _ _ c | linkTestToResource _ _ _ c => !c.isNaN
  | registerEntity _ | registerSweeperFile _ => true

end RegistryCall

namespace Registry

/-- The registry after a sequence of calls, in order. -/
def run (r : Registry) (calls : List RegistryCall) : Registry :=
  calls.foldl RegistryCall.apply r

variable {r : Registry}

theorem Consistent.apply (h : r.Consistent) {call : RegistryCall} (hcall : call.admissible) :
    (call.apply r).Consistent := by
  cases call with
  | registerEntity e => exact h.registerEntity e
  | registerTest t => exact h.registerTest (by simpa [RegistryCall.admissible] using hcall)
  | registerSweeperFile file => exact h.registerSweeperFile file
  | linkTest id k mt c =>
    simp only [RegistryCall.apply]
    split
    · exact h.linkTest (by simpa [RegistryCall.admissible] using hcall) ‹_›
    · exact h
  | linkTestToResource id name mt c =>
    simp only [RegistryCall.apply]
    split
    · exact h.linkTestToResource (by simpa [RegistryCall.admissible] using hcall) ‹_›
    · exact h

theorem Consistent.run (h : r.Consistent) {calls : List RegistryCall}
    (hcalls : ∀ call ∈ calls, call.admissible) : (r.run calls).Consistent := by
  induction calls generalizing r with
  | nil => exact h
  | cons call calls ih =>
    exact ih (h.apply (hcalls call (List.mem_cons_self ..)))
      fun c hc => hcalls c (List.mem_cons_of_mem _ hc)

theorem entities_subset_apply (call : RegistryCall) {e : Entity} (he : e ∈ r.entities) :
    e ∈ (call.apply r).entities := by
  cases call with
  | registerEntity e' =>
    simp only [RegistryCall.apply, registerEntity_fst]
    split
    · exact he
    · exact (insertByKey_perm e' r.entities).mem_iff.mpr (List.mem_cons_of_mem _ he)
  | registerTest t => exact he
  | registerSweeperFile file => exact he
  | linkTest id k mt c =>
    simp only [RegistryCall.apply]
    split
    · rename_i r' hok
      obtain ⟨_, _, _, rfl⟩ := linkTest_eq_ok hok
      exact he
    · exact he
  | linkTestToResource id name mt c =>
    simp only [RegistryCall.apply]
    split
    · rename_i r' k hok
      obtain ⟨_, _, _, rfl⟩ := linkTest_eq_ok (linkTestToResource_eq_ok hok).2
      exact he
    · exact he

theorem entities_subset_run (calls : List RegistryCall) {e : Entity} (he : e ∈ r.entities) :
    e ∈ (r.run calls).entities := by
  induction calls generalizing r with
  | nil => exact he
  | cons call calls ih => exact ih (entities_subset_apply call he)

namespace Consistent

variable (h : r.Consistent)
include h

theorem contains_of_linked {i : Nat} (hi : i < r.tests.size) {k : EntityKey}
    (hk : r.tests[i].linked = some k) : r.contains k :=
  h.linksRegistered k (List.ne_nil_of_mem ((h.linkedIff i hi k).mp hk))

theorem key_unique {i : Nat} {k k' : EntityKey} (hk : i ∈ r.linkedIds k)
    (hk' : i ∈ r.linkedIds k') : k = k' := by
  have hi := h.idsLt k i hk
  have e := ((h.linkedIff i hi k).mpr hk).symm.trans ((h.linkedIff i hi k').mpr hk')
  exact Option.some.inj e

theorem length_testsFor (k : EntityKey) : (r.testsFor k).length = (r.linkedIds k).length := by
  unfold testsFor
  rw [List.length_filterMap_eq_countP, List.countP_eq_length]
  intro i hi
  simp [testFunction?, h.idsLt k i hi]

theorem mem_flatMap_linkedIds (i : Nat) :
    i ∈ r.keys.flatMap r.linkedIds ↔ i ∈ (List.range r.tests.size).filter
      fun i => r.tests[i]?.any (·.linked.isSome) := by
  simp only [List.mem_flatMap, List.mem_filter, List.mem_range]
  constructor
  · rintro ⟨k, -, hk⟩
    have hi := h.idsLt k i hk
    refine ⟨hi, ?_⟩
    simp [hi, (h.linkedIff i hi k).mpr hk]
  · rintro ⟨hi, hlinked⟩
    simp only [hi, getElem?_pos, Option.any_some, Option.isSome_iff_exists] at hlinked
    obtain ⟨k, hk⟩ := hlinked
    exact ⟨k, (contains_iff r k).mp (h.contains_of_linked hi hk), (h.linkedIff i hi k).mp hk⟩

theorem nodup_flatMap_linkedIds : (r.keys.flatMap r.linkedIds).Nodup :=
  List.nodup_flatMap.mpr ⟨fun k _ => h.idsNodup k,
    h.keysNodup.imp fun hne _ hk hk' => hne (h.key_unique hk hk')⟩

end Consistent

/-- Counting by position: the positions whose element passes a test are as many as the
elements that pass it. -/
theorem length_filter_range {α : Type} (l : List α) (p : α → Bool) :
    ((List.range l.length).filter fun i => l[i]?.any p).length = (l.filter p).length := by
  induction l with
  | nil => rfl
  | cons x xs ih =>
    rw [List.length_cons, List.range_succ_eq_map, List.filter_cons, List.filter_map]
    simp only [Function.comp_def, List.getElem?_cons_succ, List.getElem?_cons_zero,
      Option.any_some]
    cases hx : p x <;> simp [hx, ih]

theorem Consistent.sum_length_testsFor (h : r.Consistent) :
    (r.keys.map fun k => (r.testsFor k).length).sum = r.stats.linkedTestFunctions := by
  have hperm : (r.keys.flatMap r.linkedIds).Perm ((List.range r.tests.size).filter
      fun i => r.tests[i]?.any (·.linked.isSome)) :=
    (List.perm_ext_iff_of_nodup h.nodup_flatMap_linkedIds (List.nodup_range.filter _)).mpr
      h.mem_flatMap_linkedIds
  calc (r.keys.map fun k => (r.testsFor k).length).sum
      = (r.keys.map fun k => (r.linkedIds k).length).sum := by simp only [h.length_testsFor]
    _ = (r.keys.flatMap r.linkedIds).length := by simp [List.length_flatMap]
    _ = ((List.range r.tests.size).filter fun i => r.tests[i]?.any (·.linked.isSome)).length :=
        hperm.length_eq
    _ = r.stats.linkedTestFunctions := by
        simpa [stats] using length_filter_range r.tests.toList (·.linked.isSome)

theorem Consistent.sum_testCount (h : r.Consistent) :
    ((CoverageReport.ofRegistry r).entries.map (·.coverage.testCount)).sum =
      r.stats.linkedTestFunctions := by
  rw [← h.sum_length_testsFor]
  simp [CoverageReport.ofRegistry, EntityCoverage.testCount_compute, keys, Function.comp_def]

theorem find?_key_of_mem {l : List Entity} (hl : (l.map (·.key)).Nodup) {e : Entity}
    (he : e ∈ l) : l.find? (·.key == e.key) = some e := by
  induction l with
  | nil => cases he
  | cons x xs ih =>
    rw [List.map_cons, List.nodup_cons] at hl
    rcases List.mem_cons.mp he with rfl | he'
    · simp
    · have hne : x.key ≠ e.key := by
        intro hx
        exact hl.1 (hx ▸ List.mem_map_of_mem he')
      simp [hne, ih hl.2 he']

theorem Consistent.entity?_of_mem (h : r.Consistent) {e : Entity} (he : e ∈ r.entities) :
    r.entity? e.key = some e :=
  find?_key_of_mem h.keysNodup he

/-- **Registry consistency.** However a registry is built from the empty one by admissible
calls, successful or failing: its entities have distinct keys, each is found under its own key,
and later calls keep every one of them; every linked id is the position of a test and stands
once among the links of all keys; a test records a link to exactly the key whose links hold it,
and that key is registered; a linked test's confidence lies in `[0, 1]`. So reading the tests of
a key drops none of its ids, and both the tests read key by key and the test counts of the
coverage report add up to the linked tests. -/
theorem run_registry_consistent (calls : List RegistryCall)
    (hcalls : ∀ call ∈ calls, call.admissible) :
    let r := ({} : Registry).run calls
    (r.keys.Nodup ∧ (∀ e ∈ r.entities, r.entity? e.key = some e) ∧
      ∀ e ∈ r.entities, ∀ more, e ∈ (r.run more).entities) ∧
    ((∀ k, ∀ i ∈ r.linkedIds k, i < r.tests.size) ∧ (r.keys.flatMap r.linkedIds).Nodup) ∧
    ((∀ i (hi : i < r.tests.size) k, r.tests[i].linked = some k ↔ i ∈ r.linkedIds k) ∧
      ∀ k, r.linkedIds k ≠ [] → r.contains k) ∧
    (∀ t ∈ r.tests, t.linked.isSome → 0.0 ≤ t.matchConfidence ∧ t.matchConfidence ≤ 1.0) ∧
    (∀ k, (r.testsFor k).length = (r.linkedIds k).length) ∧
    (r.keys.map fun k => (r.testsFor k).length).sum = r.stats.linkedTestFunctions ∧
    ((CoverageReport.ofRegistry r).entries.map (·.coverage.testCount)).sum =
      r.stats.linkedTestFunctions := by
  intro r
  have h : r.Consistent := consistent_empty.run hcalls
  exact ⟨⟨h.keysNodup, fun _ he => h.entity?_of_mem he, fun _ he more => entities_subset_run more he⟩,
    ⟨h.idsLt, h.nodup_flatMap_linkedIds⟩, ⟨h.linkedIff, h.linksRegistered⟩, h.confidenceMem,
    h.length_testsFor, h.sum_length_testsFor, h.sum_testCount⟩

/-- A resource registered, a test registered unlinked, and the test linked to it. -/
def sampleCalls : List RegistryCall :=
  let e : Entity := { kind := .resource, name := "widget", location := default }
  [.registerEntity e, .registerTest { name := "TestAccWidget_basic", location := default },
    .linkTest 0 e.key .functionName 1.0]

theorem sampleCalls_consistent :
    (∀ call ∈ sampleCalls, call.admissible) ∧
      (((({} : Registry).run sampleCalls).keys.map fun k =>
        ((({} : Registry).run sampleCalls).testsFor k).length).sum =
        (({} : Registry).run sampleCalls).stats.linkedTestFunctions) :=
  ⟨by decide, (run_registry_consistent sampleCalls (by decide)).2.2.2.2.2.1⟩

end Registry
end ProviderCoverage
