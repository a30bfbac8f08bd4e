import ProviderCoverage.Proofs.RegistryInvariant

/-!
# The checks of a link

Linking test `id` to the key `k` checks, in this order, that `k` is registered, that the test
is, and that the test is not linked yet. The first check that fails names the error, and the
registry after the call is the one before it. A link that passes changes one test, which records
the match, its confidence clamped to `[0, 1]` and the key, and appends `id` to the links of `k`;
the entities, every other test, the links of every other key and the sweeper files stay as they
were (`LinkOutcome`).

A link by a bare name is the link to the first registered key of that name, kinds taken in the
order resource, data source, action, and answers that key; when no kind has the name, it is
refused as an unknown resource and nothing changes.
-/

namespace ProviderCoverage.Registry

variable {r r' : Registry}

/-- What a successful link of test `id` to `k` leaves behind: the test records the match, `id`
closes the links of `k`, and nothing else changes. -/
structure LinkedOnly (r r' : Registry) (id : Nat) (k : EntityKey) (mt : MatchType) (c : Float) :
    Prop where
  entities : r'.entities = r.entities
  sweeperFiles : r'.sweeperFiles = r.sweeperFiles
  size : r'.tests.size = r.tests.size
  linked : r'.tests[id]? = r.tests[id]?.map fun t => linkedTest t k mt c
  otherTests : ∀ j, j ≠ id → r'.tests[j]? = r.tests[j]?
  linkedIds : ∀ k', r'.linkedIds k' = if k' = k then r.linkedIds k ++ [id] else r.linkedIds k'

/-- How a link of test `id` to `k` ends, by the first of its checks that fails: `res` is what the
call answers and `after` the registry after it. -/
inductive LinkOutcome (r : Registry) (id : Nat) (k : EntityKey) (mt : MatchType) (c : Float) :
    Except RegistryError Registry → Registry → Prop
  | unknownEntity : k ∉ r.keys → LinkOutcome r id k mt c (.error (.unknownEntity k)) r
  | unknownTest : k ∈ r.keys → r.tests.size ≤ id →
      LinkOutcome r id k mt c (.error (.unknownTestFunction id)) r
  | alreadyLinked {t : TestFunction} {existing : EntityKey} : k ∈ r.keys →
      r.tests[id]? = some t → t.linked = some existing →
      LinkOutcome r id k mt c (.error (.alreadyLinked t.name existing)) r
  | linked {t : TestFunction} {r' : Registry} : k ∈ r.keys → r.tests[id]? = some t →
      t.linked = none → LinkedOnly r r' id k mt c → LinkOutcome r id k mt c (.ok r') r'

/-- The key a bare name is linked under: a registered key of that name such that no kind before
its own in the lookup order has the name. -/
def FirstNamed (r : Registry) (n : String) (k : EntityKey) : Prop :=
  k.name = n ∧ k ∈ r.keys ∧ ∀ kind : EntityKind, kind.rank < k.kind.rank → ⟨kind, n⟩ ∉ r.keys

/-- Setting the linked form of an unlinked test and extending the links of `k` is a link that
changes nothing else. -/
theorem linkedOnly_set {id : Nat} (hid : id < r.tests.size) (k : EntityKey) (mt : MatchType)
    (c : Float) :
    LinkedOnly r { r with
        tests := r.tests.set id (linkedTest r.tests[id] k mt c) hid
        links := addLink r.links k id } id k mt c where
  entities := rfl
  sweeperFiles := rfl
  size := Array.size_set hid
  linked := by simp [hid]
  otherTests j hj := Array.getElem?_set_ne hid (Ne.symm hj)
  linkedIds k' := linkedIds_addLink _ k k' id

theorem contains_eq_decide (r : Registry) (k : EntityKey) : r.contains k = decide (k ∈ r.keys) :=
  Bool.eq_iff_iff.mpr (by simp)

theorem apply_linkTest_of_error {id : Nat} {k : EntityKey} {mt : MatchType} {c : Float}
    {e : RegistryError} (h : (r.linkTest id k mt c).1 = .error e) :
    (RegistryCall.linkTest id k mt c).apply r = r := by
  simp only [RegistryCall.apply, h]

theorem apply_linkTest_of_ok {id : Nat} {k : EntityKey} {mt : MatchType} {c : Float}
    (h : (r.linkTest id k mt c).1 = .ok r') : (RegistryCall.linkTest id k mt c).apply r = r' := by
  simp only [RegistryCall.apply, h]

theorem linkOutcome (r : Registry) (id : Nat) (k : EntityKey) (mt : MatchType) (c : Float) :
    LinkOutcome r id k mt c (r.linkTest id k mt c).1
      ((RegistryCall.linkTest id k mt c).apply r) := by
  by_cases hk : k ∈ r.keys
  · have hcontains : r.contains k = true := (contains_iff r k).mpr hk
    cases ht : r.tests[id]? with
    | none =>
      have hres : (r.linkTest id k mt c).1 = .error (.unknownTestFunction id) := by
        simp [linkTest, hcontains, ht]
      rw [hres, apply_linkTest_of_error hres]
      exact .unknownTest hk (Array.getElem?_eq_none_iff.mp ht)
    | some t =>
      cases hl : t.linked with
      | some existing =>
        have hres : (r.linkTest id k mt c).1 = .error (.alreadyLinked t.name existing) := by
          simp [linkTest, hcontains, ht, hl]
        rw [hres, apply_linkTest_of_error hres]
        exact .alreadyLinked hk ht hl
      | none =>
        obtain ⟨hid, rfl⟩ := Array.getElem?_eq_some_iff.mp ht
        have hres : (r.linkTest id k mt c).1 = _ := linkTest_of_unlinked hid hcontains hl
        rw [hres, apply_linkTest_of_ok hres]
        exact .linked hk ht hl (linkedOnly_set hid k mt c)
  · have hres : (r.linkTest id k mt c).1 = .error (.unknownEntity k) := by
      simp [linkTest, contains_eq_decide, hk]
    rw [hres, apply_linkTest_of_error hres]
    exact .unknownEntity hk

theorem resolveName_eq (r : Registry) (n : String) :
    r.resolveName n =
      if (⟨.resource, n⟩ : EntityKey) ∈ r.keys then some ⟨.resource, n⟩
      else if (⟨.dataSource, n⟩ : EntityKey) ∈ r.keys then some ⟨.dataSource, n⟩
      else if (⟨.action, n⟩ : EntityKey) ∈ r.keys then some ⟨.action, n⟩ else none := by
  simp only [resolveName, EntityKind.all, List.map_cons, List.map_nil, List.find?_cons,
    List.find?_nil, contains_eq_decide]
  split_ifs <;> simp_all

/-- The kinds before `k` in the lookup order: the resource kind unless `k` is it, and the data
source kind when `k` is the action kind. -/
theorem forall_rank_lt {P : EntityKind → Prop} {k : EntityKind} :
    (∀ kind : EntityKind, kind.rank < k.rank → P kind) ↔
      (k ≠ .resource → P .resource) ∧ (k = .action → P .dataSource) := by
  constructor
  · intro h
    exact ⟨fun hk => h _ (by cases k <;> simp_all [EntityKind.rank]),
      fun hk => h _ (by simp [hk, EntityKind.rank])⟩
  · rintro ⟨hres, hdata⟩ kind hlt
    cases k <;> cases kind <;> simp_all [EntityKind.rank]

theorem resolveName_eq_some_iff {n : String} {k : EntityKey} :
    r.resolveName n = some k ↔ FirstNamed r n k := by
  rw [resolveName_eq, FirstNamed, forall_rank_lt]
  constructor
  · intro h
    split_ifs at h <;> cases h <;> simp_all
  · rintro ⟨rfl, hk, hres, hdata⟩
    obtain ⟨kind, name⟩ := k
    cases kind <;> simp_all

theorem resolveName_eq_none_iff {n : String} :
    r.resolveName n = none ↔ ∀ kind : EntityKind, (⟨kind, n⟩ : EntityKey) ∉ r.keys := by
  rw [resolveName_eq]
  constructor
  · intro h kind
    split_ifs at h with hres hdata haction
    cases kind <;> assumption
  · intro h
    simp [h]

/-- **The checks of a link, in order, and atomicity.** A link of test `id` to any key ends by the
first check that fails (unknown entity, then unknown test, then a test already linked, with its
current link), the registry unchanged, or links and changes only the test and the links of the
key. A link by a bare name answers an unknown resource, the registry unchanged, when no kind has
the name; otherwise it is the link to the first registered key of that name, and answers that
key. -/
theorem link_checks_in_order (r : Registry) (id : Nat) (mt : MatchType) (c : Float) :
    (∀ k, LinkOutcome r id k mt c (r.linkTest id k mt c).1
      ((RegistryCall.linkTest id k mt c).apply r)) ∧
    ∀ n, ((∀ kind : EntityKind, (⟨kind, n⟩ : EntityKey) ∉ r.keys) ∧
        (r.linkTestToResource id n mt c).1 = .error (.unknownEntity ⟨.resource, n⟩) ∧
        (RegistryCall.linkTestToResource id n mt c).apply r = r) ∨
      ∃ k, FirstNamed r n k ∧
        (r.linkTestToResource id n mt c).1 = (r.linkTest id k mt c).1.map (·, k) ∧
        (RegistryCall.linkTestToResource id n mt c).apply r =
          (RegistryCall.linkTest id k mt c).apply r := by
  refine ⟨fun k => linkOutcome r id k mt c, fun n => ?_⟩
  cases hres : r.resolveName n with
  | none =>
    have hnone : (r.linkTestToResource id n mt c).1 = .error (.unknownEntity ⟨.resource, n⟩) := by
      simp [linkTestToResource, hres]
    refine .inl ⟨resolveName_eq_none_iff.mp hres, hnone, ?_⟩
    simp only [RegistryCall.apply, hnone]
  | some k =>
    have hlink : (r.linkTestToResource id n mt c).1 = (r.linkTest id k mt c).1.map (·, k) := by
      simp [linkTestToResource, hres]
    refine .inr ⟨k, resolveName_eq_some_iff.mp hres, hlink, ?_⟩
    simp only [RegistryCall.apply, hlink]
    cases (r.linkTest id k mt c).1 <;> rfl

end ProviderCoverage.Registry
