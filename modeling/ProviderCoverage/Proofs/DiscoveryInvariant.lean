import Mathlib
import ProviderCoverage.Extraction.Extractor

/-!
# The discovery state stays well formed

Discoveries are applied one after another to the state that one file's strategies share. The
invariant `DiscoveryState.WellFormed` says that no two listed entities share a key, that the
receiver index is a map (one key per receiver) and injective (one receiver per key), and that
every indexed key is the key of a listed entity. It holds of the empty state and every
discovery keeps it (`WellFormed.apply`), so it holds after any sequence of discoveries.

Injectivity is what makes a replacement safe: the entity it drops or renames is indexed under
its own receiver only, so no other receiver is left pointing at a key that is gone.

From the invariant: a receiver's key and a key's receiver determine each other, so looking a
key's receiver up never depends on the order of the index; an indexed key always has a position
in the list; a discovery's key is listed after it is applied; an insertion only appends; a
replacement drops at most the entity indexed under its receiver, keeps the order of the rest and
renames in place; applying a discovery twice is applying it once. Extraction therefore yields
entities with pairwise distinct keys (`extract_keys_nodup`).
-/

namespace ProviderCoverage.Extraction

section Positions

variable {α : Type} {l : List α} {i : Nat}

/-- Dropping position `i` keeps, in order, every element the filter keeps, when it drops the
element at `i`. -/
theorem filter_sublist_eraseIdx (p : α → Bool) (hi : i < l.length) (hp : p l[i] = false) :
    (l.filter p).Sublist (l.eraseIdx i) := by
  conv_lhs => rw [← List.take_append_drop i l, List.drop_eq_getElem_cons hi]
  rw [List.eraseIdx_eq_take_drop_succ, List.filter_append, List.filter_cons, hp]
  exact List.filter_sublist.append List.filter_sublist

theorem eraseIdx_sublist_set (hi : i < l.length) (x : α) : (l.eraseIdx i).Sublist (l.set i x) := by
  rw [List.eraseIdx_eq_take_drop_succ, List.set_eq_take_append_cons_drop, if_pos hi]
  exact (List.Sublist.refl _).append (List.sublist_cons_self _ _)

theorem set_eq_map_of_nodup [DecidableEq α] (hl : l.Nodup) (hi : i < l.length) (y : α) :
    l.set i y = l.map fun x => if x = l[i] then y else x := by
  refine List.ext_getElem (by simp) fun j h₁ h₂ => ?_
  rw [List.getElem_set, List.getElem_map]
  by_cases hj : i = j
  · subst hj
    simp
  · have hj' : j < l.length := by simpa using h₁
    have hne : l[j] ≠ l[i] := fun heq => hj ((hl.getElem_inj_iff).mp heq.symm)
    simp [hj, hne]

end Positions

namespace DiscoveryState

variable {s : DiscoveryState} {e : Entity} {r : String} {k old : EntityKey}

/-- The keys of the listed entities, in order. -/
def keys (s : DiscoveryState) : List EntityKey := s.entities.map (·.key)

/-- The state that a sequence of discoveries builds, applied in order. -/
def run (s : DiscoveryState) (ds : List Discovery) : DiscoveryState :=
  ds.foldl (fun s d => (s.apply d).1) s

@[simp] theorem run_nil (s : DiscoveryState) : s.run [] = s := rfl

@[simp] theorem run_cons (s : DiscoveryState) (d : Discovery) (ds : List Discovery) :
    s.run (d :: ds) = (s.apply d).1.run ds := rfl

@[simp] theorem keys_mk (es : List Entity) (rs : List (String × EntityKey)) :
    (⟨es, rs⟩ : DiscoveryState).keys = es.map (·.key) := rfl

@[simp] theorem contains_iff (s : DiscoveryState) (k : EntityKey) :
    s.contains k = true ↔ k ∈ s.keys := by
  simp [contains, keys]

/-- **The discovery invariant.** -/
structure WellFormed (s : DiscoveryState) : Prop where
  /-- No two listed entities share a key. -/
  keysNodup : s.keys.Nodup
  /-- The index holds one key per receiver. -/
  receiversNodup : (s.receivers.map (·.1)).Nodup
  /-- The index holds one receiver per key. -/
  indexInjective : (s.receivers.map (·.2)).Nodup
  /-- Every indexed key is listed. -/
  indexedListed : ∀ p ∈ s.receivers, p.2 ∈ s.keys

theorem wellFormed_empty : ({} : DiscoveryState).WellFormed where
  keysNodup := List.nodup_nil
  receiversNodup := List.nodup_nil
  indexInjective := List.nodup_nil
  indexedListed _ h := by simp at h

/-! ## Looking up the index -/

theorem keyOf?_eq_none_iff : s.keyOf? r = none ↔ ∀ p ∈ s.receivers, p.1 ≠ r := by
  simp [keyOf?, List.find?_eq_none]

theorem mem_of_keyOf? (h : s.keyOf? r = some k) : (r, k) ∈ s.receivers := by
  obtain ⟨p, hp, rfl⟩ := Option.map_eq_some_iff.mp h
  have hr : p.1 = r := by simpa using List.find?_some hp
  exact hr ▸ List.mem_of_find?_eq_some hp

theorem WellFormed.keyOf?_eq_some_iff (h : s.WellFormed) :
    s.keyOf? r = some k ↔ (r, k) ∈ s.receivers := by
  refine ⟨mem_of_keyOf?, fun hmem => ?_⟩
  cases hfind : s.keyOf? r with
  | none => exact absurd rfl (keyOf?_eq_none_iff.mp hfind _ hmem)
  | some k' =>
    have hk' := mem_of_keyOf? hfind
    have := List.inj_on_of_nodup_map h.receiversNodup hk' hmem rfl
    simp_all

theorem receiverOf_eq_none_iff : s.receiverOf k = none ↔ ∀ p ∈ s.receivers, p.2 ≠ k := by
  simp [receiverOf, List.find?_eq_none]

theorem mem_of_receiverOf (h : s.receiverOf k = some r) : (r, k) ∈ s.receivers := by
  obtain ⟨p, hp, rfl⟩ := Option.map_eq_some_iff.mp h
  have hk : p.2 = k := by simpa using List.find?_some hp
  exact hk ▸ List.mem_of_find?_eq_some hp

theorem WellFormed.receiverOf_eq_some_iff (h : s.WellFormed) :
    s.receiverOf k = some r ↔ (r, k) ∈ s.receivers := by
  refine ⟨mem_of_receiverOf, fun hmem => ?_⟩
  cases hfind : s.receiverOf k with
  | none => exact absurd rfl (receiverOf_eq_none_iff.mp hfind _ hmem)
  | some r' =>
    -- both pairs index `k`, and the index is injective
    have hr' := mem_of_receiverOf hfind
    have := List.inj_on_of_nodup_map h.indexInjective hr' hmem rfl
    simp_all

/-- The receiver of a key and the key of a receiver determine each other, whatever the order of
the index. -/
theorem WellFormed.receiverOf_eq_some_iff_keyOf? (h : s.WellFormed) :
    s.receiverOf k = some r ↔ s.keyOf? r = some k := by
  rw [h.receiverOf_eq_some_iff, h.keyOf?_eq_some_iff]

theorem WellFormed.findIdx?_isSome (h : s.WellFormed) (hr : s.keyOf? r = some old) :
    (s.entities.findIdx? (·.key == old)).isSome := by
  have hold : old ∈ s.keys := h.indexedListed _ (mem_of_keyOf? hr)
  obtain ⟨x, hx, rfl⟩ := List.mem_map.mp hold
  simp only [List.findIdx?_isSome, List.any_eq_true, beq_iff_eq]
  exact ⟨x, hx, rfl⟩

/-! ## The index after a change -/

theorem keyOf?_index (hr : s.keyOf? r = none) (es : List Entity) :
    (⟨es, s.receivers ++ [(r, k)]⟩ : DiscoveryState).keyOf? r = some k := by
  have hnone : s.receivers.find? (·.1 == r) = none :=
    List.find?_eq_none.mpr fun p hp => by simpa using keyOf?_eq_none_iff.mp hr p hp
  simp [keyOf?, List.find?_append, hnone]

theorem keyOf?_unindex (s : DiscoveryState) (es : List Entity) (r : String) :
    (⟨es, s.receivers.filter (·.1 != r)⟩ : DiscoveryState).keyOf? r = none := by
  rw [keyOf?_eq_none_iff]
  intro p hp
  simpa using (List.mem_filter.mp hp).2

theorem keyOf?_reindex (s : DiscoveryState) (es : List Entity) (r : String) (k : EntityKey) :
    (⟨es, s.receivers.filter (·.1 != r) ++ [(r, k)]⟩ : DiscoveryState).keyOf? r = some k :=
  keyOf?_index (s := ⟨es, s.receivers.filter (·.1 != r)⟩) (keyOf?_unindex s es r) es

theorem key_of_findIdx? {i : Nat} (hi : s.entities.findIdx? (·.key == old) = some i) :
    ∃ h : i < s.entities.length, s.entities[i].key = old := by
  obtain ⟨h, hkey, -⟩ := List.findIdx?_eq_some_iff_getElem.mp hi
  exact ⟨h, by simpa using hkey⟩

/-- A listed key other than the one at the position of `old` is still listed once that position
is erased. -/
theorem key_mem_eraseIdx {i : Nat} (hi : s.entities.findIdx? (·.key == old) = some i)
    (hk : k ∈ s.keys) (hne : k ≠ old) : k ∈ (s.entities.eraseIdx i).map (·.key) := by
  obtain ⟨hlt, hold⟩ := key_of_findIdx? hi
  rw [← List.eraseIdx_map]
  exact (filter_sublist_eraseIdx (fun k => k != old) (by simpa [keys] using hlt)
    (by simp [hold])).subset (List.mem_filter.mpr ⟨hk, by simpa using hne⟩)

/-! ## Keeping the invariant -/

theorem WellFormed.push (h : s.WellFormed) (hk : e.key ∉ s.keys) :
    (⟨s.entities ++ [e], s.receivers⟩ : DiscoveryState).WellFormed where
  keysNodup := by
    simpa [keys, List.nodup_append] using
      ⟨h.keysNodup, fun x hx heq => hk (heq ▸ List.mem_map_of_mem hx)⟩
  receiversNodup := h.receiversNodup
  indexInjective := h.indexInjective
  indexedListed p hp := by simpa [keys] using Or.inl (h.indexedListed p hp)

/-- Indexing a listed key that no receiver holds, under a receiver not indexed yet, keeps the
invariant. -/
theorem WellFormed.index (h : s.WellFormed) (hr : s.keyOf? r = none) (hk : k ∈ s.keys)
    (hfree : ∀ p ∈ s.receivers, p.2 ≠ k) :
    (⟨s.entities, s.receivers ++ [(r, k)]⟩ : DiscoveryState).WellFormed where
  keysNodup := h.keysNodup
  receiversNodup := by
    rw [List.map_append, List.nodup_append]
    refine ⟨h.receiversNodup, List.nodup_singleton _, fun a ha b hb => ?_⟩
    obtain ⟨p, hp, rfl⟩ := List.mem_map.mp ha
    simp only [List.map_cons, List.map_nil, List.mem_singleton] at hb
    exact hb ▸ keyOf?_eq_none_iff.mp hr p hp
  indexInjective := by
    rw [List.map_append, List.nodup_append]
    refine ⟨h.indexInjective, List.nodup_singleton _, fun a ha b hb => ?_⟩
    obtain ⟨p, hp, rfl⟩ := List.mem_map.mp ha
    simp only [List.map_cons, List.map_nil, List.mem_singleton] at hb
    exact hb ▸ hfree p hp
  indexedListed p hp := by
    rcases List.mem_append.mp hp with hp | hp
    · exact h.indexedListed p hp
    · rw [List.mem_singleton.mp hp]
      exact hk

/-- Dropping a receiver from the index keeps the invariant, when the new entities have distinct
keys and keep, in order, every entity but the one the receiver indexed. -/
theorem WellFormed.unindex (h : s.WellFormed) (hr : s.keyOf? r = some old) {es : List Entity}
    (hnodup : (es.map (·.key)).Nodup) (hkeep : (s.entities.filter (·.key != old)).Sublist es) :
    (⟨es, s.receivers.filter (·.1 != r)⟩ : DiscoveryState).WellFormed where
  keysNodup := hnodup
  receiversNodup := (List.filter_sublist.map _).nodup h.receiversNodup
  indexInjective := (List.filter_sublist.map _).nodup h.indexInjective
  indexedListed p hp := by
    obtain ⟨hp, hne⟩ := List.mem_filter.mp hp
    have hold : p.2 ≠ old := fun heq => by
      have := List.inj_on_of_nodup_map h.indexInjective hp (mem_of_keyOf? hr) heq
      simp [this] at hne
    obtain ⟨x, hx, hxk⟩ := List.mem_map.mp (h.indexedListed p hp)
    have : x ∈ s.entities.filter (·.key != old) :=
      List.mem_filter.mpr ⟨hx, by simp [hxk, hold]⟩
    exact List.mem_map.mpr ⟨x, hkeep.subset this, hxk⟩

/-! ## What one discovery does -/

theorem insert_of_mem (h : e.key ∈ s.keys) (receiver : Option String) :
    s.insert e receiver = s := by
  simp [DiscoveryState.insert, h]

theorem apply_insert (e : Entity) (receiver : Option String) :
    (s.apply (.insert e receiver)).1 = s.insert e receiver := rfl

/-- Every way an insertion can go: the key is taken (nothing changes), or the entity is appended,
its receiver indexed to it when the receiver was not indexed yet. -/
theorem insert_cases (e : Entity) (receiver : Option String) :
    (e.key ∈ s.keys ∧ s.insert e receiver = s) ∨
    (e.key ∉ s.keys ∧ s.insert e receiver = ⟨s.entities ++ [e], s.receivers⟩) ∨
    (∃ r, receiver = some r ∧ e.key ∉ s.keys ∧ s.keyOf? r = none ∧
      s.insert e receiver = ⟨s.entities ++ [e], s.receivers ++ [(r, e.key)]⟩) := by
  by_cases hk : e.key ∈ s.keys
  · exact .inl ⟨hk, insert_of_mem hk receiver⟩
  · cases receiver with
    | none => exact .inr (.inl ⟨hk, by simp [DiscoveryState.insert, hk]⟩)
    | some r =>
      cases hr : s.keyOf? r with
      | none => exact .inr (.inr ⟨r, rfl, hk, hr, by simp [DiscoveryState.insert, hk, hr]⟩)
      | some _ => exact .inr (.inl ⟨hk, by simp [DiscoveryState.insert, hk, hr]⟩)

theorem key_mem_insert (e : Entity) (receiver : Option String) :
    e.key ∈ (s.insert e receiver).keys := by
  rcases insert_cases (s := s) e receiver with ⟨hk, heq⟩ | ⟨-, heq⟩ | ⟨_, -, -, -, heq⟩
  · rwa [heq]
  · simp [heq]
  · simp [heq]

theorem prefix_insert (e : Entity) (receiver : Option String) :
    s.entities <+: (s.insert e receiver).entities := by
  rcases insert_cases (s := s) e receiver with ⟨-, heq⟩ | ⟨-, heq⟩ | ⟨_, -, -, -, heq⟩ <;>
    simp [heq]

theorem insert_insert (e : Entity) (receiver : Option String) :
    (s.insert e receiver).insert e receiver = s.insert e receiver :=
  insert_of_mem (key_mem_insert e receiver) receiver

/-- Every way a replacement can go: the receiver is not indexed (an insertion); it is indexed to
the new key already (nothing changes); its key has no position (an insertion); the new key is
taken (the indexed entity is dropped); or the indexed entity is renamed in place. -/
theorem apply_replaceIfPresent_cases (r : String) (e : Entity) :
    (s.keyOf? r = none ∧ (s.apply (.replaceIfPresent r e)).1 = s.insert e (some r)) ∨
    (s.keyOf? r = some e.key ∧ (s.apply (.replaceIfPresent r e)).1 = s) ∨
    (∃ old, s.keyOf? r = some old ∧ old ≠ e.key ∧
      s.entities.findIdx? (·.key == old) = none ∧
      (s.apply (.replaceIfPresent r e)).1 = s.insert e (some r)) ∨
    (∃ old i, s.keyOf? r = some old ∧ old ≠ e.key ∧
      s.entities.findIdx? (·.key == old) = some i ∧
      e.key ∈ (s.entities.eraseIdx i).map (·.key) ∧
      (s.apply (.replaceIfPresent r e)).1 =
        ⟨s.entities.eraseIdx i, s.receivers.filter (·.1 != r)⟩) ∨
    (∃ old i x, s.keyOf? r = some old ∧ old ≠ e.key ∧
      s.entities.findIdx? (·.key == old) = some i ∧
      e.key ∉ (s.entities.eraseIdx i).map (·.key) ∧ x.key = e.key ∧
      (s.apply (.replaceIfPresent r e)).1 =
        ⟨s.entities.set i x, s.receivers.filter (·.1 != r) ++ [(r, e.key)]⟩) := by
  simp only [apply]
  cases hr : s.keyOf? r with
  | none => exact .inl ⟨rfl, rfl⟩
  | some old =>
    by_cases hnew : old = e.key
    · subst hnew
      exact .inr (.inl ⟨rfl, by simp⟩)
    · cases hi : s.entities.findIdx? (·.key == old) with
      | none => exact .inr (.inr (.inl ⟨old, rfl, hnew, hi, by simp [hnew, hi]⟩))
      | some i =>
        have hlt : i < s.entities.length := (List.findIdx?_eq_some_iff_getElem.mp hi).1
        by_cases hc : e.key ∈ (s.entities.eraseIdx i).map (·.key)
        · refine .inr (.inr (.inr (.inl ⟨old, i, rfl, hnew, hi, hc, ?_⟩)))
          simp [hnew, hi, List.mem_map.mp hc]
        · refine .inr (.inr (.inr (.inr ⟨old, i, ?_⟩)))
          have hc' : ¬∃ x ∈ s.entities.eraseIdx i, x.key = e.key :=
            fun h => hc (List.mem_map.mpr h)
          simp only [beq_iff_eq, hnew, hi, if_false, List.any_eq_true, hc',
            List.insertIdx_eraseIdx_self (Nat.ne_of_lt hlt)]
          refine ⟨_, trivial, hnew, trivial, hc, ?_, rfl⟩
          rfl

theorem WellFormed.insert (h : s.WellFormed) (e : Entity) (receiver : Option String) :
    (s.insert e receiver).WellFormed := by
  rcases insert_cases (s := s) e receiver with ⟨-, heq⟩ | ⟨hk, heq⟩ | ⟨r, -, hk, hr, heq⟩
  · rwa [heq]
  · exact heq ▸ h.push hk
  · rw [heq]
    exact (h.push hk).index hr (by simp) fun p hp heq => hk (heq ▸ h.indexedListed p hp)

/-- **Step lemma.** Applying a discovery keeps the invariant. -/
theorem WellFormed.apply (h : s.WellFormed) : ∀ d, (s.apply d).1.WellFormed
  | .insert e receiver => h.insert e receiver
  | .replaceIfPresent r e => by
    rcases apply_replaceIfPresent_cases (s := s) r e with
      ⟨-, heq⟩ | ⟨-, heq⟩ | ⟨-, -, -, -, heq⟩ | ⟨old, i, hr, -, hi, -, heq⟩ |
      ⟨old, i, x, hr, hne, hi, hfree, hx, heq⟩
    · exact heq ▸ h.insert e (some r)
    · rwa [heq]
    · exact heq ▸ h.insert e (some r)
    · obtain ⟨hlt, hold⟩ := key_of_findIdx? hi
      rw [heq]
      refine h.unindex hr ?_ (filter_sublist_eraseIdx _ hlt (by simp [hold]))
      rw [← List.eraseIdx_map]
      exact h.keysNodup.sublist (List.eraseIdx_sublist _ _)
    · obtain ⟨hlt, hold⟩ := key_of_findIdx? hi
      have hnew : e.key ∉ s.keys := fun hmem => hfree (key_mem_eraseIdx hi hmem (Ne.symm hne))
      have hset : (s.entities.set i x).map (·.key) = s.keys.set i e.key := by
        simp [keys, hx]
      have hu : (⟨s.entities.set i x, s.receivers.filter (·.1 != r)⟩ : DiscoveryState).WellFormed :=
        h.unindex hr (by rw [hset]; exact h.keysNodup.set hnew)
          ((filter_sublist_eraseIdx _ hlt (by simp [hold])).trans (eraseIdx_sublist_set hlt x))
      rw [heq]
      refine hu.index (keyOf?_unindex s _ r) ?_ fun p hp heq => ?_
      · simpa [hset] using List.mem_set (by simpa [keys] using hlt) e.key
      · exact hnew (heq ▸ h.indexedListed p (List.mem_filter.mp hp).1)

theorem key_mem_apply (h : s.WellFormed) : ∀ d, d.entity.key ∈ (s.apply d).1.keys
  | .insert e receiver => key_mem_insert e receiver
  | .replaceIfPresent r e => by
    show e.key ∈ _
    rcases apply_replaceIfPresent_cases (s := s) r e with
      ⟨-, heq⟩ | ⟨hr, heq⟩ | ⟨_, -, -, -, heq⟩ | ⟨_, _, -, -, -, hc, heq⟩ |
      ⟨_, i, x, -, -, hi, -, hx, heq⟩
    · exact heq ▸ key_mem_insert e (some r)
    · rw [heq]
      exact h.indexedListed _ (mem_of_keyOf? hr)
    · exact heq ▸ key_mem_insert e (some r)
    · simpa [heq] using hc
    · obtain ⟨hlt, -⟩ := key_of_findIdx? hi
      rw [heq, keys_mk, ← hx]
      exact List.mem_map_of_mem (List.mem_set hlt x)

theorem filter_sublist_apply_replaceIfPresent (r : String) (e : Entity) :
    (s.entities.filter fun x => s.keyOf? r != some x.key).Sublist
      (s.apply (.replaceIfPresent r e)).1.entities := by
  rcases apply_replaceIfPresent_cases (s := s) r e with
    ⟨-, heq⟩ | ⟨-, heq⟩ | ⟨-, -, -, -, heq⟩ | ⟨old, i, hr, -, hi, -, heq⟩ |
    ⟨old, i, x, hr, -, hi, -, -, heq⟩
  · exact List.filter_sublist.trans (heq ▸ prefix_insert e (some r)).sublist
  · rw [heq]
    exact List.filter_sublist
  · exact List.filter_sublist.trans (heq ▸ prefix_insert e (some r)).sublist
  · obtain ⟨hlt, hold⟩ := key_of_findIdx? hi
    rw [heq]
    exact filter_sublist_eraseIdx _ hlt (by simp [hr, hold])
  · obtain ⟨hlt, hold⟩ := key_of_findIdx? hi
    rw [heq]
    exact (filter_sublist_eraseIdx _ hlt (by simp [hr, hold])).trans (eraseIdx_sublist_set hlt x)

theorem WellFormed.keys_apply_rename (h : s.WellFormed) (hr : s.keyOf? r = some old)
    (hne : old ≠ e.key) (hfree : e.key ∉ s.keys) :
    (s.apply (.replaceIfPresent r e)).1.keys =
      s.keys.map fun k => if k = old then e.key else k := by
  rcases apply_replaceIfPresent_cases (s := s) r e with
    ⟨hr', -⟩ | ⟨hr', -⟩ | ⟨_, hr', -, hi, -⟩ | ⟨_, i, -, -, -, hc, -⟩ |
    ⟨_, i, x, hr', -, hi, -, hx, heq⟩
  · simp [hr] at hr'
  · exact absurd (Option.some.inj (hr.symm.trans hr')) hne
  · obtain rfl := Option.some.inj (hr.symm.trans hr')
    exact absurd (h.findIdx?_isSome hr) (by simp [hi])
  · exact absurd (List.map_subset _ (List.eraseIdx_sublist _ _).subset hc) hfree
  · obtain rfl := Option.some.inj (hr.symm.trans hr')
    obtain ⟨hlt, hold⟩ := key_of_findIdx? hi
    have hlt' : i < s.keys.length := by simpa [keys] using hlt
    have hkey : s.keys[i] = old := by simpa [keys] using hold
    rw [heq, keys_mk, List.map_set, hx, ← keys, set_eq_map_of_nodup h.keysNodup hlt', hkey]

/-- A replacement that finds its key listed, and its receiver unindexed, indexed to that key or
indexed to a key without position, changes nothing. -/
theorem apply_replaceIfPresent_eq_self (hk : e.key ∈ s.keys)
    (hr : ∀ old, s.keyOf? r = some old →
      old = e.key ∨ s.entities.findIdx? (·.key == old) = none) :
    (s.apply (.replaceIfPresent r e)).1 = s := by
  rcases apply_replaceIfPresent_cases (s := s) r e with
    ⟨-, heq⟩ | ⟨-, heq⟩ | ⟨-, -, -, -, heq⟩ | ⟨old, i, hr', hne, hi, -, -⟩ |
    ⟨old, i, -, hr', hne, hi, -, -, -⟩
  · exact heq.trans (insert_of_mem hk _)
  · exact heq
  · exact heq.trans (insert_of_mem hk _)
  · rcases hr old hr' with h | h
    · exact absurd h hne
    · simp [h] at hi
  · rcases hr old hr' with h | h
    · exact absurd h hne
    · simp [h] at hi

theorem apply_apply : ∀ d, ((s.apply d).1.apply d).1 = (s.apply d).1
  | .insert e receiver => insert_insert e receiver
  | .replaceIfPresent r e => by
    rcases apply_replaceIfPresent_cases (s := s) r e with
      ⟨hr, heq⟩ | ⟨-, heq⟩ | ⟨old, hr, hne, hi, heq⟩ | ⟨_, _, -, -, -, hc, heq⟩ |
      ⟨_, i, x, -, -, hi, -, hx, heq⟩
    · rw [heq]
      refine apply_replaceIfPresent_eq_self (key_mem_insert e _) fun old hold => .inl ?_
      rcases insert_cases (s := s) e (some r) with
        ⟨-, heq'⟩ | ⟨-, heq'⟩ | ⟨r', hr', -, hr'', heq'⟩
      · simp [heq', hr] at hold
      · have hold' : s.keyOf? r = some old := by rw [heq'] at hold; exact hold
        simp [hr] at hold'
      · obtain rfl := Option.some.inj hr'
        rw [heq', keyOf?_index hr''] at hold
        exact (Option.some.inj hold).symm
    · rw [heq, heq]
    · rw [heq]
      refine apply_replaceIfPresent_eq_self (key_mem_insert e _) fun old' hold' => .inr ?_
      rcases insert_cases (s := s) e (some r) with
        ⟨-, heq'⟩ | ⟨-, heq'⟩ | ⟨r', hr', -, hr'', heq'⟩
      · rw [heq'] at hold' ⊢
        obtain rfl := Option.some.inj (hr.symm.trans hold')
        exact hi
      · rw [heq'] at hold' ⊢
        obtain rfl := Option.some.inj (hr.symm.trans hold')
        simp [List.findIdx?_append, hi, Ne.symm hne]
      · obtain rfl := Option.some.inj hr'
        simp [hr] at hr''
    · rw [heq]
      exact apply_replaceIfPresent_eq_self (by simpa using hc) fun old h => by
        simp [keyOf?_unindex] at h
    · obtain ⟨hlt, -⟩ := key_of_findIdx? hi
      rw [heq]
      refine apply_replaceIfPresent_eq_self ?_ fun old h => .inl ?_
      · rw [keys_mk, ← hx]
        exact List.mem_map_of_mem (List.mem_set hlt x)
      · exact (Option.some.inj ((keyOf?_reindex s _ r e.key).symm.trans h)).symm

/-- **Run lemma.** The invariant holds after any sequence of discoveries. -/
theorem WellFormed.run (h : s.WellFormed) (ds : List Discovery) : (s.run ds).WellFormed := by
  induction ds generalizing s with
  | nil => exact h
  | cons d ds ih => exact ih (h.apply d)

/-- What applying one discovery does to a state. -/
structure StepLaws (s : DiscoveryState) (d : Discovery) : Prop where
  /-- The discovery's key is listed afterwards. -/
  keyListed : d.entity.key ∈ (s.apply d).1.keys
  /-- Applying the discovery again changes nothing. -/
  idempotent : ((s.apply d).1.apply d).1 = (s.apply d).1
  /-- An insertion only appends. -/
  insertAppends : ∀ e receiver, d = .insert e receiver → s.entities <+: (s.apply d).1.entities
  /-- A replacement keeps, in order, every entity but the one indexed under its receiver. -/
  replaceKeeps : ∀ r e, d = .replaceIfPresent r e →
    (s.entities.filter fun x => s.keyOf? r != some x.key).Sublist (s.apply d).1.entities
  /-- A rename puts the new key where the indexed one stood. -/
  renamesInPlace : ∀ r e old, d = .replaceIfPresent r e → s.keyOf? r = some old →
    old ≠ e.key → e.key ∉ s.keys →
      (s.apply d).1.keys = s.keys.map fun k => if k = old then e.key else k

theorem WellFormed.stepLaws (h : s.WellFormed) (d : Discovery) : s.StepLaws d where
  keyListed := key_mem_apply h d
  idempotent := apply_apply d
  insertAppends _ _ hd := hd ▸ prefix_insert _ _
  replaceKeeps _ _ hd := hd ▸ filter_sublist_apply_replaceIfPresent _ _
  renamesInPlace _ _ _ hd hr hne hfree := hd ▸ h.keys_apply_rename hr hne hfree

end DiscoveryState

/-! ## Extraction -/

theorem foldl_fst {α β γ : Type} (g : α × β → γ → α × β) (g' : α → γ → α)
    (hg : ∀ acc x, (g acc x).1 = g' acc.1 x) (l : List γ) (init : α × β) :
    (l.foldl g init).1 = l.foldl g' init.1 := by
  induction l generalizing init with
  | nil => rfl
  | cons x l ih => rw [List.foldl_cons, List.foldl_cons, ih, hg]

/-- The strategies build their state from the empty one by applying, in order, every discovery
of every strategy. -/
theorem runStrategies_fst (c : FileContext) :
    (runStrategies c).1 = ({} : DiscoveryState).run (strategies.flatMap (·.discover c)) := by
  unfold runStrategies
  rw [DiscoveryState.run, List.foldl_flatMap]
  refine foldl_fst _ _ (fun acc strategy => ?_) _ _
  refine foldl_fst _ (fun (s : DiscoveryState) d => (s.apply d).1) (fun acc d => ?_) _ _
  rfl

theorem key_finish (c : FileContext) (st : DiscoveryState) (e : Entity) :
    (finish c st e).key = e.key := by
  unfold finish
  dsimp only
  split <;> (try split) <;> (try split) <;> rfl

theorem foldl_map_key {β : Type} (keep : Entity → Bool) (fin : Entity → Entity)
    (hfin : ∀ e, (fin e).key = e.key) (g : List Entity × β → Entity → List Entity × β)
    (hg : ∀ acc e, (g acc e).1 = if keep e then acc.1 ++ [fin e] else acc.1)
    (l : List Entity) (init : List Entity × β) :
    (l.foldl g init).1.map (·.key) = init.1.map (·.key) ++ (l.filter keep).map (·.key) := by
  induction l generalizing init with
  | nil => simp
  | cons e l ih =>
    rw [List.foldl_cons, ih, hg, List.filter_cons]
    cases keep e <;> simp [hfin]

/-- Extraction keeps, in order and under their keys, the entities of the strategies' state that are
not nested-schema helpers. -/
theorem extract_keys (x : Extractor) (f : Go.File) :
    (x.extract f).1.map (·.key) =
      ((runStrategies (FileContext.ofFile f x.settings)).1.entities.filter
        fun e => !anyGlobMatches x.nestedSchema e.name).map (·.key) := by
  unfold Extractor.extract
  dsimp only
  generalize runStrategies (FileContext.ofFile f x.settings) = rs
  obtain ⟨state, events⟩ := rs
  refine (foldl_map_key (fun e => !anyGlobMatches x.nestedSchema e.name)
    (finish (FileContext.ofFile f x.settings) state) (key_finish _ state) _ (fun acc e => ?_) _
    _).trans
    (by simp)
  cases anyGlobMatches x.nestedSchema e.name <;> rfl

theorem extract_keys_nodup (x : Extractor) (f : Go.File) :
    ((x.extract f).1.map (·.key)).Nodup := by
  rw [extract_keys]
  have h := (DiscoveryState.wellFormed_empty.run (strategies.flatMap
    (·.discover (FileContext.ofFile f x.settings)))).keysNodup
  rw [← runStrategies_fst] at h
  exact (List.filter_sublist.map _).nodup h

/-- **Discovery states stay well formed.** Every state built from the empty one by a sequence of
discoveries has distinct keys and an injective receiver index onto listed keys; in it a key's
receiver and a receiver's key determine each other, an indexed key has a position, and every
next discovery obeys the step laws. Extraction yields distinct keys for every file. -/
theorem run_discoveries_wellFormed (ds : List Discovery) :
    let s := ({} : DiscoveryState).run ds
    s.WellFormed ∧ (∀ k r, s.receiverOf k = some r ↔ s.keyOf? r = some k) ∧
    (∀ r old, s.keyOf? r = some old → (s.entities.findIdx? (·.key == old)).isSome) ∧
    (∀ d, s.StepLaws d) ∧
    ∀ (x : Extractor) (f : Go.File), ((x.extract f).1.map (·.key)).Nodup := by
  intro s
  have h : s.WellFormed := DiscoveryState.wellFormed_empty.run ds
  exact ⟨h, fun _ _ => h.receiverOf_eq_some_iff_keyOf?, fun _ _ hr => h.findIdx?_isSome hr,
    h.stepLaws, extract_keys_nodup⟩

end ProviderCoverage.Extraction
