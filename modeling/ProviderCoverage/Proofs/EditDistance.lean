import Mathlib
import ProviderCoverage.Similarity
import ProviderCoverage.Proofs.Confidence
import ProviderCoverage.Proofs.Rounding

/-!
# The edit distance is the Levenshtein distance

`prefixDistance a b i j` is the Levenshtein distance between the first `i` characters of `a`
and the first `j` of `b`, by the Wagner–Fischer recurrence: delete the last character of the
first prefix, insert the last character of the second, or end both with one substitution, free
when the two characters are equal.

The edit distance computes the table of this recurrence row by row, one row per character of
the first string: `nextRow` turns row `i` into row `i + 1` (`nextRow_table`), and the last entry
of the last row is the distance of the two strings (`editDistance_eq_levenshtein`).

The recurrence is symmetric in its two strings (`prefixDistance_comm`), lies between the
difference and the larger of the two lengths, and is zero only on equal prefixes.

The similarity of two different strings is one minus a distance of at least one over the larger
length; below `2 ^ 53` characters the float it rounds to is zero or below one
(`similarity_belowOne`, from `Binary64.one_sub_div_toFloat_unpack`). So the score is symmetric,
lies in `[0, 1]` and equals one exactly for equal strings (`editDistance_similarity_bounds`).
-/

namespace ProviderCoverage.Similarity

/-- The Levenshtein distance between the first `i` characters of `a` and the first `j` of `b`. -/
def prefixDistance (a b : List Char) : Nat → Nat → Nat
  | 0, j => j
  | i + 1, 0 => i + 1
  | i + 1, j + 1 =>
    min (min (prefixDistance a b i (j + 1) + 1) (prefixDistance a b (i + 1) j + 1))
      (prefixDistance a b i j + if a[i]? = b[j]? then 0 else 1)

def levenshtein (a b : List Char) : Nat := prefixDistance a b a.length b.length

variable {a b : List Char}

@[simp] theorem prefixDistance_zero_left (j : Nat) : prefixDistance a b 0 j = j := by
  rw [prefixDistance]

@[simp] theorem prefixDistance_zero_right (i : Nat) : prefixDistance a b i 0 = i := by
  cases i <;> rw [prefixDistance]

theorem prefixDistance_succ_succ (i j : Nat) :
    prefixDistance a b (i + 1) (j + 1) =
      min (min (prefixDistance a b i (j + 1) + 1) (prefixDistance a b (i + 1) j + 1))
        (prefixDistance a b i j + if a[i]? = b[j]? then 0 else 1) := by
  rw [prefixDistance]

/-! ### The recurrence as a metric -/

theorem prefixDistance_comm (i j : Nat) : prefixDistance a b i j = prefixDistance b a j i := by
  induction i, j using prefixDistance.induct with
  | case1 j => simp
  | case2 i => simp
  | case3 i j hdel hins hsub =>
    have hcost : (if a[i]? = b[j]? then 0 else 1) = (if b[j]? = a[i]? then 0 else 1) := by
      by_cases h : a[i]? = b[j]? <;> simp [h, eq_comm]
    rw [prefixDistance_succ_succ, prefixDistance_succ_succ, hdel, hins, hsub, min_comm (_ + 1),
      hcost]

theorem prefixDistance_le_max (i j : Nat) : prefixDistance a b i j ≤ max i j := by
  induction i, j using prefixDistance.induct with
  | case1 j => simp
  | case2 i => simp
  | case3 i j _ _ hsub =>
    rw [prefixDistance_succ_succ]
    have hcost : (if a[i]? = b[j]? then 0 else 1) ≤ 1 := by split <;> simp
    exact (min_le_right _ _).trans (by omega)

theorem sub_le_prefixDistance (i j : Nat) :
    i - j ≤ prefixDistance a b i j ∧ j - i ≤ prefixDistance a b i j := by
  induction i, j using prefixDistance.induct with
  | case1 j => simp
  | case2 i => simp
  | case3 i j hdel hins hsub =>
    rw [prefixDistance_succ_succ]
    simp only [le_min_iff]
    omega

theorem prefixDistance_eq_zero {i j : Nat} (h : prefixDistance a b i j = 0) :
    i = j ∧ a.take i = b.take j := by
  induction i, j using prefixDistance.induct with
  | case1 j => simp_all
  | case2 i => simp at h
  | case3 i j _ _ hsub =>
    rw [prefixDistance_succ_succ] at h
    -- deleting or inserting costs one, so the prefixes end in one free substitution
    have hlast : prefixDistance a b i j = 0 ∧ a[i]? = b[j]? := by
      by_cases hc : a[i]? = b[j]? <;> simp_all
    obtain ⟨rfl, htake⟩ := hsub hlast.1
    exact ⟨rfl, by rw [List.take_add_one, List.take_add_one, htake, hlast.2]⟩

theorem levenshtein_comm (a b : List Char) : levenshtein a b = levenshtein b a :=
  prefixDistance_comm _ _

theorem levenshtein_eq_zero_iff : levenshtein a b = 0 ↔ a = b := by
  constructor
  · intro h
    obtain ⟨hlen, htake⟩ := prefixDistance_eq_zero h
    simpa using htake
  · rintro rfl
    have hdiag : ∀ i, prefixDistance a a i i = 0 := by
      intro i
      induction i with
      | zero => simp
      | succ i ih =>
        rw [prefixDistance_succ_succ, ih]
        simp
    exact hdiag _

/-! ### The table, row by row -/

def tableRow (a b : List Char) (i j : Nat) : List Nat :=
  (List.range' j (b.length + 1 - j)).map (prefixDistance a b i)

theorem tableRow_cons {i j : Nat} (hj : j ≤ b.length) :
    tableRow a b i j = prefixDistance a b i j :: tableRow a b i (j + 1) := by
  rw [tableRow, show b.length + 1 - j = (b.length + 1 - (j + 1)) + 1 by omega, List.range'_succ]
  rfl

/-- One step of the table: the next character `c` of `a` turns row `i`, read from column `j`,
into row `i + 1` from column `j + 1`, given the entry of row `i + 1` at column `j`. -/
theorem nextRow_table {i : Nat} {c : Char} (hc : a[i]? = some c) :
    ∀ j, j ≤ b.length →
      nextRow c (b.drop j) (tableRow a b i j) (prefixDistance a b (i + 1) j) =
        tableRow a b (i + 1) (j + 1)
  | j, hj => by
    rcases Nat.lt_or_ge j b.length with hlt | hge
    · rw [List.drop_eq_getElem_cons hlt, tableRow_cons hj, tableRow_cons (by omega : j + 1 ≤ _),
        nextRow]
      have hhere : min (min (prefixDistance a b i (j + 1) + 1) (prefixDistance a b (i + 1) j + 1))
          (prefixDistance a b i j + if c == b[j] then 0 else 1) =
          prefixDistance a b (i + 1) (j + 1) := by
        rw [prefixDistance_succ_succ, hc, List.getElem?_eq_getElem hlt]
        simp
      rw [hhere, ← tableRow_cons (by omega : j + 1 ≤ _), nextRow_table hc (j + 1) hlt,
        tableRow_cons (by omega : j + 1 ≤ _)]
    · have hend : j = b.length := by omega
      subst hend
      simp [tableRow, nextRow]
  termination_by j => b.length - j

theorem distanceRow_table : ∀ i, i ≤ a.length →
    distanceRow b (a.drop i) (tableRow a b i 0) i = tableRow a b a.length 0
  | i, hi => by
    rcases Nat.lt_or_ge i a.length with hlt | hge
    · rw [List.drop_eq_getElem_cons hlt, distanceRow]
      have hnext : nextRow a[i] (b.drop 0) (tableRow a b i 0) (prefixDistance a b (i + 1) 0) =
          tableRow a b (i + 1) 1 :=
        nextRow_table (List.getElem?_eq_getElem hlt) 0 (Nat.zero_le _)
      rw [List.drop_zero, prefixDistance_zero_right] at hnext
      have hrow : (i + 1) :: nextRow a[i] b (tableRow a b i 0) (i + 1) =
          tableRow a b (i + 1) 0 := by
        rw [hnext, @tableRow_cons a b (i + 1) 0 (Nat.zero_le _), prefixDistance_zero_right]
      rw [hrow, distanceRow_table (i + 1) hlt]
    · have hend : i = a.length := by omega
      subst hend
      simp [distanceRow]
  termination_by i => a.length - i

/-- **The edit distance is the Levenshtein distance** of the two strings' characters. -/
theorem editDistance_eq_levenshtein (a b : String) :
    editDistance a b = levenshtein a.toList b.toList := by
  have hfirst : List.range (b.toList.length + 1) = tableRow a.toList b.toList 0 0 := by
    have hid : prefixDistance a.toList b.toList 0 = id := funext prefixDistance_zero_left
    simp [tableRow, List.range_eq_range', hid]
  have hlast := @distanceRow_table a.toList b.toList 0 (Nat.zero_le _)
  rw [List.drop_zero] at hlast
  rw [editDistance, hfirst, hlast, tableRow, List.getLast?_map, List.getLast?_range']
  simp [levenshtein]

/-! ### The similarity score -/

section Score

open Float.Model UnpackedFloat Binary64

theorem editDistance_comm (a b : String) : editDistance a b = editDistance b a := by
  rw [editDistance_eq_levenshtein, editDistance_eq_levenshtein, levenshtein_comm]

theorem editDistance_le_max (a b : String) : editDistance a b ≤ max a.length b.length := by
  rw [editDistance_eq_levenshtein, ← @String.length_toList a, ← @String.length_toList b]
  exact prefixDistance_le_max _ _

theorem abs_sub_le_editDistance (a b : String) :
    |(a.length : ℤ) - b.length| ≤ editDistance a b := by
  rw [editDistance_eq_levenshtein, ← @String.length_toList a, ← @String.length_toList b]
  obtain ⟨h₁, h₂⟩ := @sub_le_prefixDistance a.toList b.toList a.toList.length b.toList.length
  rw [abs_sub_le_iff]
  exact ⟨by unfold levenshtein; omega, by unfold levenshtein; omega⟩

theorem editDistance_eq_zero_iff {a b : String} : editDistance a b = 0 ↔ a = b := by
  rw [editDistance_eq_levenshtein, levenshtein_eq_zero_iff, String.toList_inj]

theorem similarity_self (a : String) : similarity a a = 1.0 := by
  simp [similarity]

theorem similarity_comm (a b : String) : similarity a b = similarity b a := by
  have hab : (a == b) = (b == a) := by
    rw [Bool.eq_iff_iff, beq_iff_eq, beq_iff_eq, eq_comm]
  unfold similarity
  rw [hab, editDistance_comm, max_comm]

/-- Apart from equal strings the score is one minus the distance over the longer length, which
is not zero. -/
theorem similarity_of_ne {a b : String} (h : a ≠ b) :
    similarity a b = 1.0 - (editDistance a b).toFloat / (max a.length b.length).toFloat := by
  have hpos : 0 < max a.length b.length :=
    (Nat.pos_of_ne_zero (editDistance_eq_zero_iff.not.mpr h)).trans_le (editDistance_le_max a b)
  unfold similarity
  rw [if_neg (by simpa using h)]
  dsimp only
  rw [if_neg (by simpa using hpos.ne')]

theorem similarity_belowOne {a b : String} (h : a ≠ b) (ha : a.length < 2 ^ 53)
    (hb : b.length < 2 ^ 53) : BelowOne (similarity a b).toModel.unpack := by
  rw [similarity_of_ne h]
  exact one_sub_div_toFloat_unpack (Nat.pos_of_ne_zero (editDistance_eq_zero_iff.not.mpr h))
    (editDistance_le_max a b) (max_lt ha hb)

variable {u : UnpackedFloat} {x : Float}

theorem compare_one_of_belowOne (h : BelowOne u) :
    u.compare (1.0 : Float).toModel.unpack = some .lt := by
  rw [unpack_one]
  rcases h with rfl | ⟨m, e, hm, rfl, he⟩
  · rfl
  · simp only [UnpackedFloat.compare, compare_lt_iff_lt.mpr he, Ordering.lt_then]

theorem zero_le_of_belowOne (h : BelowOne x.toModel.unpack) : 0.0 ≤ x := by
  rw [Confidence.le_iff]
  rcases h with hx | ⟨m, e, hm, hx, -⟩ <;> rw [hx] <;> rfl

theorem le_one_of_belowOne (h : BelowOne x.toModel.unpack) : x ≤ 1.0 := by
  rw [Confidence.le_iff, compare_one_of_belowOne h]
  rfl

theorem beq_one_of_belowOne (h : BelowOne x.toModel.unpack) : (x == 1.0) = false := by
  show x.toModel.unpack.beq (1.0 : Float).toModel.unpack = false
  rw [UnpackedFloat.beq, compare_one_of_belowOne h]
  rfl

/-- **Edit distance and similarity.** The distance is symmetric and lies between the difference
of the lengths and the larger length. The score is symmetric, lies in `[0, 1]`, and is one only
for equal strings: for strings shorter than `2 ^ 53` characters no distance of at least one is
rounded away. -/
theorem editDistance_similarity_bounds (a b : String) (ha : a.length < 2 ^ 53)
    (hb : b.length < 2 ^ 53) :
    editDistance a b = editDistance b a ∧
      |(a.length : ℤ) - b.length| ≤ editDistance a b ∧
      editDistance a b ≤ max a.length b.length ∧
      similarity a b = similarity b a ∧
      0.0 ≤ similarity a b ∧ similarity a b ≤ 1.0 ∧
      ((similarity a b == 1.0) = true ↔ a = b) := by
  refine ⟨editDistance_comm a b, abs_sub_le_editDistance a b, editDistance_le_max a b,
    similarity_comm a b, ?_⟩
  by_cases h : a = b
  · subst h
    rw [similarity_self]
    exact ⟨by decide, by decide, iff_of_true (by decide) rfl⟩
  · have hbelow := similarity_belowOne h ha hb
    exact ⟨zero_le_of_belowOne hbelow, le_one_of_belowOne hbelow,
      iff_of_false (by rw [beq_one_of_belowOne hbelow]; decide) h⟩

theorem kitten_sitting_score_symmetric_not_one :
    "kitten".length < 2 ^ 53 ∧ "sitting".length < 2 ^ 53 ∧
      similarity "kitten" "sitting" = similarity "sitting" "kitten" ∧
      ((similarity "kitten" "sitting" == 1.0) = true ↔ "kitten" = "sitting") :=
  have h := editDistance_similarity_bounds "kitten" "sitting" (by decide) (by decide)
  ⟨by decide, by decide, h.2.2.2.1, h.2.2.2.2.2.2⟩

end Score

end ProviderCoverage.Similarity
