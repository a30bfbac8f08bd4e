import Mathlib
import ProviderCoverage.Unicode.Run

/-!
# Runs of code points as bitmaps

A run holds code points from its `start` to its `last`, and all of them have the parity of the
start when it steps by two or holds one point. A list of runs is written as two bitmaps, one for
each parity, in which the point `n` is bit `n / 2` of the bitmap of parity `n % 2`
(`CodeRun.halves`). A run that steps by two fills a block of bits in one bitmap; any other run is
written as all the points from its start to its last, which covers its own. So each run is a few
operations on numbers, and two lists of runs share no point when their bitmaps share no bit
(`CodeRun.disjoint`, sound by `CodeRun.contains_of_disjoint`). This is how the case tables of the
library are compared with each other in the kernel.
-/

namespace ProviderCoverage.Unicode

/-- The bits from `lo` on, `len` of them. -/
def bitRange (lo len : Nat) : Nat := (2 ^ len - 1) <<< lo

theorem testBit_bitRange {lo len j : Nat} :
    (bitRange lo len).testBit j = true ↔ lo ≤ j ∧ j < lo + len := by
  simp only [bitRange, Nat.testBit_shiftLeft, Nat.testBit_two_pow_sub_one, Bool.and_eq_true,
    decide_eq_true_eq]
  omega

namespace CodeRun

/-- The last code point of a run that is not empty. -/
def last (r : CodeRun) : Nat := r.start + (r.count - 1) * r.stride

/-- Whether all the points of a run have the parity of its start. -/
def evenStep (r : CodeRun) : Bool := r.count ≤ 1 || r.stride == 2

/-- The bitmap of the points of parity `p` of a run, the point `n` at bit `n / 2`: a block for a
run whose points share a parity, else all the points of parity `p` from the start to the last. -/
def half (r : CodeRun) (p : Nat) : Nat :=
  if r.evenStep then (if r.start % 2 = p then bitRange (r.start / 2) r.count else 0)
  else bitRange ((r.start + 1 - p) / 2) ((r.last + 2 - p) / 2 - (r.start + 1 - p) / 2)

def halves (rs : List CodeRun) (p : Nat) : Nat := rs.foldr (fun r m => r.half p ||| m) 0

/-- Two lists of runs whose bitmaps share no bit, for either parity. -/
def disjoint (as bs : List CodeRun) : Bool :=
  halves as 0 &&& halves bs 0 == 0 && halves as 1 &&& halves bs 1 == 0

variable {r a b : CodeRun} {rs as bs : List CodeRun} {n : Nat}

theorem contains_iff : r.contains n = true ↔ ∃ k < r.count, n = r.start + k * r.stride := by
  simp only [contains, Bool.and_eq_true, decide_eq_true_eq, beq_iff_eq]
  constructor
  · rintro ⟨⟨hle, hmod⟩, hlt⟩
    have hdiv := Nat.div_add_mod (n - r.start) r.stride
    rw [hmod, Nat.add_zero, Nat.mul_comm] at hdiv
    exact ⟨_, hlt, by omega⟩
  · rintro ⟨k, hk, rfl⟩
    rcases Nat.eq_zero_or_pos r.stride with hzero | hpos
    · simp only [hzero, Nat.mul_zero, Nat.add_zero, Nat.sub_self, Nat.zero_mod, Nat.zero_div,
        le_refl, and_self, true_and]
      omega
    · simp [Nat.mul_div_cancel _ hpos, hk]

theorem le_of_contains (h : r.contains n = true) : r.start ≤ n ∧ n ≤ r.last := by
  obtain ⟨k, hk, rfl⟩ := contains_iff.mp h
  have hstep : k * r.stride ≤ (r.count - 1) * r.stride := Nat.mul_le_mul_right _ (by omega)
  exact ⟨by omega, by rw [last]; omega⟩

theorem testBit_half (h : r.contains n = true) : (r.half (n % 2)).testBit (n / 2) = true := by
  obtain ⟨k, hk, hn⟩ := contains_iff.mp h
  have hbounds := le_of_contains h
  unfold half
  split
  · rename_i heven
    simp only [evenStep, Bool.or_eq_true, decide_eq_true_eq, beq_iff_eq] at heven
    have hstep : n % 2 = r.start % 2 ∧ n / 2 = r.start / 2 + k := by
      rcases heven with hone | htwo
      · obtain rfl : k = 0 := by omega
        omega
      · rw [htwo] at hn
        omega
    rw [if_pos hstep.1.symm, testBit_bitRange]
    omega
  · rw [testBit_bitRange]
    omega

theorem testBit_halves (hr : r ∈ rs) (h : r.contains n = true) :
    (halves rs (n % 2)).testBit (n / 2) = true := by
  induction rs with
  | nil => cases hr
  | cons x rs ih =>
    simp only [halves, List.foldr_cons, Nat.testBit_or, Bool.or_eq_true] at ih ⊢
    rcases List.mem_cons.mp hr with rfl | hr
    · exact Or.inl (testBit_half h)
    · exact Or.inr (ih hr)

theorem contains_of_disjoint (hd : disjoint as bs = true) (ha : a ∈ as) (hb : b ∈ bs)
    (han : a.contains n = true) : b.contains n = false := by
  rw [Bool.eq_false_iff]
  intro hbn
  have hand : halves as (n % 2) &&& halves bs (n % 2) = 0 := by
    simp only [disjoint, Bool.and_eq_true, beq_iff_eq] at hd
    rcases Nat.mod_two_eq_zero_or_one n with hp | hp <;> rw [hp]
    exacts [hd.1, hd.2]
  have hbit := Nat.testBit_and (halves as (n % 2)) (halves bs (n % 2)) (n / 2)
  rw [hand, Nat.zero_testBit, testBit_halves ha han, testBit_halves hb hbn] at hbit
  exact Bool.false_ne_true hbit

end CodeRun

end ProviderCoverage.Unicode
