import Mathlib
import ProviderCoverage.Proofs.Binary64

/-!
# Rounding to nearest, by value

`Binary64` follows the model's rounding through its bits. This module reads the same steps as
rational numbers. `Places acc f` says where a fraction `f ∈ [0, 1)` of a unit lies for the
accuracy `acc`: exactly at zero, or below, at or above one half. An extended mantissa
`Approximates` a rational when its residual bits place the part past the mantissa, and shifting
keeps that (`shiftRight_approximates`), so rounding to nearest stays on the same side as the
rational of every whole number (`roundedMantissa_le`, `le_roundedMantissa`).

All that later proofs use of rounding is `NearestAt x T r u`: `u` is the normal float `r · 2 ^ T`
and `r` is on the same side as `x` of every multiple of the unit `2 ^ T`
(`roundWithAccuracy_nearestAt`, `round_nearestAt`). A multiple of the unit rounds to itself
(`NearestAt.exact`), and bounds by multiples of powers of two carry over from `x` to the rounded
value (`NearestAt.value_le`, `NearestAt.le_value`).

With it a count below `2 ^ 53` converts exactly (`toFloat_unpack_exact`), the quotient of two
normal floats is the rounding of their ratio (`div_nearestAt`), and one minus the ratio of counts
`0 < d ≤ L < 2 ^ 53` is zero or a float below one: it is never rounded up to one
(`one_sub_div_toFloat_unpack`).
-/

namespace ProviderCoverage.Binary64

open Float.Model UnpackedFloat

/-! ## Places and approximations -/

/-- Where a fraction of a unit lies, for each accuracy of the model. -/
def Places : Accuracy → ℚ → Prop
  | .exact, f => f = 0
  | .inexact .lt, f => 0 < f ∧ f < 1 / 2
  | .inexact .eq, f => f = 1 / 2
  | .inexact .gt, f => 1 / 2 < f ∧ f < 1

/-- The residual bits of `em` place the part of `y` past its mantissa. -/
def Approximates (em : ExtendedMantissa) (y : ℚ) : Prop :=
  Places em.accuracy (y - em.mantissa)

theorem places_bounds {acc : Accuracy} {f : ℚ} (h : Places acc f) : 0 ≤ f ∧ f < 1 := by
  rcases acc with _ | ⟨_ | _ | _⟩ <;> simp only [Places] at h <;>
    constructor <;> linarith [h]

theorem places_exact {x : ℚ} {M : ℕ} {E : ℤ} (h : x = M * 2 ^ E) :
    Places .exact (x / 2 ^ E - M) := by
  show _ = (0 : ℚ)
  rw [h, mul_div_cancel_right₀ _ (zpow_ne_zero _ two_ne_zero), sub_self]

theorem places_accuracyOfFraction {num den : ℕ} (h : num < den) :
    Places (accuracyOfFraction num den) (num / den) := by
  have hden : (0 : ℚ) < den := by exact_mod_cast (show 0 < den by omega)
  unfold accuracyOfFraction
  split
  · simp [*, Places]
  · rename_i hnum
    have hpos : (0 : ℚ) < num / den := div_pos (by exact_mod_cast Nat.pos_of_ne_zero hnum) hden
    have hlt : (num : ℚ) / den < 1 := (div_lt_one hden).mpr (by exact_mod_cast h)
    have hhalf : ∀ c : Ordering, compare (2 * num) den = c →
        Places (.inexact c) (num / den) := by
      intro c hc
      rcases c with _ | _ | _ <;> simp only [Places]
      · have h2 : ((2 * num : ℕ) : ℚ) < den := by exact_mod_cast compare_lt_iff_lt.mp hc
        push_cast at h2
        exact ⟨hpos, by rw [div_lt_iff₀ hden]; linarith⟩
      · have h2 : 2 * num = den := compare_eq_iff_eq.mp hc
        rw [div_eq_iff hden.ne', ← h2]
        push_cast
        ring
      · have h2 : (den : ℚ) < ((2 * num : ℕ) : ℚ) := by exact_mod_cast compare_gt_iff_gt.mp hc
        push_cast at h2
        exact ⟨by rw [lt_div_iff₀ hden]; linarith, hlt⟩
    exact hhalf _ rfl

theorem shiftRightOne_approximates {em : ExtendedMantissa} {y : ℚ} (h : Approximates em y) :
    Approximates em.shiftRightOne (y / 2) := by
  obtain ⟨m, rb, sb⟩ := em
  have hm : (m : ℚ) = 2 * ((m / 2 : ℕ) : ℚ) + ((m % 2 : ℕ) : ℚ) := by
    exact_mod_cast (Nat.div_add_mod m 2).symm
  cases rb <;> cases sb <;>
    rcases Nat.mod_two_eq_zero_or_one m with hpar | hpar <;>
    simp only [Approximates, ExtendedMantissa.shiftRightOne, ExtendedMantissa.accuracy, Places,
      hpar, show (0 != 0) = false from rfl, show (1 != 0) = true from rfl, Bool.or_false,
      Bool.or_true, Nat.cast_zero, Nat.cast_one, add_zero] at h hm ⊢
  · linarith
  · linarith
  · exact ⟨by linarith [h.1], by linarith [h.2]⟩
  · exact ⟨by linarith [h.1], by linarith [h.2]⟩
  · exact ⟨by linarith, by linarith⟩
  · exact ⟨by linarith, by linarith⟩
  · exact ⟨by linarith [h.1], by linarith [h.2]⟩
  · exact ⟨by linarith [h.1], by linarith [h.2]⟩

theorem shiftRight_approximates {em : ExtendedMantissa} {y : ℚ} (h : Approximates em y) (k : ℕ) :
    Approximates (em >>> k) (y / 2 ^ k) := by
  induction k with
  | zero => simpa [HShiftRight.hShiftRight, Nat.repeat] using h
  | succ k ih =>
    rw [pow_succ, ← div_div]
    exact shiftRightOne_approximates ih

theorem approximates_ofMantissaAndAccuracy {M : ℕ} {acc : Accuracy} {y : ℚ}
    (h : Places acc (y - M)) : Approximates (ExtendedMantissa.ofMantissaAndAccuracy M acc) y := by
  rcases acc with _ | ⟨_ | _ | _⟩ <;> exact h

section Nearest

variable {em : ExtendedMantissa} {y : ℚ} {N : ℕ}

theorem roundedMantissa_le (h : Approximates em y) (hN : y ≤ N) : em.roundedMantissa ≤ N := by
  obtain ⟨m, rb, sb⟩ := em
  have hbounds := places_bounds h
  have hle : m ≤ N := by exact_mod_cast (by linarith [hbounds.1] : (m : ℚ) ≤ N)
  cases rb <;> cases sb <;>
    simp only [Approximates, ExtendedMantissa.accuracy, Places] at h <;>
    simp only [ExtendedMantissa.roundedMantissa, ExtendedMantissa.accuracy,
      Accuracy.roundToNearestEven]
  · exact hle
  · exact hle
  · have hlt : m < N := by exact_mod_cast (by linarith : (m : ℚ) < N)
    omega
  · have hlt : m < N := by exact_mod_cast (by linarith [h.1] : (m : ℚ) < N)
    omega

theorem le_roundedMantissa (h : Approximates em y) (hN : (N : ℚ) ≤ y) :
    N ≤ em.roundedMantissa := by
  have hbounds := places_bounds h
  have hle : N ≤ em.mantissa := by
    have : (N : ℚ) < em.mantissa + 1 := by linarith [hbounds.2]
    exact Nat.lt_succ_iff.mp (by exact_mod_cast this)
  exact hle.trans (roundedMantissa_bounds em).1

end Nearest

/-! ## Powers of two -/

theorem two_zpow_add_natCast (E : ℤ) (k : ℕ) : (2 : ℚ) ^ (E + k) = 2 ^ E * 2 ^ k := by
  rw [zpow_add₀ two_ne_zero, zpow_natCast]

theorem natCast_two_pow_mul {T k : ℤ} (hk : T ≤ k) :
    ((2 ^ (k - T).toNat : ℕ) : ℚ) * 2 ^ T = 2 ^ k := by
  rw [Nat.cast_pow, Nat.cast_ofNat, ← zpow_natCast, ← zpow_add₀ two_ne_zero]
  congr 1
  omega

theorem add_lt_of_two_pow_le {e k : ℤ} {v : ℚ} (hv : 2 ^ 52 * 2 ^ e ≤ v) (hlt : v < 2 ^ k) :
    e + 52 < k := by
  have h : (2 : ℚ) ^ (e + 52) < 2 ^ k := by
    rw [zpow_add₀ two_ne_zero, zpow_ofNat, mul_comm]
    exact hv.trans_lt hlt
  exact (zpow_lt_zpow_iff_right₀ one_lt_two).mp h

theorem exponent_lt {m : ℕ} {e k : ℤ} (hm : 2 ^ 52 ≤ m) (hlt : (m : ℚ) * 2 ^ e < 2 ^ k) :
    e + 52 < k :=
  add_lt_of_two_pow_le (by gcongr; exact_mod_cast hm) hlt

theorem lt_exponent {m : ℕ} {e k : ℤ} (hm : m < 2 ^ 53) (hle : 2 ^ k ≤ (m : ℚ) * 2 ^ e) :
    k < e + 53 := by
  have h : (2 : ℚ) ^ k < 2 ^ (e + 53) := by
    rw [zpow_add₀ two_ne_zero, zpow_ofNat, mul_comm]
    calc (2 : ℚ) ^ k ≤ m * 2 ^ e := hle
      _ < 2 ^ 53 * 2 ^ e := by gcongr; exact_mod_cast hm
  exact (zpow_lt_zpow_iff_right₀ one_lt_two).mp h

/-! ## Rounding to nearest -/

/-- `u` is the normal float `r · 2 ^ T` nearest to `x`: written with a mantissa of 53 bits (the
exponent one higher after a carry), `x` has its top bit 52 places above `2 ^ T`, and `r` lies on
the same side as `x` of every multiple of `2 ^ T`. -/
structure NearestAt (x : ℚ) (T : ℤ) (r : ℕ) (u : UnpackedFloat) : Prop where
  normal : ∃ m e hm, u = .finite .positive m e hm ∧ 2 ^ 52 ≤ m ∧ m < 2 ^ 53 ∧ T ≤ e ∧
    e ≤ T + 1 ∧ (m : ℚ) * 2 ^ e = r * 2 ^ T
  top : 2 ^ 52 * 2 ^ T ≤ x ∧ x < 2 ^ 53 * 2 ^ T
  le_of_le : ∀ N : ℕ, x ≤ N * 2 ^ T → r ≤ N
  ge_of_ge : ∀ N : ℕ, N * 2 ^ T ≤ x → N ≤ r

theorem top_of_places {M k : ℕ} {E : ℤ} {acc : Accuracy} {x : ℚ}
    (hx : Places acc (x / 2 ^ E - M)) (hk : M.log2 = 52 + k) (hM0 : M ≠ 0) :
    2 ^ 52 * 2 ^ (E + (k : ℤ)) ≤ x ∧ x < 2 ^ 53 * 2 ^ (E + (k : ℤ)) := by
  obtain ⟨hlo, hhi⟩ := places_bounds hx
  have hlog₁ : ((2 ^ (52 + k) : ℕ) : ℚ) ≤ M := by
    exact_mod_cast hk ▸ Nat.log2_self_le hM0
  have hlog₂ : (M : ℚ) + 1 ≤ ((2 ^ (53 + k) : ℕ) : ℚ) := by
    exact_mod_cast (show 53 + k = M.log2 + 1 by omega) ▸ Nat.lt_log2_self
  have hE : (0 : ℚ) < 2 ^ E := zpow_pos two_pos _
  rw [two_zpow_add_natCast]
  push_cast at hlog₁ hlog₂
  rw [pow_add] at hlog₁ hlog₂
  constructor
  · have := (le_div_iff₀ hE).mp (by linarith : (2 : ℚ) ^ 52 * 2 ^ k ≤ x / 2 ^ E)
    linarith
  · have := (div_lt_iff₀ hE).mp (by linarith : x / 2 ^ E < (2 : ℚ) ^ 53 * 2 ^ k)
    linarith

/-- **Rounding is to nearest.** A mantissa `M` of at least 53 bits at exponent `E`, with the
accuracy placing `x` in units of `2 ^ E`, rounds to the nearest multiple of the unit of its
top 53 bits. -/
theorem roundWithAccuracy_nearestAt {M : ℕ} {E : ℤ} {acc : Accuracy} {x : ℚ}
    (hx : Places acc (x / 2 ^ E - M)) (hM : 52 ≤ M.log2) (hE : -1074 ≤ (M.log2 : ℤ) + E - 52) :
    ∃ r, NearestAt x ((M.log2 : ℤ) + E - 52) r (roundWithAccuracy .binary64 .positive M E acc) := by
  have hM0 : M ≠ 0 := by intro h; simp [h] at hM
  have ht : Format.binary64.targetExponent (totalExponent M E) = (M.log2 : ℤ) + E - 52 := by
    simp only [Format.targetExponent, totalExponent, Format.mantissaBits, Format.minExponent]
    omega
  set k := M.log2 - 52 with hk
  have hfirst : shiftToTargetExponent .binary64 M E acc =
      (ExtendedMantissa.ofMantissaAndAccuracy M acc >>> k, E + k) := by
    simp only [shiftToTargetExponent, shiftToExponent, ht,
      show ((M.log2 : ℤ) + E - 52 - E).toNat = k by omega]
  have happrox : Approximates (ExtendedMantissa.ofMantissaAndAccuracy M acc >>> k)
      (x / 2 ^ (E + k)) := by
    rw [two_zpow_add_natCast, ← div_div]
    exact shiftRight_approximates (approximates_ofMantissaAndAccuracy hx) k
  have hpos : (0 : ℚ) < 2 ^ (E + (k : ℤ)) := zpow_pos two_pos _
  have htop := top_of_places hx (show M.log2 = 52 + k by omega) hM0
  unfold roundWithAccuracy
  rw [hfirst]
  dsimp only
  generalize ExtendedMantissa.ofMantissaAndAccuracy M acc >>> k = em at happrox
  have he : -1074 ≤ E + k := by omega
  have hupper : ∀ N : ℕ, x ≤ N * 2 ^ (E + (k : ℤ)) → em.roundedMantissa ≤ N := fun N hN =>
    roundedMantissa_le happrox ((div_le_iff₀ hpos).mpr hN)
  have hlower : ∀ N : ℕ, N * 2 ^ (E + (k : ℤ)) ≤ x → N ≤ em.roundedMantissa := fun N hN =>
    le_roundedMantissa happrox ((le_div_iff₀ hpos).mpr hN)
  have hr₀ : 2 ^ 52 ≤ em.roundedMantissa := hlower _ (by exact_mod_cast htop.1)
  have hr₁ : em.roundedMantissa ≤ 2 ^ 53 := hupper _ (by exact_mod_cast htop.2.le)
  rw [show (M.log2 : ℤ) + E - 52 = E + k by omega]
  refine ⟨em.roundedMantissa, ?_, htop, hupper, hlower⟩
  -- rounding up may carry into a 54th bit; the second shift then drops one more
  rcases Nat.lt_or_ge em.roundedMantissa (2 ^ 53) with hsmall | hcarry
  · rw [shiftToTargetExponent_normal (by omega) hsmall he]
    refine ⟨em.roundedMantissa, E + k, by omega, ?_, hr₀, hsmall, le_refl _, by omega, rfl⟩
    simp [show em.roundedMantissa ≠ 0 by omega]
  · have hr : em.roundedMantissa = 2 ^ 53 := by omega
    rw [hr, shiftToTargetExponent_carry he]
    refine ⟨2 ^ 52, E + k + 1, by omega, by simp, le_refl _, by norm_num, by omega, le_refl _, ?_⟩
    rw [zpow_add_one₀ two_ne_zero]
    push_cast
    ring

namespace NearestAt

variable {x : ℚ} {T : ℤ} {r : ℕ} {u : UnpackedFloat}

theorem eq_of_exact (h : NearestAt x T r u) {N : ℕ} (hx : x = N * 2 ^ T) : r = N :=
  le_antisymm (h.le_of_le N hx.le) (h.ge_of_ge N hx.ge)

theorem two_pow_le (h : NearestAt x T r u) : 2 ^ 52 ≤ r :=
  h.ge_of_ge (2 ^ 52) (by push_cast; exact h.top.1)

theorem add_lt (h : NearestAt x T r u) {k : ℤ} (hx : x < 2 ^ k) : T + 52 < k :=
  add_lt_of_two_pow_le h.top.1 hx

theorem exact (h : NearestAt x T r u) {N : ℕ} (hx : x = N * 2 ^ T) :
    ∃ m e hm, u = .finite .positive m e hm ∧ 2 ^ 52 ≤ m ∧ m < 2 ^ 53 ∧ T ≤ e ∧ e ≤ T + 1 ∧
      (m : ℚ) * 2 ^ e = x := by
  obtain ⟨m, e, hm, hu, hm₁, hm₂, he₁, he₂, hv⟩ := h.normal
  refine ⟨m, e, hm, hu, hm₁, hm₂, he₁, he₂, ?_⟩
  rw [hv, h.eq_of_exact hx, hx]

theorem value_le (h : NearestAt x T r u) {N : ℕ} {k : ℤ} (hk : T ≤ k) (hx : x ≤ N * 2 ^ k) :
    (r : ℚ) * 2 ^ T ≤ N * 2 ^ k := by
  have hN : ((N * 2 ^ (k - T).toNat : ℕ) : ℚ) * 2 ^ T = N * 2 ^ k := by
    rw [Nat.cast_mul, mul_assoc, natCast_two_pow_mul hk]
  have hr := h.le_of_le _ (hN ▸ hx)
  rw [← hN]
  gcongr

theorem le_value (h : NearestAt x T r u) {k : ℤ} (hx : 2 ^ k ≤ x) : 2 ^ k ≤ (r : ℚ) * 2 ^ T := by
  rcases le_or_gt T k with hk | hk
  · have hN : ((2 ^ (k - T).toNat : ℕ) : ℚ) * 2 ^ T = 2 ^ k := natCast_two_pow_mul hk
    have hr := h.ge_of_ge _ (hN ▸ hx)
    rw [← hN]
    gcongr
  · have hr : (1 : ℚ) ≤ r := by exact_mod_cast (Nat.one_le_two_pow.trans h.two_pow_le)
    calc (2 : ℚ) ^ k ≤ 2 ^ T := zpow_le_zpow_right₀ one_le_two hk.le
      _ ≤ r * 2 ^ T := le_mul_of_one_le_left (by positivity) hr

end NearestAt

theorem round_nearestAt (M : ℕ) (E : ℤ) (hM : 0 < M) (hE : -1074 ≤ (M.log2 : ℤ) + E - 52) :
    ∃ r, NearestAt (M * 2 ^ E) ((M.log2 : ℤ) + E - 52) r
      (UnpackedFloat.round .binary64 .positive M E) := by
  have ht : Format.binary64.targetExponent (totalExponent M E) = (M.log2 : ℤ) + E - 52 := by
    simp only [Format.targetExponent, totalExponent, Format.mantissaBits, Format.minExponent]
    omega
  set s := ((E - ((M.log2 : ℤ) + E - 52)).toNat) with hs
  have hlog : (M <<< s).log2 = M.log2 + s := by
    rw [Nat.shiftLeft_eq]
    exact log2_mul_two_pow hM s
  have hexact : Places .exact ((M : ℚ) * 2 ^ E / 2 ^ (E - (s : ℤ)) - ((M <<< s : ℕ) : ℚ)) := by
    refine places_exact ?_
    rw [Nat.shiftLeft_eq, zpow_sub₀ two_ne_zero, zpow_natCast]
    push_cast
    field_simp
  obtain ⟨r, hr⟩ := roundWithAccuracy_nearestAt hexact (by omega) (by omega)
  refine ⟨r, ?_⟩
  unfold UnpackedFloat.round decreaseExponent
  simp only [ht]
  rw [show ((M <<< s).log2 : ℤ) + (E - (s : ℤ)) - 52 = (M.log2 : ℤ) + E - 52 by omega] at hr
  exact hr

/-- A value at most `1 - 2 ^ -53` rounds below one: its unit is at most `2 ^ -53`, of which
`1 - 2 ^ -53` is a multiple. -/
theorem round_lt_one (M : ℕ) (E : ℤ) (hM : 0 < M) (hE : -1074 ≤ (M.log2 : ℤ) + E - 52)
    (hx : (M : ℚ) * 2 ^ E ≤ 1 - 2 ^ (-53 : ℤ)) :
    ∃ m e hm, UnpackedFloat.round .binary64 .positive M E = .finite .positive m e hm ∧
      2 ^ 52 ≤ m ∧ m < 2 ^ 53 ∧ -1074 ≤ e ∧ e < -52 := by
  obtain ⟨r, hr⟩ := round_nearestAt M E hM hE
  have hT := hr.add_lt (show (M : ℚ) * 2 ^ E < 2 ^ (0 : ℤ) by
    rw [zpow_zero]; linarith [show (0 : ℚ) < 2 ^ (-53 : ℤ) by positivity])
  have hunit : ((2 ^ 53 - 1 : ℕ) : ℚ) * 2 ^ (-53 : ℤ) = 1 - 2 ^ (-53 : ℤ) := by norm_num
  have hle := hr.value_le (N := 2 ^ 53 - 1) (k := -53) (by omega) (hunit ▸ hx)
  obtain ⟨m, e, hm, hu, hm₁, hm₂, he₁, -, hv⟩ := hr.normal
  have he := exponent_lt hm₁ (show (m : ℚ) * 2 ^ e < 2 ^ (0 : ℤ) by
    rw [hv]
    exact hle.trans_lt (by rw [hunit]; norm_num))
  exact ⟨m, e, hm, hu, hm₁, hm₂, by omega, by omega⟩

/-! ## Conversion, division and subtraction -/

theorem normalize_of_pos {M : ℤ} (hM : 0 < M) (E : ℤ) (zs : Sign) :
    UnpackedFloat.normalize .binary64 M E zs = UnpackedFloat.round .binary64 .positive M.toNat E := by
  unfold UnpackedFloat.normalize
  rw [show compare M 0 = .gt from compare_gt_iff_gt.mpr hM]

theorem normalize_zero (E : ℤ) (zs : Sign) :
    UnpackedFloat.normalize .binary64 0 E zs = .zero zs := by
  unfold UnpackedFloat.normalize
  rw [show compare (0 : ℤ) 0 = .eq from compare_eq_iff_eq.mpr rfl]

theorem normalize_exact {n : ℕ} (h0 : 0 < n) (h : n < 2 ^ 53) :
    ∃ m e hm, UnpackedFloat.normalize .binary64 n 0 .positive = .finite .positive m e hm ∧
      2 ^ 52 ≤ m ∧ m < 2 ^ 53 ∧ -52 ≤ e ∧ e ≤ 0 ∧ (m : ℚ) * 2 ^ e = n := by
  have hlog : n.log2 < 53 := (Nat.log2_lt (by omega)).mpr h
  have hn : (n : ℚ) < 2 ^ (53 : ℤ) := by rw [zpow_ofNat]; exact_mod_cast h
  obtain ⟨r, hr⟩ := round_nearestAt n 0 h0 (by omega)
  have hshift : (n : ℚ) * 2 ^ (0 : ℤ) =
      ((n * 2 ^ (52 - n.log2) : ℕ) : ℚ) * 2 ^ ((n.log2 : ℤ) + 0 - 52) := by
    rw [Nat.cast_mul, mul_assoc, show 52 - n.log2 = (0 - ((n.log2 : ℤ) + 0 - 52)).toNat by omega,
      natCast_two_pow_mul (by omega)]
  obtain ⟨m, e, hm, hu, hm₁, hm₂, he₁, -, hv⟩ := hr.exact hshift
  rw [zpow_zero, mul_one] at hv
  have he₂ := exponent_lt hm₁ (hv ▸ hn)
  refine ⟨m, e, hm, ?_, hm₁, hm₂, by omega, by omega, hv⟩
  rw [normalize_of_pos (by exact_mod_cast h0), Int.toNat_natCast, hu]

theorem mul_one_exact {m : ℕ} {e : ℤ} (hm : 0 < m) (hm₁ : 2 ^ 52 ≤ m) (hm₂ : m < 2 ^ 53)
    (he : -1074 ≤ e) :
    ∃ m' e' hm', UnpackedFloat.mul .binary64 (.finite .positive m e hm)
        (.finite .positive (2 ^ 52) (-52) (by decide)) = .finite .positive m' e' hm' ∧
      2 ^ 52 ≤ m' ∧ m' < 2 ^ 53 ∧ e ≤ e' ∧ e' ≤ e + 1 ∧ (m' : ℚ) * 2 ^ e' = m * 2 ^ e := by
  have hmlog : (m * 2 ^ 52).log2 = 104 := by
    rw [log2_mul_two_pow hm, log2_eq_of_bounds hm₁ hm₂]
  have hplaces : Places .exact ((m : ℚ) * 2 ^ e / 2 ^ (e + -52) - ((m * 2 ^ 52 : ℕ) : ℚ)) := by
    refine places_exact ?_
    rw [zpow_add₀ two_ne_zero, zpow_neg, zpow_ofNat]
    push_cast
    field_simp
    norm_num
  obtain ⟨r, hr⟩ := roundWithAccuracy_nearestAt hplaces (by omega) (by omega)
  rw [hmlog, show ((104 : ℕ) : ℤ) + (e + -52) - 52 = e by omega] at hr
  obtain ⟨m', e', hm', hu, hm₁', hm₂', he₁, he₂, hv⟩ := hr.exact (N := m) rfl
  refine ⟨m', e', hm', ?_, hm₁', hm₂', he₁, he₂, hv⟩
  rw [mul_finite_finite, positive_mul_positive, hu]

theorem toFloat_unpack_exact {n : ℕ} (h0 : 0 < n) (h : n < 2 ^ 53) :
    ∃ m e hm, n.toFloat.toModel.unpack = .finite .positive m e hm ∧ 2 ^ 52 ≤ m ∧ m < 2 ^ 53 ∧
      -52 ≤ e ∧ e ≤ 0 ∧ (m : ℚ) * 2 ^ e = n := by
  have hn : (n : ℚ) < 2 ^ (53 : ℤ) := by rw [zpow_ofNat]; exact_mod_cast h
  obtain ⟨m, e, hm, hnorm, hm₁, hm₂, he₁, he₂, hv⟩ := normalize_exact h0 h
  obtain ⟨m', e', hm', hmul, hm₁', hm₂', he₁', -, hv'⟩ := mul_one_exact (e := e) hm hm₁ hm₂ (by omega)
  rw [hv] at hv'
  have he₂' := exponent_lt hm₁' (hv' ▸ hn)
  refine ⟨m', e', hm', ?_, hm₁', hm₂', by omega, by omega, hv'⟩
  rw [toFloat_eq_mul h]
  show (Float.Model.pack (UnpackedFloat.mul .binary64 _ _)).unpack = _
  rw [unpack_powerOfTen_zero, toModel_toUInt64_toFloat h, hnorm,
    unpack_pack_normal .positive hm hm₁ hm₂ (by omega) (by omega), hmul,
    unpack_pack_normal .positive hm' hm₁' hm₂' (by omega) (by omega)]

theorem div_nearestAt {m₁ m₂ : ℕ} {e₁ e₂ : ℤ} (hm₁ : 0 < m₁) (hm₂ : 0 < m₂)
    (h₁ : 2 ^ 52 ≤ m₁) (h₁' : m₁ < 2 ^ 53) (h₂ : 2 ^ 52 ≤ m₂) (h₂' : m₂ < 2 ^ 53)
    (he : -1021 ≤ e₁ - e₂) :
    ∃ T r, NearestAt (m₁ * 2 ^ e₁ / (m₂ * 2 ^ e₂)) T r
      (UnpackedFloat.div .binary64 (.finite .positive m₁ e₁ hm₁) (.finite .positive m₂ e₂ hm₂)) := by
  have hlog₁ := log2_eq_of_bounds h₁ h₁'
  have hlog₂ := log2_eq_of_bounds h₂ h₂'
  have htarget : Format.binary64.targetExponent (totalExponent m₁ e₁ - totalExponent m₂ e₂) =
      e₁ - e₂ - 53 := by
    simp only [Format.targetExponent, totalExponent, Format.mantissaBits, Format.minExponent,
      hlog₁, hlog₂]
    omega
  have hcore : divCore .binary64 m₁ e₁ m₂ e₂ =
      (m₁ * 2 ^ 53 / m₂, e₁ - e₂ - 53, accuracyOfFraction (m₁ * 2 ^ 53 % m₂) m₂) := by
    simp only [divCore, htarget, min_eq_right (show e₁ - e₂ - 53 ≤ e₁ - e₂ by omega),
      show e₁ - e₂ - (e₁ - e₂ - 53) = 53 by omega, Nat.shiftLeft_eq]
    rfl
  set Q := m₁ * 2 ^ 53 / m₂ with hQ
  have hQ₁ : 2 ^ 52 ≤ Q := by
    apply (Nat.le_div_iff_mul_le hm₂).mpr
    calc 2 ^ 52 * m₂ ≤ 2 ^ 52 * 2 ^ 53 := by omega
      _ ≤ m₁ * 2 ^ 53 := by omega
  have hlogQ : 52 ≤ Q.log2 := (Nat.le_log2 (by omega)).mpr hQ₁
  have hplaces : Places (accuracyOfFraction (m₁ * 2 ^ 53 % m₂) m₂)
      ((m₁ * 2 ^ e₁ / (m₂ * 2 ^ e₂)) / 2 ^ (e₁ - e₂ - 53) - Q) := by
    have hdiv : ((m₁ * 2 ^ 53 : ℕ) : ℚ) = m₂ * Q + ((m₁ * 2 ^ 53 % m₂ : ℕ) : ℚ) := by
      exact_mod_cast (Nat.div_add_mod _ _).symm
    have hratio : (m₁ * 2 ^ e₁ / (m₂ * 2 ^ e₂)) / 2 ^ (e₁ - e₂ - 53) - Q =
        ((m₁ * 2 ^ 53 % m₂ : ℕ) : ℚ) / m₂ := by
      rw [eq_div_iff (by positivity), ← sub_eq_iff_eq_add'.mpr hdiv, zpow_sub₀ two_ne_zero,
        zpow_sub₀ two_ne_zero, zpow_ofNat]
      push_cast
      field_simp
      ring
    rw [hratio]
    exact places_accuracyOfFraction (Nat.mod_lt _ hm₂)
  obtain ⟨r, hr⟩ := roundWithAccuracy_nearestAt hplaces hlogQ (by omega)
  refine ⟨(Q.log2 : ℤ) + (e₁ - e₂ - 53) - 52, r, ?_⟩
  simp only [UnpackedFloat.div, hcore]
  exact hr

theorem div_toFloat_unpack {d L : ℕ} (hd : 0 < d) (hdL : d ≤ L) (hL : L < 2 ^ 53) :
    ∃ m e hm, (d.toFloat / L.toFloat).toModel.unpack = .finite .positive m e hm ∧
      2 ^ 52 ≤ m ∧ m < 2 ^ 53 ∧ (2 : ℚ) ^ (-53 : ℤ) ≤ m * 2 ^ e ∧ (m : ℚ) * 2 ^ e ≤ 1 := by
  obtain ⟨md, ed, hmd, hdu, hmd₁, hmd₂, hed₁, hed₂, hvd⟩ := toFloat_unpack_exact hd (by omega)
  obtain ⟨mL, eL, hmL, hLu, hmL₁, hmL₂, heL₁, heL₂, hvL⟩ := toFloat_unpack_exact (by omega) hL
  obtain ⟨T, r, hq⟩ := @div_nearestAt md mL ed eL hmd hmL hmd₁ hmd₂ hmL₁ hmL₂ (by omega)
  rw [hvd, hvL] at hq
  have hLpos : (0 : ℚ) < L := by exact_mod_cast (show 0 < L by omega)
  have hhi : (d : ℚ) / L ≤ 1 := (div_le_one hLpos).mpr (by exact_mod_cast hdL)
  have hlo : (2 : ℚ) ^ (-53 : ℤ) ≤ d / L := by
    have hL' : (L : ℚ) < 2 ^ 53 := by exact_mod_cast hL
    have hd' : (1 : ℚ) ≤ d := by exact_mod_cast hd
    rw [le_div_iff₀ hLpos, zpow_neg, zpow_ofNat]
    calc ((2 : ℚ) ^ 53)⁻¹ * L ≤ (2 ^ 53)⁻¹ * 2 ^ 53 := by gcongr
      _ = 1 := by norm_num
      _ ≤ d := hd'
  have hT := hq.add_lt (hhi.trans_lt (show (1 : ℚ) < 2 ^ (1 : ℤ) by norm_num))
  obtain ⟨m, e, hm, hu, hm₁, hm₂, -, he₂, hv⟩ := hq.normal
  have hmlo : (2 : ℚ) ^ (-53 : ℤ) ≤ m * 2 ^ e := hv ▸ hq.le_value hlo
  have he₁ := lt_exponent hm₂ hmlo
  refine ⟨m, e, hm, ?_, hm₁, hm₂, hmlo, ?_⟩
  · show (Float.Model.pack (UnpackedFloat.div .binary64 d.toFloat.toModel.unpack
      L.toFloat.toModel.unpack)).unpack = _
    rw [hdu, hLu, hu, unpack_pack_normal .positive hm hm₁ hm₂ (by omega) (by omega)]
  · rw [hv]
    simpa using hq.value_le (N := 1) (k := 0) (by omega) (by simpa using hhi)

theorem sub_finite_finite {m₁ m₂ : ℕ} {e₁ e₂ : ℤ} (h₁ : 0 < m₁) (h₂ : 0 < m₂) (he : e₂ ≤ e₁) :
    UnpackedFloat.sub .binary64 (.finite .positive m₁ e₁ h₁) (.finite .positive m₂ e₂ h₂) =
      UnpackedFloat.normalize .binary64 ((m₁ * 2 ^ (e₁ - e₂).toNat : ℕ) - m₂ : ℤ) e₂ .positive := by
  simp only [UnpackedFloat.sub, decreaseExponent, min_eq_right he, sub_self, Int.toNat_zero,
    Nat.shiftLeft_eq, pow_zero, mul_one, Sign.apply]

/-- Zero, or a positive float at an exponent below that of one. -/
def BelowOne (u : UnpackedFloat) : Prop :=
  u = .zero .positive ∨ ∃ m e hm, u = .finite .positive m e hm ∧ e < -52

/-- One minus a float in `[2 ^ -53, 1]` is zero or a float below one: the difference is exact,
at most `1 - 2 ^ -53`, and rounding keeps it below one. -/
theorem one_sub_unpack {q : Float} {m₀ : ℕ} {e₀ : ℤ} {hm₀ : 0 < m₀}
    (hq : q.toModel.unpack = .finite .positive m₀ e₀ hm₀) (hm₁ : 2 ^ 52 ≤ m₀) (hm₂ : m₀ < 2 ^ 53)
    (hlo : (2 : ℚ) ^ (-53 : ℤ) ≤ m₀ * 2 ^ e₀) (hhi : (m₀ : ℚ) * 2 ^ e₀ ≤ 1) :
    BelowOne (1.0 - q).toModel.unpack := by
  have he₀ : e₀ + 52 < 1 := exponent_lt hm₁ (hhi.trans_lt (by norm_num))
  have he₀' : -53 < e₀ + 53 := lt_exponent hm₂ hlo
  set A := 2 ^ 52 * 2 ^ (-52 - e₀).toNat with hA
  have hAval : (A : ℚ) * 2 ^ e₀ = 1 := by
    rw [hA, Nat.cast_mul, mul_assoc, natCast_two_pow_mul (by omega)]
    norm_num
  have hmA : m₀ ≤ A := by
    have : (m₀ : ℚ) * 2 ^ e₀ ≤ A * 2 ^ e₀ := hAval ▸ hhi
    exact_mod_cast le_of_mul_le_mul_right this (by positivity)
  have hval : ((A - m₀ : ℕ) : ℚ) * 2 ^ e₀ = 1 - m₀ * 2 ^ e₀ := by
    rw [Nat.cast_sub hmA, sub_mul, hAval]
  have hsub : (1.0 - q).toModel.unpack = (Float.Model.pack
      (UnpackedFloat.normalize .binary64 ((A - m₀ : ℕ) : ℤ) e₀ .positive)).unpack := by
    show (Float.Model.pack (UnpackedFloat.sub .binary64 (1.0 : Float).toModel.unpack
      q.toModel.unpack)).unpack = _
    rw [unpack_one, hq, sub_finite_finite _ _ (by omega),
      show ((A : ℤ) - m₀ : ℤ) = ((A - m₀ : ℕ) : ℤ) by omega]
  rcases Nat.eq_zero_or_pos (A - m₀) with hzero | hpos
  · left
    rw [hsub, hzero, Nat.cast_zero, normalize_zero]
    rfl
  · right
    rw [normalize_of_pos (by exact_mod_cast hpos), Int.toNat_natCast] at hsub
    obtain ⟨m, e, hm, hu, hm₁', hm₂', he₁, he₂⟩ :=
      round_lt_one (A - m₀) e₀ hpos (by omega) (by rw [hval]; linarith)
    refine ⟨m, e, hm, ?_, he₂⟩
    rw [hsub, hu, unpack_pack_normal .positive hm hm₁' hm₂' he₁ (by omega)]

/-- One minus a ratio of counts `0 < d ≤ L < 2 ^ 53` is zero or a float below one: it is never
rounded up to one. -/
theorem one_sub_div_toFloat_unpack {d L : ℕ} (hd : 0 < d) (hdL : d ≤ L) (hL : L < 2 ^ 53) :
    BelowOne (1.0 - d.toFloat / L.toFloat).toModel.unpack := by
  obtain ⟨m, e, hm, hq, hm₁, hm₂, hlo, hhi⟩ := div_toFloat_unpack hd hdL hL
  exact one_sub_unpack hq hm₁ hm₂ hlo hhi

end ProviderCoverage.Binary64
