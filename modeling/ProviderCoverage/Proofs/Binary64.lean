import Mathlib

/-!
# Binary64 arithmetic without NaN

Facts about Lean's binary64 model (`Float.Model`) that a computation on counts needs: no
rounding produces NaN, packing keeps NaN and only NaN, so arithmetic produces NaN only from a NaN
operand or from the pairs IEEE names (`∞ - ∞`, `0 / 0`, `∞ / ∞`, `0 · ∞`). A natural number is
never NaN as a float, and one below `2 ^ 256` is a finite float other than zero: its conversion
rounds a mantissa of at least 53 bits at a normal exponent, which gives a normal float.

So a quotient of two counts whose divisor is not zero, and one minus it, are numbers.
-/

namespace ProviderCoverage.Binary64

open Float.Model UnpackedFloat

/-! ## Nothing rounds to NaN -/

theorem roundWithAccuracy_isNaN (spec : Format) (s : Sign) (m : Nat) (e : Int) (a : Accuracy) :
    (roundWithAccuracy spec s m e a).isNaN = false := by
  unfold roundWithAccuracy
  dsimp only
  split <;> rfl

theorem round_isNaN (spec : Format) (s : Sign) (m : Nat) (e : Int) :
    (UnpackedFloat.round spec s m e).isNaN = false := by
  unfold UnpackedFloat.round
  dsimp only
  exact roundWithAccuracy_isNaN _ _ _ _ _

theorem normalize_isNaN (spec : Format) (m e : Int) (s : Sign) :
    (UnpackedFloat.normalize spec m e s).isNaN = false := by
  unfold UnpackedFloat.normalize
  split
  · exact round_isNaN _ _ _ _
  · rfl
  · exact round_isNaN _ _ _ _

/-- Packing keeps NaN and only NaN: every other value packs to an exponent field that is not
all ones, or to an infinity. -/
theorem unpack_pack_isNaN (x : UnpackedFloat) : (Float.Model.pack x).unpack.isNaN = x.isNaN := by
  have hE : ∀ (s : Sign) (E : BitVec 11) (M : BitVec 52), E ≠ -1#11 →
      (UnpackedFloat.unpack .binary64 (packComponents .binary64 s E M)).isNaN = false := by
    intro s E M hE
    unfold UnpackedFloat.unpack
    simp only [unpackExponent_packComponents, unpackMantissa_packComponents]
    rw [if_neg hE]
    split
    · split <;> rfl
    · rfl
  simp only [Float.Model.pack, Float.Model.unpack, UInt64.toBitVec_ofBitVec]
  rcases x with s | _ | s | ⟨s, m, e, hm⟩
  · cases s <;> decide
  · decide
  · cases s <;> decide
  · show _ = false
    unfold UnpackedFloat.pack
    dsimp only
    split
    · cases s <;> decide
    · split
      · apply hE
        rename_i h _
        intro h'
        have := congrArg BitVec.toNat h'
        simp [Format.exponentBias] at this h
        omega
      · exact hE _ _ _ (by decide)

theorem mul_finite_isNaN (x : UnpackedFloat) (s : Sign) (m : Nat) (e : Int) (hm : 0 < m) :
    (UnpackedFloat.mul .binary64 x (.finite s m e hm)).isNaN = x.isNaN := by
  cases x with
  | finite => exact roundWithAccuracy_isNaN _ _ _ _ _
  | _ => rfl

theorem div_finite_isNaN (x : UnpackedFloat) (s : Sign) (m : Nat) (e : Int) (hm : 0 < m) :
    (UnpackedFloat.div .binary64 x (.finite s m e hm)).isNaN = x.isNaN := by
  cases x with
  | finite => exact roundWithAccuracy_isNaN _ _ _ _ _
  | _ => rfl

theorem finite_sub_isNaN (s : Sign) (m : Nat) (e : Int) (hm : 0 < m) (y : UnpackedFloat) :
    (UnpackedFloat.sub .binary64 (.finite s m e hm) y).isNaN = y.isNaN := by
  cases y with
  | finite => exact normalize_isNaN _ _ _ _
  | _ => rfl

theorem isNaN_div_of_finite (a b : Float) {s : Sign} {m : Nat} {e : Int} {hm : 0 < m}
    (hb : b.toModel.unpack = .finite s m e hm) : (a / b).isNaN = a.isNaN := by
  show (Float.Model.pack (UnpackedFloat.div .binary64 a.toModel.unpack b.toModel.unpack)).unpack.isNaN = _
  rw [unpack_pack_isNaN, hb, div_finite_isNaN]
  rfl

theorem isNaN_sub_of_finite (a b : Float) {s : Sign} {m : Nat} {e : Int} {hm : 0 < m}
    (ha : a.toModel.unpack = .finite s m e hm) : (a - b).isNaN = b.isNaN := by
  show (Float.Model.pack (UnpackedFloat.sub .binary64 a.toModel.unpack b.toModel.unpack)).unpack.isNaN = _
  rw [unpack_pack_isNaN, ha, finite_sub_isNaN]
  rfl

/-! ## Normal floats -/

theorem log2_eq_of_bounds {n k : Nat} (h₁ : 2^k ≤ n) (h₂ : n < 2^(k+1)) : n.log2 = k := by
  have hn : n ≠ 0 := by have := Nat.one_le_two_pow (n := k); omega
  have := (Nat.log2_lt hn).mpr h₂
  have := (Nat.le_log2 hn).mpr h₁
  omega

theorem log2_mul_two_pow {m : Nat} (hm : 0 < m) (k : Nat) : (m * 2^k).log2 = m.log2 + k := by
  apply log2_eq_of_bounds
  · rw [Nat.pow_add]
    exact Nat.mul_le_mul_right _ (Nat.log2_self_le (by omega))
  · rw [show m.log2 + k + 1 = (m.log2 + 1) + k by omega, Nat.pow_add]
    exact Nat.mul_lt_mul_of_pos_right Nat.lt_log2_self (Nat.two_pow_pos k)

theorem shiftRight_mantissa (em : ExtendedMantissa) (k : Nat) :
    (em >>> k).mantissa = em.mantissa / 2^k := by
  induction k generalizing em with
  | zero => simp [HShiftRight.hShiftRight, Nat.repeat]
  | succ k ih =>
    change (ExtendedMantissa.shiftRightOne (em >>> k)).mantissa = _
    simp only [ExtendedMantissa.shiftRightOne, ih, Nat.div_div_eq_div_mul, Nat.pow_succ]

theorem roundedMantissa_bounds (em : ExtendedMantissa) :
    em.mantissa ≤ em.roundedMantissa ∧ em.roundedMantissa ≤ em.mantissa + 1 := by
  rcases em with ⟨m, _ | _, _ | _⟩ <;>
    simp [ExtendedMantissa.roundedMantissa, ExtendedMantissa.accuracy, Accuracy.roundToNearestEven]
  omega

theorem shiftToTargetExponent_normal {r : Nat} {e : Int} (h₁ : 2^52 ≤ r) (h₂ : r < 2^53)
    (he : -1074 ≤ e) : shiftToTargetExponent .binary64 r e .exact = (⟨r, false, false⟩, e) := by
  have ht : Format.binary64.targetExponent (totalExponent r e) = e := by
    simp only [Format.targetExponent, totalExponent, log2_eq_of_bounds h₁ h₂, Format.mantissaBits,
      Format.minExponent]
    omega
  simp only [shiftToTargetExponent, shiftToExponent, ht, sub_self, Int.toNat_zero,
    ExtendedMantissa.ofMantissaAndAccuracy, Nat.cast_zero, add_zero]
  rfl

theorem shiftToTargetExponent_carry {e : Int} (he : -1074 ≤ e) :
    shiftToTargetExponent .binary64 (2^53) e .exact = (⟨2^52, false, false⟩, e + 1) := by
  have ht : Format.binary64.targetExponent (totalExponent (2^53) e) = e + 1 := by
    simp only [Format.targetExponent, totalExponent, Nat.log2_two_pow, Format.mantissaBits,
      Format.minExponent]
    omega
  simp only [shiftToTargetExponent, shiftToExponent, ht, show (e + 1 - e).toNat = 1 by omega,
    ExtendedMantissa.ofMantissaAndAccuracy, Nat.cast_one]
  rfl

/-- Rounding a mantissa of at least 53 bits at an exponent in the normal range gives a normal
float: 53 bits of mantissa, at the exponent of the kept bits or one above it after a carry. -/
theorem roundWithAccuracy_normal (s : Sign) {M : Nat} {E : Int} (hM : 52 ≤ M.log2)
    (hE : -1074 ≤ (M.log2 : Int) + E - 52) :
    ∃ m e hm, 2^52 ≤ m ∧ m < 2^53 ∧ (M.log2 : Int) + E - 52 ≤ e ∧ e ≤ (M.log2 : Int) + E - 51 ∧
      roundWithAccuracy .binary64 s M E .exact = .finite s m e hm := by
  have hM0 : M ≠ 0 := by intro h; simp [h] at hM
  have ht : Format.binary64.targetExponent (totalExponent M E) = (M.log2 : Int) + E - 52 := by
    simp only [Format.targetExponent, totalExponent, Format.mantissaBits, Format.minExponent]
    omega
  set k := M.log2 - 52 with hk
  have hq₁ : 2^52 ≤ M / 2^k := by
    apply (Nat.le_div_iff_mul_le (Nat.two_pow_pos k)).mpr
    rw [← Nat.pow_add, show 52 + k = M.log2 by omega]
    exact Nat.log2_self_le hM0
  have hq₂ : M / 2^k < 2^53 := by
    apply (Nat.div_lt_iff_lt_mul (Nat.two_pow_pos k)).mpr
    rw [← Nat.pow_add, show 53 + k = M.log2 + 1 by omega]
    exact Nat.lt_log2_self
  have hfirst : shiftToTargetExponent .binary64 M E .exact =
      (ExtendedMantissa.ofMantissaAndAccuracy M .exact >>> k, E + k) := by
    simp only [shiftToTargetExponent, shiftToExponent, ht,
      show ((M.log2 : Int) + E - 52 - E).toNat = k by omega]
  have hmant : (ExtendedMantissa.ofMantissaAndAccuracy M .exact >>> k).mantissa = M / 2^k := by
    rw [shiftRight_mantissa]
    rfl
  unfold roundWithAccuracy
  rw [hfirst]
  dsimp only
  generalize ExtendedMantissa.ofMantissaAndAccuracy M .exact >>> k = em at hmant
  obtain ⟨hr₁, hr₂⟩ := roundedMantissa_bounds em
  have he : -1074 ≤ E + k := by omega
  rcases Nat.lt_or_ge em.roundedMantissa (2^53) with hsmall | hcarry
  · rw [shiftToTargetExponent_normal (by omega) hsmall he]
    refine ⟨em.roundedMantissa, E + k, by omega, by omega, hsmall, by omega, by omega, ?_⟩
    simp [show em.roundedMantissa ≠ 0 by omega]
  · rw [show em.roundedMantissa = 2^53 by omega, shiftToTargetExponent_carry he]
    refine ⟨2^52, E + k + 1, by omega, le_refl _, by omega, by omega, by omega, ?_⟩
    simp

theorem sign_unpack_packComponents (s : Sign) (E : BitVec 11) (M : BitVec 52) :
    Sign.ofBitVec (unpackSign (packComponents .binary64 s E M)) = s := by
  simp only [unpackSign, packComponents, BitVec.extractLsb]
  rw [BitVec.extractLsb'_append_eq_of_le (by omega), BitVec.extractLsb'_append_eq_of_le (by omega)]
  cases s <;> rfl

theorem unpack_pack_normal (s : Sign) {m : Nat} {e : Int} (hm : 0 < m) (hm₁ : 2^52 ≤ m)
    (hm₂ : m < 2^53) (he₁ : -1074 ≤ e) (he₂ : e ≤ 971) :
    (Float.Model.pack (.finite s m e hm)).unpack = .finite s m e hm := by
  have hlog : m.log2 = 52 := log2_eq_of_bounds hm₁ hm₂
  have hbias : (e + Format.binary64.exponentBias + Format.binary64.mantissaBitsWithoutImplicit).toNat
      = (e + 1075).toNat := by
    show (e + (2 ^ (11 - 1) - 1 : Nat) + (52 : Nat)).toNat = (e + 1075).toNat
    omega
  have hne : ∀ v : BitVec 11, v.toNat ≠ (e + 1075).toNat → BitVec.ofNat 11 (e + 1075).toNat ≠ v := by
    intro v hv heq
    rw [← heq, BitVec.toNat_ofNat, Nat.mod_eq_of_lt (by omega)] at hv
    exact hv rfl
  have hmant : (1#1 ++ BitVec.ofNat 52 m).toNat = m := by
    rw [BitVec.toNat_append, ← Nat.shiftLeft_add_eq_or_of_lt (BitVec.ofNat 52 m).isLt,
      BitVec.toNat_ofNat, Nat.shiftLeft_eq]
    simp only [BitVec.toNat_ofNat]
    omega
  simp only [Float.Model.pack, Float.Model.unpack, UInt64.toBitVec_ofBitVec]
  rw [UnpackedFloat.pack]
  simp only [hlog, hbias]
  rw [if_neg (by omega), if_pos (by simp [Format.mantissaBits])]
  rw [UnpackedFloat.unpack]
  simp only [unpackMantissa_packComponents, unpackExponent_packComponents,
    sign_unpack_packComponents]
  rw [if_neg (hne _ (by simp; omega)), if_neg (hne _ (by simp; omega))]
  simp only [hmant, BitVec.toNat_ofNat, Nat.mod_eq_of_lt (show (e + 1075).toNat < 2^11 by omega)]
  congr 1
  show ((e + 1075).toNat : Int) - (1023 + 52) = e
  omega

/-! ## Counts as floats -/

theorem unpack_powerOfTen_zero :
    (getElem Float.exactlyRepresentablePowersOfTen 0 (by decide)).toModel.unpack =
      .finite .positive (2^52) (-52) (by decide) := rfl

theorem unpack_one : (1.0 : Float).toModel.unpack = .finite .positive (2^52) (-52) (by decide) :=
  rfl

theorem toFloat_eq_mul {n : Nat} (h : n < 2^53) :
    n.toFloat = n.toUInt64.toFloat * getElem Float.exactlyRepresentablePowersOfTen 0 (by decide) := by
  show Float.ofScientific n false 0 = _
  unfold Float.ofScientific
  rw [dif_pos ⟨h, by decide⟩]
  rfl

theorem toModel_toUInt64_toFloat {n : Nat} (h : n < 2^53) :
    n.toUInt64.toFloat.toModel = Float.Model.pack (UnpackedFloat.normalize .binary64 n 0 .positive) := by
  have hn : n.toUInt64.toNat = n :=
    UInt64.toNat_ofNat_of_lt (by have : UInt64.size = 2^64 := rfl; omega)
  show Float.Model.pack (UnpackedFloat.ofNat .binary64 n.toUInt64.toNat) = _
  rw [hn]
  rfl

theorem toModel_toFloat_of_ge {n : Nat} (h : ¬n < 2^53) :
    n.toFloat.toModel = Float.Model.pack (UnpackedFloat.ofScientific .binary64 n 0) := by
  show (Float.ofScientific n false 0).toModel = _
  unfold Float.ofScientific
  rw [dif_neg (by omega)]
  rfl

theorem toFloat_isNaN (n : Nat) : n.toFloat.isNaN = false := by
  by_cases h : n < 2^53
  · rw [toFloat_eq_mul h]
    show (Float.Model.pack (UnpackedFloat.mul .binary64 _ _)).unpack.isNaN = false
    rw [unpack_pack_isNaN, unpack_powerOfTen_zero, mul_finite_isNaN, toModel_toUInt64_toFloat h,
      unpack_pack_isNaN, normalize_isNaN]
  · show n.toFloat.toModel.unpack.isNaN = false
    rw [toModel_toFloat_of_ge h, unpack_pack_isNaN]
    unfold UnpackedFloat.ofScientific
    split
    · rfl
    · have hpow : (2 : Int) ^ Format.binary64.exponentBits = 2048 := rfl
      rw [if_neg (by decide), if_neg (by omega), if_pos (by decide), mul_finite_isNaN]
      rfl

theorem mul_finite_finite (s₁ s₂ : Sign) (m₁ m₂ : Nat) (e₁ e₂ : Int) (h₁ : 0 < m₁) (h₂ : 0 < m₂) :
    UnpackedFloat.mul .binary64 (.finite s₁ m₁ e₁ h₁) (.finite s₂ m₂ e₂ h₂) =
      roundWithAccuracy .binary64 (s₁ * s₂) (m₁ * m₂) (e₁ + e₂) .exact := rfl

theorem positive_mul_positive : Sign.positive * Sign.positive = .positive := rfl

theorem normalize_normal {n : Nat} (h0 : 0 < n) :
    ∃ m e hm, 2^52 ≤ m ∧ m < 2^53 ∧ (n.log2 : Int) - 52 ≤ e ∧ e ≤ (n.log2 : Int) - 51 ∧
      UnpackedFloat.normalize .binary64 n 0 .positive = .finite .positive m e hm := by
  have ht : Format.binary64.targetExponent (totalExponent n 0) = (n.log2 : Int) - 52 := by
    simp only [Format.targetExponent, totalExponent, Format.mantissaBits, Format.minExponent]
    omega
  have hlog := log2_mul_two_pow h0 (52 - n.log2)
  obtain ⟨m, e, hm, hm₁, hm₂, he₁, he₂, hround⟩ := roundWithAccuracy_normal .positive
    (M := n * 2^(52 - n.log2)) (E := -((52 - n.log2 : Nat) : Int)) (by omega) (by omega)
  refine ⟨m, e, hm, hm₁, hm₂, by omega, by omega, ?_⟩
  unfold UnpackedFloat.normalize UnpackedFloat.round decreaseExponent
  rw [show compare (n : Int) 0 = .gt from compare_gt_iff_gt.mpr (by omega)]
  simp only [Int.toNat_natCast, ht, Nat.shiftLeft_eq, zero_sub,
    show (-((n.log2 : Int) - 52)).toNat = 52 - n.log2 by omega]
  exact hround

theorem toFloat_unpack_finite {n : Nat} (h0 : 0 < n) (h : n < 2^256) :
    ∃ s m e hm, n.toFloat.toModel.unpack = .finite s m e hm := by
  have hlog : n.log2 < 256 := (Nat.log2_lt (by omega)).mpr h
  obtain ⟨m, e, hm, hm₁, hm₂, he₁, he₂, hnorm⟩ := normalize_normal h0
  by_cases hsmall : n < 2^53
  · have hlog' : n.log2 < 53 := (Nat.log2_lt (by omega)).mpr hsmall
    have hmlog := log2_mul_two_pow hm 52
    rw [log2_eq_of_bounds hm₁ hm₂] at hmlog
    obtain ⟨m', e', hm', hm₁', hm₂', he₁', he₂', hmul⟩ := roundWithAccuracy_normal .positive
      (M := m * 2^52) (E := e + -52) (by omega) (by omega)
    refine ⟨.positive, m', e', hm', ?_⟩
    rw [toFloat_eq_mul hsmall]
    show (Float.Model.pack (UnpackedFloat.mul .binary64 _ _)).unpack = _
    rw [unpack_powerOfTen_zero, toModel_toUInt64_toFloat hsmall, hnorm,
      unpack_pack_normal .positive hm hm₁ hm₂ (by omega) (by omega)]
    show (Float.Model.pack (roundWithAccuracy .binary64 .positive (m * 2^52) (e + -52) .exact)).unpack = _
    rw [hmul, unpack_pack_normal .positive hm' hm₁' hm₂' (by omega) (by omega)]
  · have hnlog := log2_mul_two_pow h0 53
    obtain ⟨m', e', hm', hm₁', hm₂', he₁', he₂', hmul⟩ := roundWithAccuracy_normal .positive
      (M := n * 2^53) (E := -53) (by omega) (by omega)
    refine ⟨.positive, m', e', hm', ?_⟩
    rw [toModel_toFloat_of_ge hsmall]
    unfold UnpackedFloat.ofScientific
    have hpow : (2 : Int) ^ Format.binary64.exponentBits = 2048 := rfl
    rw [dif_neg (by omega), if_neg (by decide), if_neg (by omega), if_pos (by decide),
      mul_finite_finite, positive_mul_positive]
    have hM : n <<< Format.binary64.mantissaBits * 10 ^ (0 : Int).toNat = n * 2^53 := by
      simp [Nat.shiftLeft_eq, Format.mantissaBits]
    rw [hM, show -(Format.binary64.mantissaBits : Int) + 0 = -53 from rfl, hmul,
      unpack_pack_normal .positive hm' hm₁' hm₂' (by omega) (by omega)]

end ProviderCoverage.Binary64
