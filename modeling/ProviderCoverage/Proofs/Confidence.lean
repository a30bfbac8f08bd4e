import Mathlib
import ProviderCoverage.Registry

/-!
# Confidences in the unit interval

Match confidences are binary64 floats, compared by the IEEE rules of Lean's float model: `<`
and `≤` read the ordering of the unpacked values, which is `none` exactly when one side is NaN,
treats both zeros as equal, and orders finite values by sign, exponent and mantissa.

From these rules: two floats that are not NaN are ordered one way or the other, a float at or
above a non-negative one is non-negative, and a confidence clamped to `[0, 1]` lies in `[0, 1]`
unless it is NaN. A clamped confidence also stays at or above any threshold in `[0, 1]` that it
reached before the clamp.
-/

namespace ProviderCoverage.Confidence

open Float.Model UnpackedFloat

private theorem then_swap (e₁ e₂ : Int) (m₁ m₂ : Nat) :
    (compare e₂ e₁).then (compare m₂ m₁) = ((compare e₁ e₂).then (compare m₁ m₂)).swap := by
  rw [Ordering.swap_then, ← Std.OrientedOrd.eq_swap, ← Std.OrientedOrd.eq_swap]

theorem compare_swap (a b : UnpackedFloat) : b.compare a = (a.compare b).map Ordering.swap := by
  rcases a with ⟨_ | _⟩ | _ | ⟨_ | _⟩ | ⟨_ | _, m₁, e₁, _⟩ <;>
  rcases b with ⟨_ | _⟩ | _ | ⟨_ | _⟩ | ⟨_ | _, m₂, e₂, _⟩ <;>
  simp only [UnpackedFloat.compare, Option.map_some, Option.map_none] <;> try rfl
  all_goals rw [then_swap]

theorem compare_isSome {a b : UnpackedFloat} (ha : a.isNaN = false) (hb : b.isNaN = false) :
    (a.compare b).isSome := by
  rcases a with ⟨_ | _⟩ | _ | ⟨_ | _⟩ | ⟨_ | _, m₁, e₁, _⟩ <;>
  rcases b with ⟨_ | _⟩ | _ | ⟨_ | _⟩ | ⟨_ | _, m₂, e₂, _⟩ <;>
  simp_all [UnpackedFloat.compare, UnpackedFloat.isNaN]

theorem lt_iff (a b : Float) : a < b ↔ a.toModel.unpack.compare b.toModel.unpack = some .lt := by
  show a.lt b = true ↔ _
  rw [Float.lt, decide_eq_true_eq]
  show a.toModel.lt b.toModel = true ↔ _
  simp [Float.Model.lt, UnpackedFloat.lt]

theorem le_iff (a b : Float) :
    a ≤ b ↔ (a.toModel.unpack.compare b.toModel.unpack).any (·.isLE) := by
  show a.le b = true ↔ _
  rw [Float.le, decide_eq_true_eq]
  rfl

theorem le_of_not_lt {a b : Float} (ha : a.isNaN = false) (hb : b.isNaN = false)
    (h : ¬b < a) : a ≤ b := by
  obtain ⟨o, ho⟩ := Option.isSome_iff_exists.mp (compare_isSome ha hb)
  rw [lt_iff, compare_swap, ho] at h
  rw [le_iff, ho]
  cases o <;> simp_all [Ordering.swap]

theorem isNaN_eq_false_of_le {a b : Float} (h : a ≤ b) : a.isNaN = false ∧ b.isNaN = false := by
  rw [le_iff] at h
  show a.toModel.unpack.isNaN = false ∧ b.toModel.unpack.isNaN = false
  generalize a.toModel.unpack = x at h
  generalize b.toModel.unpack = y at h
  rcases x with ⟨_ | _⟩ | _ | ⟨_ | _⟩ | ⟨_ | _, m₁, e₁, _⟩ <;>
  rcases y with ⟨_ | _⟩ | _ | ⟨_ | _⟩ | ⟨_ | _, m₂, e₂, _⟩ <;>
  simp_all [UnpackedFloat.compare, UnpackedFloat.isNaN]

private theorem unpack_zero : (0.0 : Float).toModel.unpack = .zero .positive := rfl

private theorem compare_positive_negative : compare Sign.positive Sign.negative = .gt := rfl

theorem zero_le_of_le {a b : Float} (ha : 0.0 ≤ a) (hab : a ≤ b) : 0.0 ≤ b := by
  rw [le_iff, unpack_zero] at ha ⊢
  rw [le_iff] at hab
  generalize a.toModel.unpack = x at ha hab
  generalize b.toModel.unpack = y at hab ⊢
  rcases x with ⟨_ | _⟩ | _ | ⟨_ | _⟩ | ⟨_ | _, m₁, e₁, _⟩ <;>
  rcases y with ⟨_ | _⟩ | _ | ⟨_ | _⟩ | ⟨_ | _, m₂, e₂, _⟩ <;>
  simp_all [UnpackedFloat.compare, compare_positive_negative]

theorem not_lt_zero_of_zero_le {a : Float} (h : 0.0 ≤ a) : ¬a < 0.0 := by
  rw [le_iff] at h
  rw [lt_iff, compare_swap]
  generalize hx : Float.Model.UnpackedFloat.compare _ _ = o at h
  cases o with
  | none => simp at h
  | some o => cases o <;> simp_all [Ordering.swap]

end ProviderCoverage.Confidence

namespace ProviderCoverage.Registry

open Confidence

theorem clampConfidence_mem {c : Float} (hc : c.isNaN = false) :
    0.0 ≤ clampConfidence c ∧ clampConfidence c ≤ 1.0 := by
  unfold clampConfidence
  split
  · decide
  · rename_i hneg
    split
    · decide
    · rename_i hpos
      exact ⟨le_of_not_lt (by decide) hc hneg, le_of_not_lt hc (by decide) hpos⟩

theorem le_clampConfidence {t c : Float} (h0 : 0.0 ≤ t) (h1 : t ≤ 1.0) (h : t ≤ c) :
    t ≤ clampConfidence c := by
  unfold clampConfidence
  split
  · rename_i hneg
    exact absurd hneg (not_lt_zero_of_zero_le (zero_le_of_le h0 h))
  · split
    · exact h1
    · exact h

end ProviderCoverage.Registry
