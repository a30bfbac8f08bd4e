import Mathlib
import ProviderCoverage.Proofs.Confidence

/-!
# The IEEE order on floats that are numbers

Lean's float model compares unpacked values by sign, exponent and mantissa, and answers nothing
when a side is NaN. Away from NaN this is a linear order: every value has a key in a
lexicographic product of integers (its class, from negative infinity up to positive infinity,
then exponent and mantissa, both negated below zero), and `<`, `≤` and `==` of floats are `<`,
`≤` and `=` of their keys (`lt_iff_key`, `le_iff_key`, `beq_iff_key`).

`max` of floats is `maxOfLe`: it keeps the second value when the first is at or below it, so a
NaN offered second is dropped. A fold of `max` from a number therefore stays a number, and is at
or above a number exactly when its start or one of the folded values is (`le_foldl_max_iff`).
-/

namespace ProviderCoverage.FloatOrder

open Float.Model UnpackedFloat

/-- Where an unpacked float stands in the IEEE order: its class (negative infinity, negative
finite, zero of either sign, positive finite, positive infinity), then the exponent and the
mantissa, negated below zero. NaN stands nowhere; it shares the key of negative infinity. -/
def key : UnpackedFloat → Lex (ℤ × Lex (ℤ × ℤ))
  | .infinity .negative | .notANumber => toLex (0, toLex (0, 0))
  | .finite .negative m e _ => toLex (1, toLex (-e, -(m : ℤ)))
  | .zero _ => toLex (2, toLex (0, 0))
  | .finite .positive m e _ => toLex (3, toLex (e, (m : ℤ)))
  | .infinity .positive => toLex (4, toLex (0, 0))

theorem compare_eq_lt_iff {a b : UnpackedFloat} (ha : a.isNaN = false) (hb : b.isNaN = false) :
    a.compare b = some .lt ↔ key a < key b := by
  rcases a with ⟨_ | _⟩ | _ | ⟨_ | _⟩ | ⟨_ | _, m₁, e₁, _⟩ <;>
  rcases b with ⟨_ | _⟩ | _ | ⟨_ | _⟩ | ⟨_ | _, m₂, e₂, _⟩ <;>
  simp_all [UnpackedFloat.compare, key, Prod.Lex.lt_iff, Ordering.then_eq_lt, Int.compare_eq_lt,
    Nat.compare_eq_lt, UnpackedFloat.isNaN, Ordering.swap_eq_lt, Ordering.then_eq_gt,
    Int.compare_eq_gt, Nat.compare_eq_gt]
  rfl

theorem compare_eq_eq_iff {a b : UnpackedFloat} (ha : a.isNaN = false) (hb : b.isNaN = false) :
    a.compare b = some .eq ↔ key a = key b := by
  rcases a with ⟨_ | _⟩ | _ | ⟨_ | _⟩ | ⟨_ | _, m₁, e₁, _⟩ <;>
  rcases b with ⟨_ | _⟩ | _ | ⟨_ | _⟩ | ⟨_ | _, m₂, e₂, _⟩ <;>
  simp_all [UnpackedFloat.compare, key, Ordering.then_eq_eq, UnpackedFloat.isNaN,
    Ordering.swap_eq_eq] <;> rfl

def keyOf (x : Float) : Lex (ℤ × Lex (ℤ × ℤ)) := key x.toModel.unpack

variable {a b x : Float}

theorem lt_iff_key (ha : a.isNaN = false) (hb : b.isNaN = false) : a < b ↔ keyOf a < keyOf b := by
  rw [Confidence.lt_iff]
  exact compare_eq_lt_iff ha hb

theorem le_iff_key (ha : a.isNaN = false) (hb : b.isNaN = false) :
    a ≤ b ↔ keyOf a ≤ keyOf b := by
  rw [Confidence.le_iff, le_iff_lt_or_eq, keyOf, keyOf, ← compare_eq_lt_iff ha hb,
    ← compare_eq_eq_iff ha hb]
  cases a.toModel.unpack.compare b.toModel.unpack with
  | none => simp
  | some o => cases o <;> simp [Ordering.isLE]

theorem beq_iff_key (ha : a.isNaN = false) (hb : b.isNaN = false) :
    (a == b) = true ↔ keyOf a = keyOf b := by
  show a.toModel.unpack.beq b.toModel.unpack = true ↔ _
  rw [UnpackedFloat.beq, beq_iff_eq]
  exact compare_eq_eq_iff ha hb

theorem le_trans {c : Float} (hab : a ≤ b) (hbc : b ≤ c) : a ≤ c := by
  obtain ⟨ha, hb⟩ := Confidence.isNaN_eq_false_of_le hab
  have hc := (Confidence.isNaN_eq_false_of_le hbc).2
  rw [le_iff_key ha hb] at hab
  rw [le_iff_key hb hc] at hbc
  exact (le_iff_key ha hc).mpr (hab.trans hbc)

theorem not_le_iff_lt (ha : a.isNaN = false) (hb : b.isNaN = false) : ¬a ≤ b ↔ b < a := by
  rw [le_iff_key ha hb, lt_iff_key hb ha, not_le]

theorem max_def (a b : Float) : max a b = if a ≤ b then b else a := rfl

theorem max_isNaN (ha : a.isNaN = false) (b : Float) : (max a b).isNaN = false := by
  rw [max_def]
  split
  · exact (Confidence.isNaN_eq_false_of_le ‹_›).2
  · exact ha

/-- Reaching the larger of a number and a float is reaching one of them; a NaN second value
reaches nothing. -/
theorem le_max_iff (hx : x.isNaN = false) (ha : a.isNaN = false) :
    x ≤ max a b ↔ x ≤ a ∨ x ≤ b := by
  rw [max_def]
  split
  · rename_i hab
    have hb := (Confidence.isNaN_eq_false_of_le hab).2
    rw [le_iff_key ha hb] at hab
    refine ⟨.inr, ?_⟩
    rintro (h | h)
    · exact (le_iff_key hx hb).mpr (((le_iff_key hx ha).mp h).trans hab)
    · exact h
  · rename_i hab
    refine ⟨.inl, ?_⟩
    rintro (h | h)
    · exact h
    · have hb := (Confidence.isNaN_eq_false_of_le h).2
      rw [le_iff_key ha hb, not_le] at hab
      exact (le_iff_key hx ha).mpr (((le_iff_key hx hb).mp h).trans hab.le)

/-- **Folding `max` from a number.** The fold is at or above a number exactly when its start or
one of the folded values is. -/
theorem le_foldl_max_iff {α : Type} (f : α → Float) (hx : x.isNaN = false) :
    ∀ (xs : List α) {acc : Float}, acc.isNaN = false →
      (x ≤ xs.foldl (fun m t => max m (f t)) acc ↔ x ≤ acc ∨ ∃ t ∈ xs, x ≤ f t) := by
  intro xs
  induction xs with
  | nil => simp
  | cons y ys ih =>
    intro acc hacc
    rw [List.foldl_cons, ih (max_isNaN hacc _), le_max_iff hx hacc]
    simp only [List.mem_cons, exists_eq_or_imp]
    tauto

end ProviderCoverage.FloatOrder
