import ProviderCoverage.Similarity
import ProviderCoverage.Proofs.Binary64

/-!
# Similarity scores are numbers

The similarity of two names is `1`, or one minus a count of edits over a positive length. For
names shorter than `2 ^ 256` characters (every name a program holds) the length is a finite
float other than zero, so the quotient is a number and so is the score: no similarity is NaN.

The best match keeps, of the candidates offered, one whose score against the needle is not below
the threshold, with that score.
-/

namespace ProviderCoverage.Similarity

open Float.Model UnpackedFloat Binary64

theorem similarity_isNaN (a b : String) (ha : a.length < 2^256) (hb : b.length < 2^256) :
    (similarity a b).isNaN = false := by
  unfold similarity
  split
  · decide
  · dsimp only
    split
    · decide
    · rename_i hlongest
      have hpos : 0 < max a.length b.length := by
        simp only [beq_iff_eq] at hlongest
        omega
      obtain ⟨s, m, e, hm, hfinite⟩ := toFloat_unpack_finite hpos (max_lt ha hb)
      rw [isNaN_sub_of_finite _ _ unpack_one, isNaN_div_of_finite _ _ hfinite, toFloat_isNaN]

/-- What the best match keeps: a candidate, scored against the needle, not below the threshold. -/
def Admitted (needle : String) (candidates : List String) (threshold : Float) (name : String)
    (score : Float) : Prop :=
  name ∈ candidates ∧ score = similarity needle name ∧ ¬score < threshold

theorem better_eq_some {best : Option (String × Float)} {candidate name : String}
    {score s : Float} (h : better best candidate score = some (name, s)) :
    best = some (name, s) ∨ (name = candidate ∧ s = score) := by
  unfold better at h
  split at h
  · split at h
    · exact .inl (by simp only [Option.some.injEq, Prod.mk.injEq] at h; simp [h])
    · cases h
      exact .inr ⟨rfl, rfl⟩
  · cases h
    exact .inr ⟨rfl, rfl⟩

theorem bestMatch_admitted {needle name : String} {candidates : List String} {threshold s : Float}
    (h : bestMatch needle candidates threshold = some (name, s)) :
    Admitted needle candidates threshold name s := by
  have hfold : ∀ (cs : List String) (best : Option (String × Float)),
      (∀ c ∈ cs, c ∈ candidates) →
      (∀ n x, best = some (n, x) → Admitted needle candidates threshold n x) →
      ∀ n x, cs.foldl (fun best candidate =>
          if similarity needle candidate < threshold then best
          else better best candidate (similarity needle candidate)) best = some (n, x) →
        Admitted needle candidates threshold n x := by
    intro cs
    induction cs with
    | nil => exact fun _ _ hbest => hbest
    | cons c cs ih =>
      intro best hcs hbest
      apply ih _ (fun c' hc' => hcs c' (List.mem_cons_of_mem _ hc'))
      intro n x hnx
      dsimp only at hnx
      split at hnx
      · exact hbest n x hnx
      · rename_i hkept
        rcases better_eq_some hnx with hold | ⟨rfl, rfl⟩
        · exact hbest n x hold
        · exact ⟨hcs _ (List.mem_cons_self ..), rfl, hkept⟩
  exact hfold candidates none (fun _ h => h) (by simp) name s h

end ProviderCoverage.Similarity
