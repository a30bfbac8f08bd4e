import Mathlib
import ProviderCoverage.Naming

/-!
# Lengths of converted names

Lowercasing a character writes at most two characters, so snake case writes at most three for
each character of a name: the lowercase form and an underscore before it.
-/

namespace ProviderCoverage.Naming

open ProviderCoverage.Unicode

theorem lowercase_length_le (c : Char) : (lowercase c).length ≤ 2 := by
  unfold lowercase
  split
  · rename_i n cs h
    have hmem := List.mem_of_find?_eq_some h
    simp only [lowerExpansions, List.mem_singleton, Prod.mk.injEq] at hmem
    simp [hmem.2]
  · simp

theorem snakeChars_length_le (prev : Option Char) (afterUnderscore : Bool) (cs : List Char) :
    (snakeChars prev afterUnderscore cs).length ≤ 3 * cs.length := by
  induction cs generalizing prev afterUnderscore with
  | nil => simp [snakeChars]
  | cons c cs ih =>
    have hstep : ∀ (out : List Char) (b : Bool), out.length ≤ 3 →
        (out ++ snakeChars (some c) b cs).length ≤ 3 * (c :: cs).length := by
      intro out b hout
      have := ih (some c) b
      simp only [List.length_append, List.length_cons]
      omega
    dsimp only [snakeChars]
    apply hstep
    have := lowercase_length_le c
    split
    · split <;> simp <;> omega
    · simp
      omega

theorem snakeCase_length_le (s : String) : (snakeCase s).length ≤ 3 * s.length := by
  simpa [snakeCase, String.length_ofList, String.length_toList] using
    snakeChars_length_le none false s.toList

end ProviderCoverage.Naming
