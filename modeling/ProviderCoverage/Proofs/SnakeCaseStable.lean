import Mathlib
import ProviderCoverage.Naming
import ProviderCoverage.Proofs.CodeRuns

/-!
# Snake case run twice

Lowercasing a character gives characters that lowercase to themselves, and none of them is
uppercase unless lowercasing left the character as it was (`lowercase_of_mem_lowercase`). That is
a fact of the Unicode tables: each shift of the lowercase map lands outside the code points that
the map moves or that are uppercase, which `lowerImages_unmarked` checks on the tables written
as bitmaps (`CodeRun.disjoint`).

Snake case of text with no uppercase character only lowercases it (`snakeChars_of_not_isUpper`).
So a second pass leaves a snake-case name as it is whenever every uppercase character of the
original name has a lowercase form other than itself (`snakeCase_snakeCase`). Without that, the
second pass can see an uppercase character after a lowercase one where the first saw it after an
uppercase one: `ℂ` is uppercase and has no lowercase form, so `Aℂ` becomes `aℂ` and then `a_ℂ`
(`snakeCase_snakeCase_ne`).
-/

namespace ProviderCoverage

namespace Unicode

def ShiftRun.domain (r : ShiftRun) : CodeRun := ⟨r.start, r.count, r.stride⟩

def ShiftRun.image (r : ShiftRun) : CodeRun := ⟨((r.start : Int) + r.shift).toNat, r.count, r.stride⟩

/-- The code points that lowercasing changes, and the uppercase ones. -/
def caseMarked : List CodeRun :=
  lowerExpansions.map (fun e => ⟨e.1, 1, 1⟩) ++ lowerShifts.map ShiftRun.domain ++ upperRuns

/-- The code points that lowercasing gives: the images of its shifts and the characters of its
expansions. -/
def lowerImages : List CodeRun :=
  lowerShifts.map ShiftRun.image ++ lowerExpansions.flatMap fun e => e.2.map fun n => ⟨n, 1, 1⟩

/-- Every shift of the lowercase map stays among the natural numbers, what lowercasing gives is
never case-marked, and neither is the code point zero: the tables compared as bitmaps. -/
theorem lowerImages_unmarked :
    (lowerShifts.all fun r => decide (0 ≤ (r.start : Int) + r.shift)) = true ∧
      CodeRun.disjoint lowerImages caseMarked = true ∧
      (CodeRun.halves caseMarked 0).testBit 0 = false := by
  decide +kernel

variable {r : ShiftRun} {a : CodeRun} {n : Nat} {c d : Char}

theorem ShiftRun.contains_domain : r.domain.contains n = r.contains n := rfl

theorem ShiftRun.image_contains (hshift : 0 ≤ (r.start : Int) + r.shift)
    (h : r.contains n = true) : r.image.contains ((n : Int) + r.shift).toNat = true := by
  obtain ⟨k, hk, rfl⟩ := CodeRun.contains_iff.mp (ShiftRun.contains_domain ▸ h)
  exact CodeRun.contains_iff.mpr ⟨k, hk, by simp only [image, domain]; omega⟩

theorem contains_point {m : Nat} : (⟨m, 1, 1⟩ : CodeRun).contains n = true ↔ n = m := by
  simp [CodeRun.contains_iff]

theorem lowercase_of_unmarked (h : ∀ b ∈ caseMarked, b.contains d.toNat = false) :
    lowercase d = [d] ∧ isUpper d = false := by
  have hexp : lowerExpansions.find? (·.1 == d.toNat) = none := by
    refine List.find?_eq_none.mpr fun e he heq => ?_
    have hmarked : (⟨e.1, 1, 1⟩ : CodeRun) ∈ caseMarked := by
      simp only [caseMarked, List.mem_append, List.mem_map]
      exact Or.inl (Or.inl ⟨e, he, rfl⟩)
    have hpoint := contains_point.mpr (beq_iff_eq.mp heq).symm
    simp [h _ hmarked] at hpoint
  have hshift : shiftBy lowerShifts d = none := by
    rw [shiftBy, Option.map_eq_none_iff, List.find?_eq_none]
    intro r hr
    have hmarked : r.domain ∈ caseMarked := by
      simp only [caseMarked, List.mem_append, List.mem_map]
      exact Or.inl (Or.inr ⟨r, hr, rfl⟩)
    simp [← ShiftRun.contains_domain, h _ hmarked]
  have hupper : isUpper d = false := by
    rw [isUpper, inRuns, List.any_eq_false]
    intro b hb
    simp [h b (List.mem_append_right _ hb)]
  exact ⟨by simp [lowercase, hexp, hshift], hupper⟩

theorem lowercase_ofNat_of_image (ha : a ∈ lowerImages) (h : a.contains n = true) :
    lowercase (Char.ofNat n) = [Char.ofNat n] ∧ isUpper (Char.ofNat n) = false := by
  obtain ⟨-, hdisjoint, hzero⟩ := lowerImages_unmarked
  apply lowercase_of_unmarked
  intro b hb
  rw [Char.toNat_ofNat]
  split
  · exact CodeRun.contains_of_disjoint hdisjoint ha hb h
  · rw [Bool.eq_false_iff]
    intro hb0
    simpa [hzero] using CodeRun.testBit_halves hb hb0

/-- Every character that lowercasing gives lowercases to itself, and it is uppercase only when
lowercasing left the character as it was. -/
theorem lowercase_of_mem_lowercase (hd : d ∈ lowercase c) :
    lowercase d = [d] ∧ (isUpper d = true → lowercase c = [c]) := by
  cases hexp : lowerExpansions.find? (·.1 == c.toNat) with
  | some e =>
    rw [lowercase, hexp, List.mem_map] at hd
    obtain ⟨m, hm, rfl⟩ := hd
    have himage : (⟨m, 1, 1⟩ : CodeRun) ∈ lowerImages :=
      List.mem_append_right _
        (List.mem_flatMap.mpr ⟨e, List.mem_of_find?_eq_some hexp, List.mem_map_of_mem hm⟩)
    obtain ⟨hfix, hupper⟩ := lowercase_ofNat_of_image himage (contains_point.mpr rfl)
    exact ⟨hfix, by simp [hupper]⟩
  | none =>
    have hlow : lowercase c = [(shiftBy lowerShifts c).getD c] := by simp [lowercase, hexp]
    cases hs : shiftBy lowerShifts c with
    | some x =>
      rw [hlow, hs, Option.getD_some, List.mem_singleton] at hd
      subst hd
      obtain ⟨r, hfind, rfl⟩ := Option.map_eq_some_iff.mp hs
      have hr := List.mem_of_find?_eq_some hfind
      have hcontains := List.find?_some hfind
      have hshift := List.all_eq_true.mp lowerImages_unmarked.1 r hr
      rw [decide_eq_true_eq] at hshift
      obtain ⟨hfix, hupper⟩ := lowercase_ofNat_of_image
        (List.mem_append_left _ (List.mem_map_of_mem hr)) (ShiftRun.image_contains hshift hcontains)
      exact ⟨hfix, by simp [hupper]⟩
    | none =>
      rw [hs, Option.getD_none] at hlow
      rw [hlow, List.mem_singleton] at hd
      subst hd
      exact ⟨hlow, fun _ => hlow⟩

end Unicode

namespace Naming

open Unicode

theorem snakeChars_of_not_isUpper (prev : Option Char) (afterUnderscore : Bool) {cs : List Char}
    (h : ∀ c ∈ cs, isUpper c = false) :
    snakeChars prev afterUnderscore cs = cs.flatMap lowercase := by
  induction cs generalizing prev afterUnderscore with
  | nil => rfl
  | cons c cs ih =>
    have hbrk : ∀ p rest, breaksBefore p c rest = false := by
      simp [breaksBefore, h c (List.mem_cons_self ..)]
    have hrest : ∀ p b, snakeChars p b cs = cs.flatMap lowercase :=
      fun p b => ih p b fun x hx => h x (List.mem_cons_of_mem _ hx)
    cases prev <;> simp [snakeChars, hbrk, hrest]

/-- What snake case writes for one character: its lowercase form, after an underscore at a word
break. -/
theorem mem_ite_underscore {brk : Prop} [Decidable brk] {low : List Char} {d : Char}
    (h : d ∈ if brk then '_' :: low else low) : d = '_' ∨ d ∈ low := by
  split at h
  · exact List.mem_cons.mp h
  · exact Or.inr h

theorem mem_snakeChars {prev : Option Char} {afterUnderscore : Bool} {cs : List Char} {d : Char}
    (h : d ∈ snakeChars prev afterUnderscore cs) : d = '_' ∨ ∃ c ∈ cs, d ∈ lowercase c := by
  induction cs generalizing prev afterUnderscore with
  | nil => simp [snakeChars] at h
  | cons c cs ih =>
    simp only [snakeChars, List.mem_append] at h
    rcases h with hout | hrest
    · have hwrite : d = '_' ∨ d ∈ lowercase c := by
        split at hout <;> exact mem_ite_underscore hout
      exact hwrite.imp_right fun hlow => ⟨c, List.mem_cons_self .., hlow⟩
    · rcases ih hrest with hbar | ⟨x, hx, hlow⟩
      · exact Or.inl hbar
      · exact Or.inr ⟨x, List.mem_cons_of_mem _ hx, hlow⟩

/-- When every uppercase character of `s` has a lowercase form other than itself, each character
of its snake case lowercases to itself and is not uppercase. -/
theorem lowercase_of_mem_snakeCase {s : String}
    (h : ∀ c ∈ s.toList, isUpper c = true → lowercase c ≠ [c]) {d : Char}
    (hd : d ∈ (snakeCase s).toList) : lowercase d = [d] ∧ isUpper d = false := by
  rw [snakeCase, String.toList_ofList] at hd
  rcases mem_snakeChars hd with rfl | ⟨c, hc, hlow⟩
  · decide
  · obtain ⟨hfix, hupper⟩ := lowercase_of_mem_lowercase hlow
    refine ⟨hfix, Bool.eq_false_iff.mpr fun hd => ?_⟩
    have hsame := hupper hd
    rw [hsame, List.mem_singleton] at hlow
    subst hlow
    exact h d hc hd hsame

/-- Snake case is stable once every uppercase character of the name has a lowercase form other
than itself. -/
theorem snakeCase_snakeCase {s : String}
    (h : ∀ c ∈ s.toList, isUpper c = true → lowercase c ≠ [c]) :
    snakeCase (snakeCase s) = snakeCase s := by
  have hfix : ∀ d ∈ (snakeCase s).toList, lowercase d = [d] ∧ isUpper d = false :=
    fun d hd => lowercase_of_mem_snakeCase h hd
  calc snakeCase (snakeCase s)
      = String.ofList ((snakeCase s).toList.flatMap lowercase) := by
        rw [snakeCase, snakeChars_of_not_isUpper _ _ fun d hd => (hfix d hd).2]
    _ = String.ofList ((snakeCase s).toList.flatMap fun d => [d]) := by
        rw [List.flatMap_congr fun d hd => (hfix d hd).1]
    _ = snakeCase s := by rw [List.flatMap_singleton', String.ofList_toList]

/-- A name with capitals from several scripts is stable under snake case. -/
theorem snakeCase_snakeCase_mixed :
    (∀ c ∈ "ÜberHTTPServerİ".toList, isUpper c = true → lowercase c ≠ [c]) ∧
      snakeCase (snakeCase "ÜberHTTPServerİ") = snakeCase "ÜberHTTPServerİ" := by
  have h : ∀ c ∈ "ÜberHTTPServerİ".toList, isUpper c = true → lowercase c ≠ [c] := by
    have hall : ("ÜberHTTPServerİ".toList.all fun c => !isUpper c || lowercase c != [c]) = true := by
      decide +kernel
    intro c hc hupper
    simpa [hupper] using List.all_eq_true.mp hall c hc
  exact ⟨h, snakeCase_snakeCase h⟩

/-- `ℂ` is uppercase with no lowercase form: snake case writes `Aℂ` as `aℂ`, and `aℂ` as `a_ℂ`. -/
theorem snakeCase_snakeCase_ne : snakeCase (snakeCase "Aℂ") ≠ snakeCase "Aℂ" := by
  decide +kernel

end Naming

end ProviderCoverage
