import Mathlib
import ProviderCoverage.Naming

/-!
# Reading a title back

`titleCase` capitalises the underscore-separated words of an entity name and joins them;
`snakeCase` lowercases a title and puts an underscore before each capital that starts a word.
For names of lowercase ASCII letters and digits the second undoes the first exactly when every
word boundary is found again: each word after the first starts with a letter, and after a
one-letter word, whose capital stands right before the next capital, the next word goes on with a
lowercase letter. So `a_bc` is `ABc` and reads back as `a_bc`, but `a_b` is `AB` and reads back
as `ab`.

On these characters the Unicode case tables act as ASCII does; the facts are checked over the
code points below `123`.
-/

namespace ProviderCoverage

namespace Naming

def isLowerOrDigit (c : Char) : Bool := c.isLower || c.isDigit

/-- A word of a plain name: lowercase ASCII letters and digits, at least one. -/
def plainWord (w : List Char) : Bool := !w.isEmpty && w.all isLowerOrDigit

/-- Whether snake case finds the boundary between the capitalised words `word` and `next` again:
`next` starts with a letter, and after a one-letter word, whose capital stands right before the
capital of `next`, the second character of `next` is a lowercase letter. -/
def breaksBetween : List Char → List Char → Bool
  | _, [] => false
  | [c], n :: ns => n.isLower && (!c.isLower || ns.head?.any Char.isLower)
  | _, n :: _ => n.isLower

def plainWords : List (List Char) → Bool
  | [] => true
  | w :: ws => plainWord w && ws.head?.all (breaksBetween w) && plainWords ws

/-- A name that title case and snake case carry back to itself: plain words joined by single
underscores, whose boundaries snake case finds again. -/
def plainName (name : String) : Bool := plainWords (name.toList.splitOn '_')

end Naming

namespace Unicode

open Naming

@[elab_as_elim]
theorem of_isLowerOrDigit {P : Char → Prop}
    (h : ∀ n, n < 123 → isLowerOrDigit (Char.ofNat n) = true → P (Char.ofNat n))
    {c : Char} (hc : isLowerOrDigit c = true) : P c := by
  have hlt : c.toNat < 123 := by
    simp only [isLowerOrDigit, Char.isLower, Char.isDigit, Bool.or_eq_true, Bool.and_eq_true,
      decide_eq_true_eq] at hc
    rcases hc with ⟨-, hz⟩ | ⟨-, h9⟩
    · exact Nat.lt_of_le_of_lt (UInt32.le_iff_toNat_le.mp hz) (by decide)
    · exact Nat.lt_of_le_of_lt (UInt32.le_iff_toNat_le.mp h9) (by decide)
  simpa using h c.toNat hlt (by simpa using hc)

variable {c : Char}

/-- On lowercase ASCII letters and digits the Unicode case tables act as ASCII does. The facts
are checked together, in one pass over the code points below `123`. -/
theorem asciiCase (hc : isLowerOrDigit c = true) :
    lowercase c = [c] ∧ uppercase c = [c.toUpper] ∧ lowercase c.toUpper = [c] ∧
      isUpper c = false ∧ isUpper c.toUpper = c.isLower ∧ isLower c = c.isLower ∧
      isLower c.toUpper = false ∧ c.toUpper.isDigit = c.isDigit ∧ c ≠ '_' ∧ c.toUpper ≠ '_' := by
  refine of_isLowerOrDigit ?_ hc
  decide +kernel

theorem lowercase_of_isLowerOrDigit (hc : isLowerOrDigit c = true) : lowercase c = [c] :=
  (asciiCase hc).1

theorem uppercase_of_isLowerOrDigit (hc : isLowerOrDigit c = true) :
    uppercase c = [c.toUpper] :=
  (asciiCase hc).2.1

theorem lowercase_toUpper (hc : isLowerOrDigit c = true) : lowercase c.toUpper = [c] :=
  (asciiCase hc).2.2.1

theorem isUpper_of_isLowerOrDigit (hc : isLowerOrDigit c = true) : isUpper c = false :=
  (asciiCase hc).2.2.2.1

theorem isUpper_toUpper (hc : isLowerOrDigit c = true) : isUpper c.toUpper = c.isLower :=
  (asciiCase hc).2.2.2.2.1

theorem isLower_of_isLowerOrDigit (hc : isLowerOrDigit c = true) : isLower c = c.isLower :=
  (asciiCase hc).2.2.2.2.2.1

theorem isLower_toUpper (hc : isLowerOrDigit c = true) : isLower c.toUpper = false :=
  (asciiCase hc).2.2.2.2.2.2.1

theorem isDigit_toUpper (hc : isLowerOrDigit c = true) : c.toUpper.isDigit = c.isDigit :=
  (asciiCase hc).2.2.2.2.2.2.2.1

theorem ne_underscore_of_isLowerOrDigit (hc : isLowerOrDigit c = true) : c ≠ '_' :=
  (asciiCase hc).2.2.2.2.2.2.2.2.1

theorem toUpper_ne_underscore (hc : isLowerOrDigit c = true) : c.toUpper ≠ '_' :=
  (asciiCase hc).2.2.2.2.2.2.2.2.2

end Unicode

namespace Naming

open Unicode

theorem plainWord_cons {c : Char} {cs : List Char} :
    plainWord (c :: cs) = (isLowerOrDigit c && cs.all isLowerOrDigit) := by
  simp [plainWord]

theorem capitalize_cons {c : Char} (cs : List Char) (hc : isLowerOrDigit c = true) :
    capitalize (c :: cs) = c.toUpper :: cs := by
  simp [capitalize, uppercase_of_isLowerOrDigit hc]

/-- One step of snake case, at a character that lowercases to one character other than an
underscore: the underscore, if snake case breaks here, then that character. -/
theorem snakeChars_cons (prev : Option Char) {x d : Char} (rest : List Char)
    (hx : lowercase x = [d]) (hd : d ≠ '_') :
    snakeChars prev false (x :: rest) =
      (if prev.any (breaksBefore · x rest) then ['_', d] else [d]) ++
        snakeChars (some x) false rest := by
  have hd : (d == '_') = false := beq_eq_false_iff_ne.mpr hd
  cases prev with
  | none => simp [snakeChars, hx, hd]
  | some p => by_cases hb : breaksBefore p x rest <;> simp [snakeChars, hx, hd, hb]

/-- Lowercase letters and digits pass through snake case as they are, with no break before
them. -/
theorem snakeChars_append_of_all (p : Char) {cs : List Char} (rest : List Char)
    (hcs : cs.all isLowerOrDigit = true) :
    snakeChars (some p) false (cs ++ rest) =
      cs ++ snakeChars (some (cs.getLast?.getD p)) false rest := by
  induction cs generalizing p with
  | nil => rfl
  | cons c cs ih =>
    simp only [List.all_cons, Bool.and_eq_true] at hcs
    have hbrk : breaksBefore p c (cs ++ rest) = false := by
      simp [breaksBefore, isUpper_of_isLowerOrDigit hcs.1]
    rw [List.cons_append, snakeChars_cons _ _ (lowercase_of_isLowerOrDigit hcs.1)
      (ne_underscore_of_isLowerOrDigit hcs.1), ih c hcs.2]
    simp [hbrk, List.getLast?_cons]

/-- A capitalised plain word reads back as the word, after an underscore where snake case breaks
before its capital. -/
theorem snakeChars_capitalize (prev : Option Char) {c : Char} {cs : List Char}
    (hw : plainWord (c :: cs) = true) (rest : List Char) :
    snakeChars prev false (capitalize (c :: cs) ++ rest) =
      (if prev.any (breaksBefore · c.toUpper (cs ++ rest)) then '_' :: c :: cs else c :: cs) ++
        snakeChars (some (cs.getLast?.getD c.toUpper)) false rest := by
  simp only [plainWord_cons, Bool.and_eq_true] at hw
  rw [capitalize_cons cs hw.1, List.cons_append, snakeChars_cons _ _ (lowercase_toUpper hw.1)
    (ne_underscore_of_isLowerOrDigit hw.1), snakeChars_append_of_all _ _ hw.2]
  split <;> simp

theorem plainWords_cons_cons {w v : List Char} {ws : List (List Char)} :
    plainWords (w :: v :: ws) = (plainWord w && breaksBetween w v && plainWords (v :: ws)) := rfl

theorem plainWord_of_mem {ws : List (List Char)} (h : plainWords ws = true) {w : List Char}
    (hw : w ∈ ws) : plainWord w = true := by
  induction ws with
  | nil => cases hw
  | cons x xs ih =>
    simp only [plainWords, Bool.and_eq_true] at h
    rcases List.mem_cons.mp hw with rfl | hw
    · exact h.1.1
    · exact ih h.2 hw

theorem exists_cons_of_plainWord {w : List Char} (h : plainWord w = true) :
    ∃ c cs, w = c :: cs := by
  cases w with
  | nil => simp [plainWord] at h
  | cons c cs => exact ⟨c, cs, rfl⟩

theorem breaksBefore_of_breaksBetween {c n : Char} {cs ns : List Char}
    (hw : plainWord (c :: cs) = true) (hv : plainWord (n :: ns) = true)
    (hb : breaksBetween (c :: cs) (n :: ns) = true) (rest : List Char) :
    breaksBefore (cs.getLast?.getD c.toUpper) n.toUpper (ns ++ rest) = true := by
  simp only [plainWord_cons, Bool.and_eq_true] at hw hv
  cases cs with
  | nil =>
    simp only [breaksBetween, Bool.and_eq_true, Bool.or_eq_true, Bool.not_eq_true'] at hb
    obtain ⟨hnl, hc⟩ := hb
    simp only [List.getLast?_nil, Option.getD_none, breaksBefore, isUpper_toUpper hv.1, hnl,
      isLower_toUpper hw.1, isDigit_toUpper hw.1, isUpper_toUpper hw.1, Bool.true_and,
      Bool.false_or]
    rcases hc with hcl | hm
    · have hd : c.isDigit = true := by simpa [isLowerOrDigit, hcl] using hw.1
      simp [hd]
    · obtain ⟨m, ms, rfl⟩ : ∃ m ms, ns = m :: ms := by
        cases ns with
        | nil => simp at hm
        | cons m ms => exact ⟨m, ms, rfl⟩
      simp only [List.head?_cons, Option.any_some] at hm
      have hml := (List.all_eq_true.mp hv.2) m (List.mem_cons_self ..)
      have hc : c.isLower = true ∨ c.isDigit = true := by simpa [isLowerOrDigit] using hw.1
      rcases hc with hc | hc <;> simp [isLower_of_isLowerOrDigit hml, hm, hc]
  | cons d ds =>
    obtain ⟨l, hl⟩ : ∃ l, (d :: ds).getLast? = some l :=
      ⟨_, List.getLast?_eq_some_getLast (List.cons_ne_nil d ds)⟩
    have hll := (List.all_eq_true.mp hw.2) l (List.mem_of_getLast? hl)
    simp only [breaksBetween] at hb
    simp only [hl, Option.getD_some, breaksBefore, isUpper_toUpper hv.1, hb, Bool.true_and,
      isLower_of_isLowerOrDigit hll]
    have hl' : l.isLower = true ∨ l.isDigit = true := by simpa [isLowerOrDigit] using hll
    rcases hl' with hl' | hl' <;> simp [hl']

/-- After a capitalised plain word, the capitalised words that follow read back each after an
underscore. -/
theorem snakeChars_flatMap_capitalize {c : Char} {cs : List Char} {ws : List (List Char)}
    (h : plainWords ((c :: cs) :: ws) = true) :
    snakeChars (some (cs.getLast?.getD c.toUpper)) false (ws.flatMap capitalize) =
      ws.flatMap ('_' :: ·) := by
  induction ws generalizing c cs with
  | nil => rfl
  | cons v ws ih =>
    have hw := plainWord_of_mem h (List.mem_cons_self ..)
    have hv := plainWord_of_mem h (List.mem_cons_of_mem _ (List.mem_cons_self ..))
    rw [plainWords_cons_cons] at h
    simp only [Bool.and_eq_true] at h
    obtain ⟨⟨-, hb⟩, hrest⟩ := h
    obtain ⟨n, ns, rfl⟩ := exists_cons_of_plainWord hv
    rw [List.flatMap_cons, snakeChars_capitalize _ hv, Option.any_some,
      if_pos (breaksBefore_of_breaksBetween hw hv hb _), ih hrest]
    simp

private theorem intercalate_singleton_cons {α : Type} (x : α) (w : List α)
    (ws : List (List α)) :
    [x].intercalate (w :: ws) = w ++ ws.flatMap (x :: ·) := by
  induction ws generalizing w with
  | nil => simp
  | cons v ws ih => simp [List.intercalate_cons_cons, ih]

theorem toList_titleCase (name : String) :
    (titleCase name).toList = (name.toList.splitOn '_').flatMap capitalize :=
  String.toList_ofList

theorem splitOn_of_plainName {name : String} (h : plainName name = true) :
    ∃ c cs ws, name.toList.splitOn '_' = (c :: cs) :: ws ∧ plainWords ((c :: cs) :: ws) = true := by
  obtain ⟨w, ws, hsplit⟩ := List.exists_cons_of_ne_nil (List.splitOn_ne_nil '_' name.toList)
  unfold plainName at h
  rw [hsplit] at h
  obtain ⟨c, cs, rfl⟩ := exists_cons_of_plainWord (plainWord_of_mem h List.mem_cons_self)
  exact ⟨c, cs, ws, hsplit, h⟩

/-- **Snake case reads a plain name back from its title case.** -/
theorem snakeCase_titleCase {name : String} (h : plainName name = true) :
    snakeCase (titleCase name) = name := by
  obtain ⟨c, cs, ws, hsplit, h⟩ := splitOn_of_plainName h
  have hw := plainWord_of_mem h List.mem_cons_self
  have hsnake : snakeChars none false ((name.toList.splitOn '_').flatMap capitalize) =
      ['_'].intercalate (name.toList.splitOn '_') := by
    rw [hsplit, List.flatMap_cons, snakeChars_capitalize none hw, snakeChars_flatMap_capitalize h,
      intercalate_singleton_cons]
    simp
  rw [snakeCase, toList_titleCase, hsnake, List.intercalate_splitOn, String.ofList_toList]

example : snakeCase (titleCase "a_bc") = "a_bc" := snakeCase_titleCase (by decide +kernel)

theorem underscore_not_mem_titleCase {name : String} (h : plainName name = true) :
    '_' ∉ (titleCase name).toList := by
  rw [toList_titleCase, List.mem_flatMap]
  rintro ⟨w, hw, hmem⟩
  obtain ⟨c, cs, rfl⟩ := exists_cons_of_plainWord (plainWord_of_mem h hw)
  have hcs := plainWord_of_mem h hw
  simp only [plainWord_cons, Bool.and_eq_true] at hcs
  rw [capitalize_cons cs hcs.1] at hmem
  rcases List.mem_cons.mp hmem with heq | hin
  · exact toUpper_ne_underscore hcs.1 heq.symm
  · exact ne_underscore_of_isLowerOrDigit (List.all_eq_true.mp hcs.2 _ hin) rfl

theorem titleCase_ne_nil {name : String} (h : plainName name = true) :
    (titleCase name).toList ≠ [] := by
  obtain ⟨c, cs, ws, hsplit, h⟩ := splitOn_of_plainName h
  have hw := plainWord_of_mem h List.mem_cons_self
  simp only [plainWord_cons, Bool.and_eq_true] at hw
  simp [toList_titleCase, hsplit, capitalize_cons cs hw.1]

end Naming

end ProviderCoverage
