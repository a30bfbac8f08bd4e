import Mathlib
import ProviderCoverage.Settings.Check

/-!
# The grammar of durations

A duration text, once the blanks around it are gone, is cut into terms: each a maximal run of
number characters (ASCII digits and points) followed by a maximal run of other characters
(`Terms`). A term reads when its number has a digit and at most one point and its unit is one of
`ns`, `us`, `µs`, `μs`, `ms`, `s`, `m`, `h` (`ValidTerm`).

The reader accepts exactly a lone `0`, and a `+` followed by any number of terms that read, or
one or more terms that read without a sign; the value is the sum of each term's number times its
unit, accumulated in double precision from zero, rounded and capped (`parse_eq_ok_iff`). So a
lone `+` is read as no time at all, where a duration needs a term (`lone_plus_accepted`). The
cache lifetime is off exactly for a text that reads as zero nanoseconds, and refused exactly for
a non-empty text that does not read.
-/

namespace ProviderCoverage.Duration

def units : List String := ["ns", "us", "µs", "μs", "ms", "s", "m", "h"]

/-- The number of a term: digits and points, with a digit and at most one point. -/
def IsNumber (num : List Char) : Prop :=
  (∀ c ∈ num, isNumberChar c = true) ∧ (∃ c ∈ num, c.isDigit = true) ∧ num.count '.' ≤ 1

/-- A text cut into terms, each a maximal run of number characters followed by a maximal run of
other characters. -/
inductive Terms : List Char → List (List Char × List Char) → Prop
  | nil : Terms [] []
  | cons {num unit rest : List Char} {ts : List (List Char × List Char)} :
      num ≠ [] → (∀ c ∈ num, isNumberChar c = true) →
      unit ≠ [] → (∀ c ∈ unit, isNumberChar c = false) →
      (∀ c ∈ rest.head?, isNumberChar c = true) →
      Terms rest ts → Terms (num ++ (unit ++ rest)) ((num, unit) :: ts)

/-- A term that reads: its number is one and its unit is known. -/
def ValidTerm (t : List Char × List Char) : Prop :=
  IsNumber t.1 ∧ String.ofList t.2 ∈ units

/-- The nanoseconds of terms, added in double precision to `acc` one term after the other. -/
def termsTotal (acc : Float) (ts : List (List Char × List Char)) : Float :=
  ts.foldl (fun total t =>
    total + (readNumber t.1).getD 0.0 * (unitNanos (String.ofList t.2)).getD 0.0) acc

/-- The characters of a duration text without the blanks around it. -/
def trimmed (input : String) : List Char := (Text.trim input).toList

/-! ### Cutting a text into terms -/

section Terms

variable {cs : List Char} {ts : List (List Char × List Char)}

theorem Terms.eq_nil_of_nil (h : Terms [] ts) : ts = [] := by
  generalize hcs : ([] : List Char) = l at h
  cases h with
  | nil => rfl
  | cons hnum => exact absurd (List.append_eq_nil_iff.mp hcs.symm).1 hnum

theorem Terms.head_isNumberChar (h : Terms (c :: cs) ts) : isNumberChar c = true := by
  generalize hcs : c :: cs = l at h
  cases h with
  | nil => cases hcs
  | cons hnum hnumChars =>
    rename_i num unit rest ts'
    obtain ⟨c0, num', rfl⟩ := List.exists_cons_of_ne_nil hnum
    simp only [List.cons_append, List.cons.injEq] at hcs
    exact hcs.1 ▸ hnumChars c0 List.mem_cons_self

/-- The run of characters at the front of `l ++ r` where `l` is a run of `p` and `r` starts
with none. -/
theorem takeWhile_run {p : Char → Bool} {l r : List Char} (hl : ∀ c ∈ l, p c = true)
    (hr : ∀ c ∈ r.head?, p c = false) : (l ++ r).takeWhile p = l ∧ (l ++ r).dropWhile p = r := by
  rw [List.takeWhile_append_of_pos hl, List.dropWhile_append_of_pos hl]
  cases r with
  | nil => simp
  | cons c r => simp_all

theorem head_dropWhile_false (q : Char → Bool) (l : List Char) :
    ∀ c ∈ (l.dropWhile q).head?, q c = false := by
  induction l with
  | nil => simp
  | cons a l ih => by_cases ha : q a <;> simp_all

/-- The first term of a text is its first run of number characters and the run of other
characters after it; the rest of the text holds the other terms. -/
theorem Terms.split (h : Terms cs (t :: ts)) :
    t.1 = cs.takeWhile isNumberChar ∧
      t.2 = (cs.dropWhile isNumberChar).takeWhile (!isNumberChar ·) ∧
      t.1 ≠ [] ∧ t.2 ≠ [] ∧ Terms ((cs.dropWhile isNumberChar).dropWhile (!isNumberChar ·)) ts := by
  cases h with
  | cons hnum hnumChars hunit hunitChars hrest hterms =>
    rename_i num unit rest
    obtain ⟨u0, unit', rfl⟩ := List.exists_cons_of_ne_nil hunit
    have hnumRun := takeWhile_run (r := u0 :: unit' ++ rest) hnumChars
      (by simpa using hunitChars u0 (by simp))
    have hunitRun := takeWhile_run (p := (!isNumberChar ·)) (r := rest) (l := u0 :: unit')
      (by simpa using hunitChars) (by simpa using hrest)
    refine ⟨hnumRun.1.symm, ?_, hnum, hunit, ?_⟩
    · rw [hnumRun.2, hunitRun.1]
    · rwa [hnumRun.2, hunitRun.2]

theorem Terms.of_split (hnum : cs.takeWhile isNumberChar ≠ [])
    (hunit : (cs.dropWhile isNumberChar).takeWhile (!isNumberChar ·) ≠ [])
    (hrest : Terms ((cs.dropWhile isNumberChar).dropWhile (!isNumberChar ·)) ts) :
    Terms cs ((cs.takeWhile isNumberChar,
      (cs.dropWhile isNumberChar).takeWhile (!isNumberChar ·)) :: ts) := by
  have hcs : cs = cs.takeWhile isNumberChar ++ ((cs.dropWhile isNumberChar).takeWhile
      (!isNumberChar ·) ++ (cs.dropWhile isNumberChar).dropWhile (!isNumberChar ·)) := by
    simp
  have hhead : ∀ c ∈ ((cs.dropWhile isNumberChar).dropWhile (!isNumberChar ·)).head?,
      isNumberChar c = true := fun c hc => by
    simpa using head_dropWhile_false (!isNumberChar ·) _ c hc
  conv => lhs; rw [hcs]
  exact .cons hnum (fun c hc => List.mem_takeWhile_imp hc) hunit
    (fun c hc => by simpa using List.mem_takeWhile_imp hc) hhead hrest

end Terms

/-! ### Numbers and units -/

section Reading

theorem unitNanos_isSome_iff (u : String) : (unitNanos u).isSome ↔ u ∈ units := by
  unfold unitNanos
  split <;> simp_all [units]

theorem eq_point_of_isNumberChar {c : Char} (h : isNumberChar c = true) (hd : c.isDigit = false) :
    c = '.' := by
  simpa [isNumberChar, hd] using h

theorem count_point_eq_zero {l : List Char} (h : ∀ c ∈ l, c.isDigit = true) : l.count '.' = 0 :=
  List.count_eq_zero.mpr fun hmem => by simpa using h _ hmem

theorem all_isDigit_iff {l : List Char} (h : ∀ c ∈ l, isNumberChar c = true) :
    l.all Char.isDigit = true ↔ '.' ∉ l := by
  simp only [List.all_eq_true]
  constructor
  · intro hall hmem
    simpa using hall _ hmem
  · intro hpoint c hc
    by_contra hd
    exact hpoint (eq_point_of_isNumberChar (h c hc) (by simpa using hd) ▸ hc)

theorem isNumber_iff {num : List Char} (h : ∀ c ∈ num, isNumberChar c = true) :
    IsNumber num ↔ (∃ c ∈ num, c.isDigit = true) ∧ num.count '.' ≤ 1 :=
  ⟨fun hn => hn.2, fun hn => ⟨h, hn⟩⟩

/-- A run of number characters reads as a number exactly when it has a digit and at most one
point. -/
theorem readNumber_isSome_iff {num : List Char} (h : ∀ c ∈ num, isNumberChar c = true) :
    (readNumber num).isSome ↔ IsNumber num := by
  rw [isNumber_iff h]
  unfold readNumber
  rw [List.span_eq_takeWhile_dropWhile]
  dsimp only
  have hsplit := List.takeWhile_append_dropWhile (p := Char.isDigit) (l := num)
  have hwhole : ∀ c ∈ num.takeWhile Char.isDigit, c.isDigit = true :=
    fun c hc => List.mem_takeWhile_imp hc
  have hafter := head_dropWhile_false Char.isDigit num
  generalize num.takeWhile Char.isDigit = whole at hsplit hwhole ⊢
  generalize num.dropWhile Char.isDigit = rest at hsplit hafter ⊢
  subst hsplit
  have hpoints := count_point_eq_zero hwhole
  split
  · rw [List.append_nil, hpoints]
    cases whole with
    | nil => simp
    | cons c cs => simp [hwhole c (by simp)]
  · rename_i frac
    have hfrac : ∀ c ∈ frac, isNumberChar c = true := fun c hc => h c (by simp [hc])
    have hcount : (whole ++ '.' :: frac).count '.' ≤ 1 ↔ frac.all Char.isDigit = true := by
      rw [all_isDigit_iff hfrac, List.count_append, hpoints, List.count_cons_self]
      simp [List.count_eq_zero]
    have hdigit : frac.all Char.isDigit = true →
        ((∃ c ∈ whole ++ '.' :: frac, c.isDigit = true) ↔ ¬(whole = [] ∧ frac = [])) := by
      intro hall
      rw [List.all_eq_true] at hall
      constructor
      · rintro ⟨c, hc, hd⟩ ⟨rfl, rfl⟩
        simp only [List.nil_append, List.mem_singleton] at hc
        simp [hc] at hd
      · intro hne
        by_cases hw : whole = []
        · obtain ⟨c, frac', rfl⟩ := List.exists_cons_of_ne_nil fun hf => hne ⟨hw, hf⟩
          exact ⟨c, by simp, hall c (by simp)⟩
        · obtain ⟨c, whole', rfl⟩ := List.exists_cons_of_ne_nil hw
          exact ⟨c, by simp, hwhole c (by simp)⟩
    rw [hcount]
    by_cases hall : frac.all Char.isDigit = true
    · rw [hdigit hall]
      cases whole <;> cases frac <;> simp [hall]
    · rw [Bool.not_eq_true] at hall
      simp only [hall, Bool.false_and, Bool.false_eq_true, if_false, Option.isSome_none,
        and_false]
  · rename_i hne hpoint
    obtain ⟨c, rest', rfl⟩ := List.exists_cons_of_ne_nil (by simpa using hne)
    have hc := eq_point_of_isNumberChar (h c (by simp)) (hafter c (by simp))
    exact absurd (hc ▸ rfl) (hpoint rest')

end Reading

/-! ### Reading terms -/

section Sum

variable {cs : List Char} {ts : List (List Char × List Char)}

theorem Terms.eq_nil_of_terms_nil (h : Terms cs []) : cs = [] := by
  cases h
  rfl

/-- A non-empty text cut into terms that read starts with a number that reads and a known unit,
and the rest of the text holds the other terms. -/
theorem Terms.first_reads (hts : Terms cs ts) (hvalid : ∀ t ∈ ts, ValidTerm t) (hne : cs ≠ []) :
    ∃ ts', ts = (cs.takeWhile isNumberChar,
        (cs.dropWhile isNumberChar).takeWhile (!isNumberChar ·)) :: ts' ∧
      cs.takeWhile isNumberChar ≠ [] ∧ (readNumber (cs.takeWhile isNumberChar)).isSome ∧
      (unitNanos (String.ofList ((cs.dropWhile isNumberChar).takeWhile (!isNumberChar ·)))).isSome ∧
      (cs.dropWhile isNumberChar).takeWhile (!isNumberChar ·) ≠ [] ∧
      Terms ((cs.dropWhile isNumberChar).dropWhile (!isNumberChar ·)) ts' ∧
      ∀ t ∈ ts', ValidTerm t := by
  cases ts with
  | nil => exact absurd hts.eq_nil_of_terms_nil hne
  | cons t ts' =>
    obtain ⟨hnum, hunit, hnumNe, hunitNe, hrest⟩ := hts.split
    obtain ⟨hisNumber, hknown⟩ := hvalid t (by simp)
    have hchars : ∀ c ∈ cs.takeWhile isNumberChar, isNumberChar c = true :=
      fun c hc => List.mem_takeWhile_imp hc
    refine ⟨ts', by rw [← hnum, ← hunit], hnum ▸ hnumNe, ?_, ?_, hunit ▸ hunitNe, hrest,
      fun t' ht' => hvalid t' (by simp [ht'])⟩
    · exact (readNumber_isSome_iff hchars).mpr (hnum ▸ hisNumber)
    · exact (unitNanos_isSome_iff _).mpr (hunit ▸ hknown)

theorem termsTotal_cons (acc : Float) (t : List Char × List Char)
    (ts : List (List Char × List Char)) :
    termsTotal acc (t :: ts) = termsTotal
      (acc + (readNumber t.1).getD 0.0 * (unitNanos (String.ofList t.2)).getD 0.0) ts := rfl

/-- **Summing terms.** The terms of a text are read and added to `acc` exactly when the text is
cut into terms that all read, and the sum is theirs. -/
theorem sumTerms_eq_ok_iff (input : String) (cs : List Char) (acc v : Float) :
    sumTerms input cs acc = .ok v ↔
      ∃ ts, Terms cs ts ∧ (∀ t ∈ ts, ValidTerm t) ∧ v = termsTotal acc ts := by
  fun_induction sumTerms input cs acc generalizing v with
  | case1 cs total hempty =>
    obtain rfl : cs = [] := List.isEmpty_iff.mp hempty
    constructor
    · rintro ⟨⟩
      exact ⟨[], .nil, by simp, rfl⟩
    · rintro ⟨ts, hts, -, rfl⟩
      rw [hts.eq_nil_of_nil]
      rfl
  | case2 cs total hne hnum =>
    refine ⟨(by rintro ⟨⟩), fun ⟨ts, hts, hvalid, _⟩ => ?_⟩
    obtain ⟨ts', -, hnumNe, -⟩ := hts.first_reads hvalid (by simpa using hne)
    exact absurd hnum hnumNe
  | case3 cs total hne hnum num hnone =>
    refine ⟨(by rintro ⟨⟩), fun ⟨ts, hts, hvalid, _⟩ => ?_⟩
    obtain ⟨ts', -, -, hread, -⟩ := hts.first_reads hvalid (by simpa using hne)
    have hnone : readNumber (cs.takeWhile isNumberChar) = none := hnone
    simp [hnone] at hread
  | case4 cs total hne hnum num afterNum value hvalue unit hunit =>
    refine ⟨(by rintro ⟨⟩), fun ⟨ts, hts, hvalid, _⟩ => ?_⟩
    obtain ⟨ts', -, -, -, -, hunitNe, -⟩ := hts.first_reads hvalid (by simpa using hne)
    exact absurd (List.isEmpty_iff.mp hunit) hunitNe
  | case5 cs total hne hnum num afterNum value hvalue unit hunit hnone =>
    refine ⟨(by rintro ⟨⟩), fun ⟨ts, hts, hvalid, _⟩ => ?_⟩
    obtain ⟨ts', -, -, -, hknown, -⟩ := hts.first_reads hvalid (by simpa using hne)
    have hnone : unitNanos (String.ofList
        ((cs.dropWhile isNumberChar).takeWhile (!isNumberChar ·))) = none := hnone
    simp [hnone] at hknown
  | case6 cs total hne hnum num afterNum value hvalue unit hunit perUnit hper ih =>
    have hvalue : readNumber (cs.takeWhile isNumberChar) = some value := hvalue
    have hper : unitNanos (String.ofList
        ((cs.dropWhile isNumberChar).takeWhile (!isNumberChar ·))) = some perUnit := hper
    have hunit : (cs.dropWhile isNumberChar).takeWhile (!isNumberChar ·) ≠ [] :=
      fun h => hunit (List.isEmpty_iff.mpr h)
    have hfirst : ValidTerm (cs.takeWhile isNumberChar,
        (cs.dropWhile isNumberChar).takeWhile (!isNumberChar ·)) :=
      ⟨(readNumber_isSome_iff fun c hc => List.mem_takeWhile_imp hc).mp (by simp [hvalue]),
        (unitNanos_isSome_iff _).mp (by simp [hper])⟩
    rw [ih v]
    constructor
    · rintro ⟨ts', hts', hvalid', rfl⟩
      refine ⟨_ :: ts', Terms.of_split hnum hunit hts', ?_, by simp [termsTotal_cons, hvalue, hper]⟩
      intro t ht
      rcases List.mem_cons.mp ht with rfl | ht
      · exact hfirst
      · exact hvalid' t ht
    · rintro ⟨ts, hts, hvalid, rfl⟩
      obtain ⟨ts', rfl, -, -, -, -, hrest, hvalid'⟩ := hts.first_reads hvalid (by simpa using hne)
      exact ⟨ts', hrest, hvalid', by simp [termsTotal_cons, hvalue, hper]⟩

end Sum

/-! ### Reading a duration -/

theorem trimmed_eq (input : String) :
    ((input.toList.dropWhile Unicode.isBlank).reverse.dropWhile Unicode.isBlank).reverse =
      trimmed input := by
  simp [trimmed, Text.trim, String.toList_ofList]

theorem map_eq_ok_iff {ε α β : Type} {x : Except ε α} {f : α → β} {b : β} :
    x.map f = .ok b ↔ ∃ a, x = .ok a ∧ b = f a := by
  cases x <;> simp [Except.map, eq_comm]

/-- **Reading a duration.** A text reads exactly when, without the blanks around it, it is a lone
`0` (no time), or a `+` followed by terms that read, or one or more terms that read; the value is
the sum of the terms, from zero in order, rounded and capped. -/
theorem parse_eq_ok_iff (input : String) (n : Nat) :
    parse input = .ok n ↔
      (trimmed input = ['0'] ∧ n = 0) ∨
      ∃ body ts, (trimmed input = '+' :: body ∨ (trimmed input = body ∧ ts ≠ [])) ∧
        Terms body ts ∧ (∀ t ∈ ts, ValidTerm t) ∧ n = capNanos (termsTotal 0.0 ts).round := by
  unfold parse
  rw [trimmed_eq]
  generalize trimmed input = cs
  dsimp only
  -- one case per shape of the text, as the reader tells them apart
  split
  · refine ⟨(by rintro ⟨⟩), ?_⟩
    rintro (⟨h, -⟩ | ⟨body, ts, (h | ⟨rfl, hts⟩), hterms, -⟩)
    · cases h
    · cases h
    · exact absurd hterms.eq_nil_of_nil hts
  · constructor
    · rintro ⟨⟩
      exact .inl ⟨rfl, rfl⟩
    · rintro (⟨-, rfl⟩ | ⟨body, ts, (h | ⟨rfl, hts⟩), hterms, hvalid, -⟩)
      · rfl
      · cases h
      · obtain ⟨-, -, -, -, -, hunit, -⟩ := hterms.first_reads hvalid (by simp)
        exact absurd (by decide) hunit
  · rename_i tail
    refine ⟨(by rintro ⟨⟩), ?_⟩
    rintro (⟨h, -⟩ | ⟨body, ts, (h | ⟨rfl, -⟩), hterms, -⟩)
    · cases h
    · cases h
    · exact absurd hterms.head_isNumberChar (by decide)
  · rename_i rest
    rw [map_eq_ok_iff]
    constructor
    · rintro ⟨v, hv, rfl⟩
      obtain ⟨ts, hts, hvalid, rfl⟩ := (sumTerms_eq_ok_iff input rest 0.0 v).mp hv
      exact .inr ⟨rest, ts, .inl rfl, hts, hvalid, rfl⟩
    · rintro (⟨h, -⟩ | ⟨body, ts, (h | ⟨rfl, -⟩), hterms, hvalid, rfl⟩)
      · cases h
      · cases h
        exact ⟨_, (sumTerms_eq_ok_iff input _ 0.0 _).mpr ⟨ts, hterms, hvalid, rfl⟩, rfl⟩
      · exact absurd hterms.head_isNumberChar (by decide)
  · rename_i hnil hzero _ hplus
    rw [map_eq_ok_iff]
    constructor
    · rintro ⟨v, hv, rfl⟩
      obtain ⟨ts, hts, hvalid, rfl⟩ := (sumTerms_eq_ok_iff input cs 0.0 v).mp hv
      exact .inr ⟨cs, ts, .inr ⟨rfl, fun h => hnil (h ▸ hts).eq_nil_of_terms_nil⟩, hts, hvalid, rfl⟩
    · rintro (⟨h, -⟩ | ⟨body, ts, (h | ⟨rfl, -⟩), hterms, hvalid, rfl⟩)
      · exact absurd h hzero
      · exact absurd h (hplus body)
      · exact ⟨_, (sumTerms_eq_ok_iff input _ 0.0 _).mpr ⟨ts, hterms, hvalid, rfl⟩, rfl⟩

end ProviderCoverage.Duration

namespace ProviderCoverage.Settings

open Duration

/-- The cache lifetime is off exactly when its text, without the blanks around it, is not empty
and reads as no time. -/
theorem cacheTtlNanos_eq_ok_none_iff (s : Settings) :
    s.cacheTtlNanos = .ok none ↔
      Text.trim s.cacheTtl ≠ "" ∧ parse (Text.trim s.cacheTtl) = .ok 0 := by
  unfold cacheTtlNanos
  dsimp only
  split_ifs with hempty
  · simp_all
  · have hne : Text.trim s.cacheTtl ≠ "" := by simpa using hempty
    cases hp : parse (Text.trim s.cacheTtl) with
    | error reason => simp
    | ok n => cases n <;> simp [hne]

/-- The cache lifetime is refused exactly when its text, without the blanks around it, is not
empty and does not read; the error names the text and why. -/
theorem cacheTtlNanos_eq_error_iff (s : Settings) (e : ConfigError) :
    s.cacheTtlNanos = .error e ↔ ∃ reason, Text.trim s.cacheTtl ≠ "" ∧
      parse (Text.trim s.cacheTtl) = .error reason ∧
      e = .invalidCacheTtl (Text.trim s.cacheTtl) reason := by
  unfold cacheTtlNanos
  dsimp only
  split_ifs with hempty
  · simp_all
  · have hne : Text.trim s.cacheTtl ≠ "" := by simpa using hempty
    cases hp : parse (Text.trim s.cacheTtl) with
    | error reason => simp [hne, eq_comm]
    | ok n => cases n <;> simp

end ProviderCoverage.Settings

namespace ProviderCoverage.Duration

/-- **What reads as a duration.** A text reads exactly when, without the blanks around it, it is
a lone `0`, or a `+` followed by any number of terms that read, or one or more terms that read;
its value is the sum of the terms' numbers times their units, in double precision from zero and
in order, rounded and capped. The cache lifetime is off exactly for a non-empty text that reads
as no time, and refused, naming the text and the reason, exactly for a non-empty text that does
not read. -/
theorem duration_text_reads_iff (input : String) (n : Nat) (s : Settings) (e : ConfigError) :
    (parse input = .ok n ↔
      (trimmed input = ['0'] ∧ n = 0) ∨
      ∃ body ts, (trimmed input = '+' :: body ∨ (trimmed input = body ∧ ts ≠ [])) ∧
        Terms body ts ∧ (∀ t ∈ ts, ValidTerm t) ∧ n = capNanos (termsTotal 0.0 ts).round) ∧
    (s.cacheTtlNanos = .ok none ↔
      Text.trim s.cacheTtl ≠ "" ∧ parse (Text.trim s.cacheTtl) = .ok 0) ∧
    (s.cacheTtlNanos = .error e ↔ ∃ reason, Text.trim s.cacheTtl ≠ "" ∧
      parse (Text.trim s.cacheTtl) = .error reason ∧
      e = .invalidCacheTtl (Text.trim s.cacheTtl) reason) :=
  ⟨parse_eq_ok_iff input n, s.cacheTtlNanos_eq_ok_none_iff, s.cacheTtlNanos_eq_error_iff e⟩

/-- A lone `+` reads, although it is no `0` and holds no term. -/
theorem lone_plus_accepted :
    (∃ n, parse "+" = .ok n) ∧ trimmed "+" ≠ ['0'] ∧
      ¬∃ body ts, (trimmed "+" = '+' :: body ∨ trimmed "+" = body) ∧ ts ≠ [] ∧ Terms body ts := by
  have htrim : trimmed "+" = ['+'] := by decide
  refine ⟨⟨_, (parse_eq_ok_iff "+" _).mpr (.inr ⟨[], [], .inl htrim, .nil, by simp, rfl⟩)⟩,
    by simp [htrim], ?_⟩
  rintro ⟨body, ts, (h | h), hts, hterms⟩
  · rw [htrim] at h
    cases h
    exact hts hterms.eq_nil_of_nil
  · rw [htrim] at h
    subst h
    exact absurd hterms.head_isNumberChar (by decide)

end ProviderCoverage.Duration
