import Mathlib
import ProviderCoverage.Linker

/-!
# The name part of a test function

`Linker.namePortion` cuts a test function's name down to the entity name in it: a prefix, an
underscore, a configured suffix and everything from the first remaining underscore on are
removed. Each cut keeps a part of the text, so the name part is no longer than the name.
-/

namespace ProviderCoverage

theorem Text.stripPrefix?_length {s p r : String} (h : Text.stripPrefix? s p = some r) :
    r.length ≤ s.length := by
  unfold Text.stripPrefix? at h
  split at h
  · cases h
    simp [← String.length_toList]
  · cases h

theorem Text.stripSuffix?_length {s p r : String} (h : Text.stripSuffix? s p = some r) :
    r.length ≤ s.length := by
  unfold Text.stripSuffix? at h
  split at h
  · cases h
    simp [← String.length_toList]
  · cases h

theorem Text.stripPrefix?_eq_some {s p : String} {rest : List Char}
    (h : s.toList = p.toList ++ rest) : Text.stripPrefix? s p = some (String.ofList rest) := by
  simp [Text.stripPrefix?, h, ← String.length_toList]

theorem Text.stripPrefix?_eq_none {s p : String} (h : ¬p.toList <+: s.toList) :
    Text.stripPrefix? s p = none := by
  simp [Text.stripPrefix?, h]

theorem Text.stripSuffix?_eq_some {s p : String} {rest : List Char}
    (h : s.toList = rest ++ p.toList) : Text.stripSuffix? s p = some (String.ofList rest) := by
  simp [Text.stripSuffix?, h, ← String.length_toList]

theorem Text.stripSuffix?_eq_none {s p : String} (h : ¬p.toList <:+ s.toList) :
    Text.stripSuffix? s p = none := by
  simp [Text.stripSuffix?, h]

theorem Text.toList_of_stripSuffix? {s p r : String} (h : Text.stripSuffix? s p = some r) :
    s.toList = r.toList ++ p.toList := by
  unfold Text.stripSuffix? at h
  split at h
  · rename_i hsuffix
    cases h
    obtain ⟨u, hu⟩ := List.isSuffixOf_iff_suffix.mp hsuffix
    simp [← hu, ← String.length_toList]
  · cases h

theorem head_splitOn_prefix (a : Char) (xs : List Char) : (xs.splitOn a).headD [] <+: xs := by
  induction xs with
  | nil => simp
  | cons x xs ih =>
    rw [List.splitOn_cons_eq_if_modifyHead]
    split
    · simp
    · obtain ⟨part, parts, hparts⟩ := List.exists_cons_of_ne_nil (List.splitOn_ne_nil a xs)
      rw [hparts] at ih ⊢
      simpa using ih

theorem headD_underscoreParts_length (s : String) :
    ((underscoreParts s).headD s).length ≤ s.length := by
  obtain ⟨part, parts, hparts⟩ := List.exists_cons_of_ne_nil (List.splitOn_ne_nil '_' s.toList)
  have hprefix := head_splitOn_prefix '_' s.toList
  rw [hparts] at hprefix
  simp only [underscoreParts, hparts, List.map_cons, List.headD_cons, ← String.length_toList,
    String.toList_ofList]
  simpa using hprefix.length_le

theorem getD_length_le {o : Option String} {x : String} (h : ∀ r, o = some r → r.length ≤ x.length) :
    (o.getD x).length ≤ x.length := by
  cases o with
  | none => exact Nat.le_refl _
  | some r => exact h r rfl

namespace Linker

theorem stripTestPrefix_length (function : String) :
    (stripTestPrefix function).1.length ≤ function.length := by
  unfold stripTestPrefix
  split
  · rename_i r p hfound
    obtain ⟨_, -, hstrip⟩ := List.exists_of_findSome?_eq_some hfound
    simp only [Option.map_eq_some_iff, Prod.mk.injEq] at hstrip
    obtain ⟨r', hr', rfl, -⟩ := hstrip
    exact Text.stripPrefix?_length hr'
  · exact Nat.le_refl _

theorem nameRest_length (l : Linker) (function : String) :
    (l.nameRest function).length ≤ function.length := by
  unfold nameRest
  dsimp only
  refine Nat.le_trans (getD_length_le ?_) (Nat.le_trans (getD_length_le ?_)
    (stripTestPrefix_length function))
  · intro r hr
    obtain ⟨_, -, hr⟩ := List.exists_of_findSome?_eq_some hr
    simp only [Option.bind_eq_some_iff] at hr
    obtain ⟨s, hs, hr⟩ := hr
    split at hr
    · cases hr
      exact Text.stripSuffix?_length hs
    · cases hr
  · exact fun _ => Text.stripPrefix?_length

theorem namePortion_raw_length {l : Linker} {function : String} {p : NamePortion}
    (h : l.namePortion function = some p) : p.raw.length ≤ function.length := by
  unfold namePortion at h
  dsimp only at h
  split at h
  · cases h
  · obtain rfl := Option.some.inj h
    exact Nat.le_trans (headD_underscoreParts_length _) (nameRest_length l function)

end Linker

end ProviderCoverage
