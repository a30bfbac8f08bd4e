import ProviderCoverage.Findings
import ProviderCoverage.Proofs.Build
import ProviderCoverage.Proofs.NamePortion
import ProviderCoverage.Proofs.TitleCase

/-!
# The suggested test name leads back to its entity

For an untested entity the findings suggest a test function: `TestAcc`, the entity's title and
`_basic` for a resource, `TestAccDataSource`, the title and `_basic` for a data source, `TestAcc`,
the title and `Action_basic` for an action. Matching by function name decodes such a name: it
removes the test prefix, which may name a kind, a configured suffix, everything from the first
underscore on, a lifecycle suffix and a kind suffix, and looks up the snake case of what is left.

The decoding does not always lead back: the title of `a_b` is `AB`, whose snake case is `ab`
(`expectedTestFunction_one_letter_words_unmatched`). It does lead back when snake case reads the
name back from its title (`Naming.plainName`), the title neither begins with a kind word that a
longer test prefix would take nor ends with a suffix that decoding trims, and every configured
test-function suffix begins with an underscore, as the default ones do
(`matchByFunctionName_expectedTestFunction`).
-/

namespace ProviderCoverage

theorem prefix_of_prefix_append {p t q : List Char} (hq : ∀ y ∈ p.tails, y <+: q → y = [])
    (h : p <+: t ++ q) : p <+: t := by
  rcases List.prefix_or_prefix_of_prefix h (List.prefix_append t q) with hp | ⟨y, rfl⟩
  · exact hp
  · have hy : y = [] :=
      hq y ((List.mem_tails _ _).mpr (List.suffix_append t y))
        ((List.prefix_append_right_inj t).mp h)
    simp [hy]

theorem not_suffix_append {x t q : List Char} (h1 : ¬x <:+ q) (h2 : ¬q <:+ x) : ¬x <:+ t ++ q :=
  fun h => (List.suffix_or_suffix_of_suffix h (List.suffix_append t q)).elim h1 h2

/-- The first underscore-separated part of a text that goes on after `u` only with an underscore
is `u`. -/
theorem headD_underscoreParts {u v : List Char} (hu : '_' ∉ u)
    (hv : v = [] ∨ v.head? = some '_') (d : String) : (underscoreParts (String.ofList (u ++ v))).headD d = String.ofList u := by
  rcases hv with rfl | hv
  · simp [underscoreParts, List.splitOn_eq_singleton hu]
  · obtain ⟨w, rfl⟩ : ∃ w, v = '_' :: w := by
      cases v with
      | nil => cases hv
      | cons c w => exact ⟨w, by simpa using hv⟩
    simp [underscoreParts, List.splitOn_append_cons_self_of_not_mem hu]

/-- A title that begins with no kind word still begins with none once the tail of a suggestion,
`_basic` or `Action_basic`, follows it: no nonempty tail of a kind word begins either. -/
theorem not_kindWord_prefix_append {t q : List Char}
    (hq : q = "_basic".toList ∨ q = "Action_basic".toList)
    (ht : ∀ w ∈ ["DataSource", "Resource"], ¬w.toList <+: t) :
    ∀ w ∈ ["DataSource", "Resource"], ¬w.toList <+: t ++ q := by
  have htails : ∀ w ∈ ["DataSource", "Resource"], ∀ y ∈ w.toList.tails,
      (y <+: "_basic".toList → y = []) ∧ (y <+: "Action_basic".toList → y = []) := by decide
  intro w hw h
  refine ht w hw (prefix_of_prefix_append (fun y hy => ?_) h)
  rcases hq with rfl | rfl
  · exact (htails w hw y hy).1
  · exact (htails w hw y hy).2

namespace Linker

variable {l : Linker}

theorem stripTestPrefix_of_dataSource {function : String} {u : List Char}
    (h : function.toList = "TestAccDataSource".toList ++ u) :
    stripTestPrefix function = (String.ofList u, some .dataSource) := by
  unfold stripTestPrefix
  rw [testFunctionPrefixes, List.findSome?_cons, Text.stripPrefix?_eq_some h]
  simp only [Option.map_some]
  rw [if_pos (by decide +kernel)]

theorem stripTestPrefix_of_testAcc {function : String} {u : List Char}
    (h : function.toList = "TestAcc".toList ++ u)
    (hkind : ∀ w ∈ ["DataSource", "Resource"], ¬w.toList <+: u) :
    stripTestPrefix function = (String.ofList u, none) := by
  have hds' : ¬"TestAccDataSource".toList <+: function.toList := by
    rw [h, show "TestAccDataSource".toList = "TestAcc".toList ++ "DataSource".toList by decide,
      List.prefix_append_right_inj]
    exact hkind "DataSource" (by simp)
  have hres' : ¬"TestAccResource".toList <+: function.toList := by
    rw [h, show "TestAccResource".toList = "TestAcc".toList ++ "Resource".toList by decide,
      List.prefix_append_right_inj]
    exact hkind "Resource" (by simp)
  unfold stripTestPrefix
  rw [testFunctionPrefixes, List.findSome?_cons, Text.stripPrefix?_eq_none hds',
    List.findSome?_cons, Text.stripPrefix?_eq_none hres', List.findSome?_cons,
    Text.stripPrefix?_eq_some h]
  simp only [Option.map_none, Option.map_some]
  rw [if_neg (by decide +kernel), if_neg (by decide +kernel)]

/-- The first part of `u_basic`, or of what a removal of a suffix leaves of it when that is `u`,
is `u`. -/
theorem headD_underscoreParts_getD {o : Option String} {u : List Char} (hu : '_' ∉ u)
    (h : ∀ v, o = some v → v = String.ofList u) :
    (underscoreParts (o.getD (String.ofList (u ++ "_basic".toList)))).headD
      (o.getD (String.ofList (u ++ "_basic".toList))) = String.ofList u := by
  cases o with
  | none => exact headD_underscoreParts hu (.inr (by decide)) _
  | some v => simpa [h v rfl] using headD_underscoreParts hu (.inl rfl) _

/-- When every configured suffix begins with an underscore, a name part `u` without underscores
followed by `_basic` keeps `u` as its first part, whichever suffix is removed. -/
theorem headD_nameRest {function : String} {u : List Char} {hint : Option EntityKind}
    (hf : stripTestPrefix function = (String.ofList (u ++ "_basic".toList), hint))
    (hu : u ≠ []) (hnu : '_' ∉ u)
    (hsuffixes : ∀ x ∈ l.functionSuffixes, x.toList.head? = some '_') :
    (underscoreParts (l.nameRest function)).headD (l.nameRest function) = String.ofList u := by
  have hbasic : "_basic".toList = '_' :: "basic".toList := by decide
  have hbasic' : '_' ∉ "basic".toList := by decide
  have hstrip : Text.stripPrefix? (String.ofList (u ++ "_basic".toList)) "_" = none := by
    refine Text.stripPrefix?_eq_none ?_
    obtain ⟨c, cs, rfl⟩ := List.exists_cons_of_ne_nil hu
    have hc : c ≠ '_' := fun hc => hnu (hc ▸ List.mem_cons_self ..)
    rw [show "_".toList = ['_'] by decide, String.toList_ofList]
    simpa using hc.symm
  have hkept : ∀ x ∈ l.functionSuffixes, ∀ v,
      Text.stripSuffix? (String.ofList (u ++ "_basic".toList)) x = some v →
        v = String.ofList u := by
    intro x hx v hv
    obtain ⟨z, hz⟩ : ∃ z, x.toList = '_' :: z := by
      have hx := hsuffixes x hx
      cases hxl : x.toList with
      | nil => simp [hxl] at hx
      | cons c z => exact ⟨z, by simpa [hxl] using hx⟩
    have hsplit := Text.toList_of_stripSuffix? hv
    rw [String.toList_ofList, hz, hbasic, List.append_cons_inj_of_notMem hnu hbasic'] at hsplit
    rw [← String.ofList_toList (s := v), ← hsplit.1]
  unfold nameRest
  simp only [hf, hstrip, Option.getD_none]
  refine headD_underscoreParts_getD hnu fun v hv => ?_
  obtain ⟨x, hx, hxv⟩ := List.exists_of_findSome?_eq_some hv
  obtain ⟨s, hs, hsv⟩ := Option.bind_eq_some_iff.mp hxv
  split at hsv
  · exact (Option.some.inj hsv) ▸ hkept x hx s hs
  · cases hsv

theorem trimSuffixes_of_not_suffix {u : List Char} (hint : Option EntityKind)
    (h : ∀ w ∈ actionLifecycleSuffixes ++ kindSuffixes.map (·.1), ¬w.toList <:+ u) :
    trimSuffixes (String.ofList u) hint = (String.ofList u, hint) := by
  have hlife : actionLifecycleSuffixes.findSome? (Text.stripSuffix? (String.ofList u) ·) = none :=
    List.findSome?_eq_none_iff.mpr fun w hw => Text.stripSuffix?_eq_none (by
      rw [String.toList_ofList]
      exact h w (List.mem_append_left _ hw))
  unfold trimSuffixes
  simp only [hlife]
  rw [List.findSome?_eq_none_iff.mpr ?_]
  rintro ⟨w, k⟩ hw
  have hw' : Text.stripSuffix? (String.ofList u) w = none := Text.stripSuffix?_eq_none (by
    rw [String.toList_ofList]
    exact h w (List.mem_append_right _ (List.mem_map_of_mem hw)))
  simp [hw']

theorem trimSuffixes_action {u : List Char} (hu : u ≠ []) (hint : Option EntityKind) :
    trimSuffixes (String.ofList (u ++ "Action".toList)) hint = (String.ofList u, some .action) := by
  have hne : ∀ w ∈ actionLifecycleSuffixes ++ ["DataSource", "Resource"],
      ¬w.toList <:+ "Action".toList ∧ ¬"Action".toList <:+ w.toList := by decide
  have hnone : ∀ w ∈ actionLifecycleSuffixes ++ ["DataSource", "Resource"],
      Text.stripSuffix? (String.ofList (u ++ "Action".toList)) w = none := fun w hw =>
    Text.stripSuffix?_eq_none (by
      rw [String.toList_ofList]
      exact not_suffix_append (hne w hw).1 (hne w hw).2)
  have hlife : actionLifecycleSuffixes.findSome?
      (Text.stripSuffix? (String.ofList (u ++ "Action".toList)) ·) = none :=
    List.findSome?_eq_none_iff.mpr fun w hw => hnone w (List.mem_append_left _ hw)
  unfold trimSuffixes
  dsimp only
  rw [hlife, kindSuffixes, List.findSome?_cons, hnone "DataSource" (by simp),
    List.findSome?_cons, hnone "Resource" (by simp), List.findSome?_cons,
    Text.stripSuffix?_eq_some (show (String.ofList (u ++ "Action".toList)).toList =
      u ++ "Action".toList by simp)]
  simp [hu]

/-- The kind a decoded suggestion leads to: none for a resource, whose suggestion carries no kind
and which the lookup tries first. -/
def suggestedHint : EntityKind → Option EntityKind
  | .resource => none
  | k => some k

theorem resolve_suggestedHint {k : EntityKey} (hk : k ∈ l.keys) :
    l.resolve k.name (suggestedHint k.kind) = some k := by
  obtain ⟨kind, name⟩ := k
  cases kind <;> simp [resolve, suggestedHint, EntityKind.all, hk]

theorem matchByFunctionName_of_namePortion {function : String} {p : NamePortion}
    {k : EntityKey} (hp : l.namePortion function = some p)
    (hk : (l.matchCamelPart p.trimmed p.hint).1 = some k) :
    (l.matchByFunctionName function).1 = some k := by
  rw [matchByFunctionName_fst, hp, Option.bind_some]
  split <;> simp [hk]

theorem matchCamelPart_of_resolve {part : String} {hint : Option EntityKind} {k : EntityKey}
    (h : l.resolve (Naming.snakeCase part) hint = some k) :
    (l.matchCamelPart part hint).1 = some k := by
  simp [matchCamelPart, resolveOrUnprefixed, h]

/-- The suggested test name of a plain entity's name decodes to the entity's title, with the
hint of its kind. -/
theorem namePortion_expectedTestFunction {e : Entity} (hname : Naming.plainName e.name = true)
    (hbegin : e.kind ≠ .dataSource →
      ∀ w ∈ ["DataSource", "Resource"], ¬w.toList <+: (Naming.titleCase e.name).toList)
    (hend : e.kind ≠ .action → ∀ w ∈ actionLifecycleSuffixes ++ kindSuffixes.map (·.1),
      ¬w.toList <:+ (Naming.titleCase e.name).toList)
    (hsuffixes : ∀ x ∈ l.functionSuffixes, x.toList.head? = some '_') :
    ∃ raw, l.namePortion (expectedTestFunction e) =
      some ⟨raw, Naming.titleCase e.name, suggestedHint e.kind⟩ := by
  set t := (Naming.titleCase e.name).toList with ht
  have htne : t ≠ [] := Naming.titleCase_ne_nil hname
  have htu : '_' ∉ t := Naming.underscore_not_mem_titleCase hname
  have hpart : ∀ {u : List Char} {hint : Option EntityKind}, u ≠ [] → '_' ∉ u →
      stripTestPrefix (expectedTestFunction e) = (String.ofList (u ++ "_basic".toList), hint) →
      l.namePortion (expectedTestFunction e) = some ⟨String.ofList u,
        (trimSuffixes (String.ofList u) hint).1, (trimSuffixes (String.ofList u) hint).2⟩ := by
    intro u hint hu hnu hf
    have hempty : (String.ofList u).isEmpty = false := by
      simpa [String.isEmpty_eq_false_iff, String.ofList_eq_empty_iff] using hu
    unfold namePortion
    simp only [headD_nameRest hf hu hnu hsuffixes, hempty, hf]
    rfl
  -- the three kinds differ in the prefix, the tail and the hint the decoding ends with
  cases hk : e.kind with
  | resource =>
    have hf : stripTestPrefix (expectedTestFunction e) =
        (String.ofList (t ++ "_basic".toList), none) :=
      stripTestPrefix_of_testAcc (by simp [expectedTestFunction, hk, ht])
        (not_kindWord_prefix_append (.inl rfl) (hbegin (by simp [hk])))
    refine ⟨String.ofList t, (hpart htne htu hf).trans ?_⟩
    rw [trimSuffixes_of_not_suffix _ (hend (by simp [hk])), ht, String.ofList_toList]
    rfl
  | dataSource =>
    have hf : stripTestPrefix (expectedTestFunction e) =
        (String.ofList (t ++ "_basic".toList), some .dataSource) :=
      stripTestPrefix_of_dataSource (by simp [expectedTestFunction, hk, ht])
    refine ⟨String.ofList t, (hpart htne htu hf).trans ?_⟩
    rw [trimSuffixes_of_not_suffix _ (hend (by simp [hk])), ht, String.ofList_toList]
    rfl
  | action =>
    have hf : stripTestPrefix (expectedTestFunction e) =
        (String.ofList ((t ++ "Action".toList) ++ "_basic".toList), none) := by
      rw [List.append_assoc,
        show "Action".toList ++ "_basic".toList = "Action_basic".toList by decide]
      exact stripTestPrefix_of_testAcc (by simp [expectedTestFunction, hk, ht])
        (not_kindWord_prefix_append (.inr rfl) (hbegin (by simp [hk])))
    have hau : '_' ∉ t ++ "Action".toList := by
      simpa [show '_' ∉ "Action".toList by decide] using htu
    refine ⟨String.ofList (t ++ "Action".toList), (hpart (by simp [htne]) hau hf).trans ?_⟩
    rw [trimSuffixes_action htne, ht, String.ofList_toList]
    rfl

end Linker

def oneLetterWords : Entity := { kind := .resource, name := "a_b", location := default }

/-- The suggestion for `a_b` is `TestAccAB_basic`, whose name part `AB` snake-cases to `ab`: it
leads to no entity. -/
theorem expectedTestFunction_one_letter_words_unmatched :
    ∃ l, Linker.new { entities := [oneLetterWords] } {} = .ok l ∧
      (l.matchByFunctionName (expectedTestFunction oneLetterWords)).1 = none :=
  ⟨_, rfl, by decide +kernel⟩

/-- **The suggestion leads back.** The suggested test name of a registered entity is matched by
function name to that entity, when snake case reads the name back from its title, the title
neither begins with a kind word that a longer test prefix would take (for a resource or an
action) nor ends with a lifecycle or kind suffix (for a resource or a data source), and every
configured test-function suffix begins with an underscore. -/
theorem matchByFunctionName_expectedTestFunction {r : Registry} {s : Settings} {l : Linker}
    (hl : Linker.new r s = .ok l) {e : Entity} (he : e ∈ r.entities)
    (hname : Naming.plainName e.name = true)
    (hbegin : e.kind ≠ .dataSource →
      ∀ w ∈ ["DataSource", "Resource"], ¬w.toList <+: (Naming.titleCase e.name).toList)
    (hend : e.kind ≠ .action → ∀ w ∈ actionLifecycleSuffixes ++ kindSuffixes.map (·.1),
      ¬w.toList <:+ (Naming.titleCase e.name).toList)
    (hsuffixes : ∀ x ∈ s.testSuffixes, x.toList.head? = some '_') :
    (l.matchByFunctionName (expectedTestFunction e)).1 = some e.key := by
  obtain ⟨hkeys, -, hfs, -⟩ := Linker.new_eq_ok hl
  have hkey : e.key ∈ l.keys := hkeys ▸ List.mem_map_of_mem he
  obtain ⟨raw, hp⟩ :=
    Linker.namePortion_expectedTestFunction hname hbegin hend (hfs ▸ hsuffixes)
  refine Linker.matchByFunctionName_of_namePortion hp (Linker.matchCamelPart_of_resolve ?_)
  rw [Naming.snakeCase_titleCase hname]
  exact Linker.resolve_suggestedHint hkey

/-- A resource whose first word ends in a digit. -/
def s3Bucket : Entity := { kind := .resource, name := "s3_bucket", location := default }

theorem expectedTestFunction_s3Bucket_links_back :
    ∃ l, Linker.new { entities := [s3Bucket] } {} = .ok l ∧
      (l.matchByFunctionName (expectedTestFunction s3Bucket)).1 = some s3Bucket.key := by
  obtain ⟨l, hl⟩ : ∃ l, Linker.new { entities := [s3Bucket] } {} = .ok l := ⟨_, rfl⟩
  exact ⟨l, hl, matchByFunctionName_expectedTestFunction hl (by simp) (by decide +kernel)
    (by decide +kernel) (by decide +kernel) (by decide +kernel)⟩

end ProviderCoverage
