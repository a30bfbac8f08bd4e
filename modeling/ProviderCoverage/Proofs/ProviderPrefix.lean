import Mathlib
import ProviderCoverage.Extraction.Strategies
import ProviderCoverage.Proofs.Build
import ProviderCoverage.Proofs.NamePortion

/-!
# Provider prefixes, stripped twice

The extractor names an entity after the type name its `Metadata` method assigns: a literal loses
a leading underscore, else the configured provider prefix (trailing underscores trimmed) and an
underscore, else its first segment (`Extraction.nameFromLiteral`); `req.ProviderTypeName + "_S"`
names it `S`. The linker reads a configuration's type name back through `Linker.unprefixed`:
the configured prefix as written and an underscore, else the first segment.

The two strippings agree when the configured prefix neither begins nor ends with an underscore
(`unprefixed_nameFromLiteral`), and for the type names `P_S` of a provider `P` without
underscores whatever the prefix, empty or `P`, so a test whose only typed block is the
configured type of an entity is matched to that entity (`matchByInferredConfig_configuredType`).
A prefix written with a trailing underscore is trimmed by the extractor but not by the linker,
and the two then disagree (`trailing_underscore_prefix_unmatched`).
-/

namespace ProviderCoverage

namespace Text

theorem stripPrefix?_eq_some_iff {s p r : String} :
    stripPrefix? s p = some r ↔ s.toList = p.toList ++ r.toList := by
  constructor
  · intro h
    unfold stripPrefix? at h
    split at h
    · rename_i hpre
      cases h
      obtain ⟨u, hu⟩ := List.isPrefixOf_iff_prefix.mp hpre
      simp [← hu, ← String.length_toList]
    · cases h
  · intro h
    rw [stripPrefix?_eq_some h, String.ofList_toList]

theorem stripPrefix?_append (s p q : String) :
    stripPrefix? s (p ++ q) = (stripPrefix? s p).bind (stripPrefix? · q) := by
  cases hp : stripPrefix? s p with
  | some r =>
    rw [Option.bind_some]
    have hs := stripPrefix?_eq_some_iff.mp hp
    cases hq : stripPrefix? r q with
    | some r' =>
      rw [stripPrefix?_eq_some_iff] at hq ⊢
      simp [hs, hq]
    | none =>
      apply Option.eq_none_iff_forall_ne_some.mpr
      intro r' h
      rw [stripPrefix?_eq_some_iff, String.toList_append, hs, List.append_assoc] at h
      have hr : stripPrefix? r q = some r' := stripPrefix?_eq_some_iff.mpr (List.append_cancel_left h)
      simp [hq] at hr
  | none =>
    apply Option.eq_none_iff_forall_ne_some.mpr
    intro r' h
    rw [stripPrefix?_eq_some_iff, String.toList_append, List.append_assoc] at h
    have hr : stripPrefix? s p = some (String.ofList (q.toList ++ r'.toList)) := by
      rw [stripPrefix?_eq_some_iff]
      simp [h]
    simp [hp] at hr

theorem trimEndChar_of_getLast? {s : String} {c : Char} (h : s.toList.getLast? ≠ some c) :
    trimEndChar s c = s := by
  unfold trimEndChar
  cases hs : s.toList.reverse with
  | nil => simp [← String.toList_inj, List.reverse_eq_nil_iff.mp hs]
  | cons x xs =>
    have hx : x ≠ c := by
      intro hxc
      apply h
      rw [← List.head?_reverse, hs, hxc]
      rfl
    rw [List.dropWhile_cons_of_neg (by simpa using hx), ← hs, List.reverse_reverse,
      String.ofList_toList]

theorem trimStartChar_underscore {name : String} (h : name.toList.head? ≠ some '_') :
    trimStartChar ("_" ++ name) '_' = name := by
  unfold trimStartChar
  cases hs : name.toList with
  | nil => simp [hs, ← String.toList_inj]
  | cons c cs =>
    have hc : c ≠ '_' := fun hc => h (by rw [hs, hc]; rfl)
    have hdrop : ("_".toList ++ c :: cs).dropWhile (· == '_') = c :: cs := by
      simp [hc]
    rw [String.toList_append, hs, hdrop, ← hs, String.ofList_toList]

end Text

namespace Naming

theorem stripProviderPrefix_append {first rest : List Char} (hfirst : '_' ∉ first)
    (hrest : rest ≠ []) :
    stripProviderPrefix (String.ofList (first ++ '_' :: rest)) = some (String.ofList rest) := by
  have hpos : ∀ a ∈ first, decide (a ≠ '_') = true := fun a ha => by
    simpa using ne_of_mem_of_not_mem ha hfirst
  have hspan : (first ++ '_' :: rest).span (· ≠ '_') = (first, '_' :: rest) := by
    rw [List.span_eq_takeWhile_dropWhile, List.takeWhile_append_of_pos hpos,
      List.dropWhile_append_of_pos hpos]
    simp
  simp only [stripProviderPrefix, String.toList_ofList, hspan]
  simp [hrest]

end Naming

namespace Linker

variable {l : Linker} {kind : EntityKind} {name : String}

theorem providerPrefix_of_new {r : Registry} {s : Settings} (h : Linker.new r s = .ok l) :
    l.providerPrefix = s.providerPrefix := by
  obtain ⟨_, _, _, -, -, -, rfl⟩ := Linker.eq_of_new h
  rfl

theorem resolve_hinted (h : ⟨kind, name⟩ ∈ l.keys) :
    l.resolve name (some kind) = some ⟨kind, name⟩ := by
  simp [resolve, h]

theorem resolve_eq_none (h : ∀ kind : EntityKind, ⟨kind, name⟩ ∉ l.keys)
    (hint : Option EntityKind) : l.resolve name hint = none := by
  simp [resolve, List.find?_eq_none, h]

/-- A test whose only typed block is `kind` with `typeName` is matched by its configuration to
the first of the type name and its unprefixed form that names an entity of that kind. -/
theorem matchByInferredConfig_single {t : TestFunction} {typeName : String}
    (ht : t.inferredBlocks = [⟨kind, typeName⟩]) :
    l.matchByInferredConfig t =
      (l.resolve typeName (some kind)).orElse fun _ =>
        (l.unprefixed typeName).bind (l.resolve · (some kind)) := by
  unfold matchByInferredConfig
  rw [ht]
  cases hr : l.resolve typeName (some kind) <;> cases hu : l.unprefixed typeName <;>
    simp [hr, hu]

/-- The linker strips, when a prefix is configured and the name starts with it and an
underscore, the rest; else the first segment. -/
theorem unprefixed_of_configured {rest : String} (hp : l.providerPrefix ≠ "")
    (h : (Text.stripPrefix? name l.providerPrefix).bind (Text.stripPrefix? · "_") = some rest)
    (hrest : rest ≠ "") : l.unprefixed name = some rest := by
  simp [unprefixed, hp, h, String.isEmpty_iff, hrest]

theorem unprefixed_of_not_configured
    (h : l.providerPrefix = "" ∨
      (Text.stripPrefix? name l.providerPrefix).bind (Text.stripPrefix? · "_") = none) :
    l.unprefixed name = Naming.stripProviderPrefix name := by
  rcases h with h | h <;> simp [unprefixed, h]

/-- **The linker reads back the extractor's name.** When the configured prefix neither begins nor
ends with an underscore, the name the extractor gives a type-name literal is, unless it is the
literal itself, what the linker's provider stripping makes of the literal. -/
theorem unprefixed_nameFromLiteral {literal : String}
    (hstart : l.providerPrefix.toList.head? ≠ some '_')
    (hend : l.providerPrefix.toList.getLast? ≠ some '_')
    (hne : Extraction.nameFromLiteral literal l.providerPrefix ≠ literal)
    (hempty : Extraction.nameFromLiteral literal l.providerPrefix ≠ "") :
    l.unprefixed literal = some (Extraction.nameFromLiteral literal l.providerPrefix) := by
  unfold Extraction.nameFromLiteral at hne hempty ⊢
  cases hunder : Text.stripPrefix? literal "_" with
  | some rest =>
    simp only [hunder] at hne hempty ⊢
    have hlit : literal.toList = '_' :: rest.toList := Text.stripPrefix?_eq_some_iff.mp hunder
    have hnot : l.providerPrefix = "" ∨
        (Text.stripPrefix? literal l.providerPrefix).bind (Text.stripPrefix? · "_") = none := by
      by_cases hp : l.providerPrefix = ""
      · exact .inl hp
      · right
        cases hs : Text.stripPrefix? literal l.providerPrefix with
        | none => rfl
        | some r =>
          rw [Text.stripPrefix?_eq_some_iff, hlit] at hs
          have hp' : l.providerPrefix.toList ≠ [] := by simpa using hp
          obtain ⟨c, cs, hcs⟩ := List.exists_cons_of_ne_nil hp'
          rw [hcs, List.cons_append, List.cons.injEq] at hs
          exact absurd (by rw [hcs, hs.1]; rfl) hstart
    rw [unprefixed_of_not_configured hnot, ← String.ofList_toList (s := literal), hlit]
    have hrest : rest.toList ≠ [] := by simpa using hempty
    simpa using @Naming.stripProviderPrefix_append [] _ (by simp) hrest
  | none =>
    simp only [hunder] at hne hempty ⊢
    -- the extractor strips the prefix and an underscore at once, the linker one after the other
    have htrim : Text.trimEndChar l.providerPrefix '_' ++ "_" = l.providerPrefix ++ "_" := by
      rw [Text.trimEndChar_of_getLast? hend]
    by_cases hp : l.providerPrefix = ""
    · simp only [hp, String.isEmpty_iff, if_true] at hne hempty ⊢
      rw [unprefixed_of_not_configured (.inl hp)]
      cases hs : Naming.stripProviderPrefix literal with
      | none => simp [hs] at hne
      | some x => rfl
    · have hp' : l.providerPrefix.isEmpty = false := by simpa [String.isEmpty_iff] using hp
      simp only [hp', Bool.false_eq_true, if_false, htrim, Text.stripPrefix?_append] at hne hempty ⊢
      cases hc : (Text.stripPrefix? literal l.providerPrefix).bind (Text.stripPrefix? · "_") with
      | some rest =>
        simp only [hc] at hempty ⊢
        exact unprefixed_of_configured hp hc hempty
      | none =>
        simp only [hc] at hne ⊢
        rw [unprefixed_of_not_configured (.inr hc)]
        cases hs : Naming.stripProviderPrefix literal with
        | none => simp [hs] at hne
        | some x => rfl

/-- The type `P_S` of a provider without underscores loses `P` and the underscore, whether the
configured prefix is empty or `P`. -/
theorem unprefixed_providerType {provider suffix : String} (hprovider : provider ≠ "")
    (hunder : '_' ∉ provider.toList) (hsuffix : suffix ≠ "")
    (hp : l.providerPrefix = "" ∨ l.providerPrefix = provider) :
    l.unprefixed (provider ++ "_" ++ suffix) = some suffix := by
  rcases hp with hp | hp
  · rw [unprefixed_of_not_configured (.inl hp)]
    have hs : suffix.toList ≠ [] := by simpa using hsuffix
    have htype : (provider ++ "_" ++ suffix).toList = provider.toList ++ '_' :: suffix.toList := by
      simp
    rw [← String.ofList_toList (s := provider ++ "_" ++ suffix), htype,
      Naming.stripProviderPrefix_append hunder hs, String.ofList_toList]
  · refine unprefixed_of_configured (hp ▸ hprovider) ?_ hsuffix
    have h₁ : Text.stripPrefix? (provider ++ "_" ++ suffix) provider = some ("_" ++ suffix) := by
      rw [Text.stripPrefix?_eq_some_iff]
      simp
    have h₂ : Text.stripPrefix? ("_" ++ suffix) "_" = some suffix := by
      rw [Text.stripPrefix?_eq_some_iff]
      simp
    rw [hp, h₁, Option.bind_some, h₂]

end Linker

/-- **A configured type is matched to its entity.** For a linker made from a registry with the
provider prefix `p`, a test whose only typed block is of `kind` is matched by its configuration
to the entity that the `Metadata` method assigning the block's type names:
* a literal `L`, when `p` neither begins nor ends with an underscore, the extractor's name
  `n = nameFromLiteral L p` is not empty, the registry holds `(kind, n)`, and, unless `n = L`,
  no entity is named `L`;
* `req.ProviderTypeName + "_S"`, which the extractor names `S` when `S` does not begin with an
  underscore, for the configured type `P_S` of a provider `P` without underscores, when `p` is
  empty or `P`, the registry holds `(kind, S)`, and no entity is named `P_S`. -/
theorem matchByInferredConfig_configuredType {r : Registry} {s : Settings} {l : Linker}
    (hl : Linker.new r s = .ok l) (kind : EntityKind) :
    (∀ (literal : String) (t : TestFunction),
      s.providerPrefix.toList.head? ≠ some '_' → s.providerPrefix.toList.getLast? ≠ some '_' →
      Extraction.nameFromLiteral literal s.providerPrefix ≠ "" →
      ⟨kind, Extraction.nameFromLiteral literal s.providerPrefix⟩ ∈ r.keys →
      (Extraction.nameFromLiteral literal s.providerPrefix ≠ literal →
        ∀ kind' : EntityKind, ⟨kind', literal⟩ ∉ r.keys) →
      t.inferredBlocks = [⟨kind, literal⟩] →
      l.matchByInferredConfig t = some ⟨kind, Extraction.nameFromLiteral literal s.providerPrefix⟩) ∧
    (∀ (provider suffix : String) (t : TestFunction),
      provider ≠ "" → '_' ∉ provider.toList → suffix ≠ "" → suffix.toList.head? ≠ some '_' →
      (s.providerPrefix = "" ∨ s.providerPrefix = provider) →
      ⟨kind, suffix⟩ ∈ r.keys → (∀ kind' : EntityKind, ⟨kind', provider ++ "_" ++ suffix⟩ ∉ r.keys) →
      t.inferredBlocks = [⟨kind, provider ++ "_" ++ suffix⟩] →
      Text.trimStartChar ("_" ++ suffix) '_' = suffix ∧
        l.matchByInferredConfig t = some ⟨kind, suffix⟩) := by
  obtain ⟨hkeys, -⟩ := Linker.new_eq_ok hl
  have hpre := Linker.providerPrefix_of_new hl
  constructor
  · intro literal t hstart hend hempty hmem hother ht
    rw [Linker.matchByInferredConfig_single ht]
    by_cases hsame : Extraction.nameFromLiteral literal s.providerPrefix = literal
    · rw [hsame] at hmem ⊢
      rw [Linker.resolve_hinted (hkeys ▸ hmem), Option.orElse_some]
    · rw [Linker.resolve_eq_none (hkeys ▸ hother hsame), Option.orElse_none,
        Linker.unprefixed_nameFromLiteral (hpre ▸ hstart) (hpre ▸ hend)
          (hpre ▸ hsame) (hpre ▸ hempty), hpre, Option.bind_some,
        Linker.resolve_hinted (hkeys ▸ hmem)]
  · intro provider suffix t hprovider hunder hsuffix hhead hp hmem hother ht
    refine ⟨Text.trimStartChar_underscore hhead, ?_⟩
    rw [Linker.matchByInferredConfig_single ht, Linker.resolve_eq_none (hkeys ▸ hother),
      Option.orElse_none, Linker.unprefixed_providerType hprovider hunder hsuffix (hpre ▸ hp),
      Option.bind_some, Linker.resolve_hinted (hkeys ▸ hmem)]

def widgetRegistry : Registry where
  entities := [{ kind := .resource, name := "widget", location := ⟨"widget.go", 1, 1⟩ }]

/-- A test whose configuration declares one resource block of the type. -/
def blockTest (typeName : String) : TestFunction where
  name := "TestAccSomething"
  location := ⟨"misc_test.go", 1, 1⟩
  inferredBlocks := [⟨.resource, typeName⟩]

/-- Under the prefix `example` the literal `example_widget` and the type
`example_widget` of the provider `example` both lead the test to the widget. -/
theorem example_widget_type_matched :
    ∃ l, Linker.new widgetRegistry { providerPrefix := "example" } = .ok l ∧
      l.matchByInferredConfig (blockTest "example_widget") = some ⟨.resource, "widget"⟩ ∧
      l.matchByInferredConfig (blockTest ("example" ++ "_" ++ "widget")) =
        some ⟨.resource, "widget"⟩ := by
  obtain ⟨l, hl⟩ : ∃ l, Linker.new widgetRegistry { providerPrefix := "example" } = .ok l :=
    ⟨_, rfl⟩
  have hname : Extraction.nameFromLiteral "example_widget" "example" = "widget" := by decide
  refine ⟨l, hl, ?_, ?_⟩
  · have h := (matchByInferredConfig_configuredType hl .resource).1 "example_widget"
      (blockTest "example_widget") (by decide) (by decide) (by decide) (by decide)
      (fun _ _ h => by simp [widgetRegistry, Registry.keys, Entity.key] at h) rfl
    rwa [hname] at h
  · exact ((matchByInferredConfig_configuredType hl .resource).2 "example" "widget"
      (blockTest _) (by decide) (by decide) (by decide) (by decide) (.inr rfl) (by decide)
      (fun _ h => by simp [widgetRegistry, Registry.keys, Entity.key] at h) rfl).2

/-- With the prefix written `my_ex_`, the extractor names the literal `my_ex_widget` `widget`,
but the linker, which keeps the prefix's underscore, strips only the first segment and finds
no entity for the test. -/
theorem trailing_underscore_prefix_unmatched :
    Extraction.nameFromLiteral "my_ex_widget" "my_ex_" = "widget" ∧
      ∃ l, Linker.new widgetRegistry { providerPrefix := "my_ex_" } = .ok l ∧
        l.matchByInferredConfig (blockTest "my_ex_widget") = none :=
  ⟨by decide, _, rfl, by decide⟩

end ProviderCoverage
