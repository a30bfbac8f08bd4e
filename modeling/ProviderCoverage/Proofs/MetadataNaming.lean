import Mathlib
import ProviderCoverage.Proofs.DiscoveryInvariant

/-!
# When a `Metadata` name survives extraction

A `Metadata` method names its receiver's entity authoritatively, but the naming is applied to the
discovery state as it stands. When another receiver already holds the key, by the provisional
name of its `Schema` method say, the naming is an insertion of a key that is taken and changes
nothing; a later `Metadata` method of that other receiver then renames the shared entity away
(`metadata_name_lost`, on such a file).

What is true is a persistence law. A discovery removes a key only by naming, with another key, a
receiver that holds it, and no receiver comes to hold a key that is listed
(`WellFormed.keep_apply`). So a key stays listed through every run of discoveries that names no
holder of the key otherwise (`WellFormed.key_mem_run`), and extraction returns a `Metadata` name
under that condition (`extract_keeps_metadata_name`).
-/

namespace ProviderCoverage.Extraction

namespace DiscoveryState

variable {s : DiscoveryState} {k : EntityKey}

theorem run_append (s : DiscoveryState) (ds₁ ds₂ : List Discovery) :
    s.run (ds₁ ++ ds₂) = (s.run ds₁).run ds₂ := by
  simp [run, List.foldl_append]

theorem keep_insert (hk : k ∈ s.keys) (e : Entity) (receiver : Option String) :
    k ∈ (s.insert e receiver).keys ∧
      ∀ r, (r, k) ∈ (s.insert e receiver).receivers → (r, k) ∈ s.receivers := by
  refine ⟨List.map_subset _ (prefix_insert e receiver).subset hk, fun r' hr' => ?_⟩
  rcases insert_cases (s := s) e receiver with ⟨-, heq⟩ | ⟨-, heq⟩ | ⟨r, -, hfresh, -, heq⟩
  · rwa [heq] at hr'
  · rwa [heq] at hr'
  · rw [heq] at hr'
    rcases List.mem_append.mp hr' with hr' | hr'
    · exact hr'
    · obtain rfl : k = e.key := (Prod.mk.inj (List.mem_singleton.mp hr')).2
      exact absurd hk hfresh

/-- **Step lemma.** A listed key stays listed through a discovery that names no receiver holding
it with another key, and no receiver comes to hold it. -/
theorem WellFormed.keep_apply (h : s.WellFormed) (hk : k ∈ s.keys) (d : Discovery)
    (hd : ∀ r e, d = .replaceIfPresent r e → (r, k) ∈ s.receivers → e.key = k) :
    k ∈ (s.apply d).1.keys ∧ ∀ r, (r, k) ∈ (s.apply d).1.receivers → (r, k) ∈ s.receivers := by
  cases d with
  | insert e receiver => exact keep_insert hk e receiver
  | replaceIfPresent r e =>
    have hkeys : k ∈ (s.apply (.replaceIfPresent r e)).1.keys := by
      by_cases hrk : s.keyOf? r = some k
      · have hnew := hd r e rfl (mem_of_keyOf? hrk)
        exact hnew ▸ key_mem_apply h (.replaceIfPresent r e)
      · obtain ⟨x, hx, rfl⟩ := List.mem_map.mp hk
        exact List.mem_map_of_mem ((filter_sublist_apply_replaceIfPresent r e).subset
          (List.mem_filter.mpr ⟨hx, by simpa using hrk⟩))
    refine ⟨hkeys, fun r' hr' => ?_⟩
    rcases apply_replaceIfPresent_cases (s := s) r e with
      ⟨-, heq⟩ | ⟨-, heq⟩ | ⟨_, -, -, -, heq⟩ | ⟨_, _, -, -, -, -, heq⟩ |
      ⟨_, _, _, -, hne, hi, hfree, -, heq⟩
    · rw [heq] at hr'
      exact (keep_insert hk e (some r)).2 r' hr'
    · rwa [heq] at hr'
    · rw [heq] at hr'
      exact (keep_insert hk e (some r)).2 r' hr'
    · rw [heq] at hr'
      exact List.mem_of_mem_filter hr'
    · rw [heq] at hr'
      rcases List.mem_append.mp hr' with hr' | hr'
      · exact List.mem_of_mem_filter hr'
      · obtain ⟨rfl, rfl⟩ := Prod.mk.inj (List.mem_singleton.mp hr')
        exact absurd (key_mem_eraseIdx hi hk (Ne.symm hne)) hfree

/-- **Run lemma.** A listed key stays listed through every sequence of discoveries that names no
receiver holding it with another key. -/
theorem WellFormed.key_mem_run (h : s.WellFormed) (hk : k ∈ s.keys) (ds : List Discovery)
    (hds : ∀ r e, .replaceIfPresent r e ∈ ds → (r, k) ∈ s.receivers → e.key = k) :
    k ∈ (s.run ds).keys := by
  induction ds generalizing s with
  | nil => exact hk
  | cons d ds ih =>
    -- the holders of the key only ever get fewer, so the condition carries over
    obtain ⟨hk', hholders⟩ := h.keep_apply hk d fun r e hd hr =>
      hds r e (hd ▸ List.mem_cons_self) hr
    exact ih (h.apply d) hk' fun r e hmem hr => hds r e (List.mem_cons_of_mem _ hmem) (hholders r hr)

end DiscoveryState

/-- A `Metadata` method of a `*Resource` or `*DataSource` receiver that assigns a type name
names its receiver's entity among the discoveries of the file. -/
theorem naming_mem_discoveries {c : FileContext} {fn : Go.FuncDecl}
    (hfn : fn ∈ c.methodsNamed "Metadata") {r : String} (hr : fn.receiver = some r)
    {kind : EntityKind} (hkind : receiverKind r = some kind) (haction : kind ≠ .action) {n : String}
    (hn : fn.body.bind (metadataTypeName c) = some n) :
    .replaceIfPresent r { kind := kind, name := n, location := c.file.location fn.node } ∈
      strategies.flatMap (·.discover c) := by
  refine List.mem_flatMap.mpr ⟨metadataMethod, by simp [strategies], ?_⟩
  refine List.mem_filterMap.mpr ⟨fn, hfn, ?_⟩
  cases kind with
  | resource => simp [hr, hkind, hn]
  | dataSource => simp [hr, hkind, hn]
  | action => exact absurd rfl haction

/-- **A `Metadata` name is kept unless its holder is renamed.** Every `Metadata` method of a
`*Resource` or `*DataSource` receiver that assigns a type name names its receiver's entity among
the discoveries of its file. Wherever such a naming stands among them, if no later naming with
another name is for a receiver that holds its key once it is applied, extraction returns an
entity under that key, unless the name is a nested-schema helper's. -/
theorem extract_keeps_metadata_name (x : Extractor) (f : Go.File) :
    let c := FileContext.ofFile f x.settings
    (∀ fn ∈ c.methodsNamed "Metadata", ∀ r kind n, fn.receiver = some r →
      receiverKind r = some kind → kind ≠ .action → fn.body.bind (metadataTypeName c) = some n →
      .replaceIfPresent r { kind := kind, name := n, location := c.file.location fn.node } ∈
        strategies.flatMap (·.discover c)) ∧
    ∀ pre post r e, strategies.flatMap (·.discover c) = pre ++ .replaceIfPresent r e :: post →
      (∀ r' e', .replaceIfPresent r' e' ∈ post →
        (r', e.key) ∈ (({} : DiscoveryState).run (pre ++ [.replaceIfPresent r e])).receivers →
        e'.key = e.key) →
      anyGlobMatches x.nestedSchema e.name = false →
      e.key ∈ (x.extract f).1.map (·.key) := by
  intro c
  refine ⟨fun fn hfn r kind n hr hkind haction hn => naming_mem_discoveries hfn hr hkind haction hn,
    fun pre post r e hds hkept hnested => ?_⟩
  have hk : e.key ∈ (({} : DiscoveryState).run (pre ++ [.replaceIfPresent r e])).keys := by
    rw [DiscoveryState.run_append]
    exact DiscoveryState.key_mem_apply (DiscoveryState.wellFormed_empty.run pre) _
  have hfinal := (DiscoveryState.wellFormed_empty.run _).key_mem_run hk post hkept
  rw [← DiscoveryState.run_append, List.append_assoc, List.singleton_append, ← hds,
    ← runStrategies_fst] at hfinal
  rw [extract_keys]
  obtain ⟨y, hy, hyk⟩ := List.mem_map.mp hfinal
  have hname : y.name = e.name := congrArg EntityKey.name hyk
  exact List.mem_map.mpr ⟨y, List.mem_filter.mpr ⟨hy, by simp [hname, hnested]⟩, hyk⟩

/-- The characters of a byte sequence read as ASCII, or `none` if some byte is not ASCII. -/
def asciiChars : List UInt8 → Option (List Char)
  | [] => some []
  | b :: bs => if b < 128 then (asciiChars bs).map (Char.ofNat b.toNat :: ·) else none

theorem asciiChars_utf8EncodeChar_append (c : Char) (bs : List UInt8) :
    asciiChars (String.utf8EncodeChar c ++ bs) =
      if c.toNat < 128 then (asciiChars bs).map (c :: ·) else none := by
  by_cases hc : c.toNat < 128
  · have henc : String.utf8EncodeChar c = [UInt8.ofNat c.toNat] := by
      simp [String.utf8EncodeChar, show c.toNat ≤ 127 by omega]
    have hbyte : (UInt8.ofNat c.toNat).toNat = c.toNat := by simp; omega
    simp [henc, asciiChars, hc, UInt8.lt_iff_toNat_lt, hbyte]
  · obtain ⟨b, rest, henc, hb⟩ : ∃ b rest, String.utf8EncodeChar c = b :: rest ∧ ¬b < 128 := by
      unfold String.utf8EncodeChar
      simp only [Char.toNat_val]
      split_ifs <;> refine ⟨_, _, rfl, ?_⟩ <;> simp [UInt8.lt_iff_toNat_lt] <;> omega
    simp [henc, asciiChars, hb, hc]

theorem asciiChars_flatMap_utf8EncodeChar (l : List Char) :
    asciiChars (l.flatMap String.utf8EncodeChar) = some l ∨
      asciiChars (l.flatMap String.utf8EncodeChar) = none := by
  induction l with
  | nil => simp [asciiChars]
  | cons c l ih =>
    rw [List.flatMap_cons, asciiChars_utf8EncodeChar_append]
    split_ifs
    · rcases ih with h | h <;> simp [h]
    · simp

/-- A string's characters are its bytes read as ASCII, whenever they all are. The kernel decodes
UTF-8 by well-founded recursion, slowly; with this rewrite it reads a source text's characters
off its bytes instead. -/
theorem toList_eq_asciiChars (s : String) :
    s.toList = (asciiChars s.toByteArray.data.toList).getD s.toList := by
  have hbytes : s.toByteArray.data.toList = s.toList.flatMap String.utf8EncodeChar := by
    conv_lhs => rw [← String.ofList_toList (s := s)]
    rw [String.toByteArray_ofList, List.utf8Encode, List.toList_data_toByteArray]
  rcases asciiChars_flatMap_utf8EncodeChar s.toList with h | h <;> simp [hbytes, h]

/-- A provider file where `FooResource` has a `Schema` method, then `BarResource`'s `Metadata`
method names `foo` and `FooResource`'s names `qux`. -/
def lostNameSource : String :=
  "package provider\n\nfunc (r *FooResource) Schema(ctx context.Context, req resource.SchemaRequest, resp *resource.SchemaResponse) \x7b\n\x7d\n\nfunc (r *BarResource) Metadata(ctx context.Context, req resource.MetadataRequest, resp *resource.MetadataResponse) \x7b\n    resp.TypeName = \"example_foo\"\n\x7d\n\nfunc (r *FooResource) Metadata(ctx context.Context, req resource.MetadataRequest, resp *resource.MetadataResponse) \x7b\n    resp.TypeName = \"example_qux\"\n\x7d\n"

/-- In that file `BarResource`'s `Metadata` method names `foo`, yet extraction returns `qux`
alone: the naming of `foo` met the key of `FooResource`'s provisional entity and changed nothing,
and `FooResource`'s own naming then renamed that entity. -/
theorem metadata_name_lost :
    ∃ x, Extractor.new {} = .ok x ∧
      (∃ fn ∈ (FileContext.ofFile (Go.File.parse "provider.go" lostNameSource false)
          x.settings).methodsNamed "Metadata", fn.receiver = some "BarResource" ∧
        fn.body.bind (metadataTypeName
          (FileContext.ofFile (Go.File.parse "provider.go" lostNameSource false) x.settings)) =
          some "foo") ∧
      (x.extract (Go.File.parse "provider.go" lostNameSource false)).1.map (·.key) =
        [⟨.resource, "qux"⟩] := by
  have hrun : ((Extractor.new {}).toOption.map fun x =>
      let c := FileContext.ofFile (Go.File.parse "provider.go" lostNameSource false) x.settings
      (c.methodsNamed "Metadata").any (fun fn => fn.receiver == some "BarResource" &&
          fn.body.bind (metadataTypeName c) == some "foo") &&
        (x.extract (Go.File.parse "provider.go" lostNameSource false)).1.map (·.key) ==
          [⟨.resource, "qux"⟩]) = some true := by
    rw [Go.File.parse, Go.parse, Go.tokenize, ← String.length_toList (s := lostNameSource),
      toList_eq_asciiChars lostNameSource]
    decide +kernel
  cases hx : Extractor.new {} with
  | error e => simp [hx, Except.toOption] at hrun
  | ok x =>
    simp only [hx, Except.toOption, Option.map_some, Option.some.injEq, Bool.and_eq_true,
      List.any_eq_true, beq_iff_eq] at hrun
    exact ⟨x, rfl, hrun.1, hrun.2⟩

end ProviderCoverage.Extraction
