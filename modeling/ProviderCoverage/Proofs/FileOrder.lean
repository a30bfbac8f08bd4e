import ProviderCoverage.Proofs.Build
import ProviderCoverage.Proofs.DiscoveryInvariant

/-!
# The order of the files does not matter

An analysis reads its files in the order they are given, but sorts the files it keeps by path
before anything is built from them. When no two files share a path, two orders of the same files
therefore load the same sorted list (`LoadResult.ofMemory_eq_of_perm`), and everything built
from it, the registry included, is the same (`analyzeSources_eq_of_perm`).

Registration keeps the first entity under each key, and extraction runs file by file in path
order, so the entity registered under a key is the first one declared under it in the file with
the smallest path that declares it (`buildRegistry_entity?`).
-/

namespace ProviderCoverage

/-- A `filterMap` whose every result is determined by its argument through `k` keeps, in order,
a part of `l.map k`. -/
theorem filterMap_map_sublist {α β γ : Type} (f : α → Option β) (g : β → γ) (k : α → γ)
    (hk : ∀ a, ∀ b ∈ f a, g b = k a) (l : List α) : ((l.filterMap f).map g).Sublist (l.map k) := by
  induction l with
  | nil => exact .slnil
  | cons a l ih =>
    cases hfa : f a with
    | none => simpa [hfa] using ih.cons (k a)
    | some b => simpa [hfa, hk a b hfa] using ih.cons_cons (k a)

namespace Loaded

theorem ofSource_cases (filter : FileFilter) (path content : String) :
    (ofSource filter path content).1 = .excluded ∨
      ∃ isTest, (ofSource filter path content).1 = .file (Go.File.parse path content isTest) := by
  unfold ofSource
  dsimp only
  split
  · exact .inl rfl
  · exact .inr ⟨_, rfl⟩

end Loaded

namespace LoadResult

variable {filter : FileFilter} {src₁ src₂ : List (String × String)}

theorem warnings_ofMemory (filter : FileFilter) (src : List (String × String)) :
    (ofMemory filter src).1.warnings = [] := by
  simp only [ofMemory, collect]
  rw [List.filterMap_eq_nil_iff]
  intro o ho
  obtain ⟨⟨path, content⟩, -, rfl⟩ : ∃ a ∈ src, (Loaded.ofSource filter a.1 a.2).1 = o := by
    simpa using ho
  rcases Loaded.ofSource_cases filter path content with h | ⟨_, h⟩ <;> simp [h]

theorem files_ofMemory_perm (hperm : src₁.Perm src₂) :
    (ofMemory filter src₁).1.files.Perm (ofMemory filter src₂).1.files := by
  simp only [ofMemory, collect]
  exact (List.mergeSort_perm _ _).trans
    (((hperm.map _).map _).filterMap _ |>.trans (List.mergeSort_perm _ _).symm)

/-- The loaded files stand under the paths they were given with, so distinct paths stay
distinct. -/
theorem paths_ofMemory_nodup (hpaths : (src₁.map (·.1)).Nodup) :
    ((ofMemory filter src₁).1.files.map (·.path)).Nodup := by
  simp only [ofMemory, collect]
  refine ((List.mergeSort_perm _ _).map _).nodup_iff.mpr (hpaths.sublist ?_)
  rw [List.map_map, List.filterMap_map]
  refine filterMap_map_sublist _ _ _ (fun ⟨path, content⟩ f hf => ?_) src₁
  rcases Loaded.ofSource_cases filter path content with h | ⟨_, h⟩ <;>
    simp [Function.comp_def, h] at hf
  exact hf ▸ rfl

theorem files_ofMemory_sorted (filter : FileFilter) (src : List (String × String)) :
    (ofMemory filter src).1.files.Pairwise fun a b => decide (a.path ≤ b.path) = true := by
  simp only [ofMemory, collect]
  refine List.pairwise_mergeSort (fun a b c hab hbc => ?_) (fun a b => ?_) _
  · simp only [decide_eq_true_eq] at hab hbc ⊢
    exact le_trans hab hbc
  · simpa using le_total a.path b.path

/-- Sorted by path, with no path repeated, the loaded files come in strictly increasing path
order. -/
theorem files_ofMemory_strictly_sorted (hpaths : (src₁.map (·.1)).Nodup) :
    (ofMemory filter src₁).1.files.Pairwise fun a b => a.path < b.path :=
  ((files_ofMemory_sorted filter src₁).and (List.pairwise_map.mp (paths_ofMemory_nodup hpaths))).imp
    fun ⟨hle, hne⟩ => lt_of_le_of_ne (by simpa using hle) hne

/-- **Loading ignores the order of the sources** when no two share a path. -/
theorem ofMemory_eq_of_perm (hperm : src₁.Perm src₂) (hpaths : (src₁.map (·.1)).Nodup) :
    (ofMemory filter src₁).1 = (ofMemory filter src₂).1 := by
  have hfiles : (ofMemory filter src₁).1.files = (ofMemory filter src₂).1.files := by
    refine (files_ofMemory_perm hperm).eq_of_pairwise (fun a b ha hb hab hba => ?_)
      (files_ofMemory_sorted _ _) (files_ofMemory_sorted _ _)
    have hb' := (files_ofMemory_perm hperm).mem_iff.mpr hb
    exact List.inj_on_of_nodup_map (paths_ofMemory_nodup hpaths) ha hb'
      (le_antisymm (by simpa using hab) (by simpa using hba))
  have hwarnings := (warnings_ofMemory filter src₁).trans (warnings_ofMemory filter src₂).symm
  cases h₁ : (ofMemory filter src₁).1
  cases h₂ : (ofMemory filter src₂).1
  rw [h₁, h₂] at hfiles hwarnings
  simp_all

end LoadResult

theorem foldl_view {α β γ : Type} (view : α → γ) (g : α → β → α) (hg : ∀ a b, view (g a b) = view a)
    (l : List β) (init : α) : view (l.foldl g init) = view init := by
  induction l generalizing init with
  | nil => rfl
  | cons b l ih => rw [List.foldl_cons, ih, hg]

/-! ## Registering entities -/

namespace Registry

variable {e : Entity} {k : EntityKey}

theorem find?_insertByKey {l : List Entity} (hfresh : e.key ∉ l.map (·.key)) :
    (insertByKey e l).find? (·.key == k) = if e.key = k then some e else l.find? (·.key == k) := by
  induction l with
  | nil => by_cases h : e.key = k <;> simp [insertByKey, h]
  | cons x xs ih =>
    have hx : x.key ≠ e.key := fun h => hfresh (by simp [← h])
    unfold insertByKey
    split
    · by_cases h : e.key = k <;> simp [h]
    · rw [List.find?_cons, ih (fun h => hfresh (List.mem_cons_of_mem _ h)), List.find?_cons]
      by_cases h : e.key = k
      · subst h
        have hb : (x.key == e.key) = false := by simpa using hx
        simp [hb]
      · simp [h]

/-- Registering an entity adds it under its key when the key is free, and changes nothing
under any key otherwise. -/
theorem entity?_registerEntity (r : Registry) (e : Entity) (k : EntityKey) :
    (r.registerEntity e).1.1.entity? k = (r.entity? k).or (if e.key = k then some e else none) := by
  rw [registerEntity_fst]
  split
  · rename_i htaken
    by_cases h : e.key = k
    · subst h
      have hsome : (r.entity? e.key).isSome := by
        simpa [entity?, contains, List.find?_isSome] using htaken
      obtain ⟨x, hx⟩ := Option.isSome_iff_exists.mp hsome
      simp [hx]
    · simp [h]
  · rename_i hfree
    have hfresh : e.key ∉ r.entities.map (·.key) := by simpa [contains] using hfree
    simp only [entity?, find?_insertByKey hfresh]
    by_cases h : e.key = k
    · subst h
      have hnone : r.entities.find? (·.key == e.key) = none :=
        List.find?_eq_none.mpr fun x hx heq => hfresh (List.mem_map.mpr ⟨x, hx, by simpa using heq⟩)
      simp [hnone]
    · simp [h]

/-- **First registration wins.** Registering entities in order leaves under each key what stood
there before, else the first entity registered under it. -/
theorem entity?_foldl_registerEntity (es : List Entity) (r : Registry) (k : EntityKey) :
    (es.foldl (fun r e => (r.registerEntity e).1.1) r).entity? k =
      (r.entity? k).or (es.find? (·.key == k)) := by
  induction es generalizing r with
  | nil => simp
  | cons e es ih =>
    rw [List.foldl_cons, ih, entity?_registerEntity, Option.or_assoc, List.find?_cons]
    by_cases h : e.key = k
    · simp [h]
    · have hb : (e.key == k) = false := by simpa using h
      simp [h, hb]

end Registry

theorem registerEntities_fst (x : Extraction.Extractor) (files : List Go.File) (r : Registry) :
    (registerEntities x files r).1 =
      (files.flatMap fun f => (x.extract f).1).foldl (fun r e => (r.registerEntity e).1.1) r := by
  unfold registerEntities
  rw [List.foldl_flatMap]
  refine Extraction.foldl_fst _ (fun (r : Registry) f =>
    (x.extract f).1.foldl (fun r e => (r.registerEntity e).1.1) r) (fun acc f => ?_) _ _
  obtain ⟨r, events⟩ := acc
  generalize x.extract f = found
  obtain ⟨entities, found⟩ := found
  refine Extraction.foldl_fst _ (fun (r : Registry) e => (r.registerEntity e).1.1)
    (fun acc e => ?_) _ _
  obtain ⟨r, events⟩ := acc
  rfl

theorem registerTests_fst (s : Settings) (files : List Go.File) (r : Registry) :
    (registerTests s files r).1 =
      (files.flatMap fun f => ((TestDiscovery.Discoverer.new s
        (TestDiscovery.findLocalHelpers files).1).parse f).1).foldl
        (fun r t => (r.registerTest t).1) r := by
  unfold registerTests
  rw [List.foldl_flatMap]
  generalize TestDiscovery.findLocalHelpers files = found
  obtain ⟨helpers, found⟩ := found
  refine Extraction.foldl_fst _ (fun (r : Registry) f =>
    ((TestDiscovery.Discoverer.new s helpers).parse f).1.foldl (fun r t => (r.registerTest t).1) r)
    (fun acc f => ?_) _ _
  obtain ⟨r, events⟩ := acc
  generalize (TestDiscovery.Discoverer.new s helpers).parse f = parsed
  obtain ⟨tests, parsed⟩ := parsed
  rfl

theorem registerSweepers_fst (files : List Go.File) (r : Registry) :
    (registerSweepers files r).1 = (files.filter TestDiscovery.registersSweepers).foldl
      (fun r f => r.registerSweeperFile f.path) r := by
  unfold registerSweepers
  rw [List.foldl_filter]
  refine Extraction.foldl_fst _ _ (fun acc f => ?_) _ _
  obtain ⟨r, events⟩ := acc
  dsimp only
  split <;> rfl

theorem registerTests_entities (s : Settings) (files : List Go.File) (r : Registry) :
    (registerTests s files r).1.entities = r.entities := by
  rw [registerTests_fst]
  exact foldl_view Registry.entities (fun r t => (r.registerTest t).1) (fun _ _ => rfl) _ r

theorem registerSweepers_entities (files : List Go.File) (r : Registry) :
    (registerSweepers files r).1.entities = r.entities := by
  rw [registerSweepers_fst]
  exact foldl_view Registry.entities (fun r (f : Go.File) => r.registerSweeperFile f.path)
    (fun _ _ => rfl) _ r

section Build

variable {files : List Go.File} {s : Settings} {x : Extraction.Extractor} {r : Registry}

/-- The built registry holds the entities registered from the source files: registering tests
and sweepers and linking leave them alone. -/
theorem buildRegistry_entities (hx : Extraction.Extractor.new s = .ok x)
    (h : (buildRegistry files s).1 = .ok r) :
    r.entities = (registerEntities x (files.filter (!·.isTest)) {}).1.entities := by
  obtain ⟨x', r₀, l, n, -, hx', rfl, hl, hrun⟩ := buildRegistry_eq_ok h
  obtain rfl : x' = x := Except.ok.inj (hx'.symm.trans hx)
  rw [(Linker.linkAll_of_new hl hrun).1, registerSweepers_entities, registerTests_entities]

/-- **The first declaration wins.** Under each key the built registry holds the first entity
declared under it by the source files, taken in order. -/
theorem buildRegistry_entity? (hx : Extraction.Extractor.new s = .ok x)
    (h : (buildRegistry files s).1 = .ok r) (k : EntityKey) :
    r.entity? k = ((files.filter (!·.isTest)).flatMap fun f => (x.extract f).1).find? (·.key == k) := by
  have hfold := Registry.entity?_foldl_registerEntity
    ((files.filter (!·.isTest)).flatMap fun f => (x.extract f).1) {} k
  rw [← registerEntities_fst] at hfold
  simpa [Registry.entity?, buildRegistry_entities hx h] using hfold

/-- In files sorted by path, the first declaration under a key is the first one in the file of
smallest path that declares the key. -/
theorem find?_flatMap_of_least {decls : Go.File → List Entity}
    (hsorted : files.Pairwise fun a b => a.path < b.path) {f : Go.File} (hf : f ∈ files)
    {e : Entity} (he : (decls f).find? (·.key == e.key) = some e)
    (hleast : ∀ g ∈ files, g.path < f.path → ∀ e' ∈ decls g, e'.key ≠ e.key) :
    (files.flatMap decls).find? (·.key == e.key) = some e := by
  obtain ⟨pre, post, rfl⟩ := List.append_of_mem hf
  have hbefore : ∀ g ∈ pre, g.path < f.path := fun g hg =>
    (List.pairwise_append.mp hsorted).2.2 g hg f List.mem_cons_self
  have hpre : (pre.flatMap decls).find? (·.key == e.key) = none := by
    refine List.find?_eq_none.mpr fun e' he' heq => ?_
    obtain ⟨g, hg, he'g⟩ := List.mem_flatMap.mp he'
    exact hleast g (List.mem_append_left _ hg) (hbefore g hg) e' he'g (by simpa using heq)
  simp [List.flatMap_append, List.find?_append, hpre, he]

end Build

/-! ## Analysing sources -/

section Analyze

variable {src : List (String × String)} {s : Settings}

/-- With a file filter read from the settings, an analysis loads the sources and builds from the
files it kept. -/
theorem analyzeSources_fst_of_filter {filter : FileFilter}
    (hf : FileFilter.ofSettings s = .ok filter) :
    (analyzeSources src s).1 = (buildRegistry (LoadResult.ofMemory filter src).1.files s).1.map
      ((LoadResult.ofMemory filter src).1, ·) := by
  unfold analyzeSources
  rw [hf]

theorem analyzeSources_fst_of_error {e : ConfigError} (hf : FileFilter.ofSettings s = .error e) :
    (analyzeSources src s).1 = .error (.config e) := by
  unfold analyzeSources
  rw [hf]

/-- A successful analysis loaded its files through the settings' filter and built its registry
from them. -/
theorem analyzeSources_eq_ok {loaded : LoadResult} {r : Registry}
    (h : (analyzeSources src s).1 = .ok (loaded, r)) :
    ∃ filter, FileFilter.ofSettings s = .ok filter ∧ loaded = (LoadResult.ofMemory filter src).1 ∧
      (buildRegistry loaded.files s).1 = .ok r := by
  cases hf : FileFilter.ofSettings s with
  | error e => rw [analyzeSources_fst_of_error hf] at h; cases h
  | ok filter =>
    rw [analyzeSources_fst_of_filter hf] at h
    cases hb : (buildRegistry (LoadResult.ofMemory filter src).1.files s).1 with
    | error e => rw [hb] at h; cases h
    | ok r' =>
      rw [hb] at h
      cases h
      exact ⟨filter, rfl, rfl, hb⟩

/-- **The order of the sources does not matter.** Two orders of the same sources, no two of one
path, analyse to the same result: the same loaded files, registry and error alike. The files
come sorted by path, and under each key the registry holds the first entity declared under it in
the source file of smallest path that declares it. -/
theorem analyzeSources_eq_of_perm {src₁ src₂ : List (String × String)} (hperm : src₁.Perm src₂)
    (hpaths : (src₁.map (·.1)).Nodup) (s : Settings) :
    (analyzeSources src₁ s).1 = (analyzeSources src₂ s).1 ∧
    ∀ loaded r x, (analyzeSources src₁ s).1 = .ok (loaded, r) →
      Extraction.Extractor.new s = .ok x →
      loaded.files.Pairwise (fun a b => a.path < b.path) ∧
      ∀ f ∈ loaded.files, f.isTest = false →
        ∀ e, (x.extract f).1.find? (·.key == e.key) = some e →
        (∀ g ∈ loaded.files, g.isTest = false → g.path < f.path →
          ∀ e' ∈ (x.extract g).1, e'.key ≠ e.key) →
        r.entity? e.key = some e := by
  refine ⟨?_, fun loaded r x h hx => ?_⟩
  · cases hf : FileFilter.ofSettings s with
    | error e => rw [analyzeSources_fst_of_error hf, analyzeSources_fst_of_error hf]
    | ok filter =>
      rw [analyzeSources_fst_of_filter hf, analyzeSources_fst_of_filter hf,
        LoadResult.ofMemory_eq_of_perm hperm hpaths]
  · obtain ⟨filter, -, rfl, hb⟩ := analyzeSources_eq_ok h
    have hsorted : (LoadResult.ofMemory filter src₁).1.files.Pairwise fun a b => a.path < b.path :=
      LoadResult.files_ofMemory_strictly_sorted hpaths
    refine ⟨hsorted, fun f hf htest e he hleast => ?_⟩
    rw [buildRegistry_entity? hx hb]
    refine find?_flatMap_of_least (hsorted.sublist List.filter_sublist) ?_ he ?_
    · simpa [htest] using hf
    · intro g hg hlt e' he'
      have hg' : g ∈ _ ∧ _ := List.mem_filter.mp hg
      exact hleast g hg'.1 (by simpa using hg'.2) hlt e' he'

/-- Two files analyse alike in either order. -/
theorem analyzeSources_two_files_either_order :
    ([("b.go", "package p"), ("a.go", "package p")] : List (String × String)).Perm
        [("a.go", "package p"), ("b.go", "package p")] ∧
      (([("b.go", "package p"), ("a.go", "package p")] : List (String × String)).map (·.1)).Nodup ∧
      (analyzeSources [("b.go", "package p"), ("a.go", "package p")] {}).1 =
        (analyzeSources [("a.go", "package p"), ("b.go", "package p")] {}).1 :=
  ⟨.swap _ _ _, by decide, (analyzeSources_eq_of_perm (.swap _ _ _) (by decide) {}).1⟩

end Analyze

end ProviderCoverage
