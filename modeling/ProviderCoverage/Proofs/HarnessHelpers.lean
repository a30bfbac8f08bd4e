import Mathlib
import ProviderCoverage.Proofs.TestSteps

/-!
# More harness helpers never lose a test

A test function qualifies when some call in its body reaches the harness by one of four routes
(`Discoverer.Reaches`): a harness entry point under a harness alias, a configured
`package.Function` helper, a local wrapper, or a `TestCase` handed to any callee
(`Discoverer.harnessCall_isSome_iff`). The helpers only widen the second and third routes, so a
discoverer with more helpers qualifies every test function that one with fewer does.

Nothing else reads the helpers. Walking the test cases of a body treats the entry point recorded
in `helperUsed` as a passenger (`Scope.collectTestCases_withHelper`), and classification reads
the name, the file and the blocks. So with more helpers discovery returns the tests it returned
before, in the same order and the same in every field but `helperUsed`, and possibly more
(`parse_keeps_tests_under_more_helpers`); `helperUsed` may change, since an earlier call in the
body may now qualify.
-/

namespace ProviderCoverage

/-- The test with `helper` recorded as the entry point it was found through. -/
def TestFunction.withHelper (t : TestFunction) (helper : String) : TestFunction :=
  { t with helperUsed := helper }

namespace TestDiscovery

open Go

/-! ### Walking a body carries the entry point along -/

namespace Scope

variable (s : Scope) (helper : String)

theorem pushSteps_withHelper (list : Node) (t : TestFunction) :
    s.pushSteps list (t.withHelper helper) = (s.pushSteps list t).withHelper helper := by
  rw [pushSteps_eq, pushSteps_eq]
  rfl

variable {s helper}

theorem foldl_withHelper {β : Type} {g : TestFunction → β → TestFunction}
    (hg : ∀ t b, g (t.withHelper helper) b = (g t b).withHelper helper) (bs : List β)
    (t : TestFunction) : bs.foldl g (t.withHelper helper) = (bs.foldl g t).withHelper helper :=
  List.foldl_hom _ fun t b => hg t b

theorem foldl_walk_withHelper {β γ : Type} {g : TestFunction × γ → β → TestFunction × γ}
    (hg : ∀ t w b, g (t.withHelper helper, w) b = Prod.map (·.withHelper helper) id (g (t, w) b))
    (bs : List β) (t : TestFunction) (w : γ) :
    bs.foldl g (t.withHelper helper, w) =
      Prod.map (·.withHelper helper) id (bs.foldl g (t, w)) := by
  induction bs generalizing t w with
  | nil => rfl
  | cons b bs ih =>
    rw [List.foldl_cons, hg, List.foldl_cons]
    generalize g (t, w) b = acc
    obtain ⟨t', w'⟩ := acc
    exact ih t' w'

variable (s helper)

theorem collectTestCases_withHelper (body : Node) (t : TestFunction) :
    s.collectTestCases body (t.withHelper helper) =
      (s.collectTestCases body t).withHelper helper := by
  unfold collectTestCases
  dsimp only
  rw [foldl_walk_withHelper ?visit]
  · simp only [Prod.map_fst]
    rfl
  intro t w arg
  dsimp only
  cases hcase : s.testCaseArgument (s.testCaseBindings body) arg with
  | some case =>
    dsimp only
    split
    · rfl
    · cases hbody : literalBody case with
      | none => rfl
      | some fields =>
        dsimp only
        rw [foldl_withHelper ?field]
        · rfl
        intro t e
        split
        · rfl
        · rfl
        · split
          · exact pushSteps_withHelper s helper _ t
          · rfl
        · rfl
  | none =>
    cases hslice : (s.stepSliceLiteral arg).bind literalBody with
    | some list =>
      dsimp only
      rw [pushSteps_withHelper]
      rfl
    | none => rfl

end Scope

/-! ### Qualification -/

/-- The four routes by which a call qualifies the test function it is made from: a harness entry
point under a harness alias, a configured helper, a local wrapper, or a `TestCase` handed to the
callee. -/
def Discoverer.Reaches (d : Discoverer) (s : Scope) (bindings : List (String × Node))
    (call : Node) : Prop :=
  (∃ op name, s.file.callTarget call = some (some op, name) ∧
      (op ∈ s.aliases ∧ name ∈ entryPoints ∨ (op, name) ∈ d.customHelpers)) ∨
    (∃ name, s.file.callTarget call = some (none, name) ∧ name ∈ d.localHelpers) ∨
    ∃ arg ∈ callArguments call, (s.testCaseArgument bindings arg).isSome

theorem Discoverer.harnessCall_isSome_iff (d : Discoverer) (s : Scope) (body : Node) :
    (d.harnessCall s body).isSome ↔
      ∃ call ∈ calls body, d.Reaches s (s.testCaseBindings body) call := by
  unfold harnessCall
  rw [List.findSome?_isSome_iff]
  refine exists_congr fun call => and_congr_right fun _ => ?_
  dsimp only
  rcases htarget : s.file.callTarget call with _ | ⟨_ | op, name⟩
  · simp [Reaches, htarget]
  · simp only [Reaches, htarget]
    split_ifs <;> simp_all
  · simp only [Reaches, htarget]
    split_ifs <;> simp_all

variable {d₁ d₂ : Discoverer}

/-- A discoverer with at least the helpers of another reaches the harness from every call the
other does. -/
theorem Discoverer.Reaches.mono (hhelpers : d₁.customHelpers ⊆ d₂.customHelpers)
    (hlocals : d₁.localHelpers ⊆ d₂.localHelpers) {s : Scope} {bindings : List (String × Node)}
    {call : Node} : d₁.Reaches s bindings call → d₂.Reaches s bindings call := by
  rintro (⟨op, name, htarget, hdirect⟩ | ⟨name, htarget, hlocal⟩ | hcase)
  · exact .inl ⟨op, name, htarget, hdirect.imp_right (@hhelpers _)⟩
  · exact .inr (.inl ⟨name, htarget, hlocals hlocal⟩)
  · exact .inr (.inr hcase)

/-! ### Discovery -/

/-- Of each element what `f` makes of it, seen through `p`, is a subsequence of what `g` makes,
when `g` answers wherever `f` does with an answer that `p` does not tell apart. -/
theorem map_filterMap_sublist {α β γ : Type} {f g : α → Option β} (p : β → γ)
    (h : ∀ a b, f a = some b → ∃ b', g a = some b' ∧ p b = p b') :
    ∀ l : List α, ((l.filterMap f).map p).Sublist ((l.filterMap g).map p)
  | [] => by simp
  | a :: l => by
    cases hf : f a with
    | none =>
      rw [List.filterMap_cons_none hf]
      refine (map_filterMap_sublist p h l).trans ?_
      cases hg : g a with
      | none => simp [List.filterMap_cons_none hg]
      | some b' => simp [List.filterMap_cons_some hg]
    | some b =>
      obtain ⟨b', hg, hp⟩ := h a b hf
      rw [List.filterMap_cons_some hf, List.filterMap_cons_some hg, List.map_cons, List.map_cons,
        hp]
      exact (map_filterMap_sublist p h l).cons_cons _

/-- A discoverer with the same name patterns and at least the helpers of another returns, with
the entry points forgotten, the tests the other returns as a subsequence of its own. -/
theorem Discoverer.parse_withHelper_sublist
    (hpatterns : d₂.settings.testNamePatterns = d₁.settings.testNamePatterns)
    (hhelpers : d₁.customHelpers ⊆ d₂.customHelpers) (hlocals : d₁.localHelpers ⊆ d₂.localHelpers)
    (f : File) :
    ((d₁.parse f).1.map (·.withHelper "")).Sublist ((d₂.parse f).1.map (·.withHelper "")) := by
  unfold parse
  simp only [List.map_map]
  refine map_filterMap_sublist _ (fun fn x hx => ?_) _
  have hmatches : d₂.settings.matchesTestNamePatterns fn.name =
      d₁.settings.matchesTestNamePatterns fn.name := by
    simp only [Settings.matchesTestNamePatterns, hpatterns]
  split at hx
  · cases hx
  rename_i htest
  split at hx
  · cases hx
  rename_i body hbody
  split at hx
  · cases hx
  rename_i hname
  obtain ⟨helper, hhelper, rfl⟩ := Option.map_eq_some_iff.mp hx
  -- the call that qualified the test under the first discoverer qualifies it under the second
  obtain ⟨call, hcall, hreach⟩ :=
    (harnessCall_isSome_iff _ _ _).mp (Option.isSome_iff_exists.mpr ⟨helper, hhelper⟩)
  obtain ⟨helper', hhelper'⟩ := Option.isSome_iff_exists.mp
    ((harnessCall_isSome_iff _ _ _).mpr ⟨call, hcall, hreach.mono hhelpers hlocals⟩)
  refine ⟨?_, ?_, ?_⟩
  on_goal 2 =>
    rw [if_neg htest, hmatches, if_neg hname, hhelper']
    rfl
  have hfresh : ∀ h : String,
      ({ name := fn.name, location := f.location fn.node, helperUsed := h } : TestFunction) =
        TestFunction.withHelper { name := fn.name, location := f.location fn.node } h :=
    fun _ => rfl
  simp only [hfresh helper, hfresh helper', Scope.collectTestCases_withHelper]
  rfl

/-- **Adding harness helpers never drops or alters a test.** Under settings that differ only in
the configured helpers, with at least the helpers and at least the local wrappers, discovery
returns the names it returned before as a subsequence, in source order, and each test it
returned before again, the same in every field but the entry point it was found through. -/
theorem parse_keeps_tests_under_more_helpers (s : Settings)
    (helpers helpers' locals locals' : List String) (hhelpers : helpers ⊆ helpers')
    (hlocals : locals ⊆ locals') (f : File) :
    ((((Discoverer.new { s with customTestHelpers := helpers } locals).parse f).1.map
        (·.name)).Sublist
      (((Discoverer.new { s with customTestHelpers := helpers' } locals').parse f).1.map
        (·.name))) ∧
    ((((Discoverer.new { s with customTestHelpers := helpers } locals).parse f).1.map
        (·.withHelper "")).Sublist
      (((Discoverer.new { s with customTestHelpers := helpers' } locals').parse f).1.map
        (·.withHelper ""))) := by
  have hsplit : (Discoverer.new { s with customTestHelpers := helpers } locals).customHelpers ⊆
      (Discoverer.new { s with customTestHelpers := helpers' } locals').customHelpers := by
    intro pair hpair
    obtain ⟨helper, hmem, hpair⟩ := List.mem_filterMap.mp hpair
    exact List.mem_filterMap.mpr ⟨helper, hhelpers hmem, hpair⟩
  have hkept := @Discoverer.parse_withHelper_sublist
    (Discoverer.new { s with customTestHelpers := helpers } locals)
    (Discoverer.new { s with customTestHelpers := helpers' } locals') rfl hsplit hlocals f
  refine ⟨?_, hkept⟩
  simpa [List.map_map, Function.comp_def, TestFunction.withHelper] using
    hkept.map TestFunction.name

/-- The sample harness file under a configured helper and a local wrapper, and under those with
one more of each: its test is kept. -/
theorem harnessFile_kept_under_more_helpers :
    ["acctest.VcrTest"] ⊆ ["acctest.VcrTest", "acctest.ProtoV5Test"] ∧
      ["RunAccTest"] ⊆ ["RunAccTest", "RunUnitTest"] ∧
      ((((Discoverer.new { cacheTtl := "", customTestHelpers := ["acctest.VcrTest"] }
          ["RunAccTest"]).parse harnessFile).1.map (·.name)).Sublist
        (((Discoverer.new
          { cacheTtl := "", customTestHelpers := ["acctest.VcrTest", "acctest.ProtoV5Test"] }
          ["RunAccTest", "RunUnitTest"]).parse harnessFile).1.map (·.name))) :=
  have hhelpers : ["acctest.VcrTest"] ⊆ ["acctest.VcrTest", "acctest.ProtoV5Test"] := by simp
  have hlocals : ["RunAccTest"] ⊆ ["RunAccTest", "RunUnitTest"] := by simp
  ⟨hhelpers, hlocals,
    (parse_keeps_tests_under_more_helpers { cacheTtl := "" } ["acctest.VcrTest"]
      ["acctest.VcrTest", "acctest.ProtoV5Test"] ["RunAccTest"] ["RunAccTest", "RunUnitTest"]
      hhelpers hlocals harnessFile).1⟩

end TestDiscovery

end ProviderCoverage
