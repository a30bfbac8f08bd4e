import Mathlib
import ProviderCoverage.TestDiscovery

/-!
# The steps of a discovered test

Test discovery walks the test cases and step slices that a test function's body hands to calls.
Each step list walked adds one run of steps, numbered from zero, each step carrying the
configuration fingerprint of the step before it in the run (`Scope.runOf`, `pushSteps_eq`). A
`TestCase` literal is walked once, however many calls it is passed to, directly or through a
local name (`collectTestCases_walk`).

So every test that discovery returns has steps that are runs laid end to end: a step numbered
zero has no previous fingerprint, every other step follows the step before it in its run, and
only compares itself with that step (`ChainedSteps`). A step's fingerprint is empty exactly when
it has no configuration, and sixteen lowercase hex digits otherwise; its blocks have no repeats;
the test's blocks are those of its steps without repeats, in order of first appearance; and the
test exercises an entity exactly when it declares some block (`parse_steps_wellFormed`).
-/

namespace ProviderCoverage

namespace Blake3

theorem compress_size (cv block : Array UInt32) (counter : UInt64) (len flags : UInt32) :
    (compress cv block counter len flags).size = 16 := by
  simp [compress]

theorem hash_length (bytes : List UInt8) : (hash bytes).length = 32 := by
  simp [hash, Output.rootWords, compress_size, List.length_flatMap]

theorem hexByte_toList (b : UInt8) :
    (hexByte b).toList.length = 2 ∧ ∀ c ∈ (hexByte b).toList, c ∈ "0123456789abcdef".toList := by
  have hdigit : ∀ n < 16,
      (if n < 10 then Char.ofNat (48 + n) else Char.ofNat (87 + n)) ∈ "0123456789abcdef".toList := by
    decide
  have h₁ : b.toNat / 16 < 16 := by have := b.toNat_lt; omega
  have h₂ : b.toNat % 16 < 16 := Nat.mod_lt _ (by decide)
  refine ⟨by simp [hexByte], fun c hc => ?_⟩
  simp only [hexByte, String.toList_ofList, List.mem_cons, List.not_mem_nil, or_false] at hc
  rcases hc with rfl | rfl
  · exact hdigit _ h₁
  · exact hdigit _ h₂

theorem hexDigest_toList (s : String) :
    (hexDigest s).toList.length = 64 ∧ ∀ c ∈ (hexDigest s).toList, c ∈ "0123456789abcdef".toList := by
  refine ⟨?_, fun c hc => ?_⟩
  · simp only [hexDigest, String.toList_join, List.length_flatMap, List.map_map,
      Function.comp_def, (hexByte_toList _).1, List.map_const', List.sum_replicate, hash_length,
      smul_eq_mul]
  · simp only [hexDigest, String.toList_join, List.mem_flatMap, List.mem_map] at hc
    obtain ⟨_, ⟨b, -, rfl⟩, hc⟩ := hc
    exact (hexByte_toList b).2 c hc

end Blake3

namespace TestDiscovery

open Go

/-- A configuration fingerprint: sixteen lowercase hexadecimal digits. -/
def IsFingerprint (fp : String) : Prop :=
  fp.toList.length = 16 ∧ ∀ c ∈ fp.toList, c ∈ "0123456789abcdef".toList

theorem fingerprint_isFingerprint (f : File) (n : Node) : IsFingerprint (fingerprint f n) := by
  obtain ⟨hlen, hhex⟩ := Blake3.hexDigest_toList (f.normalizedText n)
  refine ⟨by simp [fingerprint, hlen], fun c hc => hhex c ?_⟩
  simp only [fingerprint, String.toList_ofList] at hc
  exact List.mem_of_mem_take hc

theorem IsFingerprint.ne_empty {fp : String} (h : IsFingerprint fp) : fp ≠ "" := by
  rintro rfl
  simp [IsFingerprint] at h

/-! ### Blocks without repeats -/

/-- Adds a block unless it is there already. -/
def addBlock (acc : List Block) (b : Block) : List Block := if acc.contains b then acc else acc ++ [b]

theorem dedupBlocks_eq_foldl (bs : List Block) : dedupBlocks bs = bs.foldl addBlock [] := rfl

theorem foldl_addBlock (bs acc : List Block) :
    bs.foldl addBlock acc = acc ++ (bs.removeAll acc).eraseDups := by
  induction bs generalizing acc with
  | nil => simp [List.removeAll]
  | cons b bs ih =>
    rw [List.foldl_cons, addBlock]
    split
    · rename_i hb
      have hb' : b ∈ acc := by simpa using hb
      have hskip : (b :: bs).removeAll acc = bs.removeAll acc := by simp [List.removeAll, hb']
      rw [ih, hskip]
    · rename_i hb
      have hb' : b ∉ acc := by simpa using hb
      have hcons : (b :: bs).removeAll acc = b :: bs.removeAll acc := by
        simp [List.removeAll, hb']
      have hfilter : bs.removeAll (acc ++ [b]) = (bs.removeAll acc).filter fun x => !x == b := by
        simp [List.removeAll, List.filter_filter, Bool.and_comm, Bool.beq_eq_decide_eq]
      rw [ih, hcons, List.eraseDups_cons, hfilter, List.append_assoc, List.singleton_append]

/-- **Order-preserving de-duplication.** `dedupBlocks` keeps the first occurrence of each block. -/
theorem dedupBlocks_eq_eraseDups (bs : List Block) : dedupBlocks bs = bs.eraseDups := by
  rw [dedupBlocks_eq_foldl, foldl_addBlock]
  simp [List.removeAll]

theorem foldl_addBlock_nodup (bs : List Block) {acc : List Block} (h : acc.Nodup) :
    (bs.foldl addBlock acc).Nodup := by
  induction bs generalizing acc with
  | nil => exact h
  | cons b bs ih =>
    rw [List.foldl_cons, addBlock]
    split
    · exact ih h
    · rename_i hb
      refine ih (List.nodup_append.mpr ⟨h, List.nodup_singleton b, ?_⟩)
      intro x hx y hy
      rw [List.mem_singleton.mp hy]
      rintro rfl
      exact hb (List.contains_iff_mem.mpr hx)

theorem dedupBlocks_nodup (bs : List Block) : (dedupBlocks bs).Nodup :=
  foldl_addBlock_nodup bs List.nodup_nil

/-! ### Steps -/

/-- What every parsed step satisfies: its fingerprint is empty exactly without a configuration,
and a fingerprint otherwise; its blocks have no repeats. -/
structure StepShape (st : TestStep) : Prop where
  config : (st.hasConfig = false ∧ st.configFingerprint = "") ∨
    (st.hasConfig = true ∧ IsFingerprint st.configFingerprint)
  blocksNodup : st.inferredBlocks.Nodup

theorem StepShape.fingerprint_eq_empty {st : TestStep} (h : StepShape st) :
    st.configFingerprint = "" ↔ st.hasConfig = false := by
  rcases h.config with ⟨h₁, h₂⟩ | ⟨h₁, h₂⟩
  · simp [h₁, h₂]
  · simp [h₁, h₂.ne_empty]

namespace Scope

variable (s : Scope)

theorem stepField_index (st : TestStep) (field : KeyedElement) :
    (s.stepField st field).index = st.index := by
  unfold stepField
  dsimp only
  split <;> rfl

theorem stepField_shape {st : TestStep} (h : StepShape st) (field : KeyedElement) :
    StepShape (s.stepField st field) := by
  unfold stepField
  dsimp only
  split
  · exact ⟨.inr ⟨rfl, fingerprint_isFingerprint _ _⟩, dedupBlocks_nodup _⟩
  all_goals exact ⟨h.config, h.blocksNodup⟩

theorem parseStep_spec (element : Node) (index : Nat) :
    (s.parseStep element index).index = index ∧ StepShape (s.parseStep element index) := by
  unfold parseStep
  split
  · exact ⟨rfl, ⟨.inl ⟨rfl, rfl⟩, List.nodup_nil⟩⟩
  · have hfold : ∀ (fields : List KeyedElement) (st : TestStep), StepShape st →
        (fields.foldl s.stepField st).index = st.index ∧ StepShape (fields.foldl s.stepField st) := by
      intro fields
      induction fields with
      | nil => exact fun st h => ⟨rfl, h⟩
      | cons field fields ih =>
        intro st h
        obtain ⟨hi, hs⟩ := ih _ (s.stepField_shape h field)
        exact ⟨hi.trans (s.stepField_index st field), hs⟩
    exact hfold _ _ ⟨.inl ⟨rfl, rfl⟩, List.nodup_nil⟩

end Scope

/-- Each step with the fingerprint of the one before it; the first with `prev`. -/
def chainFrom : String → List TestStep → List TestStep
  | _, [] => []
  | prev, st :: sts =>
    { st with previousConfigFingerprint := prev } :: chainFrom st.configFingerprint sts

@[simp] theorem length_chainFrom (prev : String) (sts : List TestStep) :
    (chainFrom prev sts).length = sts.length := by
  induction sts generalizing prev <;> simp [chainFrom, *]

theorem getElem_chainFrom (prev : String) (sts : List TestStep) (i : Nat) (h : i < sts.length)
    (h' : i < (chainFrom prev sts).length) :
    (chainFrom prev sts)[i] = { sts[i] with
      previousConfigFingerprint := if i = 0 then prev else sts[i - 1].configFingerprint } := by
  induction sts generalizing prev i with
  | nil => simp at h
  | cons st sts ih =>
    cases i with
    | zero => simp [chainFrom]
    | succ i =>
      simp only [chainFrom, List.getElem_cons_succ]
      rw [ih _ _ (by simpa using h) (by simpa using h)]
      cases i <;> simp

namespace Scope

variable (s : Scope)

/-- The steps one step list contributes: one per element, numbered from zero, each knowing the
fingerprint of the step before it in the list. -/
def runOf (list : Node) : List TestStep :=
  chainFrom "" ((positionalElements list).zipIdx.map fun ei => s.parseStep ei.1 ei.2)

theorem getElem_runOf (list : Node) (i : Nat) (h : i < (s.runOf list).length) :
    (s.runOf list)[i].index = i ∧
      (s.runOf list)[i].previousConfigFingerprint =
        (if i = 0 then "" else (s.runOf list)[i - 1].configFingerprint) ∧
      StepShape (s.runOf list)[i] := by
  have hlen : i < (positionalElements list).length := by simpa [runOf] using h
  have hlen' : i - 1 < (positionalElements list).length := by omega
  obtain ⟨hindex, hshape⟩ := s.parseStep_spec (positionalElements list)[i] i
  simp only [runOf, getElem_chainFrom, List.getElem_map, List.getElem_zipIdx, zero_add,
    List.length_map, List.length_zipIdx, hlen, hlen']
  exact ⟨hindex, trivial, hshape.config, hshape.blocksNodup⟩

end Scope

/-! ### Runs laid end to end -/

/-- Steps laid out as runs end to end: each step starts a run (index zero, no previous
fingerprint) or follows the step before it, numbered one more and carrying its fingerprint. -/
def ChainedSteps (steps : List TestStep) : Prop :=
  ∀ i (h : i < steps.length),
    (steps[i].index = 0 ∧ steps[i].previousConfigFingerprint = "") ∨
      (0 < i ∧ steps[i].index = steps[i - 1].index + 1 ∧
        steps[i].previousConfigFingerprint = steps[i - 1].configFingerprint)

theorem Scope.runOf_chained (s : Scope) (list : Node) : ChainedSteps (s.runOf list) := by
  intro i h
  obtain ⟨hindex, hprev, -⟩ := s.getElem_runOf list i h
  have hindex' : (s.runOf list)[i - 1].index = i - 1 := (s.getElem_runOf list (i - 1) (by omega)).1
  by_cases hi : i = 0
  · subst hi
    exact .inl ⟨hindex, by simpa using hprev⟩
  · exact .inr ⟨by omega, by omega, by simpa [hi] using hprev⟩

theorem ChainedSteps.append {a b : List TestStep} (ha : ChainedSteps a) (hb : ChainedSteps b) :
    ChainedSteps (a ++ b) := by
  intro i h
  by_cases hi : i < a.length
  · have hi' : i - 1 < a.length := by omega
    simpa [List.getElem_append_left hi, List.getElem_append_left hi'] using ha i hi
  · have hj : i - a.length < b.length := by simp at h; omega
    rcases hb (i - a.length) hj with hfirst | ⟨hpos, hnext⟩
    · left
      simpa [List.getElem_append_right (Nat.le_of_not_lt hi)] using hfirst
    · right
      have hle : a.length ≤ i - 1 := by omega
      have hsub : i - 1 - a.length = i - a.length - 1 := by omega
      refine ⟨by omega, ?_⟩
      simpa [List.getElem_append_right (Nat.le_of_not_lt hi), List.getElem_append_right hle, hsub]
        using hnext

theorem chainedSteps_flatten {runs : List (List TestStep)} (h : ∀ r ∈ runs, ChainedSteps r) :
    ChainedSteps runs.flatten := by
  induction runs with
  | nil => intro i h; simp at h
  | cons r runs ih =>
    rw [List.flatten_cons]
    exact (h r (by simp)).append (ih fun r' hr' => h r' (by simp [hr']))

/-- The previous fingerprint of a step, read off the steps around it: empty at index zero, and
otherwise the fingerprint of the step right before it. -/
theorem ChainedSteps.previous {steps : List TestStep} (h : ChainedSteps steps) (i : Nat)
    (hi : i < steps.length) :
    steps[i].previousConfigFingerprint =
      if steps[i].index = 0 then "" else steps[i - 1].configFingerprint := by
  rcases h i hi with ⟨hindex, hprev⟩ | ⟨-, hindex, hprev⟩
  · simp [hindex, hprev]
  · simp [hindex, hprev]

/-- A real update step never starts its run: it follows the step before it in the test, and
whether it changes the configuration is read against that step alone. -/
theorem ChainedSteps.realUpdate {steps : List TestStep} (h : ChainedSteps steps) (i : Nat)
    (hi : i < steps.length) (hu : steps[i].isRealUpdate = true) :
    0 < i ∧ steps[i].index = steps[i - 1].index + 1 ∧
      steps[i].changesConfig = (steps[i].configFingerprint != steps[i - 1].configFingerprint) := by
  have hpos : 0 < steps[i].index := by
    simp only [TestStep.isRealUpdate, Bool.and_eq_true, decide_eq_true_eq] at hu
    exact hu.1.1
  rcases h i hi with ⟨hindex, -⟩ | ⟨hlt, hindex, hprev⟩
  · omega
  · exact ⟨hlt, hindex, by simp [TestStep.changesConfig, hu, hprev]⟩

/-! ### One step list -/

namespace Scope

variable (s : Scope)

theorem foldl_pushStep {f : TestFunction × String → Node × Nat → TestFunction × String}
    (hf : ∀ t prev ei, f (t, prev) ei =
      ({ t with
          steps := t.steps ++ [{ s.parseStep ei.1 ei.2 with previousConfigFingerprint := prev }]
          inferredBlocks := (s.parseStep ei.1 ei.2).inferredBlocks.foldl addBlock t.inferredBlocks },
        (s.parseStep ei.1 ei.2).configFingerprint))
    (eis : List (Node × Nat)) (t : TestFunction) (prev : String) :
    (eis.foldl f (t, prev)).1 = { t with
      steps := t.steps ++ chainFrom prev (eis.map fun ei => s.parseStep ei.1 ei.2)
      inferredBlocks := ((chainFrom prev (eis.map fun ei => s.parseStep ei.1 ei.2)).flatMap
        (·.inferredBlocks)).foldl addBlock t.inferredBlocks } := by
  induction eis generalizing t prev with
  | nil => simp [chainFrom]
  | cons ei eis ih =>
    rw [List.foldl_cons, hf, ih]
    simp [chainFrom, List.foldl_append]

theorem pushSteps_eq (list : Node) (t : TestFunction) :
    s.pushSteps list t = { t with
      steps := t.steps ++ s.runOf list
      inferredBlocks := ((s.runOf list).flatMap (·.inferredBlocks)).foldl addBlock t.inferredBlocks } :=
  s.foldl_pushStep (fun _ _ _ => rfl) _ _ _

/-- `t'` is `t` with the runs of the step lists `lists` added: their steps appended and their
blocks added without repeats; of the rest only the two flags of a test case may differ. -/
def Grows (t t' : TestFunction) (lists : List Node) : Prop :=
  ∃ checkDestroy preCheck : Bool, t' = { t with
    steps := t.steps ++ lists.flatMap s.runOf
    inferredBlocks := ((lists.flatMap s.runOf).flatMap (·.inferredBlocks)).foldl addBlock t.inferredBlocks
    hasCheckDestroy := checkDestroy
    hasPreCheck := preCheck }

variable {s}

theorem grows_flags (t : TestFunction) (checkDestroy preCheck : Bool) :
    s.Grows t { t with hasCheckDestroy := checkDestroy, hasPreCheck := preCheck } [] :=
  ⟨checkDestroy, preCheck, by simp⟩

theorem grows_refl (t : TestFunction) : s.Grows t t [] := by
  simpa using grows_flags (s := s) t t.hasCheckDestroy t.hasPreCheck

theorem grows_pushSteps (list : Node) (t : TestFunction) : s.Grows t (s.pushSteps list t) [list] :=
  ⟨t.hasCheckDestroy, t.hasPreCheck, by simp [pushSteps_eq]⟩

theorem Grows.trans {t₁ t₂ t₃ : TestFunction} {lists₁ lists₂ : List Node}
    (h₁ : s.Grows t₁ t₂ lists₁) (h₂ : s.Grows t₂ t₃ lists₂) : s.Grows t₁ t₃ (lists₁ ++ lists₂) := by
  obtain ⟨_, _, rfl⟩ := h₁
  obtain ⟨checkDestroy, preCheck, rfl⟩ := h₂
  exact ⟨checkDestroy, preCheck, by simp [List.foldl_append]⟩

end Scope

/-! ### Walking the calls of a body -/

/-- Where a run of steps comes from: the `Steps` of a `TestCase` literal, or a step slice. -/
inductive StepSource where
  | testCase (literal : Node)
  | slice (list : Node)

/-- The span that identifies a `TestCase` literal: discovery walks each span once. -/
def spanKey (n : Node) : Nat × Nat := (n.span.start, n.span.stop)

namespace StepSource

@[simp] def caseKey : StepSource → Option (Nat × Nat)
  | .testCase literal => some (spanKey literal)
  | .slice _ => none

@[simp] def isSlice : StepSource → Bool
  | .testCase _ => false
  | .slice _ => true

end StepSource

namespace Scope

variable (s : Scope)

/-- The step source an argument of a call hands over: a `TestCase` literal, directly or through a
local name, or else a step slice with a body. -/
def sourceOf (bindings : List (String × Node)) (arg : Node) : Option StepSource :=
  match s.testCaseArgument bindings arg with
  | some literal => some (.testCase literal)
  | none => ((s.stepSliceLiteral arg).bind literalBody).map .slice

/-- The step list of a keyed field of a test case: the body of its `Steps`. -/
def fieldLists (e : KeyedElement) : List Node :=
  if s.file.text e.key = "Steps" then (literalBody e.value).toList else []

def stepLists : StepSource → List Node
  | .testCase literal =>
    match literalBody literal with
    | some fields => (keyedElements fields).flatMap s.fieldLists
    | none => []
  | .slice list => [list]

/-- The sources walked over the arguments `args`: the arguments' sources in order, less every
`TestCase` literal of a span walked before. -/
structure Walked (bindings : List (String × Node)) (args : List Node) (sources : List StepSource) :
    Prop where
  sublist : sources.Sublist (args.filterMap (s.sourceOf bindings))
  once : (sources.filterMap StepSource.caseKey).Nodup
  complete : ∀ arg ∈ args, ∀ literal, s.testCaseArgument bindings arg = some literal →
    spanKey literal ∈ sources.filterMap StepSource.caseKey
  slices : sources.filter StepSource.isSlice =
    (args.filterMap (s.sourceOf bindings)).filter StepSource.isSlice

variable {s} {bindings : List (String × Node)} {args : List Node} {sources : List StepSource}
  {arg : Node}

theorem walked_nil : s.Walked bindings [] [] := ⟨by simp, by simp, by simp, by simp⟩

theorem Walked.seen (hw : s.Walked bindings args sources) {literal : Node}
    (hcase : s.testCaseArgument bindings arg = some literal)
    (hmem : spanKey literal ∈ sources.filterMap StepSource.caseKey) :
    s.Walked bindings (args ++ [arg]) sources := by
  have hsrc : s.sourceOf bindings arg = some (.testCase literal) := by simp [sourceOf, hcase]
  refine ⟨?_, hw.once, ?_, ?_⟩
  · simpa [hsrc] using hw.sublist.trans (List.sublist_append_left _ _)
  · simp only [List.mem_append, List.mem_singleton]
    rintro a (ha | rfl) c hc
    · exact hw.complete a ha c hc
    · rw [hcase, Option.some_inj] at hc
      exact hc ▸ hmem
  · simp [hsrc, hw.slices]

theorem Walked.new (hw : s.Walked bindings args sources) {literal : Node}
    (hcase : s.testCaseArgument bindings arg = some literal)
    (hnot : spanKey literal ∉ sources.filterMap StepSource.caseKey) :
    s.Walked bindings (args ++ [arg]) (sources ++ [.testCase literal]) := by
  have hsrc : s.sourceOf bindings arg = some (.testCase literal) := by simp [sourceOf, hcase]
  refine ⟨?_, ?_, ?_, ?_⟩
  · simpa [hsrc] using hw.sublist.append (List.Sublist.refl [StepSource.testCase literal])
  · rw [List.filterMap_append, List.nodup_append]
    refine ⟨hw.once, by simp, fun k hk k' hk' => ?_⟩
    simp only [List.filterMap_cons, List.filterMap_nil, StepSource.caseKey, List.mem_singleton] at hk'
    rintro rfl
    exact hnot (hk' ▸ hk)
  · simp only [List.mem_append, List.mem_singleton, List.filterMap_append]
    rintro a (ha | rfl) c hc
    · exact .inl (hw.complete a ha c hc)
    · rw [hcase, Option.some_inj] at hc
      simp [hc]
  · simp [hsrc, hw.slices]

theorem Walked.slice (hw : s.Walked bindings args sources) {list : Node}
    (hcase : s.testCaseArgument bindings arg = none)
    (hslice : (s.stepSliceLiteral arg).bind literalBody = some list) :
    s.Walked bindings (args ++ [arg]) (sources ++ [.slice list]) := by
  have hsrc : s.sourceOf bindings arg = some (.slice list) := by simp [sourceOf, hcase, hslice]
  refine ⟨?_, ?_, ?_, ?_⟩
  · simpa [hsrc] using hw.sublist.append (List.Sublist.refl [StepSource.slice list])
  · simpa [List.filterMap_cons] using hw.once
  · simp only [List.mem_append, List.mem_singleton]
    rintro a (ha | rfl) c hc
    · simpa using hw.complete a ha c hc
    · simp [hcase] at hc
  · simp [hsrc, hw.slices]

theorem Walked.skip (hw : s.Walked bindings args sources)
    (hcase : s.testCaseArgument bindings arg = none)
    (hslice : (s.stepSliceLiteral arg).bind literalBody = none) :
    s.Walked bindings (args ++ [arg]) sources := by
  have hsrc : s.sourceOf bindings arg = none := by simp [sourceOf, hcase, hslice]
  refine ⟨by simpa [hsrc] using hw.sublist, hw.once, ?_, by simp [hsrc, hw.slices]⟩
  simp only [List.mem_append, List.mem_singleton]
  rintro a (ha | rfl) c hc
  · exact hw.complete a ha c hc
  · simp [hcase] at hc

variable (s bindings)

/-- What visiting one argument of a call does to the test and the spans walked so far. -/
structure VisitSpec
    (f : TestFunction × List (Nat × Nat) → Node → TestFunction × List (Nat × Nat)) : Prop where
  seen : ∀ test walked arg literal, s.testCaseArgument bindings arg = some literal →
    spanKey literal ∈ walked → f (test, walked) arg = (test, walked)
  new : ∀ test walked arg literal, s.testCaseArgument bindings arg = some literal →
    spanKey literal ∉ walked → (f (test, walked) arg).2 = spanKey literal :: walked ∧
      s.Grows test (f (test, walked) arg).1 (s.stepLists (.testCase literal))
  slice : ∀ test walked arg list, s.testCaseArgument bindings arg = none →
    (s.stepSliceLiteral arg).bind literalBody = some list →
      f (test, walked) arg = (s.pushSteps list test, walked)
  skip : ∀ test walked arg, s.testCaseArgument bindings arg = none →
    (s.stepSliceLiteral arg).bind literalBody = none → f (test, walked) arg = (test, walked)

/-- The walk after the arguments `args`: the test has grown from `t₀` by the step lists of the
sources walked, and the spans walked are theirs, latest first. -/
def WalkState (t₀ : TestFunction) (args : List Node) (acc : TestFunction × List (Nat × Nat)) :
    Prop :=
  ∃ sources, s.Walked bindings args sources ∧
    acc.2 = (sources.filterMap StepSource.caseKey).reverse ∧
    s.Grows t₀ acc.1 (sources.flatMap s.stepLists)

variable {s bindings} {t₀ : TestFunction}
  {f : TestFunction × List (Nat × Nat) → Node → TestFunction × List (Nat × Nat)}

theorem walkState_nil : s.WalkState bindings t₀ [] (t₀, []) :=
  ⟨[], walked_nil, rfl, by simpa using grows_refl t₀⟩

theorem WalkState.visit (hf : s.VisitSpec bindings f) {acc : TestFunction × List (Nat × Nat)}
    (h : s.WalkState bindings t₀ args acc) (arg : Node) :
    s.WalkState bindings t₀ (args ++ [arg]) (f acc arg) := by
  obtain ⟨test, walked⟩ := acc
  obtain ⟨sources, hw, hwalked, hgrows⟩ := h
  dsimp only at hwalked hgrows
  subst hwalked
  cases hcase : s.testCaseArgument bindings arg with
  | some literal =>
    by_cases hmem : spanKey literal ∈ sources.filterMap StepSource.caseKey
    · rw [hf.seen _ _ _ _ hcase (List.mem_reverse.mpr hmem)]
      exact ⟨sources, hw.seen hcase hmem, rfl, hgrows⟩
    · obtain ⟨hwalked, hgrows'⟩ :=
        hf.new test _ arg literal hcase (mt List.mem_reverse.mp hmem)
      refine ⟨sources ++ [.testCase literal], hw.new hcase hmem, ?_, ?_⟩
      · simp [hwalked]
      · simpa using hgrows.trans hgrows'
  | none =>
    cases hslice : (s.stepSliceLiteral arg).bind literalBody with
    | some list =>
      rw [hf.slice _ _ _ _ hcase hslice]
      refine ⟨sources ++ [.slice list], hw.slice hcase hslice, by simp, ?_⟩
      simpa [stepLists] using hgrows.trans (grows_pushSteps list test)
    | none =>
      rw [hf.skip _ _ _ hcase hslice]
      exact ⟨sources, hw.skip hcase hslice, rfl, hgrows⟩

theorem WalkState.foldl (hf : s.VisitSpec bindings f) :
    ∀ (rest : List Node) {pre : List Node} {acc : TestFunction × List (Nat × Nat)},
      s.WalkState bindings t₀ pre acc → s.WalkState bindings t₀ (pre ++ rest) (rest.foldl f acc)
  | [], _, _, h => by simpa using h
  | arg :: rest, pre, _, h => by
    simpa using WalkState.foldl hf rest (h.visit hf arg)

theorem walkState_of_foldl_eq (hf : s.VisitSpec bindings f) {args : List Node}
    {acc : TestFunction × List (Nat × Nat)} (h : args.foldl f (t₀, []) = acc) :
    s.WalkState bindings t₀ args acc := by
  subst h
  simpa using WalkState.foldl hf args walkState_nil

theorem grows_foldl_fields {g : TestFunction → KeyedElement → TestFunction}
    (hg : ∀ t e, s.Grows t (g t e) (s.fieldLists e)) :
    ∀ (es : List KeyedElement) (t : TestFunction), s.Grows t (es.foldl g t) (es.flatMap s.fieldLists)
  | [], t => grows_refl t
  | e :: es, t => by
    simpa using (hg t e).trans (grows_foldl_fields hg es (g t e))

/-- **The walk of a body.** Collecting the test cases of a body grows the test by the step lists
of the sources walked, each `TestCase` span once, and reads the two step flags off the steps. -/
theorem collectTestCases_walk (s : Scope) (body : Node) (t₀ : TestFunction) :
    ∃ sources test, s.Walked (s.testCaseBindings body) ((calls body).flatMap callArguments) sources ∧
      s.Grows t₀ test (sources.flatMap s.stepLists) ∧
      s.collectTestCases body t₀ = { test with
        hasImportStep := test.steps.any (·.importState)
        hasErrorCase := test.steps.any (·.expectError) } := by
  unfold collectTestCases
  dsimp only
  generalize hres : List.foldl _ (t₀, []) _ = res
  obtain ⟨test, walked⟩ := res
  have hstate : s.WalkState (s.testCaseBindings body) t₀ _ (test, walked) :=
    walkState_of_foldl_eq ?visit hres
  · obtain ⟨sources, hw, -, hgrows⟩ := hstate
    exact ⟨sources, test, hw, hgrows, rfl⟩
  refine ⟨?_, ?_, ?_, ?_⟩
  · intro test walked arg literal hcase hmem
    have hc : walked.contains (literal.span.start, literal.span.stop) = true :=
      List.contains_iff_mem.mpr hmem
    simp only [hcase, hc, if_true]
  · intro test walked arg literal hcase hmem
    have hc : walked.contains (literal.span.start, literal.span.stop) = false := by
      simpa [spanKey] using hmem
    simp only [hcase, hc, Bool.false_eq_true, if_false]
    cases hbody : literalBody literal with
    | none => exact ⟨rfl, by simpa [stepLists, hbody] using grows_refl test⟩
    | some fields =>
      refine ⟨rfl, ?_⟩
      simp only [stepLists, hbody]
      refine grows_foldl_fields (fun t e => ?_) _ _
      split
      · rename_i h
        simpa [fieldLists, h] using grows_flags (s := s) t true t.hasPreCheck
      · rename_i h
        simpa [fieldLists, h] using grows_flags (s := s) t t.hasCheckDestroy true
      · rename_i h
        split
        · rename_i list hlist
          simpa [fieldLists, h, hlist] using grows_pushSteps (s := s) list t
        · rename_i hlist
          simpa [fieldLists, h, hlist] using grows_refl (s := s) t
      · rename_i hsteps
        rw [fieldLists, if_neg hsteps]
        exact grows_refl t
  · intro test walked arg list hcase hslice
    simp only [hcase, hslice]
  · intro test walked arg hcase hslice
    simp only [hcase, hslice]

theorem runOf_indices (list : Node) :
    (s.runOf list).map (·.index) = List.range (s.runOf list).length := by
  refine List.ext_getElem (by simp) fun i h₁ h₂ => ?_
  simpa using (s.getElem_runOf list i (by simpa using h₁)).1

theorem runOf_shape {list : Node} {st : TestStep} (h : st ∈ s.runOf list) : StepShape st := by
  obtain ⟨i, hi, rfl⟩ := List.getElem_of_mem h
  exact (s.getElem_runOf list i hi).2.2

theorem flatMap_runOf_chained (lists : List Node) : ChainedSteps (lists.flatMap s.runOf) := by
  rw [List.flatMap_def]
  refine chainedSteps_flatten fun r hr => ?_
  obtain ⟨list, -, rfl⟩ := List.mem_map.mp hr
  exact s.runOf_chained list

end Scope

theorem classify_eq_entity_iff (name path : String) (blocks : List Block) :
    TestFunction.classify name path blocks = .entity ↔ blocks ≠ [] := by
  unfold TestFunction.classify
  split_ifs <;> simp_all

/-- A discovered test comes from one of the file's functions: it is what walking that function's
body in the file's scope collects into a test of the function's name and place, found through the
entry point that qualified it, then classified. -/
theorem mem_parse {d : Discoverer} {f : File} {t : TestFunction} (ht : t ∈ (d.parse f).1) :
    ∃ fn ∈ f.functions, ∃ body helper, fn.body = some body ∧
      d.harnessCall (Scope.ofFile f) body = some helper ∧
      ∃ c, c = (Scope.ofFile f).collectTestCases body
          { name := fn.name, location := f.location fn.node, helperUsed := helper } ∧
        t = { c with category := TestFunction.classify c.name c.location.file c.inferredBlocks } := by
  unfold Discoverer.parse at ht
  simp only [List.mem_map, List.mem_filterMap] at ht
  obtain ⟨⟨t', ev⟩, ⟨fn, hfn, hfound⟩, rfl⟩ := ht
  split at hfound
  · simp at hfound
  split at hfound
  · simp at hfound
  rename_i body hbody
  split at hfound
  · simp at hfound
  obtain ⟨helper, hhelper, hpair⟩ := Option.map_eq_some_iff.mp hfound
  simp only [Prod.mk.injEq] at hpair
  exact ⟨fn, hfn, body, helper, hbody, hhelper, _, rfl, hpair.1.symm⟩

theorem parse_fresh {d : Discoverer} {f : File} {t : TestFunction} (ht : t ∈ (d.parse f).1) :
    t.linked = none ∧ t.matchType = .none := by
  obtain ⟨fn, -, body, helper, -, -, c, hc, rfl⟩ := mem_parse ht
  obtain ⟨_, _, _, ⟨_, _, rfl⟩, hcollect⟩ := (Scope.ofFile f).collectTestCases_walk body
    { name := fn.name, location := f.location fn.node, helperUsed := helper }
  rw [← hc] at hcollect
  subst hcollect
  exact ⟨rfl, rfl⟩

/-- **The steps of a discovered test.** Every test that discovery returns from a file comes from
one of its functions, whose name and place it has; its steps are the runs of the step lists that
the function's own body walks, each `TestCase` span once and every step slice each time it is
passed, each run numbered from zero. The steps are chained runs, so a real update step is
compared with the step before it in its own run only; every step has the shape of a parsed step;
the test's blocks are its steps' blocks without repeats, in order; the two step flags are read
off the steps; and the test is an entity test exactly when it has blocks. -/
theorem parse_steps_wellFormed (d : Discoverer) (f : File) (t : TestFunction)
    (ht : t ∈ (d.parse f).1) :
    (∃ fn ∈ f.functions, ∃ body, fn.body = some body ∧ t.name = fn.name ∧
      t.location = f.location fn.node ∧
      ∃ sources, (Scope.ofFile f).Walked ((Scope.ofFile f).testCaseBindings body)
          ((calls body).flatMap callArguments) sources ∧
        t.steps = (sources.flatMap (Scope.ofFile f).stepLists).flatMap (Scope.ofFile f).runOf) ∧
    (∀ list, ((Scope.ofFile f).runOf list).map (·.index) =
      List.range ((Scope.ofFile f).runOf list).length) ∧
    ChainedSteps t.steps ∧
    (∀ i (h : i < t.steps.length), t.steps[i].isRealUpdate = true →
      0 < i ∧ t.steps[i].index = t.steps[i - 1].index + 1 ∧
        t.steps[i].changesConfig =
          (t.steps[i].configFingerprint != t.steps[i - 1].configFingerprint)) ∧
    (∀ st ∈ t.steps, StepShape st) ∧
    t.inferredBlocks = (t.steps.flatMap (·.inferredBlocks)).eraseDups ∧
    t.hasImportStep = t.steps.any (·.importState) ∧
    t.hasErrorCase = t.steps.any (·.expectError) ∧
    (t.category = .entity ↔ t.inferredBlocks ≠ []) := by
  obtain ⟨fn, hfn, body, helper, hbody, -, c, hc, rfl⟩ := mem_parse ht
  set s := Scope.ofFile f
  obtain ⟨sources, _, hw, ⟨checkDestroy, preCheck, rfl⟩, hcollect⟩ := s.collectTestCases_walk body
    { name := fn.name, location := f.location fn.node, helperUsed := helper }
  rw [← hc] at hcollect
  subst hcollect
  have hchained := s.flatMap_runOf_chained (sources.flatMap s.stepLists)
  refine ⟨⟨fn, hfn, body, hbody, rfl, rfl, sources, hw, by simp⟩, s.runOf_indices, ?_, ?_, ?_, ?_,
    rfl, rfl, ?_⟩
  · simpa using hchained
  · intro i hi hu
    simp only [List.nil_append] at hi hu ⊢
    exact hchained.realUpdate i hi hu
  · intro st hst
    simp only [List.nil_append, List.mem_flatMap] at hst
    obtain ⟨list, -, hst⟩ := hst
    exact s.runOf_shape hst
  · simp only [List.nil_append, ← dedupBlocks_eq_foldl, dedupBlocks_eq_eraseDups]
  · exact classify_eq_entity_iff _ _ _

def harnessText : String :=
  "\"github.com/hashicorp/terraform-plugin-testing/helper/resource\" TestA resource.TestCase Steps ImportState true"

/-- A test `TestA` that imports the harness and runs `resource.Test` on a `TestCase` literal of
two steps, `{}` and `{ImportState: true}`: the tree reduced to the nodes discovery reads. -/
def harnessFile : File where
  path := "a_test.go"
  source := harnessText
  chars := harnessText.toList.toArray
  isTest := true
  root := ⟨.sourceFile, none, ⟨0, 110, 0, 0⟩, "", [
    ⟨.importSpec, none, ⟨0, 63, 0, 0⟩, "", [
      ⟨.interpretedStringLiteral, some .path, ⟨0, 63, 0, 0⟩, "", []⟩]⟩,
    ⟨.functionDeclaration, none, ⟨64, 110, 0, 64⟩, "", [
      ⟨.identifier, some .name, ⟨64, 69, 0, 64⟩, "", []⟩,
      ⟨.block, some .body, ⟨70, 110, 0, 70⟩, "", [
        ⟨.callExpression, none, ⟨70, 110, 0, 70⟩, "", [
          ⟨.selectorExpression, some .function, ⟨70, 83, 0, 70⟩, "", [
            ⟨.identifier, some .operand, ⟨70, 78, 0, 70⟩, "", []⟩,
            ⟨.fieldIdentifier, some .field, ⟨79, 83, 0, 79⟩, "", []⟩]⟩,
          ⟨.argumentList, some .arguments, ⟨70, 110, 0, 70⟩, "", [
            ⟨.compositeLiteral, none, ⟨70, 110, 0, 70⟩, "", [
              ⟨.qualifiedType, some .type, ⟨70, 87, 0, 70⟩, "", [
                ⟨.packageIdentifier, some .package, ⟨70, 78, 0, 70⟩, "", []⟩,
                ⟨.typeIdentifier, some .name, ⟨79, 87, 0, 79⟩, "", []⟩]⟩,
              ⟨.literalValue, some .body, ⟨88, 110, 0, 88⟩, "", [
                ⟨.keyedElement, none, ⟨88, 110, 0, 88⟩, "", [
                  ⟨.identifier, none, ⟨88, 93, 0, 88⟩, "", []⟩,
                  ⟨.literalValue, none, ⟨94, 110, 0, 94⟩, "", [
                    ⟨.literalElement, none, ⟨94, 94, 0, 94⟩, "", [
                      ⟨.literalValue, none, ⟨94, 94, 0, 94⟩, "", []⟩]⟩,
                    ⟨.literalElement, none, ⟨94, 110, 0, 94⟩, "", [
                      ⟨.literalValue, none, ⟨94, 110, 0, 94⟩, "", [
                        ⟨.keyedElement, none, ⟨94, 110, 0, 94⟩, "", [
                          ⟨.identifier, none, ⟨94, 105, 0, 94⟩, "", []⟩,
                          ⟨.trueLiteral, none, ⟨106, 110, 0, 106⟩, "", []⟩]⟩]⟩]⟩]⟩]⟩]⟩]⟩]⟩]⟩]⟩]⟩]⟩

/-- The one test of the sample file has a run of two steps, chained, and an import step. -/
theorem harnessFile_steps_chained :
    ∃ t ∈ ((Discoverer.new { cacheTtl := "" } []).parse harnessFile).1,
      t.steps.map (·.index) = [0, 1] ∧ ChainedSteps t.steps ∧
        t.hasImportStep = t.steps.any (·.importState) := by
  obtain ⟨t, ht⟩ : ∃ t, ((Discoverer.new { cacheTtl := "" } []).parse harnessFile).1 = [t] :=
    List.length_eq_one_iff.mp (by decide +kernel)
  have hmem : t ∈ ((Discoverer.new { cacheTtl := "" } []).parse harnessFile).1 := by simp [ht]
  have hwf := parse_steps_wellFormed _ _ t hmem
  have hindex : (((Discoverer.new { cacheTtl := "" } []).parse harnessFile).1.map
      fun t => t.steps.map (·.index)) = [[0, 1]] := by decide +kernel
  exact ⟨t, hmem, by simpa [ht] using hindex, hwf.2.2.1, hwf.2.2.2.2.2.2.1⟩

end TestDiscovery

end ProviderCoverage
