import Mathlib
import ProviderCoverage.Coverage

/-!
# Coverage summaries

`EntityCoverage.compute` sets up the test flag and count, then reads each test in and, inside it,
each step. Written as folds, a test is read in by `addTest` and a step by `addStep`
(`compute_eq_foldl`).

Merging two summaries joins their flags and adds their counts. Summaries under merging form a
commutative monoid, and reading a test or a step into a merge only changes its right part, so
the coverage of a list of tests is a homomorphism into that monoid (`compute_merge_homomorphism`):
it is the merge of the tests' own coverages (`compute_eq_foldl_merge`) and does not depend on their
order. The loop also keeps the fields of the summary in agreement (`Coherent`): a real update step
is never an import step, so update and import steps together are at most the steps counted.
-/

namespace ProviderCoverage.EntityCoverage

def addStep (c : EntityCoverage) (s : TestStep) : EntityCoverage :=
  let c := { c with hasStateCheck := c.hasStateCheck || s.hasStateCheck
                    hasPlanCheck := c.hasPlanCheck || s.hasPlanCheck }
  let c := if s.isRealUpdate then
    { c with hasUpdateTest := true, updateStepCount := c.updateStepCount + 1 } else c
  if s.importState then { c with importStepCount := c.importStepCount + 1 } else c

/-- One test read into a summary: its flags and step count, then each of its steps. -/
def addTest (c : EntityCoverage) (t : TestFunction) : EntityCoverage :=
  t.steps.foldl addStep
    { c with hasCheckDestroy := c.hasCheckDestroy || t.hasCheckDestroy
             hasImportTest := c.hasImportTest || t.hasImportStep
             hasErrorTest := c.hasErrorTest || t.hasErrorCase
             stepCount := c.stepCount + t.steps.length }

theorem compute_eq_foldl (tests : List TestFunction) :
    compute tests =
      tests.foldl addTest { hasBasicTest := !tests.isEmpty, testCount := tests.length } := by
  simp only [compute, Id.run, ← apply_ite, List.forIn_pure_yield_eq_foldl, bind_pure_comp,
    pure_bind, map_pure]
  change List.foldl _ _ tests = _
  congr 1
  funext c t
  unfold addTest
  congr 1
  funext c s
  unfold addStep
  split_ifs <;> rfl

example : compute [] = default := by decide

section Frame

variable (c : EntityCoverage) (s : TestStep) (t : TestFunction) (steps : List TestStep)

@[simp] theorem hasBasicTest_addStep : (addStep c s).hasBasicTest = c.hasBasicTest := by
  unfold addStep
  split_ifs <;> rfl

@[simp] theorem testCount_addStep : (addStep c s).testCount = c.testCount := by
  unfold addStep
  split_ifs <;> rfl

/-- A field that one step of a fold leaves alone, the whole fold leaves alone. -/
theorem foldl_frame {β α : Type} {g : EntityCoverage → β → EntityCoverage}
    (f : EntityCoverage → α) (hf : ∀ c b, f (g c b) = f c) (l : List β) (c : EntityCoverage) :
    f (l.foldl g c) = f c := by
  induction l generalizing c with
  | nil => rfl
  | cons b l ih => rw [List.foldl_cons, ih, hf]

@[simp] theorem hasBasicTest_foldl_addStep :
    (steps.foldl addStep c).hasBasicTest = c.hasBasicTest :=
  foldl_frame hasBasicTest (hasBasicTest_addStep) steps c

@[simp] theorem testCount_foldl_addStep : (steps.foldl addStep c).testCount = c.testCount :=
  foldl_frame testCount (testCount_addStep) steps c

@[simp] theorem hasBasicTest_addTest : (addTest c t).hasBasicTest = c.hasBasicTest := by
  simp [addTest]

@[simp] theorem testCount_addTest : (addTest c t).testCount = c.testCount := by
  simp [addTest]

end Frame

theorem testCount_compute (tests : List TestFunction) :
    (compute tests).testCount = tests.length := by
  rw [compute_eq_foldl, foldl_frame testCount (testCount_addTest)]

theorem hasBasicTest_compute (tests : List TestFunction) :
    (compute tests).hasBasicTest = true ↔ tests ≠ [] := by
  rw [compute_eq_foldl, foldl_frame hasBasicTest (hasBasicTest_addTest)]
  cases tests <;> simp

/-!
### Summaries form a commutative monoid

Merging is associative and commutative with the empty summary as unit. Reading a step or a test
into a merge `merge a b` reads it into `b` alone, so a fold from `merge a b` is `a` merged with
the fold from `b`: the coverage of two lists laid end to end is the merge of their coverages.
-/

/-- Two summaries together: flags are joined, counts added. -/
def merge (a b : EntityCoverage) : EntityCoverage :=
  ⟨a.hasBasicTest || b.hasBasicTest, a.hasUpdateTest || b.hasUpdateTest,
    a.hasImportTest || b.hasImportTest, a.hasErrorTest || b.hasErrorTest,
    a.hasStateCheck || b.hasStateCheck, a.hasPlanCheck || b.hasPlanCheck,
    a.hasCheckDestroy || b.hasCheckDestroy, a.testCount + b.testCount,
    a.stepCount + b.stepCount, a.updateStepCount + b.updateStepCount,
    a.importStepCount + b.importStepCount⟩

theorem merge_assoc (a b c : EntityCoverage) : merge (merge a b) c = merge a (merge b c) := by
  simp only [merge, Bool.or_assoc, Nat.add_assoc]

theorem merge_comm (a b : EntityCoverage) : merge a b = merge b a := by
  simp only [merge, Bool.or_comm, Nat.add_comm]

theorem merge_left_comm (a b c : EntityCoverage) : merge a (merge b c) = merge b (merge a c) := by
  rw [← merge_assoc, merge_comm a b, merge_assoc]

@[simp] theorem empty_merge (a : EntityCoverage) : merge {} a = a := by
  cases a
  simp [merge]

@[simp] theorem merge_empty (a : EntityCoverage) : merge a {} = a := by
  cases a
  simp [merge]

theorem addStep_merge (a b : EntityCoverage) (s : TestStep) :
    addStep (merge a b) s = merge a (addStep b s) := by
  unfold addStep
  split_ifs <;> simp only [merge, Bool.or_assoc, Bool.or_true, Nat.add_assoc]

theorem foldl_addStep_merge (steps : List TestStep) (a b : EntityCoverage) :
    steps.foldl addStep (merge a b) = merge a (steps.foldl addStep b) := by
  induction steps generalizing b with
  | nil => rfl
  | cons s steps ih => rw [List.foldl_cons, addStep_merge, ih, List.foldl_cons]

theorem addTest_merge (a b : EntityCoverage) (t : TestFunction) :
    addTest (merge a b) t = merge a (addTest b t) := by
  unfold addTest
  rw [← foldl_addStep_merge]
  simp only [merge, Bool.or_assoc, Nat.add_assoc]

theorem foldl_addTest_merge (tests : List TestFunction) (a b : EntityCoverage) :
    tests.foldl addTest (merge a b) = merge a (tests.foldl addTest b) := by
  induction tests generalizing b with
  | nil => rfl
  | cons t ts ih => rw [List.foldl_cons, addTest_merge, ih, List.foldl_cons]

theorem compute_append (xs ys : List TestFunction) :
    compute (xs ++ ys) = merge (compute xs) (compute ys) := by
  have hfront : ({ hasBasicTest := !(xs ++ ys).isEmpty, testCount := (xs ++ ys).length } :
      EntityCoverage) = merge { hasBasicTest := !ys.isEmpty, testCount := ys.length }
        { hasBasicTest := !xs.isEmpty, testCount := xs.length } := by
    cases xs <;> cases ys <;> simp [merge]
    omega
  rw [compute_eq_foldl, List.foldl_append, hfront, foldl_addTest_merge, ← compute_eq_foldl,
    merge_comm, foldl_addTest_merge, ← compute_eq_foldl]

theorem compute_cons (t : TestFunction) (ts : List TestFunction) :
    compute (t :: ts) = merge (compute [t]) (compute ts) := by
  rw [← List.singleton_append, compute_append]

theorem compute_perm {xs ys : List TestFunction} (h : xs.Perm ys) : compute xs = compute ys := by
  induction h with
  | nil => rfl
  | cons t _ ih => rw [compute_cons, ih, ← compute_cons]
  | swap s t ts => rw [compute_cons, compute_cons s, merge_left_comm, ← compute_cons, ← compute_cons]
  | trans _ _ ih₁ ih₂ => exact ih₁.trans ih₂

theorem compute_eq_foldl_merge (tests : List TestFunction) :
    compute tests = tests.foldl (fun acc t => merge acc (compute [t])) {} := by
  suffices h : ∀ acc, tests.foldl (fun acc t => merge acc (compute [t])) acc =
      merge acc (compute tests) by
    rw [h, empty_merge]
  induction tests with
  | nil => exact fun acc => (merge_empty acc).symm
  | cons t ts ih => exact fun acc => by rw [List.foldl_cons, ih, merge_assoc, ← compute_cons]

/-!
### Coherence

Every coverage of tests is `Coherent`: it is tested exactly when it counts a test, it has an
update exactly when it counts an update step, and its update and import steps are distinct
steps. The loop keeps this: a test adds room for its steps before they are read in, and each step
takes at most one step of that room, since a real update step is never an import step.
-/

/-- The relations between the fields of a summary, with `room` steps counted but not yet read. -/
structure Coherent (c : EntityCoverage) (room : Nat) : Prop where
  basic : c.hasBasicTest = true ↔ 0 < c.testCount
  update : c.hasUpdateTest = true ↔ 0 < c.updateStepCount
  steps : c.updateStepCount + c.importStepCount + room ≤ c.stepCount

theorem Coherent.addStep {c : EntityCoverage} {room : Nat} (h : Coherent c (room + 1))
    (s : TestStep) : Coherent (EntityCoverage.addStep c s) room := by
  obtain ⟨hbasic, hupdate, hsteps⟩ := h
  have hnot : s.isRealUpdate = true → s.importState = false := fun hu => by
    simp only [TestStep.isRealUpdate, Bool.and_eq_true, Bool.not_eq_true'] at hu
    exact hu.2
  unfold EntityCoverage.addStep
  split_ifs with hu hi hi
  · exact absurd hi (by simp [hnot hu])
  · exact ⟨hbasic, by simp, by simp only; omega⟩
  · exact ⟨hbasic, hupdate, by simp only; omega⟩
  · exact ⟨hbasic, hupdate, by simp only; omega⟩

theorem Coherent.foldl_addStep {steps : List TestStep} {c : EntityCoverage}
    (h : Coherent c steps.length) : Coherent (steps.foldl EntityCoverage.addStep c) 0 := by
  induction steps generalizing c with
  | nil => exact h
  | cons s steps ih => exact ih (h.addStep s)

theorem Coherent.addTest {c : EntityCoverage} (h : Coherent c 0) (t : TestFunction) :
    Coherent (EntityCoverage.addTest c t) 0 := by
  have hsteps := h.steps
  refine Coherent.foldl_addStep ⟨h.basic, h.update, ?_⟩
  simp only
  omega

theorem Coherent.foldl_addTest {tests : List TestFunction} {c : EntityCoverage}
    (h : Coherent c 0) : Coherent (tests.foldl EntityCoverage.addTest c) 0 := by
  induction tests generalizing c with
  | nil => exact h
  | cons t ts ih => exact ih (h.addTest t)

theorem coherent_compute (tests : List TestFunction) : Coherent (compute tests) 0 := by
  rw [compute_eq_foldl]
  exact Coherent.foldl_addTest ⟨by cases tests <;> simp, by simp, by simp⟩

/-- **Coverage is a monoid homomorphism.** The summary of no tests is the empty summary, the
summary of two lists of tests laid end to end merges their summaries (flags joined, counts
added), so reordering the tests changes nothing; and in every summary the entity is tested
exactly when a test is counted, has an update exactly when an update step is counted, and its
update and import steps together are at most its steps. -/
theorem compute_merge_homomorphism :
    compute [] = default ∧
      (∀ xs ys, compute (xs ++ ys) = merge (compute xs) (compute ys)) ∧
      (∀ xs ys : List TestFunction, xs.Perm ys → compute xs = compute ys) ∧
      ∀ tests, ((compute tests).hasBasicTest = true ↔ 0 < (compute tests).testCount) ∧
        ((compute tests).hasUpdateTest = true ↔ 0 < (compute tests).updateStepCount) ∧
        (compute tests).updateStepCount + (compute tests).importStepCount ≤
          (compute tests).stepCount :=
  ⟨rfl, compute_append, fun _ _ => compute_perm, fun tests =>
    ⟨(coherent_compute tests).basic, (coherent_compute tests).update,
      by simpa using (coherent_compute tests).steps⟩⟩

end ProviderCoverage.EntityCoverage
