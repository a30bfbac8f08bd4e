import Mathlib
import ProviderCoverage.Glob

/-!
# The default test-file glob

The default test-file pattern `*_test.go` accepts every file name that ends in `_test.go`
(`testFileGlob_matches`).

The glob compiles to an automaton of thirteen states. State 12 anchors at the start of the name.
States 10 and 11 loop over any byte. States 9 down to 2 read `_`, `t`, `e`, `s`, `t`, `.`, `g`
and `o`. State 1 anchors at the end, and state 0 accepts. After the start, the states a run is
in depend only on how much of `_test.go` the bytes read so far end with (`suffixStates`). Reading
one byte moves that count as `suffixStep` says (`advance_suffixStates`). Since `_` occurs only
at the head of the suffix, a byte that breaks a partial match starts a new one exactly when it is
`_`. So a name that ends in `_test.go` leaves the run with all of it matched, and the end anchor
then accepts.
-/

namespace ProviderCoverage.Glob

open Regex

def testFileGlob : Glob :=
  ⟨"*_test.go", [.zeroOrMore, .literal '_', .literal 't', .literal 'e', .literal 's', .literal 't',
    .literal '.', .literal 'g', .literal 'o']⟩

theorem parse_testFileGlob : Glob.parse "*_test.go" = .ok testFileGlob := rfl

def testFileStates : Array Regex.State :=
  #[.accept, .check (.lineEnd .text) 0, .read (.lit 'o' false) 1, .read (.lit 'g' false) 2,
    .read (.lit '.' false) 3, .read (.lit 't' false) 4, .read (.lit 's' false) 5,
    .read (.lit 'e' false) 6, .read (.lit 't' false) 7, .read (.lit '_' false) 8, .fork 11 9,
    .read (.dot true false) 10, .check (.lineStart .text) 10]

def testFileAutomaton : Automaton := ⟨testFileStates, 12⟩

theorem toAutomaton_testFileGlob :
    (testFileGlob.toRegex false).toAutomaton = testFileAutomaton := by
  with_unfolding_all rfl

theorem testFileAutomaton_start : testFileAutomaton.start = 12 := rfl

theorem testFileStates_size : testFileStates.size = 13 := rfl

/-- The literal tail of the pattern, as the bytes the automaton reads. -/
def testSuffix : List Char := ['_', 't', 'e', 's', 't', '.', 'g', 'o']

/-- The states a run is in, besides the start, once the bytes read end with the first `m`
characters of `_test.go` and with no longer part of it. -/
def suffixStates : Nat → List Nat
  | 0 => [10]
  | m + 1 => [8 - m, 10]

/-- How much of `_test.go` is matched after `c` is read with `m` characters matched. -/
def suffixStep (m : Nat) (c : Char) : Nat :=
  if testSuffix[m]? = some c then m + 1 else if c = '_' then 1 else 0

theorem suffixStep_le (m : Nat) (c : Char) : suffixStep m c ≤ 8 := by
  unfold suffixStep
  split_ifs with h
  · have hm := (List.getElem?_eq_some_iff.mp h).1
    simp only [testSuffix, List.length_cons, List.length_nil] at hm
    omega
  all_goals omega

theorem range_thirteen : List.range 13 = [0, 1, 2, 3, 4, 5, 6, 7, 8, 9, 10, 11, 12] := rfl

/-- **Step lemma.** Reading a byte after the start moves the run as `suffixStep` says. -/
theorem advance_suffixStates {m : Nat} (hm : m ≤ 8) (p c : Char) :
    testFileAutomaton.advance
        (testFileAutomaton.closure (some p) (some c) (12 :: suffixStates m)) c =
      suffixStates (suffixStep m c) := by
  -- each matched count gives a closed closure, computed on list literals; only the comparisons
  -- with `c` stay open
  interval_cases m <;>
  · simp only [testFileAutomaton, Automaton.closure, Automaton.advance, testFileStates_size,
      range_thirteen, suffixStates]
    simp only [Automaton.reach, Array.replicate_eq_toArray_replicate, List.replicate_succ,
      List.replicate_zero, List.setIfInBounds_toArray, List.set_cons_succ, List.set_cons_zero,
      Array.getD_eq_getD_getElem?, List.getElem?_toArray, List.getElem?_cons_succ,
      List.getElem?_cons_zero, Option.getD_some, testFileStates, Regex.holdsAt, Option.isNone_some,
      Bool.false_eq_true, if_false, if_true, List.length_cons, List.length_nil, Nat.reduceAdd,
      List.filterMap_cons, List.filterMap_nil]
    simp only [Regex.Regex.acceptsChar, litMatches, suffixStep, testSuffix]
    split_ifs <;> grind

theorem closure_suffixStates_end (p : Char) :
    (testFileAutomaton.closure (some p) none (12 :: suffixStates 8)).getD 0 false = true := by
  simp [testFileAutomaton, Automaton.closure, Automaton.reach, testFileStates, Regex.holdsAt,
    suffixStates, Array.getD_eq_getD_getElem?]

theorem searchFrom_start (p : Char) (cs : List Char) :
    testFileAutomaton.searchFrom none [] cs =
      testFileAutomaton.searchFrom (some p) (suffixStates 0) cs := by
  cases cs with
  | nil =>
    simp [Automaton.searchFrom, testFileAutomaton, Automaton.closure, Automaton.reach,
      testFileStates, Regex.holdsAt, suffixStates, Array.getD_eq_getD_getElem?]
  | cons c rest =>
    have hstart : testFileAutomaton.closure none (some c) [12] =
        testFileAutomaton.closure (some p) (some c) (12 :: suffixStates 0) := by
      simp [testFileAutomaton, Automaton.closure, Automaton.reach, testFileStates, Regex.holdsAt,
        suffixStates]
    simp only [Automaton.searchFrom, testFileAutomaton_start, hstart]

theorem searchFrom_suffixStates_cons {m : Nat} (hm : m ≤ 8) (p c : Char) (rest : List Char) :
    testFileAutomaton.searchFrom (some p) (suffixStates m) (c :: rest) =
      ((testFileAutomaton.closure (some p) (some c) (12 :: suffixStates m)).getD 0 false ||
        testFileAutomaton.searchFrom (some c) (suffixStates (suffixStep m c)) rest) := by
  rw [Automaton.searchFrom, testFileAutomaton_start, advance_suffixStates hm]

/-- **Run lemma.** Bytes that end in `_test.go` are accepted from any matched count. -/
theorem searchFrom_append_testSuffix (xs : List Char) {m : Nat} (hm : m ≤ 8) (p : Char) :
    testFileAutomaton.searchFrom (some p) (suffixStates m) (xs ++ testSuffix) = true := by
  induction xs generalizing m p with
  | nil =>
    have hunder : suffixStep m '_' = 1 := by
      unfold suffixStep
      interval_cases m <;> simp [testSuffix]
    have hend : testFileAutomaton.searchFrom (some 'o') (suffixStates 8) [] = true := by
      rw [Automaton.searchFrom.eq_1, testFileAutomaton_start, closure_suffixStates_end]
    rw [List.nil_append, testSuffix, searchFrom_suffixStates_cons hm, hunder]
    simp [searchFrom_suffixStates_cons, suffixStep, testSuffix, hend]
  | cons c xs ih =>
    rw [List.cons_append, searchFrom_suffixStates_cons hm, ih (suffixStep_le m c), Bool.or_true]

private theorem byteArray_toList_loop (bs : ByteArray) (i : Nat) (r : List UInt8) :
    ByteArray.toList.loop bs i r = r.reverse ++ bs.data.toList.drop i := by
  fun_induction ByteArray.toList.loop bs i r with
  | case1 i r hlt ih =>
    have hlen : i < bs.data.toList.length := by simpa using hlt
    have hget : bs.get! i = bs.data[i]! := by cases bs; rfl
    rw [ih, List.drop_eq_getElem_cons (i := i) hlen, hget, getElem!_pos bs.data i hlt]
    simp
  | case2 i r hlt =>
    rw [List.drop_eq_nil_of_le (by simpa using Nat.le_of_not_lt hlt)]
    simp

theorem byteArray_toList (bs : ByteArray) : bs.toList = bs.data.toList := by
  rw [ByteArray.toList, byteArray_toList_loop]
  simp

theorem toUTF8_toList_append (s t : String) :
    (s ++ t).toUTF8.toList = s.toUTF8.toList ++ t.toUTF8.toList := by
  simp [byteArray_toList, String.toByteArray_append]

/-- **The default test-file glob accepts every name ending in `_test.go`.** -/
theorem testFileGlob_matches (pre : String) : testFileGlob.matches (pre ++ "_test.go") = true := by
  have hsuffix : "_test.go".toUTF8.toList.map (fun b => Char.ofNat b.toNat) = testSuffix := by
    rw [byteArray_toList]
    decide
  rw [Glob.matches, Regex.matchesChars, toAutomaton_testFileGlob, toUTF8_toList_append,
    List.map_append, hsuffix, searchFrom_start 'a']
  exact searchFrom_append_testSuffix _ (by decide) 'a'

end ProviderCoverage.Glob
