import Mathlib
import ProviderCoverage.Findings
import ProviderCoverage.Proofs.Coverage

/-!
# Findings follow the coverage report

The findings pass walks the entries of the coverage report in key order, skipping those whose
name the naming pattern does not match. An untested entry gets the basic finding, an error, when
that analyzer is on, and nothing else. A tested entry gets, in this order, the findings of the
analyzers that fire on it (`Analyzer.fires`): update for a resource with an optional updatable
attribute and no real update step, import for an importable resource without an import step,
error for a resource with a required or validated attribute and no error case, state check when
the report counts it as missing state checks, destroy check when the report counts it as missing
a destroy check and any analyzer is on. Each finding names its entry's entity; after all entries
comes one sweeper finding exactly when some analyzer is on and no file registers sweepers.

So the entities with a basic, a state-check or a destroy-check finding are exactly, in key
order, the untested, missing-state-check and missing-destroy-check entries of the report that the
naming pattern keeps, each when its analyzer is on (`evaluate_follows_report`).
-/

namespace ProviderCoverage

/-- Whether the naming pattern, if there is one, matches the entry's entity name. -/
def CoverageEntry.named (naming : Option Regex.Regex) (entry : CoverageEntry) : Bool :=
  naming.all (·.isMatch entry.entity.name)

/-- Whether an analyzer reports on a tested entry. The basic and sweeper analyzers never do:
the one is for untested entries, the other for the package. -/
def Analyzer.fires (s : Settings) (entry : CoverageEntry) : Analyzer → Bool
  | .update => s.enableUpdateTest && entry.entity.kind == .resource &&
      !entry.coverage.hasUpdateTest &&
        entry.entity.attributes.any fun a => a.optional && a.updatable
  | .import => s.enableImportTest && entry.entity.kind == .resource &&
      entry.entity.importCapable && !entry.coverage.hasImportTest
  | .error => s.enableErrorTest && entry.entity.kind == .resource &&
      !entry.coverage.hasErrorTest &&
        entry.entity.attributes.any fun a => a.required || a.hasValidators
  | .stateCheck => s.enableStateCheck && entry.coverage.missingStateChecks
  | .checkDestroy => s.anyAnalyzerEnabled && entry.missingCheckDestroy
  | .basic | .sweeper => false

/-- The analyzers of an entry's findings, in order: for a tested entry those of update, import,
error, state check and destroy check that fire; for an untested one the basic analyzer, when it
is on. -/
def firedAnalyzers (s : Settings) (entry : CoverageEntry) : List Analyzer :=
  if entry.coverage.hasBasicTest then
    [.update, .import, .error, .stateCheck, .checkDestroy].filter (Analyzer.fires s entry)
  else if s.enableBasicTest then [.basic] else []

/-- The findings `g` report on `entry` as documented: by the analyzers that fire, in order, each
naming the entry's entity, a basic finding always an error. -/
structure ReportsEntry (s : Settings) (entry : CoverageEntry) (g : List Finding) : Prop where
  analyzers : g.map (·.analyzer) = firedAnalyzers s entry
  entity : ∀ f ∈ g, f.entity = some entry.entity.key
  basicIsError : ∀ f ∈ g, f.analyzer = .basic → f.severity = .error

/-- The entities named by the findings of one analyzer, in order. -/
def Finding.entitiesOf (a : Analyzer) (fs : List Finding) : List (Option EntityKey) :=
  (fs.filter (·.analyzer == a)).map (·.entity)

/-- What a finding says about its entry: the analyzer, the severity and the entity. -/
def Finding.summary (f : Finding) : Analyzer × Severity × Option EntityKey :=
  (f.analyzer, f.severity, f.entity)

section Entry

variable {s : Settings} {entry : CoverageEntry}

theorem firedAnalyzers_nodup (s : Settings) (entry : CoverageEntry) :
    (firedAnalyzers s entry).Nodup := by
  unfold firedAnalyzers
  split_ifs
  · exact List.Nodup.filter _ (by decide)
  · exact List.nodup_singleton _
  · exact List.nodup_nil

theorem basic_mem_firedAnalyzers :
    Analyzer.basic ∈ firedAnalyzers s entry ↔
      s.enableBasicTest = true ∧ entry.coverage.hasBasicTest = false := by
  unfold firedAnalyzers
  split_ifs <;> simp_all [Analyzer.fires]

theorem mem_firedAnalyzers_of_ne_basic {a : Analyzer} (ha : a ≠ .basic) :
    a ∈ firedAnalyzers s entry ↔
      entry.coverage.hasBasicTest = true ∧ a.fires s entry = true := by
  unfold firedAnalyzers
  split_ifs <;> cases a <;> simp_all [Analyzer.fires]

theorem hasBasicTest_of_missingStateChecks (h : entry.coverage.missingStateChecks = true) :
    entry.coverage.hasBasicTest = true := by
  simp_all [EntityCoverage.missingStateChecks]

theorem hasBasicTest_of_missingCheckDestroy (h : entry.missingCheckDestroy = true) :
    entry.coverage.hasBasicTest = true := by
  simp_all [CoverageEntry.missingCheckDestroy]

theorem filter_cons_eq_append {α : Type} (p : α → Bool) (x : α) (xs : List α) :
    (x :: xs).filter p = (if p x then [x] else []) ++ xs.filter p := by
  rw [List.filter_cons]
  split <;> rfl

theorem map_ite_singleton {α β : Type} (c : Prop) [Decidable c] (g : α → β) (x : α) :
    (if c then [x] else []).map g = if c then [g x] else [] := by
  split <;> rfl

theorem not_isEmpty_names (l : List Attribute) (p : Attribute → Bool) :
    (!((l.filter p).map (·.name)).isEmpty) = l.any p := by
  rw [List.isEmpty_map]
  cases h : l.any p <;> simp_all [List.filter_eq_nil_iff]

/-- **The findings of one entry** are those of the analyzers that fire on it, in order, each
naming the entry's entity, with the given severity but for the basic one, an error. -/
theorem summary_entityFindings (s : Settings) (entry : CoverageEntry) (sev : Severity) :
    (entityFindings s entry sev).map Finding.summary =
      (firedAnalyzers s entry).map fun a =>
        (a, if a = .basic then .error else sev, some entry.entity.key) := by
  unfold entityFindings firedAnalyzers
  by_cases htested : entry.coverage.hasBasicTest = true
  · have hvalidated : (entry.entity.attributes.any fun a => a.hasValidators || a.required) =
        entry.entity.attributes.any fun a => a.required || a.hasValidators := by
      simp only [Bool.or_comm]
    rw [if_neg (by simp [htested]), if_pos htested]
    -- summarise the findings before touching the conditions, which their messages repeat
    simp only [List.map_append, map_ite_singleton, Finding.summary]
    simp only [filter_cons_eq_append, List.filter_nil, List.append_nil, List.map_append]
    simp only [map_ite_singleton, List.append_assoc, reduceCtorEq, if_false]
    simp only [Analyzer.fires, not_isEmpty_names, Attribute.needsUpdateTest,
      Attribute.needsValidationTest, hvalidated]
    rfl
  · rw [if_pos (by simpa using htested), if_neg htested]
    split_ifs <;> rfl

/-- A finding of an entry is by an analyzer that fires on it and names the entry's entity; it has
the given severity, but for the basic one, an error. -/
theorem of_mem_entityFindings {sev : Severity} {f : Finding} (hf : f ∈ entityFindings s entry sev) :
    f.analyzer ∈ firedAnalyzers s entry ∧ f.entity = some entry.entity.key ∧
      f.severity = if f.analyzer = .basic then .error else sev := by
  have hsum : f.summary ∈ (firedAnalyzers s entry).map fun a =>
      (a, if a = .basic then .error else sev, some entry.entity.key) :=
    summary_entityFindings s entry sev ▸ List.mem_map_of_mem hf
  obtain ⟨a, ha, hfa⟩ := List.mem_map.mp hsum
  simp only [Finding.summary, Prod.mk.injEq] at hfa
  obtain ⟨rfl, hsev, hent⟩ := hfa
  exact ⟨ha, hent.symm, hsev.symm⟩

theorem reportsEntry_entityFindings (s : Settings) (entry : CoverageEntry) (sev : Severity) :
    ReportsEntry s entry (entityFindings s entry sev) := by
  refine ⟨?_, fun f hf => (of_mem_entityFindings hf).2.1,
    fun f hf hbasic => by simp [(of_mem_entityFindings hf).2.2, hbasic]⟩
  have := congrArg (List.map Prod.fst) (summary_entityFindings s entry sev)
  simpa [Function.comp_def, Finding.summary] using this

end Entry

/-! ### The whole pass -/

section Pass

variable {r : Registry} {s : Settings} {naming : Option Regex.Regex}

/-- A fold that adds to the findings those of each entry passing a test, and nothing else, adds
the findings of the passing entries in order. -/
theorem foldl_collect {α : Type} (P : α → Bool) (g : α → List Finding)
    {step : List Finding × List Event → α → List Finding × List Event}
    (hstep : ∀ acc x, (step acc x).1 = if P x then acc.1 ++ g x else acc.1) {l : List α}
    {acc res : List Finding × List Event} (h : l.foldl step acc = res) :
    res.1 = acc.1 ++ (l.filter P).flatMap g := by
  subst h
  induction l generalizing acc with
  | nil => simp
  | cons x xs ih =>
    rw [List.foldl_cons, ih, hstep, filter_cons_eq_append]
    split <;> simp

/-- Once the naming pattern reads, the pass gives the findings of the named entries in key order,
then the sweeper findings: one, naming no entity, when some analyzer is on and no file registers
sweepers. -/
theorem evaluate_eq_ok (hnaming : s.namingPattern = .ok naming) :
    ∃ sweeper events, evaluate r s = .ok (((CoverageReport.ofRegistry r).entries.filter
        (·.named naming)).flatMap (fun entry => entityFindings s entry (Severity.ofConfidence
          ((r.testsFor entry.entity.key).foldl (fun m t => max m t.matchConfidence) 0.0))) ++
          sweeper, events) ∧
      sweeper.map (fun f => (f.analyzer, f.entity)) =
        if s.anyAnalyzerEnabled && r.sweeperFiles.isEmpty then [(.sweeper, none)] else [] := by
  unfold evaluate
  rw [hnaming]
  dsimp only [bind, Except.bind]
  generalize hres : List.foldl _ ([], []) _ = res
  obtain ⟨findings, events⟩ := res
  have hfold := foldl_collect (CoverageEntry.named naming) (fun entry => entityFindings s entry
    (Severity.ofConfidence ((r.testsFor entry.entity.key).foldl
      (fun m t => max m t.matchConfidence) 0.0))) ?_ hres
  · simp only at hfold
    rw [hfold, List.nil_append]
    refine ⟨_, _, rfl, ?_⟩
    split <;> rfl
  · intro acc entry
    cases naming <;> simp only [CoverageEntry.named, Option.all_none, Option.all_some, if_true]
    split <;> simp_all

theorem analyzer_of_mem_sweeper {c : Bool} {sweeper : List Finding}
    (h : sweeper.map (fun f => (f.analyzer, f.entity)) = if c then [(.sweeper, none)] else [])
    {f : Finding} (hf : f ∈ sweeper) : f.analyzer = .sweeper := by
  have hmem := List.mem_map_of_mem (f := fun f : Finding => (f.analyzer, f.entity)) hf
  rw [h] at hmem
  split at hmem <;> simp_all

theorem entitiesOf_append (a : Analyzer) (fs gs : List Finding) :
    Finding.entitiesOf a (fs ++ gs) = Finding.entitiesOf a fs ++ Finding.entitiesOf a gs := by
  simp [Finding.entitiesOf]

theorem entitiesOf_of_reportsEntry {entry : CoverageEntry} {g : List Finding}
    (h : ReportsEntry s entry g) (a : Analyzer) :
    Finding.entitiesOf a g =
      if a ∈ firedAnalyzers s entry then [some entry.entity.key] else [] := by
  have hcount : (g.filter (·.analyzer == a)).length = (firedAnalyzers s entry).count a := by
    rw [← h.analyzers, List.count, List.countP_map, List.countP_eq_length_filter]
    rfl
  have hentity : ∀ f ∈ g.filter (·.analyzer == a), f.entity = some entry.entity.key :=
    fun f hf => h.entity f (List.mem_of_mem_filter hf)
  unfold Finding.entitiesOf
  rw [List.map_eq_replicate_iff.mpr hentity, hcount]
  split
  · rw [List.count_eq_one_of_mem (firedAnalyzers_nodup s entry) ‹_›]
    rfl
  · rw [List.count_eq_zero_of_not_mem ‹_›]
    rfl

/-- Over the groups of findings of a list of entries, an analyzer names, in order, the entries it
fires on. -/
theorem entitiesOf_flatten {entries : List CoverageEntry} {groups : List (List Finding)}
    (h : List.Forall₂ (ReportsEntry s) entries groups) (a : Analyzer) :
    Finding.entitiesOf a groups.flatten =
      (entries.filter fun entry => a ∈ firedAnalyzers s entry).map (some ·.entity.key) := by
  induction h with
  | nil => rfl
  | cons hg _ ih =>
    rw [List.flatten_cons, entitiesOf_append, entitiesOf_of_reportsEntry hg, ih,
      filter_cons_eq_append]
    split <;> simp_all

/-- The entries an analyzer fires on, among those the naming pattern keeps, when it fires on
exactly the entries of a report list and only when a setting is on. -/
theorem filter_firedAnalyzers_eq {a : Analyzer} {on : Bool} {p : CoverageEntry → Bool}
    (hiff : ∀ entry, a ∈ firedAnalyzers s entry ↔ on = true ∧ p entry = true)
    (entries : List CoverageEntry) :
    (entries.filter (·.named naming)).filter (fun entry => a ∈ firedAnalyzers s entry) =
      if on then (entries.filter p).filter (·.named naming) else [] := by
  simp only [hiff, List.filter_filter]
  split
  · exact List.filter_congr fun entry _ => by simp_all [Bool.and_comm]
  · simp_all

theorem fired_basic_iff (entry : CoverageEntry) :
    Analyzer.basic ∈ firedAnalyzers s entry ↔
      s.enableBasicTest = true ∧ (!entry.coverage.hasBasicTest) = true := by
  simp [basic_mem_firedAnalyzers]

theorem fired_stateCheck_iff (entry : CoverageEntry) :
    Analyzer.stateCheck ∈ firedAnalyzers s entry ↔
      s.enableStateCheck = true ∧ entry.coverage.missingStateChecks = true := by
  rw [mem_firedAnalyzers_of_ne_basic (by decide)]
  simp only [Analyzer.fires, Bool.and_eq_true]
  exact ⟨fun h => h.2, fun h => ⟨hasBasicTest_of_missingStateChecks h.2, h⟩⟩

theorem fired_checkDestroy_iff (entry : CoverageEntry) :
    Analyzer.checkDestroy ∈ firedAnalyzers s entry ↔
      s.anyAnalyzerEnabled = true ∧ entry.missingCheckDestroy = true := by
  rw [mem_firedAnalyzers_of_ne_basic (by decide)]
  simp only [Analyzer.fires, Bool.and_eq_true]
  exact ⟨fun h => h.2, fun h => ⟨hasBasicTest_of_missingCheckDestroy h.2, h⟩⟩

/-- **The findings pass agrees with the coverage report.** Once the naming pattern reads, the
findings are, entry by entry in key order over the entries the pattern keeps, those of the
analyzers that fire on the entry (`ReportsEntry`), then one sweeper finding exactly when some
analyzer is on and no file registers sweepers. So the entities with a basic, a state-check or a
destroy-check finding are, in key order, the untested, missing-state-check and
missing-destroy-check entries of the report that the pattern keeps, when the basic analyzer, the
state-check analyzer or any analyzer is on. -/
theorem evaluate_follows_report (r : Registry) (s : Settings) (naming : Option Regex.Regex)
    (hnaming : s.namingPattern = .ok naming) :
    ∃ fs events, evaluate r s = .ok (fs, events) ∧
      (∃ groups sweeper, fs = groups.flatten ++ sweeper ∧
        List.Forall₂ (ReportsEntry s)
          ((CoverageReport.ofRegistry r).entries.filter (·.named naming)) groups ∧
        sweeper.map (fun f => (f.analyzer, f.entity)) =
          if s.anyAnalyzerEnabled && r.sweeperFiles.isEmpty then [(.sweeper, none)] else []) ∧
      Finding.entitiesOf .basic fs = (if s.enableBasicTest then
        ((CoverageReport.ofRegistry r).untested.filter (·.named naming)).map
          (some ·.entity.key) else []) ∧
      Finding.entitiesOf .stateCheck fs = (if s.enableStateCheck then
        ((CoverageReport.ofRegistry r).missingStateChecks.filter (·.named naming)).map
          (some ·.entity.key) else []) ∧
      Finding.entitiesOf .checkDestroy fs = (if s.anyAnalyzerEnabled then
        ((CoverageReport.ofRegistry r).missingCheckDestroy.filter (·.named naming)).map
          (some ·.entity.key) else []) := by
  obtain ⟨sweeper, events, heval, hsweeper⟩ := evaluate_eq_ok (r := r) hnaming
  set entries := (CoverageReport.ofRegistry r).entries.filter (·.named naming)
  set groups := entries.map fun entry => entityFindings s entry (Severity.ofConfidence
    ((r.testsFor entry.entity.key).foldl (fun m t => max m t.matchConfidence) 0.0))
  have hgroups : List.Forall₂ (ReportsEntry s) entries groups :=
    List.forall₂_map_right_iff.mpr (List.forall₂_same.mpr fun entry _ =>
      reportsEntry_entityFindings s entry _)
  have hflat : entries.flatMap (fun entry => entityFindings s entry (Severity.ofConfidence
      ((r.testsFor entry.entity.key).foldl (fun m t => max m t.matchConfidence) 0.0))) =
      groups.flatten := List.flatMap_def
  have hsweeperOf : ∀ a, a ≠ .sweeper → Finding.entitiesOf a sweeper = [] := by
    intro a ha
    have hall : ∀ f ∈ sweeper, f.analyzer = .sweeper := by
      intro f hf
      have hmem := List.mem_map_of_mem (f := fun f : Finding => (f.analyzer, f.entity)) hf
      rw [hsweeper] at hmem
      split at hmem <;> simp_all
    simp only [Finding.entitiesOf, List.map_eq_nil_iff, List.filter_eq_nil_iff]
    intro f hf
    simp [hall f hf, Ne.symm ha]
  have hof : ∀ a, a ≠ .sweeper → Finding.entitiesOf a (groups.flatten ++ sweeper) =
      (entries.filter fun entry => a ∈ firedAnalyzers s entry).map (some ·.entity.key) := by
    intro a ha
    rw [entitiesOf_append, hsweeperOf a ha, List.append_nil, entitiesOf_flatten hgroups]
  refine ⟨groups.flatten ++ sweeper, events, hflat ▸ heval,
    ⟨groups, sweeper, rfl, hgroups, hsweeper⟩, ?_, ?_, ?_⟩
  · rw [hof _ (by decide), filter_firedAnalyzers_eq fired_basic_iff]
    split <;> rfl
  · rw [hof _ (by decide), filter_firedAnalyzers_eq fired_stateCheck_iff]
    split <;> rfl
  · rw [hof _ (by decide), filter_firedAnalyzers_eq fired_checkDestroy_iff]
    split <;> rfl

/-- A registry with one resource, `widget`, and no tests. -/
def untestedWidget : Registry :=
  { entities :=
      [{ kind := .resource, name := "widget", location := ⟨"widget_resource.go", 1, 1⟩ }] }

/-- Under the default settings the untested `widget` gets the basic finding. -/
theorem untestedWidget_basic_finding :
    (default : Settings).namingPattern = .ok none ∧
      ∃ fs events, evaluate untestedWidget default = .ok (fs, events) ∧
        Finding.entitiesOf .basic fs = [some ⟨.resource, "widget"⟩] := by
  have hnaming : (default : Settings).namingPattern = .ok none := rfl
  obtain ⟨fs, events, heval, -, hbasic, -⟩ :=
    evaluate_follows_report untestedWidget default none hnaming
  exact ⟨hnaming, fs, events, heval, hbasic.trans (by decide)⟩

end Pass

end ProviderCoverage
