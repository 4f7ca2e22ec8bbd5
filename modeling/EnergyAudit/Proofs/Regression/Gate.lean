import EnergyAudit.Proofs.Calibration.WithoutRuntime
import EnergyAudit.Proofs.Double
import EnergyAudit.Proofs.Regression.Comparison
import EnergyAudit.Proofs.Regression.Verdict
import EnergyAudit.Regression.Markdown

/-! # What the gate looks at

Of the findings of a run the gate looks at the critical ones only.  Where throughput and energy are
not measured, both percentages are zero, and zero is beyond no tolerance, so that nothing but
critical findings can fail the gate. -/

namespace EnergyAudit

/-- Whether the counts of all baselines are signed numbers of 64 bits. -/
def BaselineDocument.Moderate (document : BaselineDocument) : Prop :=
  ∀ entry ∈ document.baselines.entries, entry.2.Moderate

instance (baseline : Baseline) : Decidable baseline.Moderate :=
  inferInstanceAs (Decidable (_ ∧ _ ∧ _))

instance (document : BaselineDocument) : Decidable document.Moderate :=
  inferInstanceAs (Decidable (∀ _ ∈ _, _))

theorem BaselineDocument.Moderate.of_select? {document : BaselineDocument}
    (moderate : document.Moderate) {fingerprint : String} {baseline : Baseline}
    (selected : document.select? fingerprint = some baseline) : baseline.Moderate := by
  obtain ⟨key, found⟩ := exists_find?_of_select? selected
  obtain ⟨entry, first, rfl⟩ := Option.map_eq_some_iff.mp found
  exact moderate entry (List.mem_of_find?_eq_some first)

namespace Regression

variable {baseline : Baseline} {run : CurrentRun} {policy : RegressionPolicy}

/-- Whether a comparison looks at nothing but the critical findings, of which the run has so
many. -/
structure CriticalAlone (critical : UInt64) (comparison : Comparison) : Prop where
  energy : comparison.change.energyChangePct = 0.0
  throughput : comparison.change.benchmarkChangePct = 0.0
  noGap : comparison.change.throughputGap = false
  failed_iff : comparison.change.passed = false ↔
    ∃ baseline, comparison.baseline = some baseline ∧ baseline.criticalCount < critical

theorem percentages_of_withoutThroughput {calibration : CalibrationResult}
    (unmeasured : calibration.WithoutThroughput) (baseline : Baseline) :
    percentages baseline calibration = (0.0, 0.0) := by
  have zero : ((0.0 : Float) > 0.0) = False := by decide
  unfold percentages
  simp only [unmeasured.score, unmeasured.energy, zero, decide_false, Bool.false_and,
    Bool.false_eq_true, if_false]

theorem passed_of_verdict? {critical issues : Int64} {energy throughput : Float} {verdict : Verdict}
    (decided : verdict? policy critical issues energy throughput = some verdict) :
    verdict.passed = false ↔
      0 < critical ∨ energy > policy.thresholdPct ∨
        policy.gateOnThroughput = true ∧ throughput > policy.thresholdPct :=
  (reaches_of_verdict? decided).passed_eq_false_iff

theorem criticalAlone_of_compareWith? (unmeasured : run.calibration.WithoutThroughput)
    (tolerant : ¬(0.0 : Float) > policy.thresholdPct) (old : baseline.Moderate)
    (new : run.summary.Moderate) {change : RelativeChange}
    (compared : compareWith? baseline run policy = some change) :
    CriticalAlone run.summary.criticalCount ⟨change, some baseline⟩ := by
  obtain ⟨issues, critical, warning, verdict, _, criticalKnown, _, decided, rfl⟩ :=
    compareWith?_eq_some.mp compared
  have zeros := percentages_of_withoutThroughput unmeasured baseline
  rw [zeros] at decided
  have failed : verdict.passed = false ↔ 0 < critical := by
    simpa only [tolerant, and_false, or_false] using passed_of_verdict? decided
  exact {
    energy := by simp only [changeOf, zeros]
    throughput := by simp only [changeOf, zeros]
    noGap := by simp [changeOf, zeros, tolerant]
    failed_iff := by
      simp only [changeOf, failed, Option.some.injEq, exists_eq_left']
      exact Count.change?_pos_iff old.2.1 new.2.1 criticalKnown }

theorem criticalAlone_withoutBaseline (critical : UInt64) :
    CriticalAlone critical ⟨withoutBaseline, none⟩ where
  energy := rfl
  throughput := rfl
  noGap := rfl
  failed_iff := iff_of_false (by decide) nofun

/-- What a comparison with a baseline comes to can be shown. -/
theorem exists_markdown?_of_compareWith? {change : RelativeChange}
    (compared : compareWith? baseline run policy = some change) :
    ∃ text, change.markdown? (some baseline) = some text := by
  obtain ⟨issues, critical, _, _, issuesKnown, criticalKnown, _, _, rfl⟩ :=
    compareWith?_eq_some.mp compared
  obtain ⟨_, issuesAfter⟩ := Count.exists_changed? issuesKnown
  obtain ⟨_, criticalAfter⟩ := Count.exists_changed? criticalKnown
  simp [RelativeChange.markdown?, RelativeChange.bodyLines?, RelativeChange.comparisonLines?,
    RelativeChange.countRow?, changeOf, issuesAfter, criticalAfter]

section Store

variable {store : BaselineStore} {w : Workspace} {comparison : Comparison}

/-- All that a comparison with a store can come to. -/
theorem compareWithStore?_cases
    (compared : compareWithStore? store w run policy = some comparison) :
    (store.load? w run.fingerprint = none ∧ comparison = ⟨withoutBaseline, none⟩) ∨
      ∃ baseline change, store.load? w run.fingerprint = some baseline ∧
        compareWith? baseline run policy = some change ∧ comparison = ⟨change, some baseline⟩ := by
  cases loaded : store.load? w run.fingerprint with
  | none =>
      rw [compareWithStore?_of_none loaded, Option.some.injEq] at compared
      exact .inl ⟨rfl, compared.symm⟩
  | some baseline =>
      rw [compareWithStore?_of_load? loaded] at compared
      obtain ⟨change, known, same⟩ := Option.map_eq_some_iff.mp compared
      exact .inr ⟨baseline, change, rfl, known, same.symm⟩

theorem baseline_of_compareWithStore?
    (compared : compareWithStore? store w run policy = some comparison) :
    comparison.baseline = store.load? w run.fingerprint := by
  rcases compareWithStore?_cases compared with ⟨loaded, rfl⟩ | ⟨baseline, change, loaded, _, rfl⟩
  all_goals exact loaded.symm

theorem moderate_of_load? {fingerprint : String} (old : (store.readable w).Moderate)
    (loaded : store.load? w fingerprint = some baseline) : baseline.Moderate :=
  old.of_select? (BaselineStore.load?_eq store w fingerprint ▸ loaded)

/-- A run of moderate counts can be compared with any store of such counts. -/
theorem exists_comparison (run : CurrentRun) (policy : RegressionPolicy)
    (old : (store.readable w).Moderate) (new : run.summary.Moderate) :
    ∃ comparison, compareWithStore? store w run policy = some comparison := by
  cases loaded : store.load? w run.fingerprint with
  | none => exact ⟨_, compareWithStore?_of_none loaded policy⟩
  | some baseline =>
      obtain ⟨change, compared⟩ := exists_compareWith? (moderate_of_load? old loaded) new policy
      exact ⟨⟨change, some baseline⟩, by rw [compareWithStore?_of_load? loaded, compared]; rfl⟩

/-- What a comparison comes to can be shown. -/
theorem exists_markdown? (compared : compareWithStore? store w run policy = some comparison) :
    ∃ text, comparison.change.markdown? comparison.baseline = some text := by
  rcases compareWithStore?_cases compared with ⟨_, rfl⟩ | ⟨baseline, change, _, known, rfl⟩
  · exact ⟨_, rfl⟩
  · exact exists_markdown?_of_compareWith? known

/-- A run without measurements fails by its critical findings or not at all. -/
theorem criticalAlone_of_compareWithStore?
    (compared : compareWithStore? store w run policy = some comparison)
    (unmeasured : run.calibration.WithoutThroughput)
    (tolerant : ¬(0.0 : Float) > policy.thresholdPct) (old : (store.readable w).Moderate)
    (new : run.summary.Moderate) :
    CriticalAlone run.summary.criticalCount comparison := by
  rcases compareWithStore?_cases compared with ⟨_, rfl⟩ | ⟨baseline, change, loaded, known, rfl⟩
  · exact criticalAlone_withoutBaseline _
  · exact criticalAlone_of_compareWith? unmeasured tolerant (moderate_of_load? old loaded) new known

end Store

/-! ## Runs with the same critical findings -/

/-- Whether two changes differ at most in the counts of findings that are not critical and in what
is said of them. -/
structure SameVerdict (change change' : RelativeChange) : Prop where
  critical : change.criticalDelta = change'.criticalDelta
  energy : change.energyChangePct = change'.energyChangePct
  throughput : change.benchmarkChangePct = change'.benchmarkChangePct
  gap : change.throughputGap = change'.throughputGap
  passed : change.passed = change'.passed

/-- Whether two runs differ at most in the counts of findings that are not critical. -/
structure AlikeButCritical (run run' : CurrentRun) : Prop where
  fingerprint : run.fingerprint = run'.fingerprint
  calibration : run.calibration = run'.calibration
  critical : run.summary.criticalCount = run'.summary.criticalCount

theorem sameVerdict_of_compareWith? {run' : CurrentRun} (alike : AlikeButCritical run run')
    {change change' : RelativeChange} (compared : compareWith? baseline run policy = some change)
    (compared' : compareWith? baseline run' policy = some change') :
    SameVerdict change change' := by
  obtain ⟨_, critical, _, verdict, _, known, _, decided, rfl⟩ := compareWith?_eq_some.mp compared
  obtain ⟨_, critical', _, verdict', _, known', _, decided', rfl⟩ :=
    compareWith?_eq_some.mp compared'
  have delta : critical = critical' := by
    rw [alike.critical, known', Option.some.injEq] at known
    exact known.symm
  have measured : percentages baseline run.calibration = percentages baseline run'.calibration := by
    rw [alike.calibration]
  -- The other issues may have changed, and the wording with them, but no verdict fails for that.
  have passed : verdict.passed = verdict'.passed := by
    have first := passed_of_verdict? decided
    have second := passed_of_verdict? decided'
    rw [delta, measured, ← second] at first
    exact Bool.eq_iff_iff.mpr (not_iff_not.mp (by simpa only [Bool.not_eq_true] using first))
  exact {
    critical := delta
    energy := by simp only [changeOf, measured]
    throughput := by simp only [changeOf, measured]
    gap := by simp only [changeOf, measured, passed]
    passed }

theorem sameVerdict_of_compareWithStore? {run' : CurrentRun} (alike : AlikeButCritical run run')
    {store : BaselineStore} {w : Workspace} {comparison comparison' : Comparison}
    (compared : compareWithStore? store w run policy = some comparison)
    (compared' : compareWithStore? store w run' policy = some comparison') :
    comparison.baseline = comparison'.baseline ∧
      SameVerdict comparison.change comparison'.change := by
  rcases compareWithStore?_cases compared with
    ⟨loaded, rfl⟩ | ⟨baseline, change, loaded, known, rfl⟩
  all_goals
    rcases compareWithStore?_cases compared' with
      ⟨loaded', rfl⟩ | ⟨baseline', change', loaded', known', rfl⟩
    all_goals rw [← alike.fingerprint, loaded] at loaded'
  · exact ⟨rfl, ⟨rfl, rfl, rfl, rfl, rfl⟩⟩
  · exact nomatch loaded'
  · exact nomatch loaded'
  · cases loaded'
    exact ⟨rfl, sameVerdict_of_compareWith? alike known known'⟩

end Regression

end EnergyAudit
