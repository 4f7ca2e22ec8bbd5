import EnergyAudit.Proofs.Count
import EnergyAudit.Proofs.Hardware.Fingerprint
import EnergyAudit.Regression

/-! # What the gate compares with

The gate compares a run with the last baseline of its own hardware, and says so when it has to take
one of other hardware. -/

namespace EnergyAudit

/-- Whether each count of the baseline is a signed number of 64 bits. -/
def Baseline.Moderate (baseline : Baseline) : Prop :=
  baseline.totalIssues.toNat < Count.signedBound ∧ baseline.criticalCount.toNat < Count.signedBound ∧
    baseline.warningCount.toNat < Count.signedBound

/-- Whether each count of the summary is a signed number of 64 bits. -/
def RunSummary.Moderate (summary : RunSummary) : Prop :=
  summary.totalIssues.toNat < Count.signedBound ∧ summary.criticalCount.toNat < Count.signedBound ∧
    summary.warningCount.toNat < Count.signedBound

namespace Regression

open BaselineStore

variable {baseline : Baseline} {run : CurrentRun} {policy : RegressionPolicy}

/-! ## Comparisons with a baseline -/

/-- The change of a run that was given its verdict. -/
def changeOf (baseline : Baseline) (run : CurrentRun) (policy : RegressionPolicy)
    (issuesDelta criticalDelta warningDelta : Int64) (verdict : Verdict) : RelativeChange where
  hasBaseline := true
  sameHardware := baseline.hardwareFingerprint == run.fingerprint
  energyChangePct := (percentages baseline run.calibration).1
  issuesDelta
  criticalDelta
  warningDelta
  benchmarkChangePct := (percentages baseline run.calibration).2
  passed := verdict.passed
  reason := verdict.reason
  lowConfidence := !(baseline.hardwareFingerprint == run.fingerprint) ||
    baseline.method != some run.calibration.method
  throughputGap :=
    (percentages baseline run.calibration).2 > policy.thresholdPct && verdict.passed

/-- A comparison is the change of the three counts with a verdict on it. -/
theorem compareWith?_eq_some {change : RelativeChange} :
    compareWith? baseline run policy = some change ↔
      ∃ issues critical warning verdict,
        Count.change? baseline.totalIssues run.summary.totalIssues = some issues ∧
        Count.change? baseline.criticalCount run.summary.criticalCount = some critical ∧
        Count.change? baseline.warningCount run.summary.warningCount = some warning ∧
        verdict? policy critical issues (percentages baseline run.calibration).1
          (percentages baseline run.calibration).2 = some verdict ∧
        changeOf baseline run policy issues critical warning verdict = change := by
  simp only [compareWith?, Option.bind_eq_bind, Option.bind_eq_some_iff, Option.pure_def,
    Option.some.injEq]
  constructor
  · rintro ⟨issues, issuesKnown, critical, criticalKnown, warning, warningKnown, verdict, decided,
      same⟩
    exact ⟨issues, critical, warning, verdict, issuesKnown, criticalKnown, warningKnown, decided,
      same⟩
  · rintro ⟨issues, critical, warning, verdict, issuesKnown, criticalKnown, warningKnown, decided,
      same⟩
    exact ⟨issues, issuesKnown, critical, criticalKnown, warning, warningKnown, verdict, decided,
      same⟩

/-- A comparison can be made where the changes are numbers and the opposite of that of the issues is
one as well. -/
theorem exists_compareWith?_of_changes {issues critical warning fixed : Int64}
    (issuesKnown : Count.change? baseline.totalIssues run.summary.totalIssues = some issues)
    (criticalKnown : Count.change? baseline.criticalCount run.summary.criticalCount = some critical)
    (warningKnown : Count.change? baseline.warningCount run.summary.warningCount = some warning)
    (opposite : Count.opposite? issues = some fixed) (policy : RegressionPolicy) :
    ∃ verdict, verdict? policy critical issues (percentages baseline run.calibration).1
        (percentages baseline run.calibration).2 = some verdict ∧
      compareWith? baseline run policy =
        some (changeOf baseline run policy issues critical warning verdict) := by
  have decided : ∃ verdict, verdict? policy critical issues
      (percentages baseline run.calibration).1 (percentages baseline run.calibration).2 =
        some verdict := by
    unfold verdict?
    rw [opposite]
    repeat' split
    all_goals exact ⟨_, rfl⟩
  obtain ⟨verdict, decided⟩ := decided
  exact ⟨verdict, decided, compareWith?_eq_some.mpr
    ⟨issues, critical, warning, verdict, issuesKnown, criticalKnown, warningKnown, decided, rfl⟩⟩

theorem exists_compareWith? (old : baseline.Moderate) (new : run.summary.Moderate)
    (policy : RegressionPolicy) : ∃ change, compareWith? baseline run policy = some change := by
  obtain ⟨issues, fixed, issuesKnown, fixedKnown⟩ := Count.exists_change? old.1 new.1
  obtain ⟨critical, _, criticalKnown, _⟩ := Count.exists_change? old.2.1 new.2.1
  obtain ⟨warning, _, warningKnown, _⟩ := Count.exists_change? old.2.2 new.2.2
  obtain ⟨_, _, compared⟩ :=
    exists_compareWith?_of_changes issuesKnown criticalKnown warningKnown fixedKnown policy
  exact ⟨_, compared⟩

/-- A comparison says whether the baseline is of the same hardware, and has little confidence if it
is not. -/
theorem flags_of_compareWith? {change : RelativeChange}
    (compared : compareWith? baseline run policy = some change) :
    change.hasBaseline = true ∧
      change.sameHardware = (baseline.hardwareFingerprint == run.fingerprint) ∧
        (change.sameHardware = false → change.lowConfidence = true) := by
  obtain ⟨issues, critical, warning, verdict, _, _, _, _, rfl⟩ := compareWith?_eq_some.mp compared
  refine ⟨rfl, rfl, ?_⟩
  intro different
  change (!(baseline.hardwareFingerprint == run.fingerprint) || _) = true
  rw [show (baseline.hardwareFingerprint == run.fingerprint) = false from different]
  rfl

theorem compareWithStore?_of_load? {store : BaselineStore} {w : Workspace}
    (loaded : store.load? w run.fingerprint = some baseline) (policy : RegressionPolicy) :
    compareWithStore? store w run policy =
      (compareWith? baseline run policy).map (⟨·, some baseline⟩) := by
  simp only [compareWithStore?, loaded, classify?]

theorem compareWithStore?_of_none {store : BaselineStore} {w : Workspace}
    (loaded : store.load? w run.fingerprint = none) (policy : RegressionPolicy) :
    compareWithStore? store w run policy = some ⟨withoutBaseline, none⟩ := by
  simp only [compareWithStore?, loaded, classify?, Option.map_some]

variable {store : BaselineStore} {w w' : Workspace} {old baselines history : List Baseline}
  {comparison : Comparison}

/-! ## The baseline that a run is compared with -/

theorem baseline_of_lastOn? {last : Baseline}
    (held : store.readable w = BaselineDocument.empty.insertAll history)
    (proper : Baseline.IsFingerprint run.fingerprint)
    (found : Baseline.lastOn? history run.fingerprint = some last)
    (compared : compareWithStore? store w run policy = some comparison) :
    comparison.baseline = some last ∧ comparison.change.sameHardware = true := by
  have loaded : store.load? w run.fingerprint = some last := by
    rw [load?_eq, held]
    exact BaselineDocument.select?_history proper found
  rw [compareWithStore?_of_load? loaded, Option.map_eq_some_iff] at compared
  obtain ⟨change, compared, rfl⟩ := compared
  obtain ⟨_, same, _⟩ := flags_of_compareWith? compared
  have member := List.mem_of_getLast? found
  exact ⟨rfl, same.trans (List.mem_filter.mp member).2⟩

/-- A run on hardware without a baseline is compared with the latest one, and that is said. -/
theorem baseline_of_others (held : store.readable w = BaselineDocument.empty.insertAll history)
    (proper : Baseline.IsFingerprint run.fingerprint)
    (others : ∀ baseline ∈ history, baseline.hardwareFingerprint ≠ run.fingerprint)
    (nonempty : history ≠ [])
    (compared : compareWithStore? store w run policy = some comparison) :
    ∃ key latest, (store.readable w).IsLatest key latest ∧ comparison.baseline = some latest ∧
      comparison.change.sameHardware = false ∧ comparison.change.lowConfidence = true := by
  obtain ⟨key, latest, selected, isLatest, other⟩ :=
    BaselineDocument.exists_select?_history proper others nonempty
  have loaded : store.load? w run.fingerprint = some latest := by rw [load?_eq, held, selected]
  rw [compareWithStore?_of_load? loaded, Option.map_eq_some_iff] at compared
  obtain ⟨change, compared, rfl⟩ := compared
  obtain ⟨_, same, confidence⟩ := flags_of_compareWith? compared
  have different : change.sameHardware = false := by
    rw [same, beq_eq_false_iff_ne]
    exact other
  exact ⟨key, latest, held ▸ isLatest, rfl, different, confidence different⟩

theorem no_baseline_of_empty (held : store.readable w = BaselineDocument.empty)
    (compared : compareWithStore? store w run policy = some comparison) :
    comparison.baseline = none ∧ comparison.change.hasBaseline = false ∧
      comparison.change.passed = true := by
  have loaded : store.load? w run.fingerprint = none := by
    rw [load?_eq, held]
    exact BaselineDocument.select?_empty run.fingerprint
  rw [compareWithStore?_of_none loaded, Option.some.injEq] at compared
  subst compared
  exact ⟨rfl, rfl, rfl⟩

theorem exists_compareWithStore?
    (held : store.readable w = BaselineDocument.empty.insertAll history)
    (moderate : ∀ baseline ∈ history, baseline.Moderate ∧ run.summary.Moderate)
    (policy : RegressionPolicy) :
    ∃ comparison, compareWithStore? store w run policy = some comparison := by
  cases loaded : store.load? w run.fingerprint with
  | none => exact ⟨_, compareWithStore?_of_none loaded policy⟩
  | some used =>
      obtain ⟨key, found⟩ := BaselineDocument.exists_find?_of_select?
        (load?_eq store w run.fingerprint ▸ loaded)
      rw [held] at found
      obtain ⟨small, current⟩ := moderate used (BaselineDocument.mem_of_find?_history found).1
      obtain ⟨change, compared⟩ := exists_compareWith? small current policy
      exact ⟨⟨change, some used⟩, by rw [compareWithStore?_of_load? loaded, compared]; rfl⟩

/-- After any history of saves a run is compared with the last baseline of its own hardware.  If
there is none, it is compared with the baseline of the latest timestamp, as one of other hardware
and with little confidence.  Without any baseline it passes.  All fingerprints of machines are such
that this holds for them. -/
theorem choice_of_saves (settled : store.Settled w) (starts : store.StartsWith w old)
    (kept : ∀ baseline ∈ old, baseline.ReadsBack)
    (added : ∀ baseline ∈ baselines, baseline.ReadsBack) (saves : store.Saves w baselines w')
    (run : CurrentRun) (proper : Baseline.IsFingerprint run.fingerprint)
    (policy : RegressionPolicy) :
    (∀ comparison, compareWithStore? store w' run policy = some comparison →
      (∀ last, Baseline.lastOn? (old ++ baselines) run.fingerprint = some last →
        comparison.baseline = some last ∧ comparison.change.sameHardware = true) ∧
      ((∀ baseline ∈ old ++ baselines, baseline.hardwareFingerprint ≠ run.fingerprint) →
        old ++ baselines ≠ [] → ∃ key latest, (store.readable w').IsLatest key latest ∧
          comparison.baseline = some latest ∧ comparison.change.sameHardware = false ∧
            comparison.change.lowConfidence = true) ∧
      (old ++ baselines = [] → comparison.baseline = none ∧
        comparison.change.hasBaseline = false ∧ comparison.change.passed = true)) ∧
    ((∀ baseline ∈ old ++ baselines, baseline.Moderate ∧ run.summary.Moderate) →
      ∃ comparison, compareWithStore? store w' run policy = some comparison) ∧
    ∀ query cudaVersion,
      Baseline.IsFingerprint (HardwareProfile.resolve query cudaVersion).hardwareFingerprint := by
  have held := saves.readable_of_startsWith settled starts kept added
  refine ⟨fun comparison compared => ⟨?_, ?_, ?_⟩, ?_, HardwareProfile.isFingerprint_resolve⟩
  · intro last found
    exact baseline_of_lastOn? held proper found compared
  · intro others nonempty
    exact baseline_of_others held proper others nonempty compared
  · intro nothing
    rw [nothing] at held
    exact no_baseline_of_empty held compared
  · intro moderate
    exact exists_compareWithStore? held moderate policy

theorem choice_of_plain_saves :
    ∃ w' comparison,
      plain.Saves ⟨.empty, []⟩
        [measured "a" "2025-01-31T12:00:00Z", measured "b" "2025-02-01T12:00:00Z"] w' ∧
      compareWithStore? plain w'
        ⟨"a", ⟨5, 0, 3⟩, ⟨81.9, 408.5, 4.987790, 5.0, .computeBenchmark⟩⟩ {} = some comparison ∧
      comparison.baseline = some (measured "a" "2025-01-31T12:00:00Z") ∧
      comparison.change.sameHardware = true := by
  have added : ∀ baseline ∈ [measured "a" "2025-01-31T12:00:00Z",
      measured "b" "2025-02-01T12:00:00Z"], baseline.ReadsBack := by
    simp [readsBack_measured]
  obtain ⟨w', saves⟩ := exists_plain_saves added
  obtain ⟨choice, exists_comparison, _⟩ :=
    choice_of_saves plain_settled (.missing (by rfl)) nofun added saves
      ⟨"a", ⟨5, 0, 3⟩, ⟨81.9, 408.5, 4.987790, 5.0, .computeBenchmark⟩⟩
      ⟨by decide, by decide⟩ {}
  obtain ⟨comparison, compared⟩ := exists_comparison (by
    simp [Baseline.Moderate, RunSummary.Moderate, Count.signedBound_eq, measured])
  obtain ⟨used, same⟩ := (choice comparison compared).1 _ (by rfl)
  exact ⟨w', comparison, saves, compared, used, same⟩

/-- A baseline that could not be read before the first save may be chosen after it. -/
theorem obscured_baseline_of_same_hardware :
    roundabout.StartsWith (obscured (.insert .empty { hardwareFingerprint := "f" })) [] ∧
      (∀ baseline ∈ [({ hardwareFingerprint := "a" } : Baseline)],
        baseline.hardwareFingerprint ≠ "f") ∧
      ∃ w' comparison,
        roundabout.Saves (obscured (.insert .empty { hardwareFingerprint := "f" }))
          [{ hardwareFingerprint := "a" }] w' ∧
        compareWithStore? roundabout w' ⟨"f", ⟨0, 0, 0⟩, .empty .none⟩ {} = some comparison ∧
        comparison.baseline = some { hardwareFingerprint := "f" } ∧
        comparison.change.sameHardware = true := by
  obtain ⟨w', saves, found⟩ := exists_roundabout_save
    (BaselineDocument.readsBack_empty.insert
      (by decide +kernel : Baseline.ReadsBack { hardwareFingerprint := "f" }))
    (by decide +kernel : Baseline.ReadsBack { hardwareFingerprint := "a" })
  have loaded : roundabout.load? w' "f" = some { hardwareFingerprint := "f" } := by
    rw [load?_eq, readable_of_read found]
    exact BaselineDocument.select?_of_find? (by decide) (by rfl)
  obtain ⟨change, compared⟩ := @exists_compareWith?
    { hardwareFingerprint := "f" } ⟨"f", ⟨0, 0, 0⟩, .empty .none⟩
    ⟨by decide, by decide, by decide⟩ ⟨by decide, by decide, by decide⟩ {}
  refine ⟨.missing (read_obscured _), by simp, w', ⟨change, _⟩, saves, ?_, rfl, ?_⟩
  · rw [compareWithStore?_of_load? loaded, compared]
    rfl
  · exact (flags_of_compareWith? compared).2.1

end Regression

end EnergyAudit
