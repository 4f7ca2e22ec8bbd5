import EnergyAudit.Proofs.Regression.Comparison
import EnergyAudit.Proofs.Regression.Verdict

/-! # How the gate decides

A comparison with a baseline is decided by the changes of three counts and by one percentage at
most.  Everything else that is known of the run and of the baseline says how much the comparison is
to be trusted, and nothing more. -/

namespace EnergyAudit

namespace Regression

variable {baseline : Baseline} {run : CurrentRun} {policy : RegressionPolicy}

/-- Whether the run and the baseline have an energy for a unit of work. -/
def EnergyKnown (baseline : Baseline) (run : CurrentRun) : Prop :=
  run.calibration.energyPerTflopJoules > 0.0 ∧ baseline.energyPerTflopJoules > 0.0

def ThroughputKnown (baseline : Baseline) (run : CurrentRun) : Prop :=
  run.calibration.benchmarkScoreTflops > 0.0 ∧ baseline.benchmarkScoreTflops > 0.0

instance (baseline : Baseline) (run : CurrentRun) : Decidable (EnergyKnown baseline run) :=
  inferInstanceAs (Decidable (_ ∧ _))

instance (baseline : Baseline) (run : CurrentRun) : Decidable (ThroughputKnown baseline run) :=
  inferInstanceAs (Decidable (_ ∧ _))

/-! ## The percentages -/

theorem percentages_of_energyKnown (known : EnergyKnown baseline run) :
    percentages baseline run.calibration =
      (percentChange baseline.energyPerTflopJoules run.calibration.energyPerTflopJoules, 0.0) := by
  rw [percentages, if_pos (by simpa [EnergyKnown] using known)]

theorem percentages_of_throughputKnown (noEnergy : ¬ EnergyKnown baseline run)
    (known : ThroughputKnown baseline run) :
    percentages baseline run.calibration =
      (0.0,
        -percentChange baseline.benchmarkScoreTflops run.calibration.benchmarkScoreTflops) := by
  rw [percentages, if_neg (by simpa [EnergyKnown] using noEnergy),
    if_pos (by simpa [ThroughputKnown] using known)]

theorem percentages_of_neither (noEnergy : ¬ EnergyKnown baseline run)
    (noThroughput : ¬ ThroughputKnown baseline run) :
    percentages baseline run.calibration = (0.0, 0.0) := by
  rw [percentages, if_neg (by simpa [EnergyKnown] using noEnergy),
    if_neg (by simpa [ThroughputKnown] using noThroughput)]

/-- What the change says of energy and throughput: the change in energy, or the loss of throughput
where there is no energy, or neither. -/
structure Measures (baseline : Baseline) (run : CurrentRun) (change : RelativeChange) : Prop where
  energy : EnergyKnown baseline run → change.energyChangePct =
    percentChange baseline.energyPerTflopJoules run.calibration.energyPerTflopJoules
  noEnergy : ¬ EnergyKnown baseline run → change.energyChangePct = 0.0
  throughput : ¬ EnergyKnown baseline run → ThroughputKnown baseline run →
    change.benchmarkChangePct =
      -percentChange baseline.benchmarkScoreTflops run.calibration.benchmarkScoreTflops
  noThroughput : EnergyKnown baseline run ∨ ¬ ThroughputKnown baseline run →
    change.benchmarkChangePct = 0.0
  notBoth : change.energyChangePct = 0.0 ∨ change.benchmarkChangePct = 0.0

theorem measures_changeOf (baseline : Baseline) (run : CurrentRun) (policy : RegressionPolicy)
    (issues critical warning : Int64) (verdict : Verdict) :
    Measures baseline run (changeOf baseline run policy issues critical warning verdict) := by
  by_cases energy : EnergyKnown baseline run
  · have zero := percentages_of_energyKnown energy
    exact {
      energy := fun _ => congrArg Prod.fst zero
      noEnergy := absurd energy
      throughput := absurd energy
      noThroughput := fun _ => congrArg Prod.snd zero
      notBoth := .inr (congrArg Prod.snd zero) }
  · by_cases throughput : ThroughputKnown baseline run
    · have zero := percentages_of_throughputKnown energy throughput
      exact {
        energy := fun known => absurd known energy
        noEnergy := fun _ => congrArg Prod.fst zero
        throughput := fun _ _ => congrArg Prod.snd zero
        noThroughput := fun unknown => (unknown.elim energy (· throughput)).elim
        notBoth := .inl (congrArg Prod.fst zero) }
    · have zero := percentages_of_neither energy throughput
      exact {
        energy := fun known => absurd known energy
        noEnergy := fun _ => congrArg Prod.fst zero
        throughput := fun _ known => absurd known throughput
        noThroughput := fun _ => congrArg Prod.snd zero
        notBoth := .inl (congrArg Prod.fst zero) }

/-! ## The counts -/

structure CountsExactly (baseline : Baseline) (summary : RunSummary) (change : RelativeChange) :
    Prop where
  issues : change.issuesDelta.toInt = (summary.totalIssues.toNat : Int) - baseline.totalIssues.toNat
  critical : change.criticalDelta.toInt =
    (summary.criticalCount.toNat : Int) - baseline.criticalCount.toNat
  warning : change.warningDelta.toInt =
    (summary.warningCount.toNat : Int) - baseline.warningCount.toNat

theorem signedText_eq {n : Int64} {a b : Nat} (value : n.toInt = (a : Int) - b) (le : b ≤ a) :
    signedText n = toString (a - b) := by
  rw [signedText, value, ← Int.ofNat_sub le]
  rfl

/-! ## The verdict and its reason -/

/-- The gate fails for the first of its reasons that applies, and otherwise the reason is what has
become of the issues. -/
structure Judges (baseline : Baseline) (summary : RunSummary) (policy : RegressionPolicy)
    (change : RelativeChange) : Prop where
  failed_iff : change.passed = false ↔ 0 < change.criticalDelta ∨
    change.energyChangePct > policy.thresholdPct ∨
      policy.gateOnThroughput = true ∧ change.benchmarkChangePct > policy.thresholdPct
  newCritical : 0 < change.criticalDelta → change.reason =
    "❌ " ++ toString (summary.criticalCount.toNat - baseline.criticalCount.toNat)
      ++ " new critical issue(s) introduced."
  energyRegressed : ¬ 0 < change.criticalDelta → change.energyChangePct > policy.thresholdPct →
    change.reason = "❌ Energy efficiency regressed by " ++ Decimal.fixed 1 change.energyChangePct
      ++ "% (threshold: " ++ Decimal.fixed 1 policy.thresholdPct ++ "%)."
  throughputDropped : ¬ 0 < change.criticalDelta →
    ¬ change.energyChangePct > policy.thresholdPct → policy.gateOnThroughput = true →
      change.benchmarkChangePct > policy.thresholdPct →
        change.reason = "❌ Throughput dropped by " ++ Decimal.fixed 1 change.benchmarkChangePct
          ++ "% (threshold: " ++ Decimal.fixed 1 policy.thresholdPct ++ "%)."
  newIssues : change.passed = true → 0 < change.issuesDelta → change.reason =
    "⚠️ " ++ toString (summary.totalIssues.toNat - baseline.totalIssues.toNat)
      ++ " new issue(s) found (no critical regressions)."
  fixedIssues : change.passed = true → change.issuesDelta < 0 → change.reason =
    "✅ " ++ toString (baseline.totalIssues.toNat - summary.totalIssues.toNat)
      ++ " issue(s) fixed!"
  unchanged : change.passed = true → change.issuesDelta = 0 →
    change.reason = "✅ No regressions detected."

theorem judges_changeOf {issues critical warning fixed : Int64} {verdict : Verdict}
    (exact : CountsExactly baseline run.summary
      (changeOf baseline run policy issues critical warning verdict))
    (opposite : Count.opposite? issues = some fixed)
    (reaches : Reaches policy critical issues (percentages baseline run.calibration).1
      (percentages baseline run.calibration).2 verdict) :
    Judges baseline run.summary policy
      (changeOf baseline run policy issues critical warning verdict) := by
  have issuesValue : issues.toInt =
      (run.summary.totalIssues.toNat : Int) - baseline.totalIssues.toNat := exact.issues
  have criticalValue : critical.toInt =
      (run.summary.criticalCount.toNat : Int) - baseline.criticalCount.toNat := exact.critical
  have fine (passed : verdict.passed = true) : ¬ Fails policy critical
      (percentages baseline run.calibration).1 (percentages baseline run.calibration).2 := by
    rw [← reaches.passed_eq_false_iff, passed]
    nofun
  exact {
    failed_iff := reaches.passed_eq_false_iff
    newCritical := by
      intro more
      have grown : (0 : Int) < critical.toInt := Int64.lt_iff_toInt_lt.mp more
      have text := signedText_eq criticalValue (by omega)
      rw [← text]
      exact congrArg Verdict.reason (reaches.unique (.newCritical more))
    energyRegressed := by
      intro noMore dearer
      exact congrArg Verdict.reason (reaches.unique (.energyRegressed noMore dearer))
    throughputDropped := by
      intro noMore notDearer gated slower
      exact congrArg Verdict.reason
        (reaches.unique (.throughputDropped noMore notDearer gated slower))
    newIssues := by
      intro passed more
      have grown : (0 : Int) < issues.toInt := Int64.lt_iff_toInt_lt.mp more
      have text := signedText_eq issuesValue (by omega)
      rw [← text]
      exact congrArg Verdict.reason (reaches.unique (.newIssues (fine passed) more))
    fixedIssues := by
      intro passed fewer
      have shrunk : issues.toInt < (0 : Int) := Int64.lt_iff_toInt_lt.mp fewer
      have turned := Count.toInt_of_signed? opposite
      have fixedValue : fixed.toInt =
          (baseline.totalIssues.toNat : Int) - run.summary.totalIssues.toNat := by omega
      have text := signedText_eq fixedValue (by omega)
      rw [← text]
      exact congrArg Verdict.reason
        (reaches.unique (.fixedIssues (fine passed) fewer opposite))
    unchanged := by
      intro passed same
      change issues = 0 at same
      subst same
      exact congrArg Verdict.reason
        (reaches.unique (.unchanged (fine passed) (by decide) (by decide))) }

/-- Lost throughput is remarked on where it does not fail the gate, and only there. -/
structure RemarksGap (policy : RegressionPolicy) (change : RelativeChange) : Prop where
  gap_iff : change.throughputGap = true ↔
    change.benchmarkChangePct > policy.thresholdPct ∧ change.passed = true
  noGap : policy.gateOnThroughput = true → change.throughputGap = false

theorem remarksGap_changeOf {issues critical warning : Int64} {verdict : Verdict}
    (reaches : Reaches policy critical issues (percentages baseline run.calibration).1
      (percentages baseline run.calibration).2 verdict) :
    RemarksGap policy (changeOf baseline run policy issues critical warning verdict) := by
  have gap_iff : (changeOf baseline run policy issues critical warning verdict).throughputGap =
      true ↔ (percentages baseline run.calibration).2 > policy.thresholdPct ∧
        verdict.passed = true := by
    simp only [changeOf, Bool.and_eq_true, decide_eq_true_eq]
  refine ⟨gap_iff, ?_⟩
  intro gated
  rw [Bool.eq_false_iff, ne_eq, gap_iff]
  rintro ⟨slower, passed⟩
  rw [reaches.passed_eq_false_iff.mpr (.inr (.inr ⟨gated, slower⟩))] at passed
  contradiction

/-! ## What does not matter -/

/-- Whether the two runs have the same counts and figures as each other, and so have the two
baselines. -/
structure SameFigures (baseline baseline' : Baseline) (run run' : CurrentRun) : Prop where
  issues : baseline.totalIssues = baseline'.totalIssues
  critical : baseline.criticalCount = baseline'.criticalCount
  warning : baseline.warningCount = baseline'.warningCount
  energy : baseline.energyPerTflopJoules = baseline'.energyPerTflopJoules
  throughput : baseline.benchmarkScoreTflops = baseline'.benchmarkScoreTflops
  summary : run.summary = run'.summary
  runEnergy : run.calibration.energyPerTflopJoules = run'.calibration.energyPerTflopJoules
  runThroughput : run.calibration.benchmarkScoreTflops = run'.calibration.benchmarkScoreTflops

/-- The change with what it says of hardware and method taken from another baseline and run. -/
def flaggedFor (baseline : Baseline) (run : CurrentRun) (change : RelativeChange) :
    RelativeChange :=
  { change with
    sameHardware := baseline.hardwareFingerprint == run.fingerprint
    lowConfidence := !(baseline.hardwareFingerprint == run.fingerprint) ||
      baseline.method != some run.calibration.method }

theorem SameFigures.percentages_eq {baseline' : Baseline} {run' : CurrentRun}
    (same : SameFigures baseline baseline' run run') :
    percentages baseline' run'.calibration = percentages baseline run.calibration := by
  simp only [percentages, same.energy, same.throughput, same.runEnergy, same.runThroughput]

theorem SameFigures.compareWith?_eq {baseline' : Baseline} {run' : CurrentRun}
    (same : SameFigures baseline baseline' run run') (policy : RegressionPolicy) :
    compareWith? baseline' run' policy =
      (compareWith? baseline run policy).map (flaggedFor baseline' run') := by
  apply Option.ext
  intro change
  rw [Option.map_eq_some_iff]
  simp only [compareWith?_eq_some, same.percentages_eq, ← same.issues, ← same.critical,
    ← same.warning, ← same.summary]
  constructor
  · rintro ⟨issues, critical, warning, verdict, issuesKnown, criticalKnown, warningKnown, decided,
      rfl⟩
    refine ⟨changeOf baseline run policy issues critical warning verdict, ⟨issues, critical,
      warning, verdict, issuesKnown, criticalKnown, warningKnown, decided, rfl⟩, ?_⟩
    simp only [changeOf, flaggedFor, same.percentages_eq]
  · rintro ⟨_, ⟨issues, critical, warning, verdict, issuesKnown, criticalKnown, warningKnown,
      decided, rfl⟩, rfl⟩
    refine ⟨issues, critical, warning, verdict, issuesKnown, criticalKnown, warningKnown, decided,
      ?_⟩
    simp only [changeOf, flaggedFor, same.percentages_eq]

/-! ## The decision -/

/-- Whether each count of the run is on the same side as that of the baseline. -/
structure SameSides (baseline : Baseline) (summary : RunSummary) : Prop where
  issues : Count.SameSide baseline.totalIssues summary.totalIssues
  critical : Count.SameSide baseline.criticalCount summary.criticalCount
  warning : Count.SameSide baseline.warningCount summary.warningCount

theorem sameSides_of_moderate {summary : RunSummary} (old : baseline.Moderate)
    (new : summary.Moderate) : SameSides baseline summary where
  issues := Count.sameSide_of_lt old.1 new.1
  critical := Count.sameSide_of_lt old.2.1 new.2.1
  warning := Count.sameSide_of_lt old.2.2 new.2.2

/-- A comparison of counts on the same sides has exact changes, and reaches a verdict. -/
theorem SameSides.exists_reaches (same : SameSides baseline run.summary)
    (policy : RegressionPolicy) :
    ∃ issues critical warning fixed verdict, Count.opposite? issues = some fixed ∧
      Reaches policy critical issues (percentages baseline run.calibration).1
        (percentages baseline run.calibration).2 verdict ∧
      compareWith? baseline run policy =
        some (changeOf baseline run policy issues critical warning verdict) ∧
      CountsExactly baseline run.summary
        (changeOf baseline run policy issues critical warning verdict) := by
  obtain ⟨issues, fixed, issuesKnown, opposite, issuesValue⟩ := same.issues.exists_change?
  obtain ⟨critical, _, criticalKnown, _, criticalValue⟩ := same.critical.exists_change?
  obtain ⟨warning, _, warningKnown, _, warningValue⟩ := same.warning.exists_change?
  obtain ⟨verdict, decided, compared⟩ :=
    exists_compareWith?_of_changes issuesKnown criticalKnown warningKnown opposite policy
  exact ⟨issues, critical, warning, fixed, verdict, opposite, reaches_of_verdict? decided,
    compared, issuesValue, criticalValue, warningValue⟩

/-- A run of moderate counts is compared with any baseline of such counts.  The change says what the
counts differ by and how energy or throughput have changed, the gate fails for the first of three
reasons, and lost throughput that does not fail it is remarked on.  Hardware, method and all else
that is no count and no figure change nothing but how much the comparison is to be trusted. -/
theorem decision_of_moderate (old : baseline.Moderate) (new : run.summary.Moderate)
    (policy : RegressionPolicy) :
    ∃ change, classify? (some baseline) run policy = some change ∧
      CountsExactly baseline run.summary change ∧ Measures baseline run change ∧
        Judges baseline run.summary policy change ∧ RemarksGap policy change ∧
          ∀ baseline' run', SameFigures baseline baseline' run run' →
            classify? (some baseline') run' policy = some (flaggedFor baseline' run' change) := by
  obtain ⟨issues, critical, warning, fixed, verdict, opposite, reaches, compared, exact⟩ :=
    (sameSides_of_moderate old new).exists_reaches policy
  refine ⟨_, compared, exact, measures_changeOf .., judges_changeOf exact opposite reaches,
    remarksGap_changeOf reaches, ?_⟩
  intro baseline' run' same
  rw [classify?, same.compareWith?_eq, compared, Option.map_some]

theorem decision_of_dearer_run :
    Baseline.Moderate { criticalCount := 1, totalIssues := 3, energyPerTflopJoules := 4.0 } ∧
      ∃ change, classify?
          (some { criticalCount := 1, totalIssues := 3, energyPerTflopJoules := 4.0 })
          ⟨"fp", ⟨5, 1, 4⟩, ⟨100.0, 440.0, 4.4, 5.0, .computeBenchmark⟩⟩ {} = some change ∧
        change.issuesDelta.toInt = 2 ∧ change.passed = false ∧ change.reason =
          "❌ Energy efficiency regressed by 10.0% (threshold: 5.0%)." := by
  have old : Baseline.Moderate
      { criticalCount := 1, totalIssues := 3, energyPerTflopJoules := 4.0 } :=
    ⟨by decide, by decide, by decide⟩
  obtain ⟨change, compared, counts, measures, judges, _⟩ :=
    @decision_of_moderate _ ⟨"fp", ⟨5, 1, 4⟩, ⟨100.0, 440.0, 4.4, 5.0, .computeBenchmark⟩⟩ old
      ⟨by decide, by decide, by decide⟩ {}
  have energy : change.energyChangePct = percentChange 4.0 4.4 :=
    measures.energy ⟨by decide, by decide⟩
  have dearer : change.energyChangePct > 5.0 := by
    rw [energy]
    decide
  have noMore : ¬ 0 < change.criticalDelta := by
    have same : change.criticalDelta.toInt = (0 : Int) := counts.critical
    rw [Int64.lt_iff_toInt_lt, same]
    decide
  refine ⟨old, change, compared, counts.issues, judges.failed_iff.mpr (.inr (.inl dearer)), ?_⟩
  rw [judges.energyRegressed noMore dearer, energy]
  decide +kernel

end Regression

end EnergyAudit
