import EnergyAudit.CommandLine.Compare
import EnergyAudit.Proofs.Audit.Counts
import EnergyAudit.Proofs.Regression.Gate
import EnergyAudit.Proofs.Settings.Validation

/-! # What decides a comparison

There is no device to compute with, so that neither throughput nor energy is ever measured.  A
comparison with the baseline is decided by the critical findings alone, whatever the tools of the
machine answer and whatever the tolerance is. -/

namespace EnergyAudit

/-- The choices of the command line leave no settings that make no sense. -/
theorem CompareOptions.valid_of_applyTo {options : CompareOptions} {settings chosen : Settings}
    (valid : settings.firstInvalid? = none) (applied : options.applyTo settings = .ok chosen) :
    chosen.firstInvalid? = none := by
  unfold applyTo at applied
  split at applied
  · cases applied
    exact valid
  · obtain ⟨valid, rfl⟩ := Settings.validate_eq_ok.mp applied
    exact valid

theorem AuditOptions.counts_report (options : AuditOptions) (w : Workspace)
    (settings : AuditSettings) :
    (options.report w settings).counts = Audit.counts (options.report w settings).findings := rfl

namespace CommandLine

/-- Whether the gate looked at nothing but the critical findings of the audit. -/
abbrev Assessment.DecidedByCritical (assessment : Assessment) : Prop :=
  Regression.CriticalAlone assessment.report.counts.critical assessment.comparison

namespace Host

variable {host : Host} {settings chosen : Settings}

/-- An assessment puts together what was found out, if the gate can compare it. -/
theorem assessCalibrated?_eq_some_iff {options : AuditOptions} {calibration : CalibrationResult}
    {assessment : Assessment} :
    host.assessCalibrated? settings options calibration = some assessment ↔
      ∃ summary comparison,
        RunSummary.ofCounts? (options.report host.workspace settings.audit).counts =
          some summary ∧
        Regression.compareWithStore? (host.store settings.baseline) host.workspace
          ⟨(host.hardware settings.calibration).hardwareFingerprint, summary, calibration⟩
          ⟨settings.baseline.regressionThresholdPct, settings.baseline.gateOnThroughput⟩ =
            some comparison ∧
        ⟨options.report host.workspace settings.audit, host.hardware settings.calibration,
          calibration, comparison⟩ = assessment := by
  simp only [assessCalibrated?, Option.bind_eq_bind, Option.bind_eq_some_iff, Option.pure_def,
    Option.some.injEq, exists_and_left]

/-- An assessment is one with the calibration of the host. -/
theorem assess_eq_ok_iff {options : AuditOptions} {assessment : Assessment} :
    host.assess settings options = .ok assessment ↔
      ∃ calibration, host.calibration settings.calibration = some calibration ∧
        host.assessCalibrated? settings options calibration = some assessment := by
  unfold assess
  cases host.calibration settings.calibration with
  | none => simp
  | some calibration =>
      simp only [Option.some.injEq, exists_eq_left']
      cases host.assessCalibrated? settings options calibration <;> simp

/-- An assessment with a calibration that measured nothing is decided by the critical findings. -/
theorem exists_assessCalibrated? {options : AuditOptions} {calibration : CalibrationResult}
    (valid : settings.firstInvalid? = none) (unmeasured : calibration.WithoutThroughput)
    (stored : ((host.store settings.baseline).readable host.workspace).Moderate)
    (few : (options.report host.workspace settings.audit).findings.length < Count.signedBound) :
    ∃ assessment, host.assessCalibrated? settings options calibration = some assessment ∧
      assessment.DecidedByCritical := by
  obtain ⟨summary, counted, moderate⟩ := Audit.exists_summary few
  obtain ⟨comparison, compared⟩ := Regression.exists_comparison
    ⟨(host.hardware settings.calibration).hardwareFingerprint, summary, calibration⟩
    ⟨settings.baseline.regressionThresholdPct, settings.baseline.gateOnThroughput⟩ stored moderate
  have alone := Regression.criticalAlone_of_compareWithStore? compared unmeasured
    (Settings.sensible_of_valid valid).tolerance stored moderate
  refine ⟨_, assessCalibrated?_eq_some_iff.mpr ⟨summary, comparison, counted, compared, rfl⟩, ?_⟩
  rw [Assessment.DecidedByCritical, AuditOptions.counts_report,
    ← RunSummary.criticalCount_of_ofCounts? counted]
  exact alone

/-- The host has no device to compute with. -/
theorem withoutThroughput_calibration {calibration : CalibrationResult}
    (found : host.calibration settings.calibration = some calibration) :
    calibration.WithoutThroughput := by
  obtain ⟨outcome, calibrated, rfl⟩ := Option.map_eq_some_iff.mp found
  have absent : (host.surroundings settings.calibration).runtime = .absent Moment := rfl
  exact withoutThroughput_calibrate absent calibrated

/-- Time passes on every host. -/
theorem timePasses_surroundings (host : Host) (settings : CalibrationSettings) :
    (host.surroundings settings).TimePasses := by
  refine @Surroundings.timePasses_of_looks _ (host.surroundings settings) Moment.looks
    (fun moment => Nat.lt_succ_self moment.looks) ?_ ?_
  · intro moment after act
    cases act <;> exact Nat.le_refl _
  · intro deadline
    obtain ⟨enough, late⟩ := host.clock.reaches ⟨deadline⟩
    exact ⟨enough, fun moment => late moment.looks moment.spent⟩

theorem calibration_isSome_iff (host : Host) (settings : CalibrationSettings) :
    (host.calibration settings).isSome = true ↔
      ((host.hardware settings).hasGpu = true →
        settings.powerSamplingDuration?.isSome = true) := by
  have absent : (host.surroundings settings).runtime = .absent Moment := rfl
  rw [calibration, Option.isSome_map]
  exact calibrate_isSome_iff (host.timePasses_surroundings settings) absent (host.hardware settings)

/-- The comparison with the baseline is decided by the critical findings alone.  This holds for
every clock and every power probe, as long as there is no device to compute with, and so for the
machine of the host.  That one is assessed unless it has a graphics processor whose power draw would
have to be read for a time that is no duration. -/
theorem decidedByCritical_of_assess {options : CompareOptions}
    (valid : settings.firstInvalid? = none) (applied : options.applyTo settings = .ok chosen)
    (stored : ((host.store chosen.baseline).readable host.workspace).Moderate)
    (few : (options.audit.report host.workspace chosen.audit).findings.length <
      Count.signedBound) :
    (∀ (σ : Type) (s : Surroundings σ) (state : σ) (outcome : Benchmark.Outcome σ),
      s.runtime = .absent σ →
      EnergyAudit.calibrate s (host.hardware chosen.calibration) chosen.calibration state =
        some outcome →
      ∃ assessment, host.assessCalibrated? chosen options.audit outcome.result = some assessment ∧
        assessment.DecidedByCritical) ∧
    (∀ assessment, host.assess chosen options.audit = .ok assessment →
      assessment.DecidedByCritical) ∧
    ((∃ assessment, host.assess chosen options.audit = .ok assessment) ↔
      ((host.hardware chosen.calibration).hasGpu = true →
        chosen.calibration.powerSamplingDuration?.isSome = true)) := by
  have valid := CompareOptions.valid_of_applyTo valid applied
  have assessed {calibration : CalibrationResult} (unmeasured : calibration.WithoutThroughput) :=
    exists_assessCalibrated? valid unmeasured stored few
  refine ⟨?_, ?_, ?_⟩
  · intro σ s state outcome absent calibrated
    exact assessed (withoutThroughput_calibrate absent calibrated)
  · intro assessment ok
    obtain ⟨calibration, found, ok⟩ := assess_eq_ok_iff.mp ok
    obtain ⟨decided, same, alone⟩ := assessed (withoutThroughput_calibration found)
    cases same.symm.trans ok
    exact alone
  · rw [← host.calibration_isSome_iff, Option.isSome_iff_exists]
    constructor
    · rintro ⟨assessment, ok⟩
      obtain ⟨calibration, found, -⟩ := assess_eq_ok_iff.mp ok
      exact ⟨calibration, found⟩
    · rintro ⟨calibration, found⟩
      obtain ⟨decided, same, -⟩ := assessed (withoutThroughput_calibration found)
      exact ⟨decided, assess_eq_ok_iff.mpr ⟨calibration, found, same⟩⟩

/-- A machine that tells its model and its power draw, with a critical finding in a file and a
baseline that has none. -/
def regressed : Host where
  workspace := ⟨⟨[(["a.py"], .file "load_in_8bit=True".toUTF8), ([".ecocompute"], .directory),
    ([".ecocompute", "baseline.json"], .file "{}".toUTF8)]⟩, []⟩
  machine := ⟨fun _ command =>
    if command = Machine.queryCommand then
      .started ⟨"NVIDIA A800, 535.1, 81920, 1\n".toUTF8.toList, .exited 0, ⟨0⟩⟩
    else if command = Machine.powerCommand then
      .started ⟨"250.5\n".toUTF8.toList, .exited 0, ⟨0⟩⟩
    else .refused .noSuchFile⟩
  clock := .ticking ⟨Duration.perSecond⟩ (by decide)
  seconds := 1738324800

theorem failed_of_regressed :
    (regressed.hardware {}).hasGpu = true ∧
      ∃ assessment, regressed.assess {} {} = .ok assessment ∧ assessment.DecidedByCritical ∧
        assessment.comparison.change.passed = false := by
  obtain ⟨-, decided, possible⟩ := @decidedByCritical_of_assess regressed {} {} {}
    (by decide +kernel) rfl (by decide +kernel) (by decide +kernel)
  obtain ⟨assessment, ok⟩ := possible.mpr fun _ => by decide +kernel
  have alone := decided assessment ok
  refine ⟨by decide +kernel, assessment, ok, alone, alone.failed_iff.mpr ?_⟩
  obtain ⟨calibration, -, ok⟩ := assess_eq_ok_iff.mp ok
  obtain ⟨summary, comparison, -, compared, rfl⟩ := assessCalibrated?_eq_some_iff.mp ok
  have loaded : ((regressed.store {}).load? regressed.workspace
      (regressed.hardware {}).hardwareFingerprint).map (·.criticalCount) = some 0 := by
    decide +kernel
  obtain ⟨baseline, loaded, none⟩ := Option.map_eq_some_iff.mp loaded
  refine ⟨baseline, (Regression.baseline_of_compareWithStore? compared).trans loaded, ?_⟩
  have one : (({} : AuditOptions).report regressed.workspace {}).counts.critical = 1 := by
    decide +kernel
  rw [none, one]
  decide

end Host

end CommandLine

end EnergyAudit
