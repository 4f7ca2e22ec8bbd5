import EnergyAudit.Proofs.Calibration.Method
import EnergyAudit.Proofs.CommandLine.Threshold
import EnergyAudit.Proofs.Files.Write

/-! # What a run comes to and what it leaves alone

An audit fails on critical findings, and a comparison also where the gate is not passed.  Neither
hangs on how the report is handed over, nor on whether the run becomes the baseline.  A comparison
is made before anything is written, so that its report is the same if the run becomes the baseline,
and one that does not become the baseline leaves the document of the store as it was. -/

namespace EnergyAudit

/-- The options with another way to hand over the report. -/
def AuditOptions.withReport (options : AuditOptions) (format : ReportFormat)
    (output : Option String) : AuditOptions :=
  { options with format, output }

def CompareOptions.withReport (options : CompareOptions) (format : ReportFormat)
    (output : Option String) : CompareOptions :=
  { options with audit := options.audit.withReport format output }

def CompareOptions.withSave (options : CompareOptions) (save : Bool) : CompareOptions :=
  { options with save }

/-- A report has critical findings if the rules find any in the files, whatever the threshold is. -/
theorem AuditOptions.hasCritical_report_iff {options : AuditOptions} {w : Workspace}
    {settings : AuditSettings} (few : (options.found w settings).length < UInt64.size) :
    (options.report w settings).hasCritical = true ↔
      ∃ finding ∈ options.found w settings, finding.severity = .critical := by
  have all : (options.found w settings).countP (·.severity == .critical) < UInt64.size :=
    Nat.lt_of_le_of_lt List.countP_le_length few
  rw [AuditReport.hasCritical, counts_report, findings_report, Audit.critical_counts_aggregate,
    decide_eq_true_iff, UInt64.lt_iff_toNat_lt, UInt64.toNat_ofNat_of_lt' all]
  simp only [UInt64.toNat_zero, List.countP_pos_iff, beq_iff_eq]

namespace CommandLine

/-! ## Outcomes -/

theorem Outcome.ofAudit_eq_failed_iff {options : AuditOptions} {settings : AuditSettings}
    {report : AuditReport} :
    ofAudit options settings report = .failed ↔
      options.noFail = false ∧ settings.failOnCritical = true ∧ report.hasCritical = true := by
  unfold ofAudit
  cases options.noFail <;> cases settings.failOnCritical <;> cases report.hasCritical <;> decide

theorem Assessment.outcome_eq_failed_iff {assessment : Assessment} {options : AuditOptions}
    {settings : AuditSettings} :
    assessment.outcome options settings = .failed ↔
      options.noFail = false ∧ (assessment.comparison.change.passed = false ∨
        settings.failOnCritical = true ∧ assessment.report.hasCritical = true) := by
  unfold outcome
  cases lenient : options.noFail with
  | true => simp
  | false =>
      cases assessment.comparison.change.passed with
      | false => simp
      | true => simp [Outcome.ofAudit_eq_failed_iff, lenient]

/-! ## Reports that are handed over -/

namespace Run

variable {w : Workspace} {output : Option String} {text : String} {outcome outcome' : Outcome}

/-- At most the file for the report was written. -/
inductive WroteAtMost (w : Workspace) (output : Option String) : Workspace → Prop
  | nothing : WroteAtMost w output w
  | report {path : String} {content : ByteArray} {w' : Workspace} (named : output = some path)
      (written : w.write path content = .ok w') : WroteAtMost w output w'

/-- Every file is read as before, but for the one that the report is written to. -/
theorem WroteAtMost.read_eq {w w' : Workspace} {output : Option String} {path : String}
    (wrote : WroteAtMost w output w')
    (elsewhere : ∀ report, output = some report → ¬ w.SamePlace report path) :
    (w'.read path).toOption = (w.read path).toOption := by
  cases wrote with
  | nothing => rfl
  | report named written => exact Workspace.read_of_write_elsewhere written (elsewhere _ named)

theorem WroteAtMost.entryAt?_eq {w w' : Workspace} {output : Option String} {location : Location}
    (wrote : WroteAtMost w output w')
    (elsewhere : ∀ report, output = some report → w.location? report ≠ some location) :
    w'.tree.entryAt? location = w.tree.entryAt? location := by
  cases wrote with
  | nothing => rfl
  | report named written => exact Workspace.entryAt?_of_write written (elsewhere _ named)

/-- The report of the run, from where it was handed over. -/
def handedOver? (run : Run) : Option String → Option ByteArray
  | none => some run.output.toUTF8
  | some path => (run.workspace.read path).toOption

/-- Whether two runs with the same file for the report come to the same, say the same and hand over
the same. -/
structure SameReport (run : Run) (file : Option String) (run' : Run) : Prop where
  result : run.result = run'.result
  output : run.output = run'.output
  errors : run.errors = run'.errors
  report : ∃ report, run.handedOver? file = some report ∧ run'.handedOver? file = some report

theorem outcome_of_reporting
    (completed : (reporting w output text outcome).result = .ok outcome') : outcome' = outcome := by
  unfold reporting at completed
  cases output with
  | none => exact (Except.ok.inj completed).symm
  | some path =>
      dsimp only at completed
      split at completed
      · exact (Except.ok.inj completed).symm
      · contradiction

theorem wroteAtMost_reporting (w : Workspace) (output : Option String) (text : String)
    (outcome : Outcome) : WroteAtMost w output (reporting w output text outcome).workspace := by
  unfold reporting
  cases output with
  | none => exact .nothing
  | some path =>
      dsimp only
      cases written : w.write path text.toUTF8 with
      | error e => exact .nothing
      | ok w' => exact .report rfl written

/-- What is handed over hangs on nothing in the workspace. -/
theorem handedOver?_reporting
    (completed : (reporting w output text outcome).result = .ok outcome') :
    (reporting w output text outcome).handedOver? output =
      some (if output = none then text ++ "\n" else text).toUTF8 := by
  unfold reporting at completed ⊢
  cases output with
  | none => rfl
  | some path =>
      dsimp only at completed ⊢
      cases written : w.write path text.toUTF8 with
      | error e =>
          rw [written] at completed
          contradiction
      | ok w' => exact Workspace.read_of_write written

theorem output_reporting (completed : (reporting w output text outcome).result = .ok outcome') :
    (reporting w output text outcome).output = if output = none then text ++ "\n" else "" := by
  unfold reporting at completed ⊢
  cases output with
  | none => rfl
  | some path =>
      dsimp only
      split <;> rfl

end Run

/-- A run that exits with one has come to failure. -/
theorem Run.result_of_exitCode {run : Run} (exits : run.exitCode = 1) :
    run.result = .ok .failed := by
  unfold exitCode at exits
  split at exits
  · exact absurd exits (by decide)
  · assumption
  · split at exits
    · exact absurd exits (by decide)
    · exact absurd exits (by decide)

namespace Host

variable {host : Host} {settings chosen : Settings} {options : CompareOptions}
  {assessment : Assessment} {outcome outcome' : Outcome} {w w' : Workspace} {text text' : String}

/-- What stands behind a comparison that comes to an outcome. -/
structure Completes (host : Host) (settings : Settings) (options : CompareOptions)
    (chosen : Settings) (assessment : Assessment) (w : Workspace) (text : String) : Prop where
  applied : options.applyTo settings = .ok chosen
  assessed : host.assess chosen options.audit = .ok assessment
  kept : host.keep (host.store settings.baseline) options assessment = (.ok (), w)
  shown : assessment.text? options.audit.format = some text
  reported : (Run.reporting w options.audit.output text
    (assessment.outcome options.audit settings.audit)).result =
      .ok (assessment.outcome options.audit settings.audit)

theorem exists_text_of_present {options : AuditOptions}
    (completed : (present assessment w settings options).result = .ok outcome) :
    ∃ text, assessment.text? options.format = some text ∧
      (Run.reporting w options.output text (assessment.outcome options settings.audit)).result =
        .ok (assessment.outcome options settings.audit) := by
  cases shown : assessment.text? options.format with
  | none =>
      simp only [present, shown] at completed
      contradiction
  | some text =>
      rw [result_present assessment w settings options shown] at completed
      have same := Run.outcome_of_reporting completed
      subst same
      exact ⟨text, rfl, completed⟩

theorem exists_completes (completed : (host.compare settings options).result = .ok outcome) :
    ∃ chosen assessment w text, host.Completes settings options chosen assessment w text := by
  -- Each step either stops the run, so that it comes to no outcome, or leads to the next one.
  unfold compare at completed
  cases applied : options.applyTo settings with
  | error e =>
      rw [applied] at completed
      contradiction
  | ok chosen =>
      obtain ⟨audit, stores⟩ := CompareOptions.kept_of_applyTo applied
      rw [applied] at completed
      dsimp only at completed
      cases assessed : host.assess chosen options.audit with
      | error failure =>
          rw [assessed] at completed
          contradiction
      | ok assessment =>
          rw [assessed] at completed
          simp only [conclude] at completed
          rw [stores] at completed
          cases kept : host.keep (host.store settings.baseline) options assessment with
          | mk worked w =>
              rw [kept] at completed
              cases worked with
              | error failure => contradiction
              | ok _ =>
                  obtain ⟨text, shown, reported⟩ := exists_text_of_present completed
                  rw [audit] at reported
                  exact ⟨chosen, assessment, w, text, applied, assessed, kept, shown, reported⟩

theorem Completes.compare_eq
    (completes : host.Completes settings options chosen assessment w text) :
    host.compare settings options =
      { Run.reporting w options.audit.output text
          (assessment.outcome options.audit settings.audit) with
        errors := assessment.gateLine } := by
  obtain ⟨applied, assessed, kept, shown, reported⟩ := completes
  obtain ⟨audit, stores⟩ := CompareOptions.kept_of_applyTo applied
  simp only [compare, applied, assessed, conclude, stores, kept, present, shown, audit, reported]

theorem Completes.outcome_eq (completes : host.Completes settings options chosen assessment w text)
    (completed : (host.compare settings options).result = .ok outcome) :
    outcome = assessment.outcome options.audit settings.audit := by
  rw [completes.compare_eq] at completed
  exact Run.outcome_of_reporting completed

/-- The assessment holds the run against the baseline that is stored before it. -/
theorem baseline_of_assess {options : AuditOptions}
    (assessed : host.assess settings options = .ok assessment) :
    assessment.comparison.baseline = (host.store settings.baseline).load? host.workspace
      assessment.hardware.hardwareFingerprint := by
  obtain ⟨calibration, -, assessed⟩ := assess_eq_ok_iff.mp assessed
  obtain ⟨summary, comparison, -, compared, rfl⟩ := assessCalibrated?_eq_some_iff.mp assessed
  exact Regression.baseline_of_compareWithStore? compared

theorem report_of_assess {options : AuditOptions}
    (assessed : host.assess settings options = .ok assessment) :
    assessment.report = options.report host.workspace settings.audit := by
  obtain ⟨calibration, -, assessed⟩ := assess_eq_ok_iff.mp assessed
  obtain ⟨summary, comparison, -, -, rfl⟩ := assessCalibrated?_eq_some_iff.mp assessed
  rfl

/-- How long the calibration took is part of the assessment, and changes nothing else in it. -/
theorem assessCalibrated?_withDuration (host : Host) (settings : Settings) (options : AuditOptions)
    (calibration : CalibrationResult) (duration : Float) :
    host.assessCalibrated? settings options { calibration with durationS := duration } =
      (host.assessCalibrated? settings options calibration).map fun assessment =>
        { assessment with
          calibration := { assessment.calibration with durationS := duration } } := by
  ext assessment
  simp only [Option.map_eq_some_iff, assessCalibrated?_eq_some_iff]
  constructor
  · rintro ⟨summary, comparison, counted, compared, rfl⟩
    exact ⟨_, ⟨summary, comparison, counted, compared, rfl⟩, rfl⟩
  · rintro ⟨_, ⟨summary, comparison, counted, compared, rfl⟩, rfl⟩
    exact ⟨summary, comparison, counted, compared, rfl⟩

/-! ## Choices that do not matter -/

/-- The assessment is the same whether it is kept or not, and however it is handed over. -/
theorem Completes.assessment_eq {save : Bool} {format : ReportFormat} {output : Option String}
    {chosen' : Settings} {assessment' : Assessment}
    (first : host.Completes settings options chosen assessment w text)
    (second : host.Completes settings ((options.withSave save).withReport format output) chosen'
      assessment' w' text') : assessment' = assessment := by
  have applied : options.applyTo settings = .ok chosen' := second.applied
  have assessed : host.assess chosen' options.audit = .ok assessment' := second.assessed
  rw [first.applied] at applied
  cases applied
  rw [first.assessed] at assessed
  exact (Except.ok.inj assessed).symm

/-- A run that prints its report does the same without saving, but for the workspace. -/
theorem Completes.compare_unsaved
    (completes : host.Completes settings options chosen assessment w text)
    (printed : options.audit.output = none) :
    host.compare settings (options.withSave false) =
      { host.compare settings options with workspace := host.workspace } := by
  have printed' : (options.withSave false).audit.output = none := printed
  have unsaved : host.Completes settings (options.withSave false) chosen assessment host.workspace
      text := {
    applied := completes.applied
    assessed := completes.assessed
    kept := rfl
    shown := completes.shown
    reported := by rw [printed']; rfl }
  rw [completes.compare_eq, unsaved.compare_eq, printed, printed']
  rfl

/-- A run says and hands over the same whether it is kept or not. -/
theorem Completes.sameReport {save : Bool} {chosen' : Settings} {assessment' : Assessment}
    (first : host.Completes settings options chosen assessment w text)
    (second : host.Completes settings (options.withSave save) chosen' assessment' w' text') :
    (host.compare settings (options.withSave save)).SameReport options.audit.output
      (host.compare settings options) := by
  have handed : host.Completes settings ((options.withSave save).withReport options.audit.format
    options.audit.output) chosen' assessment' w' text' := second
  have same := first.assessment_eq handed
  subst same
  have shown : assessment'.text? options.audit.format = some text' := second.shown
  rw [first.shown] at shown
  cases shown
  rw [first.compare_eq, second.compare_eq]
  exact {
    result := second.reported.trans first.reported.symm
    output := (Run.output_reporting second.reported).trans
      (Run.output_reporting first.reported).symm
    errors := rfl
    report := ⟨_, Run.handedOver?_reporting second.reported,
      Run.handedOver?_reporting first.reported⟩ }

/-! ## The workspace without saving -/

theorem wroteAtMost_present (assessment : Assessment) (w : Workspace) (settings : Settings)
    (options : AuditOptions) :
    Run.WroteAtMost w options.output (present assessment w settings options).workspace := by
  unfold present
  cases assessment.text? options.format with
  | none => exact .nothing
  | some text =>
      have wrote := Run.wroteAtMost_reporting w options.output text
        (assessment.outcome options settings.audit)
      dsimp only
      split
      · exact wrote
      · exact wrote

/-- A comparison that does not become the baseline writes nothing but its report. -/
theorem wroteAtMost_compare (host : Host) (settings : Settings) (unsaved : options.save = false) :
    Run.WroteAtMost host.workspace options.audit.output
      (host.compare settings options).workspace := by
  unfold compare
  cases options.applyTo settings with
  | error e => exact .nothing
  | ok chosen =>
      dsimp only
      cases host.assess chosen options.audit with
      | error failure => exact .nothing
      | ok assessment =>
          simp only [conclude, keep, unsaved, Bool.false_eq_true, if_false]
          exact wroteAtMost_present assessment host.workspace chosen options.audit

/-- What runs come to.  An audit fails if critical findings are to make it fail, and a comparison if
it does not pass the gate as well, unless nothing is to make them fail; the choices of where the
report goes, and of saving, have no part in this.  A comparison is made with the store as it was
before the run, so that the run hands over the same with saving and without.  Without saving the
document is read as before, if the report does not take its place. -/
theorem outcome_and_effects (host : Host) (settings : Settings) :
    (∀ options : AuditOptions,
      (options.found host.workspace settings.audit).length < UInt64.size →
      ((options.report host.workspace settings.audit).hasCritical = true ↔
        ∃ finding ∈ options.found host.workspace settings.audit, finding.severity = .critical)) ∧
    (∀ (options : AuditOptions) (outcome : Outcome),
      (host.audit settings options).result = .ok outcome →
      (outcome = .failed ↔ options.noFail = false ∧ settings.audit.failOnCritical = true ∧
        (options.report host.workspace settings.audit).hasCritical = true) ∧
      ∀ format output outcome',
        (host.audit settings (options.withReport format output)).result = .ok outcome' →
          outcome' = outcome) ∧
    (∀ (options : CompareOptions) (outcome : Outcome),
      (host.compare settings options).result = .ok outcome →
      (∃ chosen assessment, options.applyTo settings = .ok chosen ∧
        host.assess chosen options.audit = .ok assessment ∧
        assessment.comparison.baseline = (host.store settings.baseline).load? host.workspace
          assessment.hardware.hardwareFingerprint ∧
        (outcome = .failed ↔ options.audit.noFail = false ∧
          (assessment.comparison.change.passed = false ∨ settings.audit.failOnCritical = true ∧
            (options.audit.report host.workspace settings.audit).hasCritical = true))) ∧
      ∀ save format output outcome',
        (host.compare settings ((options.withSave save).withReport format output)).result =
          .ok outcome' → outcome' = outcome) ∧
    (∀ (options : CompareOptions) (outcome : Outcome),
      (host.compare settings (options.withSave true)).result = .ok outcome →
      (options.audit.output = none → host.compare settings (options.withSave false) =
        { host.compare settings (options.withSave true) with workspace := host.workspace }) ∧
      ∀ outcome', (host.compare settings (options.withSave false)).result = .ok outcome' →
        (host.compare settings (options.withSave false)).SameReport options.audit.output
          (host.compare settings (options.withSave true))) ∧
    (∀ (options : AuditOptions) (calibration : CalibrationResult) (duration : Float),
      host.assessCalibrated? settings options { calibration with durationS := duration } =
        (host.assessCalibrated? settings options calibration).map fun assessment =>
          { assessment with
            calibration := { assessment.calibration with durationS := duration } }) ∧
    ∀ options : CompareOptions, options.save = false →
      (∀ location, (∀ report, options.audit.output = some report →
          host.workspace.location? report ≠ some location) →
        (host.compare settings options).workspace.tree.entryAt? location =
          host.workspace.tree.entryAt? location) ∧
      ((∀ report, options.audit.output = some report →
          ¬ host.workspace.SamePlace report (host.store settings.baseline).path) →
        ((host.compare settings options).workspace.read
            (host.store settings.baseline).path).toOption =
          (host.workspace.read (host.store settings.baseline).path).toOption) := by
  refine ⟨fun options => options.hasCritical_report_iff, ?_, ?_, ?_, ?_, ?_⟩
  · intro options outcome completed
    have known : outcome = _ := Run.outcome_of_reporting completed
    refine ⟨known ▸ Outcome.ofAudit_eq_failed_iff, ?_⟩
    intro format output outcome' completed'
    exact (Run.outcome_of_reporting completed').trans known.symm
  · intro options outcome completed
    obtain ⟨chosen, assessment, w, text, completes⟩ := exists_completes completed
    obtain ⟨audit, stores⟩ := CompareOptions.kept_of_applyTo completes.applied
    have known := completes.outcome_eq completed
    refine ⟨⟨chosen, assessment, completes.applied, completes.assessed, ?_, ?_⟩, ?_⟩
    · rw [baseline_of_assess completes.assessed, stores]
    · rw [known, Assessment.outcome_eq_failed_iff, report_of_assess completes.assessed, audit]
    · intro save format output outcome' completed'
      obtain ⟨chosen', assessment', w', text', completes'⟩ := exists_completes completed'
      have same := completes.assessment_eq completes'
      rw [completes'.outcome_eq completed', known, same]
      rfl
  · intro options outcome completed
    obtain ⟨chosen, assessment, w, text, completes⟩ := exists_completes completed
    refine ⟨?_, ?_⟩
    · intro printed
      exact completes.compare_unsaved printed
    · intro outcome' completed'
      obtain ⟨chosen', assessment', w', text', completes'⟩ := exists_completes completed'
      exact completes.sameReport completes'
  · exact host.assessCalibrated?_withDuration settings
  · intro options unsaved
    have wrote := host.wroteAtMost_compare settings unsaved
    exact ⟨fun location => wrote.entryAt?_eq, wrote.read_eq⟩

/-- A comparison with settings and a calibration that are known. -/
theorem compare_eq_of_calibration {calibration : CalibrationResult}
    (applied : options.applyTo settings = .ok chosen)
    (calibrated : host.calibration chosen.calibration = some calibration) :
    host.compare settings options =
      match host.assessCalibrated? chosen options.audit calibration with
      | none => .stopped .countOverflow host.workspace
      | some assessment => host.conclude chosen options assessment := by
  simp only [compare, applied, assess, calibrated]
  cases host.assessCalibrated? chosen options.audit calibration <;> rfl

/-- The power draw is read twice in three seconds of a clock that a look takes a second at. -/
theorem calibration_regressed :
    regressed.calibration {} =
      some (PowerSampling.finish (regressed.surroundings {}) ⟨0⟩ [250.5, 250.5]
        ⟨4, ⟨400000000⟩, 5⟩).1 := by
  have gpu : (regressed.hardware {}).hasGpu = true := by decide +kernel
  have known : ({} : CalibrationSettings).powerSamplingDuration? =
      some ⟨3 * Duration.perSecond⟩ := by decide +kernel
  have questions : (regressed.detection {}).asked.length = 3 := by decide +kernel
  have begins : regressed.start {} = ⟨0, ⟨0⟩, 3⟩ := congrArg (Moment.mk 0 ⟨0⟩) questions
  have draws (moment : Moment) : (regressed.surroundings {}).power moment =
      (some 250.5, { moment with commands := moment.commands + 1 }) := by
    have watts : regressed.machine.power 0 (limits {}) = some 250.5 := by decide +kernel
    have time : (regressed.machine.powerTime 0 (limits {})).nanoseconds = 0 := by decide +kernel
    have later := congrArg (fun span =>
      Moment.mk moment.looks ⟨moment.spent.nanoseconds + span⟩ (moment.commands + 1)) time
    exact Prod.ext watts later
  have reads : PowerSampling.Reads (regressed.surroundings {}) ⟨0⟩ ⟨3 * Duration.perSecond⟩
      ({} : CalibrationSettings).samplingInterval ⟨1, ⟨0⟩, 3⟩ [250.5, 250.5]
      ⟨4, ⟨400000000⟩, 5⟩ :=
    .turn (by decide) (draws _) (.turn (by decide) (draws _) (.ended (by decide)))
  have sampled : PowerSampling.run (regressed.surroundings {}) {} ⟨0, ⟨0⟩, 3⟩ =
      some (PowerSampling.finish (regressed.surroundings {}) ⟨0⟩ [250.5, 250.5]
        ⟨4, ⟨400000000⟩, 5⟩) :=
    @PowerSampling.Reads.run_eq _ (regressed.surroundings {}) {} ⟨0, ⟨0⟩, 3⟩ _ _ _ known reads
  have power : (PowerSampling.finish (regressed.surroundings {}) ⟨0⟩ [250.5, 250.5]
      ⟨4, ⟨400000000⟩, 5⟩).1.hasPower = true := by decide +kernel
  rw [calibration, begins]
  exact result_of_sampled rfl gpu sampled power

/-- Hands the report over in a file. -/
def toFile : CompareOptions := { audit := { output := some "report.md" } }

theorem effects_of_regressed :
    (∃ finding ∈ ({} : AuditOptions).found regressed.workspace {}, finding.severity = .critical) ∧
      (({} : AuditOptions).report regressed.workspace {}).hasCritical = true ∧
      (∃ chosen assessment, toFile.applyTo {} = .ok chosen ∧
        regressed.assess chosen toFile.audit = .ok assessment ∧
        (assessment.comparison.change.passed = false ∨
          (toFile.audit.report regressed.workspace {}).hasCritical = true)) ∧
      (regressed.compare {} (toFile.withSave false)).SameReport (some "report.md")
        (regressed.compare {} (toFile.withSave true)) ∧
      ((regressed.compare {} toFile).workspace.read
        (regressed.store {}).path).toOption = some "{}".toUTF8 := by
  obtain ⟨critical, audits, compares, saves, -, effects⟩ := outcome_and_effects regressed {}
  have audited : (regressed.audit {} {}).result = .ok .failed :=
    Run.result_of_exitCode (by decide +kernel)
  have applied : toFile.applyTo {} = .ok {} := rfl
  have applied' : (toFile.withSave true).applyTo {} = .ok {} := rfl
  have compared : (regressed.compare {} toFile).result = .ok .failed := by
    rw [compare_eq_of_calibration applied calibration_regressed]
    exact Run.result_of_exitCode (by decide +kernel)
  have kept : (regressed.compare {} (toFile.withSave true)).result = .ok .failed := by
    rw [compare_eq_of_calibration applied' calibration_regressed]
    exact Run.result_of_exitCode (by decide +kernel)
  obtain ⟨⟨-, -, found⟩, -⟩ := And.imp_left (·.mp rfl) (audits {} .failed audited)
  obtain ⟨⟨chosen, assessment, applied, assessed, -, fails⟩, -⟩ :=
    compares toFile .failed compared
  refine ⟨(critical {} (by decide +kernel)).mp found, found,
    ⟨chosen, assessment, applied, assessed, (fails.mp rfl).2.imp_right (·.2)⟩,
    (saves toFile .failed kept).2 .failed compared, ?_⟩
  have elsewhere : ∀ report, toFile.audit.output = some report →
      ¬ regressed.workspace.SamePlace report (regressed.store {}).path := by
    rintro report named ⟨location, leads, leads'⟩
    cases named
    have different : regressed.workspace.location? "report.md" ≠
        regressed.workspace.location? (regressed.store {}).path := by decide +kernel
    exact different (leads.trans leads'.symm)
  rw [(effects toFile rfl).2 elsewhere]
  decide +kernel

end Host

end CommandLine

end EnergyAudit
