import EnergyAudit.CommandLine.Program
import EnergyAudit.Proofs.Audit.SourceFile
import EnergyAudit.Proofs.Baseline.Save
import EnergyAudit.Proofs.CommandLine.Gate
import EnergyAudit.Proofs.Files.Outline

/-! # The threshold of severities

The threshold says which findings a report shows.  Critical findings pass every threshold, and
nothing else decides what a run comes to: audits and comparisons end alike under all thresholds,
unless a count is beyond the signed numbers of 64 bits. -/

namespace EnergyAudit

/-- The settings with another threshold. -/
def Settings.withThreshold (settings : Settings) (threshold : Severity) : Settings :=
  { settings with audit := { settings.audit with severityThreshold := threshold } }

/-- The options with another threshold, or with that of the settings. -/
def AuditOptions.withSeverity (options : AuditOptions) (severity : Option Severity) :
    AuditOptions :=
  { options with severity }

def CompareOptions.withSeverity (options : CompareOptions) (severity : Option Severity) :
    CompareOptions :=
  { options with audit := options.audit.withSeverity severity }

variable {settings : Settings} {threshold : Severity} {severity : Option Severity}

/-! ## Reports -/

namespace AuditOptions

/-- The threshold that counts: that of the command line before that of the settings. -/
def effectiveThreshold (options : AuditOptions) (settings : AuditSettings) : Severity :=
  (options.applyTo settings).severityThreshold

/-- What the rules find in the files below the paths, before any threshold. -/
def found (options : AuditOptions) (w : Workspace) (settings : AuditSettings) : List Finding :=
  let files := Audit.discover w ⟨settings.extensions, (options.applyTo settings).maxFiles.toNat⟩
    options.paths
  (files.map (Audit.textFile w)).flatMap fun file => (Audit.auditFile Rule.all file).findings

theorem findings_report (options : AuditOptions) (w : Workspace) (settings : AuditSettings) :
    (options.report w settings).findings =
      Audit.aggregate (options.found w settings) (options.effectiveThreshold settings) := by
  simp only [report, found, Audit.run_eq, AuditReport.ofFiles, List.flatMap_map]
  rfl

/-- A stricter threshold leaves out the findings that do not meet it, and moves none. -/
theorem findings_of_stricter {options : AuditOptions} {w : Workspace}
    (stricter : (options.effectiveThreshold settings.audit).rank ≤
      ((options.withSeverity severity).effectiveThreshold
        (settings.withThreshold threshold).audit).rank) :
    ((options.withSeverity severity).report w (settings.withThreshold threshold).audit).findings =
      (options.report w settings.audit).findings.filter (·.severity.meets
        ((options.withSeverity severity).effectiveThreshold
          (settings.withThreshold threshold).audit)) := by
  rw [findings_report, findings_report]
  exact Audit.aggregate_of_stricter stricter (options.found w settings.audit)

theorem critical_report (options : AuditOptions) (w : Workspace) (settings : Settings)
    (threshold : Severity) (severity : Option Severity) :
    ((options.withSeverity severity).report w
        (settings.withThreshold threshold).audit).counts.critical =
      (options.report w settings.audit).counts.critical := by
  rw [counts_report, counts_report, findings_report, findings_report,
    Audit.critical_counts_aggregate, Audit.critical_counts_aggregate]
  rfl

theorem length_findings_report_le (options : AuditOptions) (w : Workspace)
    (settings : AuditSettings) :
    (options.report w settings).findings.length ≤ (options.found w settings).length := by
  rw [findings_report, Audit.aggregate, List.length_mergeSort]
  exact List.length_filter_le ..

end AuditOptions

/-- The threshold of severities is no part of what makes settings valid. -/
theorem Settings.validate_withThreshold (settings : Settings) (threshold : Severity) :
    (settings.withThreshold threshold).validate =
      settings.validate.map (·.withThreshold threshold) := by
  have complaint : (settings.withThreshold threshold).firstInvalid? = settings.firstInvalid? := rfl
  unfold validate
  rw [complaint]
  cases settings.firstInvalid? <;> rfl

theorem CompareOptions.applyTo_withThreshold (options : CompareOptions) (settings : Settings)
    (threshold : Severity) (severity : Option Severity) :
    (options.withSeverity severity).applyTo (settings.withThreshold threshold) =
      (options.applyTo settings).map (·.withThreshold threshold) := by
  cases chosen : options.threshold with
  | none =>
      simp only [applyTo, withSeverity, chosen]
      rfl
  | some tolerance =>
      simp only [applyTo, withSeverity, chosen]
      exact Settings.validate_withThreshold { settings with
        baseline := { settings.baseline with regressionThresholdPct := tolerance } } threshold

/-- A tolerance on the command line changes neither what is audited nor where baselines are. -/
theorem CompareOptions.kept_of_applyTo {options : CompareOptions} {settings chosen : Settings}
    (applied : options.applyTo settings = .ok chosen) :
    chosen.audit = settings.audit ∧
      ∀ host : CommandLine.Host, host.store chosen.baseline = host.store settings.baseline := by
  unfold applyTo at applied
  split at applied
  · cases applied
    exact ⟨rfl, fun _ => rfl⟩
  · obtain ⟨-, rfl⟩ := Settings.validate_eq_ok.mp applied
    exact ⟨rfl, fun _ => rfl⟩

/-- Where one baseline can be saved, every other one can, and the workspaces after it differ only in
the document. -/
theorem BaselineStore.save_of_save {store : BaselineStore} {faults : Faults} {w : Workspace}
    {first : Baseline} {key : String} (saved : (store.save faults w first).result = .ok key)
    (second : Baseline) :
    (store.save faults w second).result = .ok second.key ∧
      ((store.save faults w first).final w).SameOutline
        ((store.save faults w second).final w) := by
  -- What a save asks of the workspace does not speak of the baseline.
  obtain ⟨-, calm, w', place, opens⟩ := exists_opens_of_save saved
  obtain ⟨-, final⟩ := opens.save calm first
  obtain ⟨saved', final'⟩ := opens.save calm second
  rw [final, final']
  exact ⟨saved', Tree.sameOutline_put_file w'.tree place.location _ _, rfl⟩

/-- Whether a file can be put at the path, and why not, does not hang on what it holds. -/
theorem Workspace.map_replaceFile (w : Workspace) (path : String) (content content' : ByteArray) :
    (w.replaceFile path content).map (fun _ => ()) =
      (w.replaceFile path content').map (fun _ => ()) := by
  unfold replaceFile
  cases w.tree.locate w.directory false path with
  | error e => rfl
  | ok place => rcases place with ⟨location, content | target | _⟩ | location <;> rfl

namespace BaselineStore

theorem map_writeDocument (store : BaselineStore) (faults : Faults) (w : Workspace)
    (key text key' text' : String) :
    (store.writeDocument faults w key text).result.map (fun _ => ()) =
      (store.writeDocument faults w key' text').result.map (fun _ => ()) := by
  by_cases there : ∃ location, w.locate store.directory = .ok (.present location .directory)
  · obtain ⟨location, found⟩ := there
    have replaced := w.map_replaceFile store.path (text ++ "\n").toUTF8 (text' ++ "\n").toUTF8
    rw [writeDocument_eq found, writeDocument_eq found, fill_worked, fill_worked]
    generalize (!faults .openTemporary && !faults .writeText && !faults .writeNewline &&
      !faults .sync) = worked
    cases worked
    · rfl
    · cases faults .replace
      · revert replaced
        cases w.replaceFile store.path (text ++ "\n").toUTF8 <;>
          cases w.replaceFile store.path (text' ++ "\n").toUTF8 <;> intro replaced
        · rw [Except.error.inj replaced]
          rfl
        · exact nomatch replaced
        · exact nomatch replaced
        · rfl
      · rfl
  · unfold writeDocument
    cases found : w.locate store.directory with
    | error e => rfl
    | ok place =>
        rcases place with ⟨location, content | target | _⟩ | location
        · rfl
        · rfl
        · exact absurd ⟨location, found⟩ there
        · rfl

/-- Whether a baseline can be saved, and why not, does not hang on the baseline. -/
theorem map_save (store : BaselineStore) (faults : Faults) (w : Workspace)
    (first second : Baseline) :
    (store.save faults w first).result.map (fun _ => ()) =
      (store.save faults w second).result.map (fun _ => ()) := by
  unfold save
  split
  · rfl
  · rcases w.makeDirectories store.directory with ⟨w', _ | e⟩
    · dsimp only
      exact store.map_writeDocument faults w' _ _ _ _
    · rfl

end BaselineStore

namespace CommandLine

theorem Outcome.ofAudit_withThreshold (options : AuditOptions) (settings : Settings)
    (threshold : Severity) (severity : Option Severity) {report report' : AuditReport}
    (critical : report.counts.critical = report'.counts.critical) :
    Outcome.ofAudit (options.withSeverity severity) (settings.withThreshold threshold).audit
      report' = Outcome.ofAudit options settings.audit report := by
  simp only [Outcome.ofAudit, AuditReport.hasCritical, critical]
  rfl

/-- What a run that hands over a report comes to does not hang on the report. -/
theorem result_reporting {w w' : Workspace} (same : w.SameOutline w') (output : Option String)
    (text text' : String) (outcome : Outcome) :
    (Run.reporting w output text outcome).result =
      (Run.reporting w' output text' outcome).result := by
  cases output with
  | none => rfl
  | some path =>
      have written := same.write path text.toUTF8 text'.toUTF8
      simp only [Run.reporting]
      cases first : w.write path text.toUTF8 <;> cases second : w'.write path text'.toUTF8 <;>
        simp_all [Except.map, Run.stopped]

/-! ## Attempts that agree -/

/-- Whether two attempts, unless a count is too great for one of them, are stopped alike or come to
results that are related. -/
inductive Agree {α : Type} (related : α → α → Prop) :
    Except Failure α → Except Failure α → Prop where
  | overflow (second : Except Failure α) : Agree related (.error .countOverflow) second
  | overflow' (first : Except Failure α) : Agree related first (.error .countOverflow)
  | stopped (failure : Failure) : Agree related (.error failure) (.error failure)
  | related {a b : α} : related a b → Agree related (.ok a) (.ok b)

theorem Agree.refl {α : Type} (result : Except Failure α) : Agree Eq result result := by
  cases result with
  | error failure => exact .stopped failure
  | ok a => exact .related rfl

theorem Agree.eq {α : Type} {first second : Except Failure α} (agree : Agree Eq first second)
    (noOverflow : first ≠ .error .countOverflow) (noOverflow' : second ≠ .error .countOverflow) :
    first = second := by
  cases agree with
  | overflow => exact absurd rfl noOverflow
  | overflow' => exact absurd rfl noOverflow'
  | stopped => rfl
  | related same => rw [same]

namespace Assessment

/-- Whether two assessments differ at most in the findings that are not critical. -/
structure Alike (a b : Assessment) : Prop where
  verdict : Regression.SameVerdict a.comparison.change b.comparison.change
  baseline : a.comparison.baseline = b.comparison.baseline
  critical : a.report.counts.critical = b.report.counts.critical
  hardware : a.hardware = b.hardware
  calibration : a.calibration = b.calibration

variable {a b : Assessment}

theorem Alike.outcome (alike : Alike a b) (options : AuditOptions) (settings : Settings)
    (threshold : Severity) (severity : Option Severity) :
    b.outcome (options.withSeverity severity) (settings.withThreshold threshold).audit =
      a.outcome options settings.audit := by
  have audits := Outcome.ofAudit_withThreshold options settings threshold severity alike.critical
  simp only [Assessment.outcome, alike.verdict.passed, audits]
  rfl

theorem Alike.criticalCount (alike : Alike a b) {origin : RunOrigin} {saved saved' : Baseline}
    (first : a.baseline? origin = some saved) (second : b.baseline? origin = some saved') :
    saved.criticalCount = saved'.criticalCount := by
  obtain ⟨_, -, rfl⟩ := Option.map_eq_some_iff.mp first
  obtain ⟨_, -, rfl⟩ := Option.map_eq_some_iff.mp second
  exact alike.critical

/-- Whether no count of the assessment is too great to be shown or kept. -/
structure Sayable (assessment : Assessment) : Prop where
  shown : ∃ text,
    assessment.comparison.change.markdown? assessment.comparison.baseline = some text
  kept : ∀ origin, ∃ saved, assessment.baseline? origin = some saved

end Assessment

namespace Host

variable {host : Host} {a b : Assessment}

/-! ## Comparisons -/

theorem alike_of_assessCalibrated? {options : AuditOptions} {calibration : CalibrationResult}
    (first : host.assessCalibrated? settings options calibration = some a)
    (second : host.assessCalibrated? (settings.withThreshold threshold)
      (options.withSeverity severity) calibration = some b) : a.Alike b := by
  obtain ⟨summary, comparison, counted, compared, rfl⟩ := assessCalibrated?_eq_some_iff.mp first
  obtain ⟨summary', comparison', counted', compared', rfl⟩ :=
    assessCalibrated?_eq_some_iff.mp second
  have critical := options.critical_report host.workspace settings threshold severity
  have alike : Regression.AlikeButCritical
      ⟨(host.hardware settings.calibration).hardwareFingerprint, summary, calibration⟩
      ⟨(host.hardware settings.calibration).hardwareFingerprint, summary', calibration⟩ := {
    fingerprint := rfl
    calibration := rfl
    critical := by
      rw [RunSummary.criticalCount_of_ofCounts? counted,
        RunSummary.criticalCount_of_ofCounts? counted', critical] }
  obtain ⟨baseline, verdict⟩ :=
    Regression.sameVerdict_of_compareWithStore? alike compared compared'
  exact ⟨verdict, baseline, critical.symm, rfl, rfl⟩

theorem agree_assess (host : Host) (settings : Settings) (options : AuditOptions)
    (threshold : Severity) (severity : Option Severity) :
    Agree Assessment.Alike (host.assess settings options)
      (host.assess (settings.withThreshold threshold) (options.withSeverity severity)) := by
  unfold assess
  have calibrations : host.calibration (settings.withThreshold threshold).calibration =
      host.calibration settings.calibration := rfl
  rw [calibrations]
  cases host.calibration settings.calibration with
  | none => exact .stopped _
  | some calibration =>
      dsimp only
      cases first : host.assessCalibrated? settings options calibration with
      | none => exact .overflow _
      | some a =>
          cases second : host.assessCalibrated? (settings.withThreshold threshold)
              (options.withSeverity severity) calibration with
          | none => exact .overflow' _
          | some b => exact .related (alike_of_assessCalibrated? first second)

/-- All assessments are kept alike. -/
theorem agree_keep (host : Host) (store : BaselineStore) (options : CompareOptions)
    (a b : Assessment) :
    Agree (fun _ _ => (host.keep store options a).2.SameOutline (host.keep store options b).2)
      (host.keep store options a).1 (host.keep store options b).1 := by
  unfold keep
  split
  · cases first : a.baseline? ⟨options.commit, options.branch, host.timestamp⟩ with
    | none => exact .overflow _
    | some baseline =>
        cases second : b.baseline? ⟨options.commit, options.branch, host.timestamp⟩ with
        | none => exact .overflow' _
        | some baseline' =>
            have both := store.map_save .none host.workspace baseline baseline'
            dsimp only
            cases saved : (store.save .none host.workspace baseline).result with
            | ok key =>
                obtain ⟨saved', same⟩ := BaselineStore.save_of_save saved baseline'
                rw [saved']
                exact .related same
            | error e =>
                cases saved' : (store.save .none host.workspace baseline').result with
                | ok key =>
                    rw [saved, saved'] at both
                    exact nomatch both
                | error e' =>
                    rw [saved, saved'] at both
                    rw [Except.error.inj both]
                    exact .stopped _
  · exact .related (.refl host.workspace)

theorem keep_withSeverity (host : Host) (store : BaselineStore) (options : CompareOptions)
    (severity : Option Severity) (assessment : Assessment) :
    host.keep store (options.withSeverity severity) assessment =
      host.keep store options assessment := by
  simp only [keep, CompareOptions.withSeverity]
  rfl

theorem result_present (assessment : Assessment) (w : Workspace) (settings : Settings)
    (options : AuditOptions) {text : String} (shown : assessment.text? options.format = some text) :
    (present assessment w settings options).result =
      (Run.reporting w options.output text (assessment.outcome options settings.audit)).result := by
  simp only [present, shown]
  split
  · rfl
  · rfl

theorem agree_present {w w' : Workspace} (same : w.SameOutline w') (settings : Settings)
    (options : AuditOptions) (threshold : Severity) (severity : Option Severity)
    (alike : a.Alike b) :
    Agree Eq (present a w settings options).result
      (present b w' (settings.withThreshold threshold) (options.withSeverity severity)).result := by
  cases first : a.text? options.format with
  | none =>
      simp only [present, first]
      exact .overflow _
  | some text =>
      cases second : b.text? options.format with
      | none =>
          have unsayable : b.text? (options.withSeverity severity).format = none := second
          simp only [present, unsayable]
          exact .overflow' _
      | some text' =>
          have reported := result_present b w' (settings.withThreshold threshold)
            (options.withSeverity severity) second
          rw [alike.outcome] at reported
          rw [result_present a w settings options first, reported,
            result_reporting same options.output text text']
          exact .refl _

theorem agree_conclude (host : Host) (settings : Settings) (options : CompareOptions)
    (threshold : Severity) (severity : Option Severity) (alike : a.Alike b) :
    Agree Eq (host.conclude settings options a).result
      (host.conclude (settings.withThreshold threshold) (options.withSeverity severity)
        b).result := by
  have kept := host.agree_keep (host.store settings.baseline) options a b
  have stores : (settings.withThreshold threshold).baseline = settings.baseline := rfl
  simp only [conclude, keep_withSeverity, stores]
  generalize host.keep (host.store settings.baseline) options a = first at kept ⊢
  generalize host.keep (host.store settings.baseline) options b = second at kept ⊢
  obtain ⟨first, w⟩ := first
  obtain ⟨second, w'⟩ := second
  dsimp only at kept
  cases kept with
  | overflow => exact .overflow _
  | overflow' => exact .overflow' _
  | stopped failure => exact .stopped failure
  | related same => exact agree_present same settings options.audit threshold severity alike

theorem agree_compare (host : Host) (settings : Settings) (options : CompareOptions)
    (threshold : Severity) (severity : Option Severity) :
    Agree Eq (host.compare settings options).result
      (host.compare (settings.withThreshold threshold) (options.withSeverity severity)).result := by
  unfold compare
  rw [CompareOptions.applyTo_withThreshold]
  cases options.applyTo settings with
  | error e => exact .stopped _
  | ok chosen =>
      have assessed := host.agree_assess chosen options.audit threshold severity
      have audits : (options.withSeverity severity).audit =
          options.audit.withSeverity severity := rfl
      simp only [Except.map, audits]
      generalize host.assess chosen options.audit = first at assessed ⊢
      generalize host.assess (chosen.withThreshold threshold)
        (options.audit.withSeverity severity) = second at assessed ⊢
      cases assessed with
      | overflow => exact .overflow _
      | overflow' => exact .overflow' _
      | stopped failure => exact .stopped failure
      | related alike => exact host.agree_conclude chosen options threshold severity alike

/-! ## Counts that can be compared -/

theorem exists_sayable {options : AuditOptions}
    (stored : ((host.store settings.baseline).readable host.workspace).Moderate)
    (few : (options.found host.workspace settings.audit).length < Count.signedBound)
    (calibration : CalibrationResult) :
    ∃ assessment, host.assessCalibrated? settings options calibration = some assessment ∧
      assessment.Sayable := by
  have shorter := options.length_findings_report_le host.workspace settings.audit
  obtain ⟨summary, counted, moderate⟩ := Audit.exists_summary (Nat.lt_of_le_of_lt shorter few)
  obtain ⟨comparison, compared⟩ := Regression.exists_comparison
    ⟨(host.hardware settings.calibration).hardwareFingerprint, summary, calibration⟩
    ⟨settings.baseline.regressionThresholdPct, settings.baseline.gateOnThroughput⟩ stored moderate
  refine ⟨_, assessCalibrated?_eq_some_iff.mpr ⟨summary, comparison, counted, compared, rfl⟩,
    Regression.exists_markdown? compared, fun origin => ?_⟩
  obtain ⟨total, known, -⟩ := Option.map_eq_some_iff.mp counted
  exact ⟨_, congrArg (Option.map _) known⟩

theorem keep_ne_overflow (sayable : a.Sayable) (store : BaselineStore)
    (options : CompareOptions) :
    (host.keep store options a).1 ≠ .error .countOverflow := by
  obtain ⟨saved, known⟩ := sayable.kept ⟨options.commit, options.branch, host.timestamp⟩
  unfold keep
  rw [known]
  split
  · dsimp only
    split <;> nofun
  · nofun

theorem present_ne_overflow (sayable : a.Sayable) (w : Workspace) (settings : Settings)
    (options : AuditOptions) : (present a w settings options).result ≠ .error .countOverflow := by
  have shown : ∃ text, a.text? options.format = some text := by
    cases options.format with
    | json => exact ⟨_, rfl⟩
    | markdown =>
        obtain ⟨text, known⟩ := sayable.shown
        exact ⟨_, congrArg (Option.map _) known⟩
  obtain ⟨text, shown⟩ := shown
  rw [result_present a w settings options shown]
  unfold Run.reporting
  split
  · nofun
  · split <;> nofun

theorem conclude_ne_overflow (sayable : a.Sayable) (settings : Settings)
    (options : CompareOptions) :
    (host.conclude settings options a).result ≠ .error .countOverflow := by
  have kept := host.keep_ne_overflow sayable (host.store settings.baseline) options
  unfold conclude
  split
  · rename_i failure w same
    rw [same] at kept
    exact fun overflow => kept (congrArg _ (Except.error.inj overflow))
  · exact present_ne_overflow sayable _ settings options.audit

/-- A comparison does not meet a count that is too great, if neither the store nor the audit holds
one. -/
theorem compare_ne_overflow {options : CompareOptions}
    (stored : ((host.store settings.baseline).readable host.workspace).Moderate)
    (few : (options.audit.found host.workspace settings.audit).length < Count.signedBound) :
    (host.compare settings options).result ≠ .error .countOverflow := by
  unfold compare
  cases applied : options.applyTo settings with
  | error e => nofun
  | ok chosen =>
      obtain ⟨audit, stores⟩ := CompareOptions.kept_of_applyTo applied
      rw [← stores] at stored
      rw [← audit] at few
      dsimp only
      unfold assess
      cases host.calibration chosen.calibration with
      | none => nofun
      | some calibration =>
          obtain ⟨assessment, assessed, sayable⟩ := exists_sayable stored few calibration
          dsimp only
          rw [assessed]
          exact conclude_ne_overflow sayable chosen options

/-- The threshold of severities only says what is shown.  Under every threshold an audit ends alike,
and a stricter one leaves findings out of the report without moving others.  Two assessments under
different thresholds agree on the verdict and on the critical findings, in a baseline that is saved
as well, and a comparison ends alike as long as no count is beyond the signed numbers of 64 bits. -/
theorem outcome_under_thresholds (host : Host) (settings : Settings) (threshold : Severity)
    (severity : Option Severity) :
    (∀ options : AuditOptions,
      (host.audit (settings.withThreshold threshold) (options.withSeverity severity)).result =
          (host.audit settings options).result ∧
      ((options.effectiveThreshold settings.audit).rank ≤
          ((options.withSeverity severity).effectiveThreshold
            (settings.withThreshold threshold).audit).rank →
        ((options.withSeverity severity).report host.workspace
            (settings.withThreshold threshold).audit).findings =
          (options.report host.workspace settings.audit).findings.filter (·.severity.meets
            ((options.withSeverity severity).effectiveThreshold
              (settings.withThreshold threshold).audit))) ∧
      ∀ a b, host.assess settings options = .ok a →
        host.assess (settings.withThreshold threshold) (options.withSeverity severity) = .ok b →
        a.Alike b ∧ ∀ origin saved saved', a.baseline? origin = some saved →
          b.baseline? origin = some saved' → saved.criticalCount = saved'.criticalCount) ∧
    ∀ options : CompareOptions,
      ((host.store settings.baseline).readable host.workspace).Moderate →
      (options.audit.found host.workspace settings.audit).length < Count.signedBound →
      (host.compare (settings.withThreshold threshold) (options.withSeverity severity)).result =
        (host.compare settings options).result := by
  refine ⟨fun options => ⟨?_, ?_, ?_⟩, fun options stored few => ?_⟩
  · have critical := options.critical_report host.workspace settings threshold severity
    have outcomes := Outcome.ofAudit_withThreshold options settings threshold severity critical.symm
    simp only [Host.audit, outcomes]
    exact result_reporting (.refl host.workspace) options.output _ _ _
  · exact fun stricter => AuditOptions.findings_of_stricter stricter
  · intro a b first second
    have agree := host.agree_assess settings options threshold severity
    rw [first, second] at agree
    cases agree with
    | related alike => exact ⟨alike, fun origin saved saved' => alike.criticalCount⟩
  · have agree := host.agree_compare settings options threshold severity
    have noOverflow : (host.compare settings options).result ≠ .error .countOverflow :=
      compare_ne_overflow stored few
    have noOverflow' : (host.compare (settings.withThreshold threshold)
        (options.withSeverity severity)).result ≠ .error .countOverflow :=
      compare_ne_overflow stored few
    exact (agree.eq noOverflow noOverflow').symm

theorem outcome_of_regressed_under_thresholds :
    (regressed.compare {} { audit := { severity := some .critical } }).result =
      (regressed.compare {} { audit := { severity := some .info } }).result := by
  obtain ⟨-, compared⟩ := outcome_under_thresholds regressed {} .warning (some .critical)
  exact compared { audit := { severity := some .info } } (by decide +kernel) (by decide +kernel)

/-- A machine whose baseline has one finding more than a signed number of 64 bits can say, and a
file with a finding of the lowest severity. -/
def brimful : Host where
  workspace := ⟨⟨[(["a.py"], .file "from_pretrained(".toUTF8), ([".ecocompute"], .directory),
    ([".ecocompute", "baseline.json"],
      .file "\x7b\"total_issues\": 9223372036854775809\x7d".toUTF8)]⟩, []⟩
  machine := .bare
  clock := .ticking ⟨10000⟩ (by decide)
  seconds := 1738324800

/-- With counts beyond the signed numbers of 64 bits, the findings that are shown decide whether a
comparison comes to an end or breaks off. -/
theorem exitCode_of_brimful :
    (brimful.compare {} { audit := { severity := some .critical } }).exitCode = 0 ∧
      (brimful.compare {} { audit := { severity := some .info } }).exitCode = 101 := by
  constructor
  all_goals decide +kernel

end Host

end CommandLine

end EnergyAudit
