import EnergyAudit.CommandLine.Audit
import EnergyAudit.Hardware.Markdown
import EnergyAudit.Regression.Markdown

/-! # Comparisons with the baseline

A comparison audits the workspace, calibrates the machine and holds the run against the baseline
that is stored before it.  Only then it may become the baseline itself.  The run fails if the gate
is not passed, or the audit fails. -/

namespace EnergyAudit

/-- The settings with the choices of the command line in their place, if they make sense. -/
def CompareOptions.applyTo (options : CompareOptions) (settings : Settings) :
    Except Settings.Invalid Settings :=
  match options.threshold with
  | none => .ok settings
  | some threshold =>
      Settings.validate
        { settings with baseline := { settings.baseline with regressionThresholdPct := threshold } }

namespace CommandLine

/-- What is found out about a run before anything is written. -/
structure Assessment where
  report : AuditReport
  hardware : HardwareProfile
  calibration : CalibrationResult
  comparison : Regression.Comparison

namespace Assessment

/-- The assessment in Markdown, if its counts can be shown. -/
def markdown? (assessment : Assessment) : Option String :=
  (assessment.comparison.change.markdown? assessment.comparison.baseline).map fun section_ =>
    assessment.report.markedMarkdown ++ "\n" ++ assessment.hardware.markdown ++ section_

def jsonText (assessment : Assessment) : String :=
  documentText
    [("audit", assessment.report.toJson),
     ("hardware", assessment.hardware.toJson),
     ("calibration", assessment.calibration.toJson),
     ("relative_change", assessment.comparison.change.toJson),
     ("baseline", assessment.comparison.baseline.elim .null Baseline.toJson)]

def gateLine (assessment : Assessment) : String :=
  let change := assessment.comparison.change
  "Regression gate: " ++ (if change.passed then "PASSED" else "FAILED")
    ++ " (" ++ change.reason ++ ")\n"

/-- What the assessment makes of the run. -/
def outcome (assessment : Assessment) (options : AuditOptions) (settings : AuditSettings) :
    Outcome :=
  if options.noFail then .success
  else if !assessment.comparison.change.passed then .failed
  else .ofAudit options settings assessment.report

def text? (assessment : Assessment) : ReportFormat → Option String
  | .markdown => assessment.markdown?
  | .json => some assessment.jsonText

def baseline? (assessment : Assessment) (origin : RunOrigin) : Option Baseline :=
  Baseline.ofRun? assessment.hardware assessment.calibration assessment.report.counts origin

end Assessment

namespace Host

/-- Assesses the host with a calibration of it, if the counts can be compared. -/
def assessCalibrated? (host : Host) (settings : Settings) (options : AuditOptions)
    (calibration : CalibrationResult) : Option Assessment := do
  let report := options.report host.workspace settings.audit
  let hardware := host.hardware settings.calibration
  let summary ← RunSummary.ofCounts? report.counts
  let policy := ⟨settings.baseline.regressionThresholdPct, settings.baseline.gateOnThroughput⟩
  let comparison ←
    Regression.compareWithStore? (host.store settings.baseline) host.workspace
      ⟨hardware.hardwareFingerprint, summary, calibration⟩ policy
  return { report, hardware, calibration, comparison }

/-- Assesses the host, if the times in the settings are durations and the counts can be compared. -/
def assess (host : Host) (settings : Settings) (options : AuditOptions) :
    Except Failure Assessment :=
  match host.calibration settings.calibration with
  | none => .error .notADuration
  | some calibration =>
      match host.assessCalibrated? settings options calibration with
      | none => .error .countOverflow
      | some assessment => .ok assessment

/-- Makes the run the baseline, if that is wanted.  Also says whether it worked. -/
def keep (host : Host) (store : BaselineStore) (options : CompareOptions)
    (assessment : Assessment) : Except Failure Unit × Workspace :=
  if options.save then
    match assessment.baseline? ⟨options.commit, options.branch, host.timestamp⟩ with
    | none => (.error .countOverflow, host.workspace)
    | some baseline =>
        let run := store.save .none host.workspace baseline
        (match run.result with
          | .ok _ => .ok ()
          | .error e => .error (.baselineNotSaved store.path e),
         run.final host.workspace)
  else (.ok (), host.workspace)

/-- Hands over the assessment, once it is known whether it is kept. -/
def present (assessment : Assessment) (w : Workspace) (settings : Settings)
    (options : AuditOptions) : Run :=
  match assessment.text? options.format with
  | none => .stopped .countOverflow w
  | some text =>
      let run :=
        Run.reporting w options.output text (assessment.outcome options settings.audit)
      match run.result with
      | .ok _ => { run with errors := assessment.gateLine }
      | .error _ => run

/-- Keeps the assessment, if that is wanted, and hands it over. -/
def conclude (host : Host) (settings : Settings) (options : CompareOptions)
    (assessment : Assessment) : Run :=
  match host.keep (host.store settings.baseline) options assessment with
  | (.error failure, w) => .stopped failure w
  | (.ok (), w) => present assessment w settings options.audit

def compare (host : Host) (settings : Settings) (options : CompareOptions) : Run :=
  match options.applyTo settings with
  | .error e => .stopped (.invalidSettings e) host.workspace
  | .ok settings =>
      match host.assess settings options.audit with
      | .error failure => .stopped failure host.workspace
      | .ok assessment => host.conclude settings options assessment

end Host

end CommandLine

end EnergyAudit
