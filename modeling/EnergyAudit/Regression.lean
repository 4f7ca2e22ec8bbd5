import EnergyAudit.Baseline.Store

/-! # The regression gate

A run is held against a baseline.  It fails the gate if it has more critical findings, or takes more
energy for a unit of work than the tolerance allows, or, on demand, has lost more throughput than
that.  Energy is compared where both have it, and throughput only where energy is not.  Nothing is
said of runs whose counts lie further apart than a signed 64-bit number can say. -/

namespace EnergyAudit

/-- How many findings a run has. -/
structure RunSummary where
  totalIssues : UInt64
  criticalCount : UInt64
  warningCount : UInt64
deriving DecidableEq, Repr

namespace RunSummary

def ofCounts? (counts : SeverityCounts) : Option RunSummary :=
  counts.total?.map (⟨·, counts.critical, counts.warning⟩)

def toJson (summary : RunSummary) : Json :=
  .obj [("total_issues", .ofWord64 summary.totalIssues),
    ("critical_count", .ofWord64 summary.criticalCount),
    ("warning_count", .ofWord64 summary.warningCount)]

def ofJson? (value : Json) : Option RunSummary := do
  let [totalIssues, criticalCount, warningCount] ←
    Json.fields? false (["total_issues", "critical_count", "warning_count"].map Json.field) value
    | none
  return {
    totalIssues := ← Json.required Json.asWord64? totalIssues
    criticalCount := ← Json.required Json.asWord64? criticalCount
    warningCount := ← Json.required Json.asWord64? warningCount }

end RunSummary

/-- What the gate tolerates: the percentage, and whether lost throughput fails it. -/
structure RegressionPolicy where
  thresholdPct : Float := 5.0
  gateOnThroughput : Bool := false

namespace RegressionPolicy

def toJson (policy : RegressionPolicy) : Json :=
  .obj [("threshold_pct", .float policy.thresholdPct),
    ("gate_on_throughput", .bool policy.gateOnThroughput)]

def ofJson? (value : Json) : Option RegressionPolicy := do
  let [thresholdPct, gateOnThroughput] ←
    Json.fields? false (["threshold_pct", "gate_on_throughput"].map Json.field) value
    | none
  return {
    thresholdPct := ← Json.required Json.asDouble? thresholdPct
    gateOnThroughput := ← Json.required Json.asBool? gateOnThroughput }

end RegressionPolicy

/-- How a run compares with a baseline.  A positive percentage is a change for the worse. -/
structure RelativeChange where
  hasBaseline : Bool := false
  sameHardware : Bool := false
  energyChangePct : Float := 0.0
  issuesDelta : Int64 := 0
  criticalDelta : Int64 := 0
  warningDelta : Int64 := 0
  benchmarkChangePct : Float := 0.0
  passed : Bool := false
  reason : String := ""
  /-- Hardware or method of calibration is not that of the baseline. -/
  lowConfidence : Bool := false
  /-- Throughput is lost beyond the tolerance without failing the gate. -/
  throughputGap : Bool := false

namespace RelativeChange

def fieldNames : List Json.FieldNames :=
  ["has_baseline", "same_hardware", "energy_change_pct", "issues_delta", "critical_delta",
    "warning_delta", "benchmark_change_pct", "passed", "reason", "low_confidence",
    "throughput_gap"].map Json.field

def toJson (change : RelativeChange) : Json :=
  .obj [("has_baseline", .bool change.hasBaseline),
    ("same_hardware", .bool change.sameHardware),
    ("energy_change_pct", .float change.energyChangePct),
    ("issues_delta", .ofSigned64 change.issuesDelta),
    ("critical_delta", .ofSigned64 change.criticalDelta),
    ("warning_delta", .ofSigned64 change.warningDelta),
    ("benchmark_change_pct", .float change.benchmarkChangePct),
    ("passed", .bool change.passed),
    ("reason", .str change.reason),
    ("low_confidence", .bool change.lowConfidence),
    ("throughput_gap", .bool change.throughputGap)]

def ofJson? (value : Json) : Option RelativeChange := do
  let [hasBaseline, sameHardware, energyChangePct, issuesDelta, criticalDelta, warningDelta,
      benchmarkChangePct, passed, reason, lowConfidence, throughputGap] ←
    Json.fields? false fieldNames value
    | none
  return {
    hasBaseline := ← Json.required Json.asBool? hasBaseline
    sameHardware := ← Json.required Json.asBool? sameHardware
    energyChangePct := ← Json.required Json.asDouble? energyChangePct
    issuesDelta := ← Json.required Json.asSigned64? issuesDelta
    criticalDelta := ← Json.required Json.asSigned64? criticalDelta
    warningDelta := ← Json.required Json.asSigned64? warningDelta
    benchmarkChangePct := ← Json.required Json.asDouble? benchmarkChangePct
    passed := ← Json.required Json.asBool? passed
    reason := ← Json.required Json.asString? reason
    lowConfidence := ← Json.required Json.asBool? lowConfidence
    throughputGap := ← Json.required Json.asBool? throughputGap }

end RelativeChange

namespace Regression

/-- The change from one positive number to another in percent. -/
def percentChange (before after : Float) : Float :=
  (after - before) / before * 100.0

/-- The change in energy and the loss of throughput, in percent; at most one of them is looked
at. -/
def percentages (baseline : Baseline) (calibration : CalibrationResult) : Float × Float :=
  if calibration.energyPerTflopJoules > 0.0 && baseline.energyPerTflopJoules > 0.0 then
    (percentChange baseline.energyPerTflopJoules calibration.energyPerTflopJoules, 0.0)
  else if calibration.benchmarkScoreTflops > 0.0 && baseline.benchmarkScoreTflops > 0.0 then
    (0.0, -percentChange baseline.benchmarkScoreTflops calibration.benchmarkScoreTflops)
  else (0.0, 0.0)

/-- Why the gate fails or does not. -/
inductive Verdict where
  | newCritical (count : Int64)
  | energyRegressed (percent threshold : Float)
  | throughputDropped (percent threshold : Float)
  | newIssues (count : Int64)
  | fixedIssues (count : Int64)
  | unchanged

def Verdict.passed : Verdict → Bool
  | .newCritical _ | .energyRegressed .. | .throughputDropped .. => false
  | .newIssues _ | .fixedIssues _ | .unchanged => true

/-- A signed number in digits. -/
def signedText (n : Int64) : String := toString n.toInt

def Verdict.reason : Verdict → String
  | .newCritical count => "❌ " ++ signedText count ++ " new critical issue(s) introduced."
  | .energyRegressed percent threshold =>
      "❌ Energy efficiency regressed by " ++ Decimal.fixed 1 percent ++ "% (threshold: "
        ++ Decimal.fixed 1 threshold ++ "%)."
  | .throughputDropped percent threshold =>
      "❌ Throughput dropped by " ++ Decimal.fixed 1 percent ++ "% (threshold: "
        ++ Decimal.fixed 1 threshold ++ "%)."
  | .newIssues count =>
      "⚠️ " ++ signedText count ++ " new issue(s) found (no critical regressions)."
  | .fixedIssues count => "✅ " ++ signedText count ++ " issue(s) fixed!"
  | .unchanged => "✅ No regressions detected."

/-- The first reason that applies, if its figure is a number of 64 bits. -/
def verdict? (policy : RegressionPolicy) (criticalDelta issuesDelta : Int64)
    (energyChange throughputLoss : Float) : Option Verdict :=
  if 0 < criticalDelta then some (.newCritical criticalDelta)
  else if energyChange > policy.thresholdPct then
    some (.energyRegressed energyChange policy.thresholdPct)
  else if policy.gateOnThroughput && throughputLoss > policy.thresholdPct then
    some (.throughputDropped throughputLoss policy.thresholdPct)
  else if 0 < issuesDelta then some (.newIssues issuesDelta)
  else if issuesDelta < 0 then (Count.opposite? issuesDelta).map .fixedIssues
  else some .unchanged

/-- The change where there is nothing to compare with. -/
def withoutBaseline : RelativeChange where
  passed := true
  reason := "No baseline found. This run will be saved as the new baseline."

/-- The run of a calibrated machine, as the gate sees it. -/
structure CurrentRun where
  fingerprint : String
  summary : RunSummary
  calibration : CalibrationResult

/-- How the run compares with a baseline, if every change of a count is a number of 64 bits. -/
def compareWith? (baseline : Baseline) (run : CurrentRun) (policy : RegressionPolicy) :
    Option RelativeChange := do
  let sameHardware := baseline.hardwareFingerprint == run.fingerprint
  let issuesDelta ← Count.change? baseline.totalIssues run.summary.totalIssues
  let criticalDelta ← Count.change? baseline.criticalCount run.summary.criticalCount
  let warningDelta ← Count.change? baseline.warningCount run.summary.warningCount
  let (energyChange, throughputLoss) := percentages baseline run.calibration
  let verdict ← verdict? policy criticalDelta issuesDelta energyChange throughputLoss
  return {
    hasBaseline := true
    sameHardware
    energyChangePct := energyChange
    issuesDelta
    criticalDelta
    warningDelta
    benchmarkChangePct := throughputLoss
    passed := verdict.passed
    reason := verdict.reason
    lowConfidence := !sameHardware || baseline.method != some run.calibration.method
    throughputGap := throughputLoss > policy.thresholdPct && verdict.passed }

def classify? (baseline : Option Baseline) (run : CurrentRun) (policy : RegressionPolicy) :
    Option RelativeChange :=
  match baseline with
  | none => some withoutBaseline
  | some baseline => compareWith? baseline run policy

/-- A change, and the baseline that it is a change from. -/
structure Comparison where
  change : RelativeChange
  baseline : Option Baseline

def compareWithStore? (store : BaselineStore) (w : Workspace) (run : CurrentRun)
    (policy : RegressionPolicy) : Option Comparison :=
  let baseline := store.load? w run.fingerprint
  (classify? baseline run policy).map (⟨·, baseline⟩)

end Regression

end EnergyAudit
