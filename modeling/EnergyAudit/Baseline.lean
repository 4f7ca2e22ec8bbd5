import EnergyAudit.Calibration.Result
import EnergyAudit.Hardware.Profile
import EnergyAudit.Json.Mismatch
import EnergyAudit.Severity

/-! # Baselines

A baseline is the summary of a run that was accepted.  It is kept under the fingerprint of its
hardware.  Records may lack any field, and five fields may have the names that they used to have. -/

namespace EnergyAudit

/-- The summary of an accepted run. -/
structure Baseline where
  hardwareFingerprint : String := ""
  gpuName : String := ""
  timestamp : String := ""
  benchmarkScoreTflops : Float := 0.0
  avgPowerDrawW : Float := 0.0
  energyPerTflopJoules : Float := 0.0
  totalIssues : UInt64 := 0
  criticalCount : UInt64 := 0
  warningCount : UInt64 := 0
  commitSha : String := ""
  branch : String := ""
  method : Option CalibrationMethod := none

/-- What a run was about: the commit and its branch, and when it took place. -/
structure RunOrigin where
  commitSha : String
  branch : String
  timestamp : String

namespace Baseline

def defaultKey : String := "default"

def key (baseline : Baseline) : String :=
  if baseline.hardwareFingerprint == "" then defaultKey else baseline.hardwareFingerprint

def ofRun? (hardware : HardwareProfile) (calibration : CalibrationResult) (counts : SeverityCounts)
    (origin : RunOrigin) : Option Baseline :=
  counts.total?.map fun total =>
    { hardwareFingerprint := hardware.hardwareFingerprint
      gpuName := hardware.displayName
      timestamp := origin.timestamp
      benchmarkScoreTflops := calibration.benchmarkScoreTflops
      avgPowerDrawW := calibration.avgPowerDrawW
      energyPerTflopJoules := calibration.energyPerTflopJoules
      totalIssues := total
      criticalCount := counts.critical
      warningCount := counts.warning
      commitSha := origin.commitSha
      branch := origin.branch
      method := some calibration.method }

/-- A baseline's fields, in their order. -/
def shape : Json.RecordShape where
  title := "struct Baseline"
  fields :=
    [(⟨"hardware_fingerprint", ["hardware_hash"]⟩, .string),
     (Json.field "gpu_name", .string),
     (Json.field "timestamp", .string),
     (⟨"benchmark_score_tflops", ["benchmark_score"]⟩, .double),
     (⟨"avg_power_draw_w", ["power_draw_w"]⟩, .double),
     (⟨"energy_per_tflop_joules", ["energy_per_tflop"]⟩, .double),
     (⟨"total_issues", ["issues_found"]⟩, .word64),
     (Json.field "critical_count", .word64),
     (Json.field "warning_count", .word64),
     (Json.field "commit_sha", .string),
     (Json.field "branch", .string),
     (Json.field "method", .optionalName (CalibrationMethod.all.map CalibrationMethod.name))]

def fieldNames : List Json.FieldNames := shape.fields.map (·.1)

def methodMember (method : Option CalibrationMethod) : List (String × Json) :=
  match method with
  | some method => [("method", method.toJson)]
  | none => []

def toJson (baseline : Baseline) : Json :=
  .obj ([("hardware_fingerprint", .str baseline.hardwareFingerprint),
    ("gpu_name", .str baseline.gpuName),
    ("timestamp", .str baseline.timestamp),
    ("benchmark_score_tflops", .float baseline.benchmarkScoreTflops),
    ("avg_power_draw_w", .float baseline.avgPowerDrawW),
    ("energy_per_tflop_joules", .float baseline.energyPerTflopJoules),
    ("total_issues", .ofWord64 baseline.totalIssues),
    ("critical_count", .ofWord64 baseline.criticalCount),
    ("warning_count", .ofWord64 baseline.warningCount),
    ("commit_sha", .str baseline.commitSha),
    ("branch", .str baseline.branch)] ++ methodMember baseline.method)

def ofJson? (value : Json) : Option Baseline := do
  let [hardwareFingerprint, gpuName, timestamp, benchmarkScoreTflops, avgPowerDrawW,
      energyPerTflopJoules, totalIssues, criticalCount, warningCount, commitSha, branch, method] ←
    Json.fields? true fieldNames value
    | none
  return {
    hardwareFingerprint := ← Json.withDefault "" Json.asString? hardwareFingerprint
    gpuName := ← Json.withDefault "" Json.asString? gpuName
    timestamp := ← Json.withDefault "" Json.asString? timestamp
    benchmarkScoreTflops := ← Json.withDefault 0.0 Json.asDouble? benchmarkScoreTflops
    avgPowerDrawW := ← Json.withDefault 0.0 Json.asDouble? avgPowerDrawW
    energyPerTflopJoules := ← Json.withDefault 0.0 Json.asDouble? energyPerTflopJoules
    totalIssues := ← Json.withDefault 0 Json.asWord64? totalIssues
    criticalCount := ← Json.withDefault 0 Json.asWord64? criticalCount
    warningCount := ← Json.withDefault 0 Json.asWord64? warningCount
    commitSha := ← Json.withDefault "" Json.asString? commitSha
    branch := ← Json.withDefault "" Json.asString? branch
    method := ← Json.optional CalibrationMethod.ofJson? method }

end Baseline

end EnergyAudit
