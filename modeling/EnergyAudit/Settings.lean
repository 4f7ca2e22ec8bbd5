import EnergyAudit.Duration
import EnergyAudit.Files.Path
import EnergyAudit.Severity

/-! # Settings

The settings of an audit, of the baselines and of calibration.  Each has a default.  `validate`
refuses values that would make a run meaningless. -/

namespace EnergyAudit

/-- What an audit looks at and reports. -/
structure AuditSettings where
  severityThreshold : Severity := .warning
  maxFiles : UInt64 := 50
  failOnCritical : Bool := true
  extensions : List String := ["py"]

namespace AuditSettings

def fieldNames : List Json.FieldNames :=
  ["severity_threshold", "max_files", "fail_on_critical", "extensions"].map Json.field

def toJson (settings : AuditSettings) : Json :=
  .obj [("severity_threshold", settings.severityThreshold.toJson),
    ("max_files", .ofWord64 settings.maxFiles),
    ("fail_on_critical", .bool settings.failOnCritical),
    ("extensions", .arr (settings.extensions.map Json.str))]

def ofJson? (value : Json) : Option AuditSettings := do
  let [severityThreshold, maxFiles, failOnCritical, extensions] ←
    Json.fields? true fieldNames value
    | none
  let default : AuditSettings := {}
  return {
    severityThreshold :=
      ← Json.withDefault default.severityThreshold Severity.ofJson? severityThreshold
    maxFiles := ← Json.withDefault default.maxFiles Json.asWord64? maxFiles
    failOnCritical := ← Json.withDefault default.failOnCritical Json.asBool? failOnCritical
    extensions :=
      ← Json.withDefault default.extensions (Json.asList? Json.asString?) extensions }

end AuditSettings

/-- Where baselines are kept, and what counts as a regression against one. -/
structure BaselineSettings where
  dir : String := ".ecocompute"
  fileName : String := "baseline.json"
  regressionThresholdPct : Float := 5.0
  gateOnThroughput : Bool := false

namespace BaselineSettings

def pathIn (settings : BaselineSettings) (workspace : String) : String :=
  Path.join (Path.join workspace settings.dir) settings.fileName

def fieldNames : List Json.FieldNames :=
  ["dir", "file_name", "regression_threshold_pct", "gate_on_throughput"].map Json.field

def toJson (settings : BaselineSettings) : Json :=
  .obj [("dir", .str settings.dir), ("file_name", .str settings.fileName),
    ("regression_threshold_pct", .float settings.regressionThresholdPct),
    ("gate_on_throughput", .bool settings.gateOnThroughput)]

def ofJson? (value : Json) : Option BaselineSettings := do
  let [dir, fileName, regressionThresholdPct, gateOnThroughput] ←
    Json.fields? true fieldNames value
    | none
  let default : BaselineSettings := {}
  return {
    dir := ← Json.withDefault default.dir Json.asString? dir
    fileName := ← Json.withDefault default.fileName Json.asString? fileName
    regressionThresholdPct :=
      ← Json.withDefault default.regressionThresholdPct Json.asDouble? regressionThresholdPct
    gateOnThroughput := ← Json.withDefault default.gateOnThroughput Json.asBool? gateOnThroughput }

end BaselineSettings

/-- How long calibration measures, and with what work. -/
structure CalibrationSettings where
  benchmarkDurationS : Float := 5.0
  powerSamplingDurationS : Float := 3.0
  samplingIntervalMs : UInt64 := 200
  probeTimeoutMs : UInt64 := 2000
  detectTimeoutMs : UInt64 := 10000
  matrixSize : UInt64 := 2048
  warmupIterations : UInt32 := 5

namespace CalibrationSettings

def benchmarkDuration? (settings : CalibrationSettings) : Option Duration :=
  Duration.ofSeconds? settings.benchmarkDurationS

/-- The time for reading the power draw. -/
def powerSamplingDuration? (settings : CalibrationSettings) : Option Duration :=
  Duration.ofSeconds? settings.powerSamplingDurationS

/-- The pause after each reading of the power draw. -/
def samplingInterval (settings : CalibrationSettings) : Duration :=
  .ofMilliseconds settings.samplingIntervalMs

/-- The time for one reading of the power draw. -/
def probeTimeout (settings : CalibrationSettings) : Duration :=
  .ofMilliseconds settings.probeTimeoutMs

/-- The time for one question about the hardware. -/
def detectTimeout (settings : CalibrationSettings) : Duration :=
  .ofMilliseconds settings.detectTimeoutMs

def fieldNames : List Json.FieldNames :=
  ["benchmark_duration_s", "power_sampling_duration_s", "sampling_interval_ms",
    "probe_timeout_ms", "detect_timeout_ms", "matrix_size", "warmup_iterations"].map Json.field

def toJson (settings : CalibrationSettings) : Json :=
  .obj [("benchmark_duration_s", .float settings.benchmarkDurationS),
    ("power_sampling_duration_s", .float settings.powerSamplingDurationS),
    ("sampling_interval_ms", .ofWord64 settings.samplingIntervalMs),
    ("probe_timeout_ms", .ofWord64 settings.probeTimeoutMs),
    ("detect_timeout_ms", .ofWord64 settings.detectTimeoutMs),
    ("matrix_size", .ofWord64 settings.matrixSize),
    ("warmup_iterations", .ofWord32 settings.warmupIterations)]

def ofJson? (value : Json) : Option CalibrationSettings := do
  let [benchmarkDurationS, powerSamplingDurationS, samplingIntervalMs, probeTimeoutMs,
      detectTimeoutMs, matrixSize, warmupIterations] ←
    Json.fields? true fieldNames value
    | none
  let default : CalibrationSettings := {}
  return {
    benchmarkDurationS :=
      ← Json.withDefault default.benchmarkDurationS Json.asDouble? benchmarkDurationS
    powerSamplingDurationS :=
      ← Json.withDefault default.powerSamplingDurationS Json.asDouble? powerSamplingDurationS
    samplingIntervalMs :=
      ← Json.withDefault default.samplingIntervalMs Json.asWord64? samplingIntervalMs
    probeTimeoutMs := ← Json.withDefault default.probeTimeoutMs Json.asWord64? probeTimeoutMs
    detectTimeoutMs := ← Json.withDefault default.detectTimeoutMs Json.asWord64? detectTimeoutMs
    matrixSize := ← Json.withDefault default.matrixSize Json.asWord64? matrixSize
    warmupIterations :=
      ← Json.withDefault default.warmupIterations Json.asWord32? warmupIterations }

end CalibrationSettings

/-- All settings. -/
structure Settings where
  audit : AuditSettings := {}
  baseline : BaselineSettings := {}
  calibration : CalibrationSettings := {}

namespace Settings

/-- A setting with a value that makes no sense. -/
structure Invalid where
  key : String
  reason : String
deriving DecidableEq, Repr

/-- The complaint about a setting. -/
def Invalid.message (e : Invalid) : String :=
  "Invalid configuration value for " ++ e.key ++ ": " ++ e.reason

/-- Why a setting makes no sense, for the first one that does not. -/
def firstInvalid? (settings : Settings) : Option Invalid :=
  let threshold := settings.baseline.regressionThresholdPct
  let calibration := settings.calibration
  if !threshold.isFinite || threshold < 0.0 then
    some ⟨"baseline.regression_threshold_pct", "must be a non-negative number"⟩
  else if (Text.trim settings.baseline.fileName.toList).isEmpty then
    some ⟨"baseline.file_name", "must not be empty"⟩
  else if calibration.matrixSize == 0 then
    some ⟨"calibration.matrix_size", "must be greater than zero"⟩
  else if !calibration.benchmarkDurationS.isFinite
      || !calibration.powerSamplingDurationS.isFinite then
    some ⟨"calibration", "durations must be finite"⟩
  else none

/-- The settings, if all of them make sense. -/
def validate (settings : Settings) : Except Invalid Settings :=
  match settings.firstInvalid? with
  | some invalid => .error invalid
  | none => .ok settings

def fieldNames : List Json.FieldNames :=
  ["audit", "baseline", "calibration"].map Json.field

def toJson (settings : Settings) : Json :=
  .obj [("audit", settings.audit.toJson), ("baseline", settings.baseline.toJson),
    ("calibration", settings.calibration.toJson)]

def ofJson? (value : Json) : Option Settings := do
  let [audit, baseline, calibration] ← Json.fields? true fieldNames value | none
  return {
    audit := ← Json.withDefault {} AuditSettings.ofJson? audit
    baseline := ← Json.withDefault {} BaselineSettings.ofJson? baseline
    calibration := ← Json.withDefault {} CalibrationSettings.ofJson? calibration }

end Settings

end EnergyAudit
