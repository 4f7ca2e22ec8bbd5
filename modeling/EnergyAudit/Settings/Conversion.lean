import EnergyAudit.Decimal.Layout
import EnergyAudit.Decimal.Reading
import EnergyAudit.Json.Record
import EnergyAudit.Settings
import EnergyAudit.Settings.Value

/-! # Settings from configuration values

Values turn into settings with some leniency: a truth value may be written as a number or a word, a
number as a text or a truth value, a text as a number or a truth value, and a whole number as a
double, which is rounded.  A group of settings is a table, or a list of the settings in their
order. -/

namespace EnergyAudit.ConfigValue

/-- The truth value that a word stands for, in any mixture of case. -/
def boolOfWord? (text : String) : Option Bool :=
  match Text.lowercase text with
  | "true" => some true
  | "on" => some true
  | "yes" => some true
  | "false" => some false
  | "off" => some false
  | "no" => some false
  | _ => none

/-- One for true and zero for false. -/
def natOfBool (b : Bool) : Nat := if b then 1 else 0

def toBool? : ConfigValue → Option Bool
  | .bool value => some value
  | .int value => some (value != 0)
  | .float value => some (value != 0.0)
  | .str text =>
      match text with
      | "1" => some true
      | "0" => some false
      | text => boolOfWord? text
  | _ => none

/-- The natural number of 64 bits. -/
def toWord64? : ConfigValue → Option UInt64
  | .int (.ofNat n) => some (UInt64.ofNat n)
  | .bool value => some (UInt64.ofNat (natOfBool value))
  | .float value => some value.round.toUInt64
  | .str text =>
      match boolOfWord? text with
      | some value => some (UInt64.ofNat (natOfBool value))
      | none =>
          ((Decimal.readNat? text.toList).filter (· < UInt64.size)).map UInt64.ofNat
  | _ => none

/-- The natural number of 32 bits. -/
def toWord32? (value : ConfigValue) : Option UInt32 :=
  ((toWord64? value).filter (·.toNat < UInt32.size)).map fun n => UInt32.ofNat n.toNat

def toDouble? : ConfigValue → Option Float
  | .float value => some value
  | .int value => some (Json.doubleOfInt value)
  | .bool value => some (Float.ofNat (natOfBool value))
  | .str text =>
      match boolOfWord? text with
      | some value => some (Float.ofNat (natOfBool value))
      | none => Decimal.read? text.toList
  | _ => none

def toText? : ConfigValue → Option String
  | .str text => some text
  | .bool value => some (if value then "true" else "false")
  | .int value => some (toString value)
  | .float value => some (Decimal.plain value)
  | _ => none

def toTexts? : ConfigValue → Option (List String)
  | .list items => items.mapM toText?
  | _ => none

def severityOfName? (name : String) : Option Severity :=
  Severity.descending.find? fun severity => Text.lowercase name == severity.name

/-- The severity; a table with one key stands for the key. -/
def toSeverity? : ConfigValue → Option Severity
  | .str name => severityOfName? name
  | .table [(name, _)] => severityOfName? name
  | _ => none

/-- The values of a group's settings. -/
def group? (names : List String) : ConfigValue → Option (List (Option ConfigValue))
  | .table members => some (names.map (get? members))
  | .list items => some ((List.range names.length).map (items[·]?))
  | _ => none

/-- A setting that stands at `default` when it is missing. -/
def orDefault {α : Type} (default : α) (convert : ConfigValue → Option α)
    (value : Option ConfigValue) : Option α :=
  match value with
  | none => some default
  | some value => convert value

def toAuditSettings? (value : ConfigValue) : Option AuditSettings := do
  let [severityThreshold, maxFiles, failOnCritical, extensions] ←
    group? (AuditSettings.fieldNames.map (·.name)) value
    | none
  let default : AuditSettings := {}
  return {
    severityThreshold := ← orDefault default.severityThreshold toSeverity? severityThreshold
    maxFiles := ← orDefault default.maxFiles toWord64? maxFiles
    failOnCritical := ← orDefault default.failOnCritical toBool? failOnCritical
    extensions := ← orDefault default.extensions toTexts? extensions }

def toBaselineSettings? (value : ConfigValue) : Option BaselineSettings := do
  let [dir, fileName, regressionThresholdPct, gateOnThroughput] ←
    group? (BaselineSettings.fieldNames.map (·.name)) value
    | none
  let default : BaselineSettings := {}
  return {
    dir := ← orDefault default.dir toText? dir
    fileName := ← orDefault default.fileName toText? fileName
    regressionThresholdPct :=
      ← orDefault default.regressionThresholdPct toDouble? regressionThresholdPct
    gateOnThroughput := ← orDefault default.gateOnThroughput toBool? gateOnThroughput }

def toCalibrationSettings? (value : ConfigValue) : Option CalibrationSettings := do
  let [benchmarkDurationS, powerSamplingDurationS, samplingIntervalMs, probeTimeoutMs,
      detectTimeoutMs, matrixSize, warmupIterations] ←
    group? (CalibrationSettings.fieldNames.map (·.name)) value
    | none
  let default : CalibrationSettings := {}
  return {
    benchmarkDurationS := ← orDefault default.benchmarkDurationS toDouble? benchmarkDurationS
    powerSamplingDurationS :=
      ← orDefault default.powerSamplingDurationS toDouble? powerSamplingDurationS
    samplingIntervalMs := ← orDefault default.samplingIntervalMs toWord64? samplingIntervalMs
    probeTimeoutMs := ← orDefault default.probeTimeoutMs toWord64? probeTimeoutMs
    detectTimeoutMs := ← orDefault default.detectTimeoutMs toWord64? detectTimeoutMs
    matrixSize := ← orDefault default.matrixSize toWord64? matrixSize
    warmupIterations := ← orDefault default.warmupIterations toWord32? warmupIterations }

def toSettings? (value : ConfigValue) : Option Settings := do
  let [audit, baseline, calibration] ← group? (Settings.fieldNames.map (·.name)) value | none
  return {
    audit := ← orDefault {} toAuditSettings? audit
    baseline := ← orDefault {} toBaselineSettings? baseline
    calibration := ← orDefault {} toCalibrationSettings? calibration }

end EnergyAudit.ConfigValue
