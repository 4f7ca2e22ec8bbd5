import EnergyAudit.Json.Record

/-! # Results of calibration

A calibration yields throughput, power draw and the energy for a unit of work.  A zero stands for
what was not measured. -/

namespace EnergyAudit

/-- Where the numbers of a calibration come from. -/
inductive CalibrationMethod where
  | computeBenchmark
  | powerSampling
  | estimated
  | none
deriving DecidableEq, Repr

namespace CalibrationMethod

def name : CalibrationMethod → String
  | .computeBenchmark => "compute_benchmark"
  | .powerSampling => "power_sampling"
  | .estimated => "estimated"
  | .none => "none"

def all : List CalibrationMethod := [.computeBenchmark, .powerSampling, .estimated, .none]

def ofName? : String → Option CalibrationMethod
  | "compute_benchmark" => some .computeBenchmark
  | "power_sampling" => some .powerSampling
  | "estimated" => some .estimated
  | "none" => some .none
  | _ => Option.none

theorem ofName?_name (method : CalibrationMethod) : ofName? method.name = some method := by
  cases method <;> rfl

def toJson (method : CalibrationMethod) : Json := .str method.name

def ofJson? : Json → Option CalibrationMethod := Json.asTag? ofName?

end CalibrationMethod

/-- What a calibration came to.  Throughput is in tera-operations a second, power in watts, energy
in joules for a tera-operation, and the duration in seconds. -/
structure CalibrationResult where
  benchmarkScoreTflops : Float
  avgPowerDrawW : Float
  energyPerTflopJoules : Float
  durationS : Float
  method : CalibrationMethod

namespace CalibrationResult

def empty (method : CalibrationMethod) : CalibrationResult := ⟨0.0, 0.0, 0.0, 0.0, method⟩

def hasThroughput (result : CalibrationResult) : Bool := result.benchmarkScoreTflops > 0.0

def hasPower (result : CalibrationResult) : Bool := result.avgPowerDrawW > 0.0

/-- The result with the energy for a unit of work, where throughput and power give one. -/
def withEnergy (result : CalibrationResult) : CalibrationResult :=
  if result.hasThroughput && result.hasPower then
    { result with energyPerTflopJoules := result.avgPowerDrawW / result.benchmarkScoreTflops }
  else result

def fieldNames : List Json.FieldNames :=
  ["benchmark_score_tflops", "avg_power_draw_w", "energy_per_tflop_joules", "duration_s",
    "method"].map Json.field

def toJson (result : CalibrationResult) : Json :=
  .obj [("benchmark_score_tflops", .float result.benchmarkScoreTflops),
    ("avg_power_draw_w", .float result.avgPowerDrawW),
    ("energy_per_tflop_joules", .float result.energyPerTflopJoules),
    ("duration_s", .float result.durationS),
    ("method", result.method.toJson)]

def ofJson? (value : Json) : Option CalibrationResult := do
  let [benchmarkScoreTflops, avgPowerDrawW, energyPerTflopJoules, durationS, method] ←
    Json.fields? false fieldNames value
    | none
  return {
    benchmarkScoreTflops := ← Json.required Json.asDouble? benchmarkScoreTflops
    avgPowerDrawW := ← Json.required Json.asDouble? avgPowerDrawW
    energyPerTflopJoules := ← Json.required Json.asDouble? energyPerTflopJoules
    durationS := ← Json.required Json.asDouble? durationS
    method := ← Json.required CalibrationMethod.ofJson? method }

end CalibrationResult

end EnergyAudit
