import EnergyAudit.Calibration.Result
import EnergyAudit.Decimal.Layout
import EnergyAudit.Text.Lines

/-! # Results of calibration in Markdown

A table of what was measured. -/

namespace EnergyAudit.CalibrationResult

def throughputRows (result : CalibrationResult) : List String :=
  if result.hasThroughput then
    ["| Throughput | " ++ Decimal.fixed 1 result.benchmarkScoreTflops ++ " TFLOPS |"]
  else []

def powerRows (result : CalibrationResult) : List String :=
  if result.hasPower then ["| Power | " ++ Decimal.fixed 1 result.avgPowerDrawW ++ " W |"] else []

def energyRows (result : CalibrationResult) : List String :=
  if result.energyPerTflopJoules > 0.0 then
    ["| Energy/TFLOP | " ++ Decimal.fixed 2 result.energyPerTflopJoules ++ " J |"]
  else []

def markdown (result : CalibrationResult) : String :=
  Text.unlines
    (["### 🔬 Calibration",
      "",
      "| Metric | Value |",
      "|--------|-------|",
      "| Method | " ++ result.method.name ++ " |"]
    ++ result.throughputRows ++ result.powerRows ++ result.energyRows ++ [""])

end EnergyAudit.CalibrationResult
