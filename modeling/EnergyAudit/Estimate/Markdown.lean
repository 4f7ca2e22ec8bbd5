import EnergyAudit.Decimal.Layout
import EnergyAudit.Estimate.Energy
import EnergyAudit.Text.Lines

/-! # Estimates in Markdown

A table of the estimate and its factors, with a remark unless it is well founded. -/

namespace EnergyAudit

def Confidence.remarkLines : Confidence → List String
  | .low =>
      ["> ⚠️ Low confidence: hardware is not in the reference dataset. "
        ++ "Run `ecocompute calibrate` to establish a local baseline.",
       ""]
  | .medium =>
      ["> Estimate borrows reference data from another architecture and scales it.", ""]
  | .high => []

namespace EnergyEstimate

def markdown (estimate : EnergyEstimate) (model : String) (batchSize : UInt32) : String :=
  Text.unlines
    (["### ⚡ Energy Estimation",
      "",
      "| Parameter | Value |",
      "|-----------|-------|",
      "| Model | " ++ model ++ " |",
      "| Batch Size | " ++ toString batchSize.toNat ++ " |",
      "| Estimated Energy | **" ++ Decimal.fixed 0 estimate.energyJPer1kTokens
        ++ " J/1k tokens** |",
      "| Confidence | " ++ estimate.confidence.name ++ " |",
      "| Reference | " ++ estimate.referenceKey ++ " × " ++ Decimal.fixed 2 estimate.modelScale
        ++ "× (model) × " ++ Decimal.fixed 3 estimate.batchScale ++ "× (batch) × "
        ++ Decimal.fixed 2 estimate.archScale ++ "× (arch) |",
      ""]
    ++ estimate.confidence.remarkLines)

end EnergyEstimate

end EnergyAudit
