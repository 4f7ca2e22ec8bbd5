import EnergyAudit.Estimate.Reference
import EnergyAudit.Hardware.Profile

/-! # Energy estimates

The energy of a model is the nearest reference measurement, scaled by the size of the model, the
size of a batch and the architecture.  The estimate cites the measurement and says how far it is to
be trusted. -/

namespace EnergyAudit

/-- How far an estimate is to be trusted. -/
inductive Confidence where
  /-- The measurement is for the architecture of the machine. -/
  | high
  /-- The measurement is borrowed from another architecture. -/
  | medium
  /-- The machine is not known. -/
  | low
deriving DecidableEq, Repr

namespace Confidence

def name : Confidence → String
  | .high => "HIGH"
  | .medium => "MEDIUM"
  | .low => "LOW"

def ofName? : String → Option Confidence
  | "HIGH" => some .high
  | "MEDIUM" => some .medium
  | "LOW" => some .low
  | _ => none

theorem ofName?_name (confidence : Confidence) : ofName? confidence.name = some confidence := by
  cases confidence <;> rfl

def toJson (confidence : Confidence) : Json := .str confidence.name

def ofJson? : Json → Option Confidence := Json.asTag? ofName?

end Confidence

/-- An estimate of the energy in joules for a thousand tokens, with the measurement it starts from
and the factors that scale it. -/
structure EnergyEstimate where
  energyJPer1kTokens : Float
  confidence : Confidence
  referenceArchitecture : Architecture
  referenceQuantization : Quantization
  modelScale : Float
  batchScale : Float
  archScale : Float

namespace EnergyEstimate

def assumedArchitecture : Architecture := .ada

/-- The architecture that an estimate for the machine is about. -/
def architectureOf (hardware : HardwareProfile) : Architecture :=
  if hardware.known then hardware.architecture else assumedArchitecture

/-- How far a measurement for the architecture is to be trusted on the machine. -/
def confidenceIn (hardware : HardwareProfile) (measured : Architecture) : Confidence :=
  if !hardware.known then .low
  else if measured == architectureOf hardware then .high
  else .medium

/-- The estimate for a model with so many billions of parameters. -/
def ofModel (parametersB : Float) (quantization : Quantization) (batchSize : UInt32)
    (hardware : HardwareProfile) : EnergyEstimate :=
  let reference := ReferenceMeasurement.nearest (architectureOf hardware) quantization
  let modelScale := parametersB / ReferenceMeasurement.parametersB
  let batchScale := BatchMeasurement.scaleAt batchSize
  let archScale := if hardware.known then hardware.energyScaleFactor else 1.0
  { energyJPer1kTokens := reference.joules * modelScale * batchScale * archScale
    confidence := confidenceIn hardware reference.architecture
    referenceArchitecture := reference.architecture
    referenceQuantization := reference.quantization
    modelScale
    batchScale
    archScale }

/-- The cited measurement, as architecture and scheme. -/
def referenceKey (estimate : EnergyEstimate) : String :=
  estimate.referenceArchitecture.name ++ "/" ++ estimate.referenceQuantization.label

def fieldNames : List Json.FieldNames :=
  ["energy_j_per_1k_tokens", "confidence", "reference_architecture", "reference_quantization",
    "model_scale", "batch_scale", "arch_scale"].map Json.field

def toJson (estimate : EnergyEstimate) : Json :=
  .obj [("energy_j_per_1k_tokens", .float estimate.energyJPer1kTokens),
    ("confidence", estimate.confidence.toJson),
    ("reference_architecture", estimate.referenceArchitecture.toJson),
    ("reference_quantization", estimate.referenceQuantization.toJson),
    ("model_scale", .float estimate.modelScale),
    ("batch_scale", .float estimate.batchScale),
    ("arch_scale", .float estimate.archScale)]

def ofJson? (value : Json) : Option EnergyEstimate := do
  let [energyJPer1kTokens, confidence, referenceArchitecture, referenceQuantization, modelScale,
      batchScale, archScale] ← Json.fields? false fieldNames value
    | none
  return {
    energyJPer1kTokens := ← Json.required Json.asDouble? energyJPer1kTokens
    confidence := ← Json.required Confidence.ofJson? confidence
    referenceArchitecture := ← Json.required Architecture.ofJson? referenceArchitecture
    referenceQuantization := ← Json.required Quantization.ofJson? referenceQuantization
    modelScale := ← Json.required Json.asDouble? modelScale
    batchScale := ← Json.required Json.asDouble? batchScale
    archScale := ← Json.required Json.asDouble? archScale }

end EnergyEstimate

end EnergyAudit
