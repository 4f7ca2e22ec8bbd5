import EnergyAudit.Estimate.Quantization
import EnergyAudit.Hardware.Architecture

/-! # Reference measurements

Energy for a thousand tokens, measured on a model of seven billion parameters that answers one
request at a time, and how the energy for a request falls with the size of a batch. -/

namespace EnergyAudit

/-- A measurement: the energy in joules for a thousand tokens. -/
structure ReferenceMeasurement where
  architecture : Architecture
  quantization : Quantization
  joules : Float

namespace ReferenceMeasurement

def table : List ReferenceMeasurement :=
  [⟨.ada, .fp16, 5661.0⟩,
   ⟨.ada, .nf4, 3707.0⟩,
   ⟨.ada, .int8Default, 7401.0⟩,
   ⟨.ada, .int8Pure, 5212.0⟩,
   ⟨.ampere, .fp16, 4334.0⟩,
   ⟨.ampere, .int8Default, 9608.0⟩,
   ⟨.ampere, .int8Pure, 5781.0⟩,
   ⟨.blackwell, .fp16, 4908.0⟩,
   ⟨.blackwell, .nf4, 5483.0⟩]

def find? (architecture : Architecture) (quantization : Quantization) :
    Option ReferenceMeasurement :=
  table.find? fun row => row.architecture == architecture && row.quantization == quantization

/-- The measurement that stands in where there is none. -/
def fallback : ReferenceMeasurement := ⟨.ada, .fp16, 5661.0⟩

/-- The measurement that comes closest: for the scheme on the architecture, else for half precision
on the architecture, else the one that stands in for all. -/
def nearest (architecture : Architecture) (quantization : Quantization) : ReferenceMeasurement :=
  ((find? architecture quantization).or (find? architecture .fp16)).getD fallback

/-- Parameters of the measured model, in billions. -/
def parametersB : Float := 7.0

end ReferenceMeasurement

/-- A measured batch: its size, and the energy for a request in proportion to a single one. -/
structure BatchMeasurement where
  size : UInt32
  scale : Float

namespace BatchMeasurement

def table : List BatchMeasurement :=
  [⟨1, 1.0⟩, ⟨2, 0.535⟩, ⟨4, 0.268⟩, ⟨8, 0.125⟩, ⟨16, 0.069⟩, ⟨32, 0.051⟩, ⟨64, 0.043⟩]

/-- Exponent of the power law for batches that were not measured. -/
def exponent : Float := 0.78

/-- Energy for a request in a batch of the size, in proportion to a single one.  A batch holds at
least one request. -/
def scaleAt (size : UInt32) : Float :=
  let size := if size == 0 then 1 else size
  match table.find? (·.size == size) with
  | some row => row.scale
  | none => 1.0 / size.toFloat.pow exponent

end BatchMeasurement

end EnergyAudit
