import EnergyAudit.Hardware.Architecture
import EnergyAudit.Text.Lowercase
import EnergyAudit.Text.Lines

/-! # Known graphics processors

A table of models with their power figures.  A reported name belongs to the first row whose key it
contains, in any mixture of case. -/

namespace EnergyAudit

/-- A row of the table: memory in gigabytes, the compute capability as ten times its major number
plus its minor one, and the greatest and the idle power in watts. -/
structure KnownGpu where
  key : String
  architecture : Architecture
  computeCapability : UInt32
  vramGb : UInt32
  tdpW : UInt32
  idleW : UInt32
deriving DecidableEq, Repr

namespace KnownGpu

def table : List KnownGpu :=
  [⟨"rtx 5090", .blackwell, 120, 32, 575, 22⟩,
   ⟨"rtx 5080", .blackwell, 120, 16, 360, 18⟩,
   ⟨"rtx 4090", .ada, 89, 24, 450, 17⟩,
   ⟨"rtx 4090d", .ada, 89, 24, 425, 17⟩,
   ⟨"rtx 4080", .ada, 89, 16, 320, 15⟩,
   ⟨"rtx 4070", .ada, 89, 12, 200, 12⟩,
   ⟨"a800", .ampere, 80, 80, 400, 65⟩,
   ⟨"a100", .ampere, 80, 80, 400, 65⟩,
   ⟨"a6000", .ampere, 86, 48, 300, 25⟩,
   ⟨"rtx 3090", .ampere, 86, 24, 350, 20⟩,
   ⟨"rtx 3080", .ampere, 86, 10, 320, 18⟩,
   ⟨"h100", .hopper, 90, 80, 700, 70⟩,
   ⟨"h200", .hopper, 90, 141, 700, 70⟩,
   ⟨"v100", .volta, 70, 32, 300, 40⟩,
   ⟨"t4", .turing, 75, 16, 70, 10⟩,
   ⟨"l4", .ada, 89, 24, 72, 12⟩,
   ⟨"l40s", .ada, 89, 48, 350, 30⟩]

/-- Whether the name, already in small letters, contains the key of the row. -/
def matchesLowered (lowered : List Char) (gpu : KnownGpu) : Bool :=
  Text.contains gpu.key.toList lowered

/-- The row that a reported name belongs to. -/
def lookup? (name : String) : Option KnownGpu :=
  table.find? (matchesLowered (Text.lower name.toList))

end KnownGpu

end EnergyAudit
