import EnergyAudit.Json.Record

/-! # Architectures

The families of graphics processors that reference measurements tell apart. -/

namespace EnergyAudit

/-- A family of graphics processors. -/
inductive Architecture where
  | blackwell
  | ada
  | ampere
  | hopper
  | turing
  | volta
  | unknown
deriving DecidableEq, Repr

namespace Architecture

def name : Architecture → String
  | .blackwell => "blackwell"
  | .ada => "ada"
  | .ampere => "ampere"
  | .hopper => "hopper"
  | .turing => "turing"
  | .volta => "volta"
  | .unknown => "unknown"

/-- Name of the family with a capital letter. -/
def title : Architecture → String
  | .blackwell => "Blackwell"
  | .ada => "Ada"
  | .ampere => "Ampere"
  | .hopper => "Hopper"
  | .turing => "Turing"
  | .volta => "Volta"
  | .unknown => "Unknown"

def ofName? : String → Option Architecture
  | "blackwell" => some .blackwell
  | "ada" => some .ada
  | "ampere" => some .ampere
  | "hopper" => some .hopper
  | "turing" => some .turing
  | "volta" => some .volta
  | "unknown" => some .unknown
  | _ => none

theorem ofName?_name (architecture : Architecture) :
    ofName? architecture.name = some architecture := by
  cases architecture <;> rfl

/-- Energy that the family takes for the same work, in proportion to Ada. -/
def energyScale : Architecture → Float
  | .blackwell => 0.85
  | .ada => 1.0
  | .ampere => 0.77
  | .hopper => 0.65
  | .turing => 1.40
  | .volta => 1.50
  | .unknown => 1.0

def toJson (architecture : Architecture) : Json := .str architecture.name

def ofJson? : Json → Option Architecture := Json.asTag? ofName?

end Architecture

end EnergyAudit
