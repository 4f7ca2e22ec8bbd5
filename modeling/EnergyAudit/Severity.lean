import EnergyAudit.Count
import EnergyAudit.Json.Record
import EnergyAudit.Text.Blank
import EnergyAudit.Text.Lowercase

/-! # Severities

The three grades of a finding, in increasing order, with the names and the counts of them. -/

namespace EnergyAudit

/-- How serious a finding is. -/
inductive Severity where
  | info
  | warning
  | critical
deriving DecidableEq, Repr

namespace Severity

/-- All severities, the most serious first. -/
def descending : List Severity := [.critical, .warning, .info]

/-- Position in the order of severities. -/
def rank : Severity → Nat
  | .info => 0
  | .warning => 1
  | .critical => 2

/-- Whether a finding of this severity is reported at the threshold. -/
def meets (severity threshold : Severity) : Bool :=
  threshold.rank ≤ severity.rank

/-- The more serious of the two. -/
def max (a b : Severity) : Severity :=
  if a.rank ≤ b.rank then b else a

def name : Severity → String
  | .info => "info"
  | .warning => "warning"
  | .critical => "critical"

/-- Name of the severity with its sign. -/
def label : Severity → String
  | .info => "🟠 Info"
  | .warning => "🟡 Warning"
  | .critical => "🔴 Critical"

def ofName? : String → Option Severity
  | "info" => some .info
  | "warning" => some .warning
  | "critical" => some .critical
  | _ => none

/-- A text that names no severity. -/
structure Unrecognized where
  text : String
deriving DecidableEq, Repr

/-- The complaint about a text that names no severity. -/
def Unrecognized.message (e : Unrecognized) : String :=
  "invalid severity '" ++ e.text ++ "': expected one of info, warning, critical"

/-- The severity that the text names in any case, with blanks around it; `warn` does as well. -/
def parse (text : String) : Except Unrecognized Severity :=
  match String.ofList (Text.lower (Text.trim text.toList)) with
  | "info" => .ok .info
  | "warning" => .ok .warning
  | "warn" => .ok .warning
  | "critical" => .ok .critical
  | _ => .error ⟨text⟩

theorem ofName?_name (severity : Severity) : ofName? severity.name = some severity := by
  cases severity <;> rfl

theorem rank_injective {a b : Severity} (h : a.rank = b.rank) : a = b := by
  cases a <;> cases b <;> simp_all [rank]

def toJson (severity : Severity) : Json := .str severity.name

def ofJson? : Json → Option Severity := Json.asTag? ofName?

end Severity

/-- How many findings there are of each severity, in 64-bit words. -/
structure SeverityCounts where
  critical : UInt64
  warning : UInt64
  info : UInt64
deriving DecidableEq, Repr

namespace SeverityCounts

def zero : SeverityCounts := ⟨0, 0, 0⟩

/-- One more finding of the severity. -/
def count (counts : SeverityCounts) : Severity → SeverityCounts
  | .critical => { counts with critical := counts.critical + 1 }
  | .warning => { counts with warning := counts.warning + 1 }
  | .info => { counts with info := counts.info + 1 }

def tally (severities : List Severity) : SeverityCounts :=
  severities.foldl count zero

def get (counts : SeverityCounts) : Severity → UInt64
  | .critical => counts.critical
  | .warning => counts.warning
  | .info => counts.info

/-- All findings together, unless they are more than a word can hold. -/
def total? (counts : SeverityCounts) : Option UInt64 :=
  (Count.sum? counts.critical counts.warning).bind (Count.sum? · counts.info)

def toJson (counts : SeverityCounts) : Json :=
  .obj [("critical", .ofWord64 counts.critical), ("warning", .ofWord64 counts.warning),
    ("info", .ofWord64 counts.info)]

def ofJson? (value : Json) : Option SeverityCounts := do
  let [critical, warning, info] ←
    Json.fields? false [Json.field "critical", Json.field "warning", Json.field "info"] value
    | none
  return {
    critical := ← Json.required Json.asWord64? critical
    warning := ← Json.required Json.asWord64? warning
    info := ← Json.required Json.asWord64? info }

end SeverityCounts

end EnergyAudit
