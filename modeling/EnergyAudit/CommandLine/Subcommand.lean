import EnergyAudit.Estimate.Quantization
import EnergyAudit.Severity

/-! # Subcommands

What the program can be told to do, with the choices that each task leaves open. -/

namespace EnergyAudit

/-- The format of a report. -/
inductive ReportFormat where
  | markdown
  | json
deriving DecidableEq, Repr

namespace ReportFormat

def name : ReportFormat → String
  | .markdown => "markdown"
  | .json => "json"

def ofName? : String → Option ReportFormat
  | "markdown" => some .markdown
  | "json" => some .json
  | _ => none

theorem ofName?_name (format : ReportFormat) : ofName? format.name = some format := by
  cases format <;> rfl

end ReportFormat

/-- What to audit, and how to report it. -/
structure AuditOptions where
  paths : List String := ["."]
  /-- Takes the place of the threshold in the settings. -/
  severity : Option Severity := none
  /-- Takes the place of the greatest number of files in the settings. -/
  maxFiles : Option UInt64 := none
  format : ReportFormat := .markdown
  /-- The file for the report; without it the report is printed. -/
  output : Option String := none
  /-- Findings and a failed gate do not make the run fail. -/
  noFail : Bool := false

/-- What to compare with the baseline. -/
structure CompareOptions where
  audit : AuditOptions := {}
  /-- Makes the run the baseline of its hardware. -/
  save : Bool := false
  /-- Takes the place of the tolerance in the settings. -/
  threshold : Option Float := none
  commit : String := ""
  branch : String := ""

/-- What to estimate. -/
structure EstimateOptions where
  /-- Billions of parameters. -/
  params : Float
  quantization : Quantization := .fp16
  batchSize : UInt32 := 1
  /-- Name of the model; without it the number of parameters stands for it. -/
  model : Option String := none
  format : ReportFormat := .markdown

/-- What the program is told to do. -/
inductive Subcommand where
  | audit (options : AuditOptions)
  | detect (format : ReportFormat)
  | calibrate (format : ReportFormat)
  | compare (options : CompareOptions)
  | estimate (options : EstimateOptions)
  | status

end EnergyAudit
