import EnergyAudit.Severity

/-! # Findings

A finding says which rule fired, where, and what to do about it. -/

namespace EnergyAudit

/-- A place in a source file. -/
structure SourceLocation where
  file : String
  line : Option UInt64
deriving DecidableEq, Repr

namespace SourceLocation

/-- The file, with the line behind a colon. -/
def display (location : SourceLocation) : String :=
  match location.line with
  | some line => location.file ++ ":" ++ toString line.toNat
  | none => location.file

def toJson (location : SourceLocation) : Json :=
  match location.line with
  | some line => .obj [("file", .str location.file), ("line", .ofWord64 line)]
  | none => .obj [("file", .str location.file)]

def ofJson? (value : Json) : Option SourceLocation := do
  let [file, line] ← Json.fields? false [Json.field "file", Json.field "line"] value | none
  return {
    file := ← Json.required Json.asString? file
    line := ← Json.optional Json.asWord64? line }

end SourceLocation

/-- What a rule reports about a file. -/
structure Finding where
  ruleId : String
  severity : Severity
  title : String
  description : String
  remediation : String
  location : SourceLocation
  energyImpact : String
deriving DecidableEq, Repr

namespace Finding

def file (finding : Finding) : String := finding.location.file

def line (finding : Finding) : Option UInt64 := finding.location.line

def toJson (finding : Finding) : Json :=
  .obj [("rule_id", .str finding.ruleId), ("severity", finding.severity.toJson),
    ("title", .str finding.title), ("description", .str finding.description),
    ("remediation", .str finding.remediation), ("location", finding.location.toJson),
    ("energy_impact", .str finding.energyImpact)]

def fieldNames : List Json.FieldNames :=
  ["rule_id", "severity", "title", "description", "remediation", "location",
    "energy_impact"].map Json.field

def ofJson? (value : Json) : Option Finding := do
  let [ruleId, severity, title, description, remediation, location, energyImpact] ←
    Json.fields? false fieldNames value
    | none
  return {
    ruleId := ← Json.required Json.asString? ruleId
    severity := ← Json.required Severity.ofJson? severity
    title := ← Json.required Json.asString? title
    description := ← Json.required Json.asString? description
    remediation := ← Json.required Json.asString? remediation
    location := ← Json.required SourceLocation.ofJson? location
    energyImpact := ← Json.required Json.asString? energyImpact }

end Finding

end EnergyAudit
