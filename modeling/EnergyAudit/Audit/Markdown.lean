import EnergyAudit.Audit.Report

/-! # Audit reports in Markdown

A report starts with a summary and groups its findings under a heading for each severity that
occurs, the most serious first.  Findings that are mere hints are kept short. -/

namespace EnergyAudit.Audit

/-- Marks the start of a report, so that a later one can replace it. -/
def marker : String := "<!-- ecocompute-energy-audit -->"

def heading : Severity → String
  | .critical => "### 🔴 Critical Issues"
  | .warning => "### 🟡 Warnings"
  | .info => "### 🟠 Info"

def place (location : SourceLocation) : String :=
  let file := "`" ++ location.file ++ "`"
  match location.line with
  | some line => file ++ " (line " ++ toString line.toNat ++ ")"
  | none => file

/-- The part of the report about one finding. -/
def findingBlock (finding : Finding) : String :=
  let lines :=
    ["**" ++ finding.title ++ "** — " ++ place finding.location,
     "> " ++ finding.description,
     ""]
  let details :=
    ["**Energy impact:** " ++ finding.energyImpact,
     "",
     "**Fix:** " ++ finding.remediation,
     ""]
  Text.unlines (if finding.severity == .info then lines else lines ++ details)

/-- The findings of a severity under their heading; nothing if there are none. -/
def severitySection (findings : List Finding) (severity : Severity) : String :=
  let group := findings.filter (·.severity == severity)
  if group.isEmpty then ""
  else Text.unlines [heading severity, ""] ++ String.join (group.map findingBlock)

/-- What the summary says about the count of a severity. -/
def countPhrase (severity : Severity) (count : UInt64) : String :=
  let number := "**" ++ toString count.toNat ++ "** "
  match severity with
  | .critical => number ++ "critical"
  | .warning => number ++ "warning(s)"
  | .info => number ++ "info"

/-- The counts of the severities that occur. -/
def countPhrases (counts : SeverityCounts) : List String :=
  (Severity.descending.filter (0 < counts.get ·)).map fun severity =>
    countPhrase severity (counts.get severity)

/-- The first words of the summary. -/
def scannedPhrase (report : AuditReport) : String :=
  "Scanned **" ++ toString report.filesScanned.toNat ++ "** file(s). "

end EnergyAudit.Audit

namespace EnergyAudit

namespace AuditReport

def markdown (report : AuditReport) : String :=
  let title := ["## ⚡ EcoCompute Energy Audit", ""]
  if report.findings.isEmpty then
    Text.unlines (title ++
      [Audit.scannedPhrase report ++ "**No energy waste patterns detected.** ✅",
       "",
       "> Your quantization configuration looks good!"])
  else
    Text.unlines (title ++
      [Audit.scannedPhrase report ++ "Found "
        ++ ", ".intercalate (Audit.countPhrases report.counts) ++ ".",
       ""])
    ++ String.join (Severity.descending.map (Audit.severitySection report.findings))
    ++ Text.unlines
      ["---", "", "📊 Based on **93+ measurements** across RTX 4090D / A800 / RTX 5090."]

/-- The report in Markdown behind its marker. -/
def markedMarkdown (report : AuditReport) : String :=
  Audit.marker ++ "\n" ++ report.markdown

end AuditReport

end EnergyAudit
