import EnergyAudit.Finding
import EnergyAudit.Text.Lowercase
import EnergyAudit.Text.Lines
import EnergyAudit.Rule
import EnergyAudit.Json.Printer

/-! # Audit reports

An audit scans files with a list of rules and reports what they find, along with how many files were
given, left out by the prescan, and unreadable.  The prescan leaves out a file that mentions none of
a few keywords, since no rule can fire there.  Findings are filtered by a threshold and put in
order: the most serious first, then by file name.  Findings alike in both keep the order in which
they were found. -/

namespace EnergyAudit

namespace Audit

/-- The keywords of the loading and generation interfaces, in small letters. -/
def keywords : List (List Char) :=
  ["bitsandbytesconfig", "load_in_8bit", "load_in_4bit", "quantization_config", "from_pretrained",
    ".generate(", "bnb_4bit", "llm_int8"].map String.toList

/-- Whether the source mentions a keyword, in any mixture of case. -/
def needsScan (source : List Char) : Bool :=
  let lowered := Text.lower source
  keywords.any fun keyword => Text.contains keyword lowered

/-- Whether `a` may stand before `b`: it is more serious, or as serious in a file no later by
name. -/
def inOrder (a b : Finding) : Bool :=
  b.severity.rank < a.severity.rank || (a.severity == b.severity && !decide (b.file < a.file))

def aggregate (findings : List Finding) (threshold : Severity) : List Finding :=
  (findings.filter (·.severity.meets threshold)).mergeSort inOrder

def counts (findings : List Finding) : SeverityCounts :=
  SeverityCounts.tally (findings.map (·.severity))

/-- What the rules, in turn, report about a source. -/
def scan (rules : List Rule) (source : List Char) (file : String) : List Finding :=
  rules.flatMap fun rule => rule.check source file

/-- A file handed to the audit: its name, and its text if it can be read. -/
structure SourceFile where
  name : String
  text : Option String

/-- What the audit of one file came to. -/
inductive Outcome where
  | unreadable
  | skipped
  | scanned (findings : List Finding)

def auditFile (rules : List Rule) (file : SourceFile) : Outcome :=
  match file.text with
  | none => .unreadable
  | some text =>
      if needsScan text.toList then .scanned (scan rules text.toList file.name) else .skipped

def Outcome.findings : Outcome → List Finding
  | .scanned findings => findings
  | _ => []

/-- Whether the prescan left the file out. -/
def Outcome.isSkipped : Outcome → Bool
  | .skipped => true
  | _ => false

/-- Whether the file could not be read. -/
def Outcome.isUnreadable : Outcome → Bool
  | .unreadable => true
  | _ => false

end Audit

/-- The result of an audit. -/
@[ext]
structure AuditReport where
  findings : List Finding
  filesScanned : UInt64
  filesSkipped : UInt64
  filesFailed : UInt64
  threshold : Severity
  counts : SeverityCounts
deriving DecidableEq, Repr

namespace AuditReport

/-- Audits the files with the rules and keeps the findings that meet the threshold. -/
def ofFiles (rules : List Rule) (files : List Audit.SourceFile) (threshold : Severity) :
    AuditReport :=
  let outcomes := files.map (Audit.auditFile rules)
  let findings := Audit.aggregate (outcomes.flatMap (·.findings)) threshold
  { findings
    filesScanned := .ofNat files.length
    filesSkipped := .ofNat (outcomes.countP (·.isSkipped))
    filesFailed := .ofNat (outcomes.countP (·.isUnreadable))
    threshold
    counts := Audit.counts findings }

def hasCritical (report : AuditReport) : Bool := 0 < report.counts.critical

def total (report : AuditReport) : Nat := report.findings.length

def fieldNames : List Json.FieldNames :=
  ["findings", "files_scanned", "files_skipped", "files_failed", "threshold",
    "counts"].map Json.field

def toJson (report : AuditReport) : Json :=
  .obj [("findings", .arr (report.findings.map Finding.toJson)),
    ("files_scanned", .ofWord64 report.filesScanned),
    ("files_skipped", .ofWord64 report.filesSkipped),
    ("files_failed", .ofWord64 report.filesFailed),
    ("threshold", report.threshold.toJson), ("counts", report.counts.toJson)]

def ofJson? (value : Json) : Option AuditReport := do
  let [findings, filesScanned, filesSkipped, filesFailed, threshold, counts] ←
    Json.fields? false fieldNames value
    | none
  return {
    findings := ← Json.required (Json.asList? Finding.ofJson?) findings
    filesScanned := ← Json.required Json.asWord64? filesScanned
    filesSkipped := ← Json.required Json.asWord64? filesSkipped
    filesFailed := ← Json.required Json.asWord64? filesFailed
    threshold := ← Json.required Severity.ofJson? threshold
    counts := ← Json.required SeverityCounts.ofJson? counts }

def jsonText (report : AuditReport) : String := report.toJson.render

end AuditReport

end EnergyAudit
