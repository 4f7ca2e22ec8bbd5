import EnergyAudit.CommandLine.Run
import EnergyAudit.Rule

/-! # Status

The status lists the settings of an audit, the rules and the baselines that are stored. -/

namespace EnergyAudit.CommandLine

def version : String := "0.1.0"

def auditLines (settings : AuditSettings) : List String :=
  ["Audit:",
   "  Severity threshold: " ++ settings.severityThreshold.name,
   "  Max files: " ++ toString settings.maxFiles.toNat,
   "  Extensions: " ++ ", ".intercalate settings.extensions,
   "  Rules:"]
  ++ Rule.all.map fun rule => "    - " ++ rule.id ++ " (" ++ rule.severity.name ++ ")"

def baselineLine (key : String) (baseline : Baseline) : String :=
  "    - " ++ key ++ " " ++ baseline.gpuName ++ " (" ++ baseline.timestamp ++ ", "
    ++ toString baseline.totalIssues.toNat ++ " issue(s))"

def storedLines : Except StoreError (Option BaselineDocument) → List String
  | .ok none => ["  No baselines stored"]
  | .ok (some document) =>
      if document.baselines.entries.isEmpty then ["  No baselines stored"]
      else document.baselines.entries.map fun (key, baseline) => baselineLine key baseline
  | .error e => ["  Unreadable: " ++ e.message]

def Host.statusText (host : Host) (settings : Settings) : String :=
  let store := host.store settings.baseline
  Text.unlines
    (["EcoCompute Energy Audit", "Version: " ++ version, ""]
    ++ auditLines settings.audit
    ++ ["",
        "Baselines:",
        "  Path: " ++ store.path,
        "  Regression threshold: " ++ Decimal.fixed 1 settings.baseline.regressionThresholdPct
          ++ "%"]
    ++ storedLines (store.read host.workspace))

def Host.status (host : Host) (settings : Settings) : Run :=
  { result := .ok .success, output := host.statusText settings, workspace := host.workspace }

end EnergyAudit.CommandLine
