import EnergyAudit.Audit.Discovery
import EnergyAudit.Audit.Markdown
import EnergyAudit.CommandLine.Run
import EnergyAudit.CommandLine.Subcommand

/-! # Audits on request

An audit looks at the files below its paths.  It fails on critical findings, if the settings want
that. -/

namespace EnergyAudit

/-- The settings with the choices of the command line in their place. -/
def AuditOptions.applyTo (options : AuditOptions) (settings : AuditSettings) : AuditSettings :=
  { settings with
    severityThreshold := options.severity.getD settings.severityThreshold
    maxFiles := options.maxFiles.getD settings.maxFiles }

/-- The report on the files below the paths. -/
def AuditOptions.report (options : AuditOptions) (w : Workspace) (settings : AuditSettings) :
    AuditReport :=
  let settings := options.applyTo settings
  let files := Audit.discover w ⟨settings.extensions, settings.maxFiles.toNat⟩ options.paths
  Audit.run w Rule.all files settings.severityThreshold

namespace CommandLine

/-- What an audit makes of a run. -/
def Outcome.ofAudit (options : AuditOptions) (settings : AuditSettings) (report : AuditReport) :
    Outcome :=
  if report.hasCritical && settings.failOnCritical && !options.noFail then .failed else .success

def Host.audit (host : Host) (settings : Settings) (options : AuditOptions) : Run :=
  let report := options.report host.workspace settings.audit
  let text := match options.format with
    | .markdown => report.markdown
    | .json => report.jsonText
  .reporting host.workspace options.output text (.ofAudit options settings.audit report)

end CommandLine

end EnergyAudit
