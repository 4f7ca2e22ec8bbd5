import EnergyAudit.Calibration.Markdown
import EnergyAudit.CommandLine.Compare
import EnergyAudit.CommandLine.Status
import EnergyAudit.Estimate.Markdown

/-! # Execution of subcommands

Every subcommand turns settings and a host into a run. -/

namespace EnergyAudit.CommandLine

namespace Host

/-- Prints the hardware. -/
def detect (host : Host) (settings : Settings) (format : ReportFormat) : Run :=
  let hardware := host.hardware settings.calibration
  let text := match format with
    | .markdown => hardware.markdown
    | .json => hardware.toJson.render
  .reporting host.workspace none text .success

/-- Prints the hardware and its calibration. -/
def calibrate (host : Host) (settings : Settings) (format : ReportFormat) : Run :=
  let hardware := host.hardware settings.calibration
  match host.calibration settings.calibration with
  | none => .stopped .notADuration host.workspace
  | some calibration =>
      let text := match format with
        | .markdown => hardware.markdown ++ calibration.markdown
        | .json =>
            documentText [("hardware", hardware.toJson), ("calibration", calibration.toJson)]
      .reporting host.workspace none text .success

/-- Prints an estimate for the machine. -/
def estimate (host : Host) (settings : Settings) (options : EstimateOptions) : Run :=
  if !options.params.isFinite || options.params ≤ 0.0 then
    .stopped (.parameters options.params) host.workspace
  else
    let hardware := host.hardware settings.calibration
    let estimate :=
      EnergyEstimate.ofModel options.params options.quantization options.batchSize hardware
    let model := options.model.getD (Decimal.plain options.params ++ "B")
    let text := match options.format with
      | .markdown => estimate.markdown model options.batchSize
      | .json =>
          documentText
            [("model", .str model),
             ("batch_size", .ofWord32 options.batchSize),
             ("hardware", hardware.toJson),
             ("estimate", estimate.toJson),
             ("reference_key", .str estimate.referenceKey)]
    .reporting host.workspace none text .success

def execute (host : Host) (settings : Settings) : Subcommand → Run
  | .audit options => host.audit settings options
  | .detect format => host.detect settings format
  | .calibrate format => host.calibrate settings format
  | .compare options => host.compare settings options
  | .estimate options => host.estimate settings options
  | .status => host.status settings

end Host

end EnergyAudit.CommandLine
