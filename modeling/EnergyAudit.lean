import EnergyAudit.Audit.Discovery
import EnergyAudit.Audit.Markdown
import EnergyAudit.Audit.Report
import EnergyAudit.Baseline
import EnergyAudit.Baseline.Document
import EnergyAudit.Baseline.Store
import EnergyAudit.Calibration.Benchmark
import EnergyAudit.Calibration.Calibrate
import EnergyAudit.Calibration.Markdown
import EnergyAudit.Calibration.Result
import EnergyAudit.Calibration.Surroundings
import EnergyAudit.CommandLine.Audit
import EnergyAudit.CommandLine.Compare
import EnergyAudit.CommandLine.Execute
import EnergyAudit.CommandLine.Invocation
import EnergyAudit.CommandLine.Options
import EnergyAudit.CommandLine.Program
import EnergyAudit.CommandLine.Run
import EnergyAudit.CommandLine.Status
import EnergyAudit.CommandLine.Subcommand
import EnergyAudit.Count
import EnergyAudit.Decimal.Binary64
import EnergyAudit.Decimal.Layout
import EnergyAudit.Decimal.Reading
import EnergyAudit.Decimal.Shortest
import EnergyAudit.Digest.Sha256
import EnergyAudit.Duration
import EnergyAudit.Estimate.Energy
import EnergyAudit.Estimate.Markdown
import EnergyAudit.Estimate.Quantization
import EnergyAudit.Estimate.Reference
import EnergyAudit.Files.Path
import EnergyAudit.Files.Tree
import EnergyAudit.Files.Workspace
import EnergyAudit.Finding
import EnergyAudit.Hardware.Architecture
import EnergyAudit.Hardware.Detection
import EnergyAudit.Hardware.KnownGpu
import EnergyAudit.Hardware.Markdown
import EnergyAudit.Hardware.Profile
import EnergyAudit.Json.Diagnosis
import EnergyAudit.Json.Fault
import EnergyAudit.Json.Mismatch
import EnergyAudit.Json.Number
import EnergyAudit.Json.Parser
import EnergyAudit.Json.Printer
import EnergyAudit.Json.Record
import EnergyAudit.Json.Token
import EnergyAudit.Json.Value
import EnergyAudit.Pattern
import EnergyAudit.Probe.Command
import EnergyAudit.Probe.Machine
import EnergyAudit.Probe.Output
import EnergyAudit.Regression
import EnergyAudit.Regression.Markdown
import EnergyAudit.Rule
import EnergyAudit.Rule.Flags
import EnergyAudit.Rule.GenerationLoop
import EnergyAudit.Rule.Placement
import EnergyAudit.Rule.SmallModel
import EnergyAudit.Rule.Source
import EnergyAudit.Settings
import EnergyAudit.Settings.Conversion
import EnergyAudit.Settings.Environment
import EnergyAudit.Settings.EnvironmentFile
import EnergyAudit.Settings.File
import EnergyAudit.Settings.Layer
import EnergyAudit.Settings.Load
import EnergyAudit.Settings.Value
import EnergyAudit.Severity
import EnergyAudit.SortedMap
import EnergyAudit.Text.Alphanumeric
import EnergyAudit.Text.Blank
import EnergyAudit.Text.Cased
import EnergyAudit.Text.DecimalDigit
import EnergyAudit.Text.Lines
import EnergyAudit.Text.Lowercase
import EnergyAudit.Text.Quoted
import EnergyAudit.Text.Utf8
import EnergyAudit.Text.Word
import EnergyAudit.Timestamp
import EnergyAudit.Toml.Document
import EnergyAudit.Toml.Lexical
import EnergyAudit.Toml.Moment
import EnergyAudit.Toml.Parser
import EnergyAudit.Toml.Scalar
import EnergyAudit.Proofs.Audit.Prescan
import EnergyAudit.Proofs.Pattern.Words
import EnergyAudit.Proofs.Pattern.Pieces
import EnergyAudit.Proofs.Text.Lines
import EnergyAudit.Proofs.Text.Lowercase
import EnergyAudit.Proofs.Text.Order
import EnergyAudit.Proofs.Json.Text
import EnergyAudit.Proofs.Json.Number
import EnergyAudit.Proofs.Json.RoundTrip
import EnergyAudit.Proofs.SortedMap
import EnergyAudit.Proofs.Baseline.RoundTrip
import EnergyAudit.Proofs.Files.Tree
import EnergyAudit.Proofs.Files.Way
import EnergyAudit.Proofs.Files.Path
import EnergyAudit.Proofs.Files.Directories
import EnergyAudit.Proofs.Baseline.Save
import EnergyAudit.Proofs.Baseline.Choice
import EnergyAudit.Proofs.Baseline.History
import EnergyAudit.Proofs.Double.Parts
import EnergyAudit.Proofs.Double
import EnergyAudit.Proofs.Duration
import EnergyAudit.Proofs.Count
import EnergyAudit.Proofs.Hardware.Fingerprint
import EnergyAudit.Proofs.Regression.Comparison
import EnergyAudit.Proofs.Regression.Unchanged
import EnergyAudit.Proofs.Audit.Aggregation
import EnergyAudit.Proofs.Audit.Permutation
import EnergyAudit.Proofs.Text.LineEnds
import EnergyAudit.Proofs.Audit.LineEnds
import EnergyAudit.Proofs.Calibration.WithoutRuntime
import EnergyAudit.Proofs.Audit.Counts
import EnergyAudit.Proofs.Regression.Gate
import EnergyAudit.Proofs.Settings.Validation
import EnergyAudit.Proofs.CommandLine.Gate
import EnergyAudit.Proofs.Files.Outline
import EnergyAudit.Proofs.Files.Write
import EnergyAudit.Proofs.CommandLine.Threshold
import EnergyAudit.Proofs.Audit.LineNumbers
import EnergyAudit.Proofs.Double.Range
import EnergyAudit.Proofs.Json.Range
import EnergyAudit.Proofs.Json.Members
import EnergyAudit.Proofs.Baseline.Layout
import EnergyAudit.Proofs.Text.SmallForms
import EnergyAudit.Proofs.Json.Fields
import EnergyAudit.Proofs.Estimate.Labels
import EnergyAudit.Proofs.Records
import EnergyAudit.Proofs.CommandLine.Exit
import EnergyAudit.Proofs.Hardware.KnownGpu
import EnergyAudit.Proofs.Regression.Verdict
import EnergyAudit.Proofs.Regression.Decision
import EnergyAudit.Proofs.Regression.Deltas
import EnergyAudit.Proofs.Decimal.Shortest
import EnergyAudit.Proofs.Json.Numeral
import EnergyAudit.Proofs.Double.Rounding
import EnergyAudit.Proofs.Double.Exact
import EnergyAudit.Proofs.Double.Text
import EnergyAudit.Proofs.Baseline.Reread
import EnergyAudit.Proofs.Baseline.Kept
import EnergyAudit.Proofs.Rule.GenerationLoop
import EnergyAudit.Proofs.Rule.AppendedCode
import EnergyAudit.Proofs.Files.Plain
import EnergyAudit.Proofs.Audit.Discovery
import EnergyAudit.Proofs.Rule.FirstLine
import EnergyAudit.Proofs.Rule.Flags
import EnergyAudit.Proofs.Rule.Edits
import EnergyAudit.Proofs.Rule.Loading
import EnergyAudit.Proofs.Rule.Placement
import EnergyAudit.Proofs.Rule.ZeroThreshold
import EnergyAudit.Proofs.Rule.LineOrder
import EnergyAudit.Proofs.Audit.Shards
import EnergyAudit.Proofs.Audit.Reached
import EnergyAudit.Proofs.Audit.First
import EnergyAudit.Proofs.Baseline.Failure
import EnergyAudit.Proofs.Audit.Isolation
import EnergyAudit.Proofs.Audit.Sections
import EnergyAudit.Proofs.Regression.Section
import EnergyAudit.Proofs.Calibration.Method
import EnergyAudit.Proofs.Text.Padding
import EnergyAudit.Proofs.Calibration.Protocol
import EnergyAudit.Proofs.Probe.Listing
import EnergyAudit.Proofs.Estimate.Citation
import EnergyAudit.Proofs.Rule.SmallModel
import EnergyAudit.Proofs.Settings.Layers
import EnergyAudit.Proofs.Settings.Precedence
