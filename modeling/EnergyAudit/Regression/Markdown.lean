import EnergyAudit.Hardware.Markdown
import EnergyAudit.Regression

/-! # Changes in Markdown

The verdict of the gate, a table of the figures before and after, and warnings where they are to be
taken with care. -/

namespace EnergyAudit.RelativeChange

/-- A signed number, with a plus sign if it is positive. -/
def withSign (n : Int64) : String :=
  if 0 < n then "+" ++ Regression.signedText n else Regression.signedText n

def countRow? (title : String) (before : UInt64) (delta : Int64) : Option String :=
  (Count.changed? before delta).map fun after =>
    "| " ++ title ++ " | " ++ toString before.toNat ++ " | " ++ Regression.signedText after
      ++ " | " ++ withSign delta ++ " |"

def energyRows (change : RelativeChange) (baseline : Baseline) : List String :=
  if change.energyChangePct != 0.0 then
    let before := baseline.energyPerTflopJoules
    let after := before * (1.0 + change.energyChangePct / 100.0)
    ["| Energy/TFLOP | " ++ Decimal.fixed 1 before ++ " J | " ++ Decimal.fixed 1 after ++ " J | "
      ++ (if change.energyChangePct > 0.0 then "📈" else "📉") ++ " "
      ++ Decimal.fixedSigned 1 change.energyChangePct ++ "% |"]
  else []

def throughputRows (change : RelativeChange) (baseline : Baseline) : List String :=
  if change.benchmarkChangePct != 0.0 then
    ["| Throughput | " ++ Decimal.fixed 1 baseline.benchmarkScoreTflops ++ " TFLOPS | | "
      ++ Decimal.fixedSigned 1 (-change.benchmarkChangePct) ++ "% |"]
  else []

/-- The warning that the baseline is from other hardware, or of another method. -/
def confidenceLines (change : RelativeChange) (baseline : Baseline) : List String :=
  if !change.sameHardware then
    ["",
     "⚠️ **Hardware changed** since baseline (was `" ++ orUnknown baseline.gpuName
      ++ "`, fingerprint `" ++ orUnknown baseline.hardwareFingerprint
      ++ "`). Comparison may be affected."]
  else if change.lowConfidence then
    ["",
     "⚠️ Baseline was calibrated with a different method. Energy figures are approximate."]
  else []

/-- The warning that throughput is lost without failing the gate. -/
def gapLines (change : RelativeChange) : List String :=
  if change.throughputGap then
    ["",
     "⚠️ Throughput dropped by " ++ Decimal.fixed 1 change.benchmarkChangePct
      ++ "% but no energy data is available to gate on."]
  else []

/-- Where the baseline comes from; of the commit, its first seven characters. -/
def originLines (baseline : Baseline) : List String :=
  let commit := String.ofList (baseline.commitSha.toList.take 7)
  ["",
   "*Baseline from commit `" ++ orUnknown commit ++ "` on `" ++ orUnknown baseline.branch ++ "` ("
    ++ orUnknown baseline.timestamp ++ ")*",
   ""]

def comparisonLines? (change : RelativeChange) (baseline : Baseline) : Option (List String) := do
  let issuesRow ← countRow? "Issues" baseline.totalIssues change.issuesDelta
  let criticalRow ← countRow? "Critical" baseline.criticalCount change.criticalDelta
  return ["**Status: " ++ (if change.passed then "✅ PASSED" else "❌ FAILED") ++ "**",
   "",
   "> " ++ change.reason,
   "",
   "| Metric | Baseline | Current | Change |",
   "|--------|----------|---------|--------|",
   issuesRow,
   criticalRow]
  ++ change.energyRows baseline ++ change.throughputRows baseline
  ++ change.confidenceLines baseline ++ change.gapLines ++ originLines baseline

/-- The lines under the heading. -/
def bodyLines? (change : RelativeChange) (baseline : Option Baseline) : Option (List String) :=
  match change.hasBaseline, baseline with
  | true, some baseline => change.comparisonLines? baseline
  | _, _ => some ["> " ++ change.reason, ""]

/-- The change in Markdown, unless a count goes beyond the numbers of 64 bits by it. -/
def markdown? (change : RelativeChange) (baseline : Option Baseline) : Option String :=
  (change.bodyLines? baseline).map fun lines =>
    Text.unlines (["### 📈 Relative Change (vs Baseline)", ""] ++ lines)

end EnergyAudit.RelativeChange
