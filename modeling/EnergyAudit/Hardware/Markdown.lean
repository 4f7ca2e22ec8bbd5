import EnergyAudit.Decimal.Layout
import EnergyAudit.Hardware.Profile
import EnergyAudit.Text.Lines

/-! # Hardware profiles in Markdown

A table of what is known about the graphics processors, or a remark that there are none. -/

namespace EnergyAudit

/-- The text, or a word for its absence. -/
def orUnknown (text : String) : String :=
  if text == "" then "unknown" else text

namespace HardwareProfile

def sectionStart : List String := ["### 🖥️ Hardware Environment", ""]

/-- The section where there is no graphics processor. -/
def absenceLines : List String :=
  ["> ⚠️ **No GPU detected.** Energy measurement needs an NVIDIA GPU; "
      ++ "this run relies on static analysis and estimation.",
   ""]

/-- The rows on what the table of known models says. -/
def referenceRows (profile : HardwareProfile) : List String :=
  if profile.known then
    ["| TDP | " ++ toString profile.thermalDesignPowerW.toNat ++ "W |",
     "| Reference Data | ✅ Matched |",
     "| Energy Scale Factor | " ++ Decimal.fixed 2 profile.energyScaleFactor ++ "× (vs Ada) |"]
  else ["| Reference Data | ⚠️ Not in reference dataset, estimates may vary |"]

/-- The table of the graphics processors. -/
def tableLines (profile : HardwareProfile) : List String :=
  let family := if profile.known then " (" ++ profile.architecture.title ++ ")" else ""
  ["| Property | Value |",
   "|----------|-------|",
   "| GPU | **" ++ profile.displayName ++ "**" ++ family ++ " |",
   "| GPU Count | " ++ toString profile.instanceCount.toNat ++ " |",
   "| VRAM | " ++ Decimal.fixed 1 (profile.vramTotalMb.toFloat / 1024.0) ++ " GB |",
   "| Driver | " ++ orUnknown profile.driverVersion ++ " |",
   "| CUDA | " ++ orUnknown profile.cudaVersion ++ " |"]
  ++ profile.referenceRows
  ++ ["| Hardware Fingerprint | `" ++ profile.hardwareFingerprint ++ "` |", ""]

def markdown (profile : HardwareProfile) : String :=
  Text.unlines (sectionStart ++ if profile.hasGpu then profile.tableLines else absenceLines)

end HardwareProfile

end EnergyAudit
