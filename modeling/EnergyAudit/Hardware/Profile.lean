import EnergyAudit.Digest.Sha256
import EnergyAudit.Hardware.KnownGpu

/-! # Hardware profiles

A profile describes the graphics processors of a machine: what the machine reports about them, and
what the table of known models adds.  Its fingerprint tells machines apart by name, driver and
memory, and nothing else. -/

namespace EnergyAudit

/-- What a machine reports about its graphics processors. -/
structure GpuQuery where
  name : String
  driverVersion : String
  vramTotalMb : UInt64
  count : UInt32
deriving DecidableEq, Repr

/-- The text that stands for a machine: name, driver and memory between bars. -/
def machineText (name driverVersion : String) (vramTotalMb : UInt64) : String :=
  name ++ "|" ++ driverVersion ++ "|" ++ toString vramTotalMb.toNat

/-- Number of digits of a fingerprint. -/
def fingerprintLength : Nat := 12

/-- The first digits of the digest of the text that stands for a machine. -/
def fingerprint (name driverVersion : String) (vramTotalMb : UInt64) : String :=
  let text := machineText name driverVersion vramTotalMb
  String.ofList ((Sha256.hex text.toUTF8.toList).take fingerprintLength)

/-- What is known about the graphics processors of a machine.  Powers are in watts and memory in
mebibytes; a zero or an empty text stands for what is not known. -/
structure HardwareProfile where
  displayName : String
  instanceCount : UInt32
  driverVersion : String
  cudaVersion : String
  vramTotalMb : UInt64
  architecture : Architecture
  /-- Whether the table has a row for the name. -/
  known : Bool
  thermalDesignPowerW : UInt32
  idlePowerW : UInt32
  energyScaleFactor : Float
  hardwareFingerprint : String

namespace HardwareProfile

/-- Name of a machine without graphics processors. -/
def noGpuName : String := "No GPU detected"

/-- The profile of a machine without graphics processors. -/
def noGpu : HardwareProfile where
  displayName := noGpuName
  instanceCount := 0
  driverVersion := ""
  cudaVersion := ""
  vramTotalMb := 0
  architecture := .unknown
  known := false
  thermalDesignPowerW := 0
  idlePowerW := 0
  energyScaleFactor := 1.0
  hardwareFingerprint := fingerprint noGpuName "" 0

/-- Whether there is a graphics processor. -/
def hasGpu (profile : HardwareProfile) : Bool := 0 < profile.instanceCount

/-- The profile with what the table says about its name. -/
def withTable (profile : HardwareProfile) : HardwareProfile :=
  match KnownGpu.lookup? profile.displayName with
  | none => profile
  | some gpu =>
      { profile with
        architecture := gpu.architecture
        known := true
        thermalDesignPowerW := gpu.tdpW
        idlePowerW := gpu.idleW
        energyScaleFactor := gpu.architecture.energyScale }

/-- The profile of a machine that gave these answers.  Whoever answers has at least one
processor. -/
def resolve (query : Option GpuQuery) (cudaVersion : Option String) : HardwareProfile :=
  match query with
  | none => noGpu
  | some query =>
      withTable
        { noGpu with
          displayName := query.name
          instanceCount := if query.count == 0 then 1 else query.count
          driverVersion := query.driverVersion
          cudaVersion := cudaVersion.getD ""
          vramTotalMb := query.vramTotalMb
          hardwareFingerprint := fingerprint query.name query.driverVersion query.vramTotalMb }

def fieldNames : List Json.FieldNames :=
  ["display_name", "instance_count", "driver_version", "cuda_version", "vram_total_mb",
    "architecture", "known", "thermal_design_power_w", "idle_power_w", "energy_scale_factor",
    "hardware_fingerprint"].map Json.field

def toJson (profile : HardwareProfile) : Json :=
  .obj [("display_name", .str profile.displayName),
    ("instance_count", .ofWord32 profile.instanceCount),
    ("driver_version", .str profile.driverVersion),
    ("cuda_version", .str profile.cudaVersion),
    ("vram_total_mb", .ofWord64 profile.vramTotalMb),
    ("architecture", profile.architecture.toJson),
    ("known", .bool profile.known),
    ("thermal_design_power_w", .ofWord32 profile.thermalDesignPowerW),
    ("idle_power_w", .ofWord32 profile.idlePowerW),
    ("energy_scale_factor", .float profile.energyScaleFactor),
    ("hardware_fingerprint", .str profile.hardwareFingerprint)]

def ofJson? (value : Json) : Option HardwareProfile := do
  let [displayName, instanceCount, driverVersion, cudaVersion, vramTotalMb, architecture, known,
      thermalDesignPowerW, idlePowerW, energyScaleFactor, hardwareFingerprint] ←
    Json.fields? false fieldNames value
    | none
  return {
    displayName := ← Json.required Json.asString? displayName
    instanceCount := ← Json.required Json.asWord32? instanceCount
    driverVersion := ← Json.required Json.asString? driverVersion
    cudaVersion := ← Json.required Json.asString? cudaVersion
    vramTotalMb := ← Json.required Json.asWord64? vramTotalMb
    architecture := ← Json.required Architecture.ofJson? architecture
    known := ← Json.required Json.asBool? known
    thermalDesignPowerW := ← Json.required Json.asWord32? thermalDesignPowerW
    idlePowerW := ← Json.required Json.asWord32? idlePowerW
    energyScaleFactor := ← Json.required Json.asDouble? energyScaleFactor
    hardwareFingerprint := ← Json.required Json.asString? hardwareFingerprint }

end HardwareProfile

end EnergyAudit
