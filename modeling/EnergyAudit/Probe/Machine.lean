import EnergyAudit.Hardware.Detection
import EnergyAudit.Probe.Command
import EnergyAudit.Probe.Output

/-! # Machines

A machine is known by what comes of each command that is started on it, which may hang on how many
were started before.  Its graphics processors are asked through the driver's tool, and the toolkit
version also through the compiler. -/

namespace EnergyAudit

/-- What comes of starting a command after so many others. -/
structure Machine where
  launch : Nat → Command → Launch

/-- How long the tools may take. -/
structure ProbeLimits where
  detection : Duration := .ofMilliseconds 10000
  power : Duration := .ofMilliseconds 2000

namespace Machine

/-- The machine on which no program can be started. -/
def bare : Machine := ⟨fun _ _ => .refused .noSuchFile⟩

def run (machine : Machine) (earlier : Nat) (limit : Duration) (command : Command) : ProbeRun :=
  (machine.launch earlier command).await command limit

/-- Asks for name, driver, memory and count of the devices. -/
def queryCommand : Command :=
  ⟨"nvidia-smi",
    ["--query-gpu=name,driver_version,memory.total,count", "--format=csv,noheader,nounits"]⟩

def bannerCommand : Command := ⟨"nvidia-smi", []⟩

/-- Asks for the release of the compiler. -/
def compilerCommand : Command := ⟨"nvcc", ["--version"]⟩

/-- Asks for the power draw. -/
def powerCommand : Command :=
  ⟨"nvidia-smi", ["--query-gpu=power.draw", "--format=csv,noheader,nounits"]⟩

def ask {α : Type} (machine : Machine) (earlier : Nat) (limit : Duration) (command : Command)
    (read : List Char → Option α) : Option α :=
  match (machine.run earlier limit command).result with
  | .ok output => read output.toList
  | .error _ => none

/-- The answers about the hardware, which are the first that the machine is asked for. -/
def answers (machine : Machine) (limits : ProbeLimits) : MachineAnswers where
  query := machine.ask 0 limits.detection queryCommand Probe.gpuQuery?
  toolkit := machine.ask 1 limits.detection bannerCommand Probe.bannerVersion?
  fallback := machine.ask 2 limits.detection compilerCommand Probe.releaseVersion?

/-- The power draw in watts. -/
def power (machine : Machine) (earlier : Nat) (limits : ProbeLimits) : Option Float :=
  machine.ask earlier limits.power powerCommand Probe.powerDraw?

/-- How long it takes to ask for the power draw. -/
def powerTime (machine : Machine) (earlier : Nat) (limits : ProbeLimits) : Duration :=
  (machine.run earlier limits.power powerCommand).time

end Machine

end EnergyAudit
