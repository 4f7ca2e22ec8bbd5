import EnergyAudit.Duration

/-! # Surroundings of a calibration

A calibration looks at a clock, works a compute runtime and reads a power probe.  Each of these may
change the state of the machine, about which nothing else is assumed. -/

namespace EnergyAudit

/-- Why a compute runtime does not do what it is asked for. -/
inductive RuntimeError where
  | unavailable (reason : String)
  | failed (reason : String)
deriving DecidableEq, Repr

def RuntimeError.message : RuntimeError → String
  | .unavailable reason => "Compute runtime unavailable: " ++ reason
  | .failed reason => "Compute runtime error: " ++ reason

/-- A device that multiplies square matrices of a size that it was prepared for. -/
structure ComputeRuntime (σ : Type) where
  name : String
  prepare : UInt64 → σ → Except RuntimeError Unit × σ
  multiply : σ → Except RuntimeError Unit × σ
  release : σ → σ

namespace ComputeRuntime

def missing : RuntimeError := .unavailable "no accelerator compute backend in this build"

def absent (σ : Type) : ComputeRuntime σ where
  name := "none"
  prepare := fun _ state => (.error missing, state)
  multiply := fun state => (.error missing, state)
  release := id

end ComputeRuntime

/-- All that a calibration deals with. -/
structure Surroundings (σ : Type) where
  runtime : ComputeRuntime σ
  /-- Reads the clock. -/
  now : σ → Duration × σ
  /-- Reads the power draw in watts. -/
  power : σ → Option Float × σ
  /-- Lets time pass. -/
  wait : Duration → σ → σ

/-- Reads how much time has passed since a reading of the clock. -/
def Surroundings.elapsed {σ : Type} (s : Surroundings σ) (start : Duration) (state : σ) :
    Duration × σ :=
  let (time, state) := s.now state
  (⟨time.nanoseconds - start.nanoseconds⟩, state)

end EnergyAudit
