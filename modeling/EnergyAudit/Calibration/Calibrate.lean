import EnergyAudit.Calibration.Benchmark
import EnergyAudit.Hardware.Profile

/-! # Calibration

Calibration takes the first source that yields something: the compute benchmark, power draws read at
a fixed interval, and the middle between the greatest and the idle power of a known model.  Without
a graphics processor it measures nothing. -/

namespace EnergyAudit

namespace PowerSampling

variable {σ : Type}

/-- Reads the power draw while less time than the budget has passed; `none` if that is so forever.
The samples come last one first, with the state of the machine after them. -/
def samples (s : Surroundings σ) (start budget interval : Duration) (sampled : List Float)
    (m : σ) : Option (List Float × σ) :=
  let (passed, state) := s.elapsed start m
  if budget.nanoseconds ≤ passed.nanoseconds then some (sampled, state)
  else
    let (sample, state) := s.power state
    let again := samples s start budget interval (m := s.wait interval state)
    again (sample.toList ++ sampled)
partial_fixpoint

/-- The mean of the samples, in the time that they took. -/
def finish (s : Surroundings σ) (start : Duration) (sampled : List Float) (state : σ) :
    CalibrationResult × σ :=
  let result := CalibrationResult.empty .powerSampling
  if sampled.isEmpty then (result, state)
  else
    let (passed, state) := s.elapsed start state
    ({ result with
        avgPowerDrawW := mean sampled.reverse
        durationS := passed.toSeconds }, state)

/-- The mean power draw over the time of the settings, if that is a duration and comes to an end. -/
def run (s : Surroundings σ) (settings : CalibrationSettings) (state : σ) :
    Option (CalibrationResult × σ) :=
  settings.powerSamplingDuration?.bind fun budget =>
    let (start, state) := s.now state
    (samples s start budget settings.samplingInterval [] state).map fun (sampled, state) =>
      finish s start sampled state

end PowerSampling

/-- The middle between the greatest and the idle power of a profile. -/
def HardwareProfile.powerMidpoint (profile : HardwareProfile) : Float :=
  (profile.thermalDesignPowerW.toFloat + profile.idlePowerW.toFloat) / 2.0

/-- The result without any measurement. -/
def HardwareProfile.estimatedResult (profile : HardwareProfile) : CalibrationResult :=
  if profile.known then
    { CalibrationResult.empty .estimated with avgPowerDrawW := profile.powerMidpoint }
  else .empty .none

/-- Calibrates a machine; `none` if a time that is needed is no duration, or never over. -/
def calibrate {σ : Type} (s : Surroundings σ) (profile : HardwareProfile)
    (settings : CalibrationSettings) (state : σ) : Option (Benchmark.Outcome σ) :=
  if profile.hasGpu then
    (Benchmark.run s settings state).bind fun benchmark =>
      if benchmark.result.hasThroughput then some benchmark
      else
        (PowerSampling.run s settings benchmark.state).map fun (sampling, state) =>
          { benchmark with
            result := if sampling.hasPower then sampling else profile.estimatedResult
            state }
  else some ⟨.empty .estimated, [], state⟩

end EnergyAudit
