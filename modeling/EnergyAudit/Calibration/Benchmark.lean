import EnergyAudit.Calibration.Result
import EnergyAudit.Calibration.Surroundings
import EnergyAudit.Settings

/-! # The compute benchmark

The benchmark multiplies matrices until its time is over and reads the power draw after every turn.
A failing multiplication ends it without a result.  Whatever was prepared is released once.  Where
the clock never shows that the time is over the turns never end, and there is no outcome. -/

namespace EnergyAudit

/-- A call to a compute runtime, and whether it worked. -/
inductive RuntimeCall where
  | prepare (size : UInt64) (worked : Bool)
  | multiply (worked : Bool)
  | release
deriving DecidableEq, Repr

def worked {α : Type} : Except RuntimeError α → Bool
  | .ok _ => true
  | .error _ => false

/-- The mean of the samples; zero if there are none. -/
def mean (samples : List Float) : Float :=
  if samples.isEmpty then 0.0
  else samples.foldl (· + ·) (-0.0) / Float.ofNat samples.length

namespace Benchmark

/-- Where the benchmark stands: the calls so far, last one first, and the state of the machine. -/
structure Progress (σ : Type) where
  calls : List RuntimeCall
  state : σ

/-- What the turns came to: `none` if a multiplication failed, else how many there were and the
power draws that were read, last one first. -/
structure Turns (σ : Type) where
  tally : Option (Nat × List Float)
  progress : Progress σ

variable {σ : Type}

/-- Multiplies once. -/
def multiply (s : Surroundings σ) (p : Progress σ) : Bool × Progress σ :=
  let (result, state) := s.runtime.multiply p.state
  (worked result, ⟨.multiply (worked result) :: p.calls, state⟩)

/-- Multiplies `count` times, up to the first failure. -/
def warmUp (s : Surroundings σ) : Nat → Progress σ → Bool × Progress σ
  | 0, p => (true, p)
  | count + 1, p =>
      match multiply s p with
      | (true, p) => warmUp s count p
      | (false, p) => (false, p)

/-- Takes turns while less time than the budget has passed; `none` if that is so forever. -/
def turns (s : Surroundings σ) (start budget : Duration) (count : Nat) (samples : List Float)
    (p : Progress σ) : Option (Turns σ) :=
  let (passed, state) := s.elapsed start p.state
  if budget.nanoseconds ≤ passed.nanoseconds then some ⟨some (count, samples), ⟨p.calls, state⟩⟩
  else
    match multiply s ⟨p.calls, state⟩ with
    | (false, p) => some ⟨none, p⟩
    | (true, p) =>
        let (sample, state) := s.power p.state
        let again := turns s start budget (p := ⟨p.calls, state⟩)
        again (count + 1) (sample.toList ++ samples)
partial_fixpoint

def release (s : Surroundings σ) (p : Progress σ) : Progress σ :=
  ⟨.release :: p.calls, s.runtime.release p.state⟩

/-- Operations of one multiplication of square matrices of the size. -/
def operations (size : UInt64) : Float :=
  let n := size.toFloat
  2.0 * (n * (n * n))

/-- The result of so many turns in so many seconds. -/
def score (size : UInt64) (count : Nat) (samples : List Float) (seconds : Float) :
    CalibrationResult :=
  let total := (List.replicate count (operations size)).foldl (· + ·) 0.0
  { CalibrationResult.empty .computeBenchmark with
    benchmarkScoreTflops := if seconds > 0.0 then total / seconds / 1e12 else 0.0
    avgPowerDrawW := mean samples
    durationS := seconds }.withEnergy

/-- What a benchmark came to, and the calls that it made. -/
structure Outcome (σ : Type) where
  result : CalibrationResult
  calls : List RuntimeCall
  state : σ

def withoutResult (p : Progress σ) : Outcome σ :=
  ⟨.empty .computeBenchmark, p.calls.reverse, p.state⟩

/-- Releases the runtime after the turns and works out the score. -/
def finish (s : Surroundings σ) (size : UInt64) (start : Duration) : Turns σ → Outcome σ
  | ⟨none, p⟩ => withoutResult (release s p)
  | ⟨some (count, samples), p⟩ =>
      let (passed, state) := s.elapsed start p.state
      let p := release s ⟨p.calls, state⟩
      ⟨score size count samples.reverse passed.toSeconds, p.calls.reverse, p.state⟩

/-- Takes turns for the time of the budget. -/
def measure (s : Surroundings σ) (size : UInt64) (budget : Duration) (p : Progress σ) :
    Option (Outcome σ) :=
  let (start, state) := s.now p.state
  (turns s start budget 0 [] ⟨p.calls, state⟩).map (finish s size start)

/-- Prepares the runtime, warms it up and measures.  The budget has to be a duration only when it
comes to measuring; there is no outcome if it is none, or if the turns never end. -/
def run (s : Surroundings σ) (settings : CalibrationSettings) (state : σ) : Option (Outcome σ) :=
  let size := settings.matrixSize
  let (prepared, state) := s.runtime.prepare size state
  let p : Progress σ := ⟨[.prepare size (worked prepared)], state⟩
  if worked prepared then
    match warmUp s settings.warmupIterations.toNat p with
    | (false, p) => some (withoutResult (release s p))
    | (true, p) => settings.benchmarkDuration?.bind fun budget => measure s size budget p
  else some (withoutResult p)

end Benchmark

end EnergyAudit
