import EnergyAudit.Proofs.Calibration.WithoutRuntime
import EnergyAudit.Proofs.Double.Exact

/-! # What the method of a calibration says

A calibration goes through its sources in a fixed order, and the method of its result is that of the
source that yielded something.  So the method says which of the figures are there, and what the
sources before it came to. -/

namespace EnergyAudit

namespace CalibrationResult

variable {result : CalibrationResult}

theorem hasThroughput_iff : result.hasThroughput = true ↔ result.benchmarkScoreTflops > 0.0 :=
  decide_eq_true_iff

theorem hasPower_iff : result.hasPower = true ↔ result.avgPowerDrawW > 0.0 :=
  decide_eq_true_iff

/-- Whether an energy comes from throughput and power. -/
def EnergyFounded (result : CalibrationResult) : Prop :=
  result.energyPerTflopJoules ≠ 0.0 →
    result.benchmarkScoreTflops > 0.0 ∧ result.avgPowerDrawW > 0.0

theorem WithoutThroughput.energyFounded (without : result.WithoutThroughput) :
    result.EnergyFounded := absurd without.energy

theorem energyFounded_withEnergy (none : result.energyPerTflopJoules = 0.0) :
    result.withEnergy.EnergyFounded := by
  unfold withEnergy
  split
  · rename_i both
    rw [Bool.and_eq_true, hasThroughput_iff, hasPower_iff] at both
    exact fun _ => both
  · exact absurd none

theorem method_withEnergy (result : CalibrationResult) :
    result.withEnergy.method = result.method := by
  unfold withEnergy
  split <;> rfl

end CalibrationResult

variable {σ : Type} {s : Surroundings σ} {settings : CalibrationSettings} {state : σ}

/-! ## The benchmark -/

namespace Benchmark

/-- Whether a result can be that of a benchmark. -/
structure Fits (result : CalibrationResult) : Prop where
  method : result.method = .computeBenchmark
  energy : result.EnergyFounded

theorem fits_empty : Fits (.empty .computeBenchmark) :=
  ⟨rfl, (CalibrationResult.withoutThroughput_empty _).energyFounded⟩

theorem fits_score (size : UInt64) (count : Nat) (samples : List Float) (seconds : Float) :
    Fits (score size count samples seconds) :=
  ⟨CalibrationResult.method_withEnergy _, CalibrationResult.energyFounded_withEnergy rfl⟩

theorem fits_finish (s : Surroundings σ) (size : UInt64) (start : Duration) (turned : Turns σ) :
    Fits (finish s size start turned).result := by
  unfold finish
  split
  · exact fits_empty
  · exact fits_score ..

/-- However a benchmark ends, its result is marked as that of a benchmark. -/
theorem fits_run {outcome : Outcome σ} (measured : run s settings state = some outcome) :
    Fits outcome.result := by
  unfold run at measured
  dsimp only at measured
  split at measured
  · split at measured
    · rw [← Option.some.inj measured]
      exact fits_empty
    · obtain ⟨budget, -, measured⟩ := Option.bind_eq_some_iff.mp measured
      obtain ⟨turned, -, rfl⟩ := Option.map_eq_some_iff.mp measured
      exact fits_finish ..
  · rw [← Option.some.inj measured]
    exact fits_empty

theorem exists_run (passes : s.TimePasses)
    (budget : settings.benchmarkDuration?.isSome = true) (state : σ) :
    ∃ outcome, run s settings state = some outcome := by
  obtain ⟨budget, known⟩ := Option.isSome_iff_exists.mp budget
  unfold run
  rw [known]
  dsimp only
  split
  · split
    · exact ⟨_, rfl⟩
    · rename_i p _
      obtain ⟨turned, found⟩ := exists_turns passes (s.now p.state).1 budget 0 []
        ⟨p.calls, (s.now p.state).2⟩
      exact ⟨_, Option.map_eq_some_iff.mpr ⟨turned, found, rfl⟩⟩
  · exact ⟨_, rfl⟩

end Benchmark

/-! ## Power sampling -/

namespace PowerSampling

/-- The power draws that are read from a state of the machine on, and the state after them. -/
inductive Reads (s : Surroundings σ) (start budget interval : Duration) :
    σ → List Float → σ → Prop
  | ended {state : σ} (late : budget.nanoseconds ≤ (s.elapsed start state).1.nanoseconds) :
      Reads s start budget interval state [] (s.elapsed start state).2
  | turn {state between after : σ} {sample : Option Float} {readings : List Float}
      (early : ¬ budget.nanoseconds ≤ (s.elapsed start state).1.nanoseconds)
      (drawn : s.power (s.elapsed start state).2 = (sample, between))
      (rest : Reads s start budget interval (s.wait interval between) readings after) :
      Reads s start budget interval state (sample.toList ++ readings) after

variable {start budget interval : Duration} {sampled readings : List Float} {after : σ}

/-- The samples are the power draws that are read, last one first. -/
theorem Reads.samples_eq (reads : Reads s start budget interval state readings after)
    (sampled : List Float) :
    samples s start budget interval sampled state = some (readings.reverse ++ sampled, after) := by
  induction reads generalizing sampled with
  | ended late =>
      rw [samples]
      exact if_pos late
  | @turn state between after sample readings early drawn rest ih =>
      have turned : sample.toList.reverse = sample.toList := by cases sample <;> rfl
      rw [samples]
      simp only [if_neg early, drawn, ih]
      rw [List.reverse_append, turned, List.append_assoc]

theorem Reads.run_eq (known : settings.powerSamplingDuration? = some budget)
    (reads : Reads s (s.now state).1 budget settings.samplingInterval (s.now state).2 readings
      after) :
    run s settings state = some (finish s (s.now state).1 readings.reverse after) := by
  simp only [run, known, Option.bind_some, reads.samples_eq [], List.append_nil, Option.map_some]

theorem exists_reads {read : List Float × σ}
    (found : samples s start budget interval sampled state = some read) :
    ∃ readings, read.1 = readings.reverse ++ sampled ∧
      Reads s start budget interval state readings read.2 := by
  -- The loop puts what it reads in front of `sampled`, which therefore stays general.
  refine samples.partial_correctness s start budget interval
    (fun sampled state read => ∃ readings, read.1 = readings.reverse ++ sampled ∧
      Reads s start budget interval state readings read.2) ?_ sampled state read found
  intro loop ih sampled state read step
  dsimp only at step
  split at step
  · rename_i late
    rw [← Option.some.inj step]
    exact ⟨[], rfl, .ended late⟩
  · rename_i early
    obtain ⟨readings, same, rest⟩ := ih _ _ _ step
    refine ⟨_, ?_, .turn early rfl rest⟩
    rw [same, List.reverse_append, List.append_assoc]
    cases (s.power (s.elapsed start state).2).1 <;> rfl

/-- Whether these are the power draws that power sampling reads. -/
def ReadsAll (s : Surroundings σ) (settings : CalibrationSettings) (state : σ)
    (readings : List Float) : Prop :=
  ∃ budget after, settings.powerSamplingDuration? = some budget ∧
    Reads s (s.now state).1 budget settings.samplingInterval (s.now state).2 readings after

/-- Whether a result can be that of power sampling with these power draws. -/
structure Fits (readings : List Float) (result : CalibrationResult) : Prop where
  method : result.method = .powerSampling
  power : result.avgPowerDrawW = mean readings
  without : result.WithoutThroughput

theorem exists_fits_run {result : CalibrationResult} {after : σ}
    (sampled : run s settings state = some (result, after)) :
    ∃ readings, ReadsAll s settings state readings ∧ Fits readings result := by
  have without := withoutThroughput_run sampled
  obtain ⟨budget, read, before, known, found, same⟩ := exists_of_run sampled
  obtain ⟨readings, reversed, reads⟩ := exists_reads found
  refine ⟨readings, ⟨budget, _, known, reads⟩, ?_⟩
  rw [List.append_nil] at reversed
  dsimp only at reversed
  unfold finish at same
  dsimp only at same
  rw [reversed, List.isEmpty_reverse, List.reverse_reverse] at same
  split at same
  · rename_i none
    obtain ⟨rfl, -⟩ := Prod.mk.inj same
    rw [List.isEmpty_iff.mp none]
    exact ⟨rfl, rfl, without⟩
  · obtain ⟨rfl, -⟩ := Prod.mk.inj same
    exact ⟨rfl, rfl, without⟩

theorem exists_run (passes : s.TimePasses)
    (budget : settings.powerSamplingDuration?.isSome = true) (state : σ) :
    ∃ result after, run s settings state = some (result, after) := by
  obtain ⟨⟨result, after⟩, found⟩ :=
    Option.isSome_iff_exists.mp ((run_isSome_iff passes settings state).mpr budget)
  exact ⟨result, after, found⟩

end PowerSampling

/-! ## The sources in turn -/

/-- Whether the benchmark comes to nothing and power sampling after it reads these power draws. -/
structure FallsBack (s : Surroundings σ) (settings : CalibrationSettings) (state : σ)
    (benchmark : Benchmark.Outcome σ) (readings : List Float) : Prop where
  measured : Benchmark.run s settings state = some benchmark
  noThroughput : ¬ benchmark.result.benchmarkScoreTflops > 0.0
  reads : PowerSampling.ReadsAll s settings benchmark.state readings

/-- The ways in which a calibration comes to its outcome. -/
inductive Calibrates (s : Surroundings σ) (profile : HardwareProfile)
    (settings : CalibrationSettings) (state : σ) : Benchmark.Outcome σ → Prop
  | skipped (noGpu : profile.hasGpu = false) :
      Calibrates s profile settings state ⟨.empty .estimated, [], state⟩
  | measured {benchmark : Benchmark.Outcome σ} (gpu : profile.hasGpu = true)
      (measured : Benchmark.run s settings state = some benchmark)
      (throughput : benchmark.result.benchmarkScoreTflops > 0.0) :
      Calibrates s profile settings state benchmark
  | sampled {benchmark : Benchmark.Outcome σ} {readings : List Float}
      {result : CalibrationResult} {after : σ} (gpu : profile.hasGpu = true)
      (fallsBack : FallsBack s settings state benchmark readings)
      (fits : PowerSampling.Fits readings result) (power : mean readings > 0.0) :
      Calibrates s profile settings state ⟨result, benchmark.calls, after⟩
  | unsampled {benchmark : Benchmark.Outcome σ} {readings : List Float} {after : σ}
      (gpu : profile.hasGpu = true)
      (fallsBack : FallsBack s settings state benchmark readings)
      (noPower : ¬ mean readings > 0.0) :
      Calibrates s profile settings state ⟨profile.estimatedResult, benchmark.calls, after⟩

variable {profile : HardwareProfile} {outcome : Benchmark.Outcome σ}

theorem calibrates_of_calibrate (calibrated : calibrate s profile settings state = some outcome) :
    Calibrates s profile settings state outcome := by
  by_cases gpu : profile.hasGpu = true
  · rw [calibrate, if_pos gpu] at calibrated
    obtain ⟨benchmark, measured, rest⟩ := Option.bind_eq_some_iff.mp calibrated
    by_cases throughput : benchmark.result.hasThroughput = true
    · rw [if_pos throughput, Option.some.injEq] at rest
      subst rest
      exact .measured gpu measured (CalibrationResult.hasThroughput_iff.mp throughput)
    · rw [if_neg throughput] at rest
      obtain ⟨⟨sampling, after⟩, sampled, rfl⟩ := Option.map_eq_some_iff.mp rest
      obtain ⟨readings, reads, fits⟩ := PowerSampling.exists_fits_run sampled
      have fallsBack : FallsBack s settings state benchmark readings :=
        ⟨measured, throughput ∘ CalibrationResult.hasThroughput_iff.mpr, reads⟩
      have power_iff : sampling.hasPower = true ↔ mean readings > 0.0 := by
        rw [CalibrationResult.hasPower_iff, fits.power]
      dsimp only
      split
      · exact .sampled gpu fallsBack fits (power_iff.mp ‹_›)
      · exact .unsampled gpu fallsBack (‹¬ _› ∘ power_iff.mpr)
  · rw [calibrate_of_no_gpu gpu, Option.some.injEq] at calibrated
    subst calibrated
    exact .skipped (Bool.eq_false_iff.mpr gpu)

/-- Where time passes, a calibration has an outcome if the times that it takes are durations. -/
theorem exists_calibrate (passes : s.TimePasses)
    (benchmarkTime : settings.benchmarkDuration?.isSome = true)
    (samplingTime : settings.powerSamplingDuration?.isSome = true) (profile : HardwareProfile)
    (state : σ) :
    ∃ outcome, calibrate s profile settings state = some outcome := by
  obtain ⟨benchmark, measured⟩ := Benchmark.exists_run passes benchmarkTime state
  obtain ⟨sampling, after, sampled⟩ :=
    PowerSampling.exists_run passes samplingTime benchmark.state
  unfold calibrate
  rw [measured, Option.bind_some, sampled]
  split
  · split <;> exact ⟨_, rfl⟩
  · exact ⟨_, rfl⟩

/-! ## What the method says -/

theorem HardwareProfile.estimatedResult_of_known (known : profile.known = true) :
    profile.estimatedResult = ⟨0.0, profile.powerMidpoint, 0.0, 0.0, .estimated⟩ :=
  if_pos known

theorem HardwareProfile.estimatedResult_of_unknown (unknown : profile.known = false) :
    profile.estimatedResult = ⟨0.0, 0.0, 0.0, 0.0, .none⟩ :=
  if_neg (Bool.eq_false_iff.mp unknown)

/-- What the method of an outcome says of its figures and of where they come from. -/
structure MethodHolds (s : Surroundings σ) (profile : HardwareProfile)
    (settings : CalibrationSettings) (state : σ) (outcome : Benchmark.Outcome σ) : Prop where
  computeBenchmark : outcome.result.method = .computeBenchmark →
    profile.hasGpu = true ∧ outcome.result.benchmarkScoreTflops > 0.0 ∧
      Benchmark.run s settings state = some outcome
  powerSampling : outcome.result.method = .powerSampling →
    outcome.result.avgPowerDrawW > 0.0 ∧ outcome.result.WithoutThroughput ∧
      ∃ benchmark readings, FallsBack s settings state benchmark readings ∧
        outcome.result.avgPowerDrawW = mean readings
  estimated : outcome.result.method = .estimated → outcome.result.WithoutThroughput ∧
    (profile.hasGpu = false ∧ outcome.result.avgPowerDrawW = 0.0 ∧ outcome.calls = [] ∧
        -- Whatever the surroundings are, they are left as they were and change nothing.
        outcome.state = state ∧
        (∀ {τ : Type} (other : Surroundings τ) (start : τ),
          calibrate other profile settings start = some ⟨outcome.result, [], start⟩) ∨
      profile.hasGpu = true ∧ profile.known = true ∧
        outcome.result.avgPowerDrawW = profile.powerMidpoint ∧
        Double.value profile.powerMidpoint =
          (profile.thermalDesignPowerW.toNat + profile.idlePowerW.toNat) / 2 ∧
        ∃ benchmark readings, FallsBack s settings state benchmark readings ∧
          ¬ mean readings > 0.0)
  none : outcome.result.method = .none →
    outcome.result = ⟨0.0, 0.0, 0.0, 0.0, .none⟩ ∧ profile.hasGpu = true ∧ profile.known = false
  energy : outcome.result.EnergyFounded

theorem methodHolds_estimatedResult {benchmark : Benchmark.Outcome σ} {readings : List Float}
    (gpu : profile.hasGpu = true) (fallsBack : FallsBack s settings state benchmark readings)
    (noPower : ¬ mean readings > 0.0) (calls : List RuntimeCall) (after : σ) :
    MethodHolds s profile settings state ⟨profile.estimatedResult, calls, after⟩ := by
  have without := profile.withoutThroughput_estimatedResult
  cases known : profile.known with
  | true =>
      rw [HardwareProfile.estimatedResult_of_known known] at without ⊢
      exact {
        computeBenchmark := nofun
        powerSampling := nofun
        estimated := fun _ => ⟨without, .inr ⟨gpu, known, rfl, Double.value_middle _ _,
          benchmark, readings, fallsBack, noPower⟩⟩
        none := nofun
        energy := without.energyFounded }
  | false =>
      rw [HardwareProfile.estimatedResult_of_unknown known] at without ⊢
      exact {
        computeBenchmark := nofun
        powerSampling := nofun
        estimated := nofun
        none := fun _ => ⟨rfl, gpu, known⟩
        energy := without.energyFounded }

theorem Calibrates.methodHolds (calibrates : Calibrates s profile settings state outcome) :
    MethodHolds s profile settings state outcome := by
  cases calibrates with
  | skipped noGpu =>
      have without := CalibrationResult.withoutThroughput_empty .estimated
      exact {
        computeBenchmark := nofun
        powerSampling := nofun
        estimated := fun _ => ⟨without, .inl ⟨noGpu, rfl, rfl, rfl, fun _ _ =>
          calibrate_of_no_gpu (Bool.eq_false_iff.mp noGpu)⟩⟩
        none := nofun
        energy := without.energyFounded }
  | measured gpu measured throughput =>
      have fits := Benchmark.fits_run measured
      exact {
        computeBenchmark := fun _ => ⟨gpu, throughput, measured⟩
        powerSampling := fun other => nomatch fits.method.symm.trans other
        estimated := fun other => nomatch fits.method.symm.trans other
        none := fun other => nomatch fits.method.symm.trans other
        energy := fits.energy }
  | @sampled benchmark readings _ _ gpu fallsBack fits power =>
      exact {
        computeBenchmark := fun other => nomatch fits.method.symm.trans other
        powerSampling := fun _ =>
          ⟨fits.power ▸ power, fits.without, benchmark, readings, fallsBack, fits.power⟩
        estimated := fun other => nomatch fits.method.symm.trans other
        none := fun other => nomatch fits.method.symm.trans other
        energy := fits.without.energyFounded }
  | unsampled gpu fallsBack noPower =>
      exact methodHolds_estimatedResult gpu fallsBack noPower _ _

/-- Where time passes, a calibration has an outcome if the times in the settings are durations.
Whatever the machine and its clock do, the method of an outcome says truly where its figures come
from. -/
theorem method_of_calibrate (s : Surroundings σ) (profile : HardwareProfile)
    (settings : CalibrationSettings) (state : σ) :
    (s.TimePasses → settings.benchmarkDuration?.isSome = true →
      settings.powerSamplingDuration?.isSome = true →
      ∃ outcome, calibrate s profile settings state = some outcome) ∧
    ∀ outcome, calibrate s profile settings state = some outcome →
      MethodHolds s profile settings state outcome :=
  ⟨fun passes benchmarkTime samplingTime =>
      exists_calibrate passes benchmarkTime samplingTime profile state,
    fun _ calibrated => (calibrates_of_calibrate calibrated).methodHolds⟩

/-- A machine with a clock that moves by a second whenever it is read, and with a draw of 60 watts.
There is no device to compute with. -/
def steadyDraw : Surroundings Nat where
  runtime := .absent Nat
  now time := (⟨time * Duration.perSecond⟩, time + 1)
  power time := (some 60.0, time)
  wait _ time := time

theorem timePasses_steadyDraw : steadyDraw.TimePasses := by
  refine @Surroundings.timePasses_of_looks _ steadyDraw id Nat.lt_succ_self ?_ ?_
  · intro state after act
    cases act <;> exact Nat.le_refl _
  · intro deadline
    refine ⟨deadline, fun time enough => ?_⟩
    exact Nat.le_trans enough (Nat.le_mul_of_pos_right time (by decide))

/-- Three seconds are over at the third look after the first. -/
theorem run_steadyDraw :
    PowerSampling.run steadyDraw {} 0 =
      some (PowerSampling.finish steadyDraw ⟨0⟩ [60.0, 60.0] 4) := by
  have known : ({} : CalibrationSettings).powerSamplingDuration? =
      some ⟨3 * Duration.perSecond⟩ := by decide +kernel
  have reads : PowerSampling.Reads steadyDraw ⟨0⟩ ⟨3 * Duration.perSecond⟩
      ({} : CalibrationSettings).samplingInterval 1 [60.0, 60.0] 4 :=
    .turn (by decide) rfl (.turn (by decide) rfl (.ended (by decide)))
  exact @PowerSampling.Reads.run_eq _ steadyDraw {} 0 _ _ _ known reads

theorem method_of_steadyDraw :
    ∃ outcome, calibrate steadyDraw { HardwareProfile.noGpu with instanceCount := 1 } {} 0 =
        some outcome ∧
      outcome.result.method = .powerSampling ∧ outcome.result.avgPowerDrawW > 0.0 ∧
      outcome.result.WithoutThroughput := by
  obtain ⟨exists_outcome, holds⟩ :=
    method_of_calibrate steadyDraw { HardwareProfile.noGpu with instanceCount := 1 } {} 0
  obtain ⟨outcome, calibrated⟩ :=
    exists_outcome timePasses_steadyDraw (by decide +kernel) (by decide +kernel)
  have power : (PowerSampling.finish steadyDraw ⟨0⟩ [60.0, 60.0] 4).1.hasPower = true := by
    decide +kernel
  have gpu : HardwareProfile.hasGpu { HardwareProfile.noGpu with instanceCount := 1 } = true := by
    decide
  have found := result_of_sampled rfl gpu run_steadyDraw power
  rw [calibrated, Option.map_some, Option.some.injEq] at found
  have method : outcome.result.method = .powerSampling := by
    rw [found]
    rfl
  obtain ⟨power, without, _⟩ := (holds outcome calibrated).powerSampling method
  exact ⟨outcome, calibrated, method, power, without⟩

end EnergyAudit
