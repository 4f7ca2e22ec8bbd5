import EnergyAudit.Proofs.Calibration.Clock

/-! # Calibration without a compute runtime

Without a device to compute with, the benchmark ends where it is prepared.  Power draws and tables
of hardware say nothing about throughput, so that a calibration measures neither throughput nor the
energy for a unit of work, whatever the clock and the power probe say. -/

namespace EnergyAudit

/-- Whether the result says nothing about throughput or the energy for a unit of work. -/
structure CalibrationResult.WithoutThroughput (result : CalibrationResult) : Prop where
  score : result.benchmarkScoreTflops = 0.0
  energy : result.energyPerTflopJoules = 0.0

theorem CalibrationResult.withoutThroughput_empty (method : CalibrationMethod) :
    (empty method).WithoutThroughput := ⟨rfl, rfl⟩

theorem HardwareProfile.withoutThroughput_estimatedResult (profile : HardwareProfile) :
    profile.estimatedResult.WithoutThroughput := by
  unfold estimatedResult
  split
  · exact ⟨rfl, rfl⟩
  · exact CalibrationResult.withoutThroughput_empty .none

variable {σ : Type} {s : Surroundings σ} {settings : CalibrationSettings} {state : σ}

/-- Without a runtime the benchmark only asks for it to be prepared. -/
theorem Benchmark.run_absent (absent : s.runtime = .absent σ) :
    Benchmark.run s settings state =
      some ⟨.empty .computeBenchmark, [.prepare settings.matrixSize false], state⟩ := by
  unfold Benchmark.run
  rw [absent]
  rfl

theorem PowerSampling.withoutThroughput_finish (s : Surroundings σ) (start : Duration)
    (sampled : List Float) (state : σ) :
    (finish s start sampled state).1.WithoutThroughput := by
  unfold finish
  dsimp only
  split
  · exact CalibrationResult.withoutThroughput_empty .powerSampling
  · exact ⟨rfl, rfl⟩

/-- What power sampling comes to is what it makes of the readings. -/
theorem PowerSampling.exists_of_run {result : CalibrationResult × σ}
    (sampled : PowerSampling.run s settings state = some result) :
    ∃ budget readings after, settings.powerSamplingDuration? = some budget ∧
      samples s (s.now state).1 budget settings.samplingInterval [] (s.now state).2 =
        some (readings, after) ∧
      finish s (s.now state).1 readings after = result := by
  obtain ⟨budget, known, rest⟩ := Option.bind_eq_some_iff.mp sampled
  obtain ⟨⟨readings, after⟩, read, same⟩ := Option.map_eq_some_iff.mp rest
  exact ⟨budget, readings, after, known, read, same⟩

theorem PowerSampling.withoutThroughput_run {result : CalibrationResult} {after : σ}
    (sampled : PowerSampling.run s settings state = some (result, after)) :
    result.WithoutThroughput := by
  obtain ⟨budget, readings, before, -, -, same⟩ := exists_of_run sampled
  have without := withoutThroughput_finish s (s.now state).1 readings before
  rwa [same] at without

/-- Where time passes, power sampling comes to an end if its time is a duration. -/
theorem PowerSampling.run_isSome_iff (passes : s.TimePasses) (settings : CalibrationSettings)
    (state : σ) :
    (run s settings state).isSome = true ↔ settings.powerSamplingDuration?.isSome = true := by
  unfold run
  cases settings.powerSamplingDuration? with
  | none => rfl
  | some budget =>
      obtain ⟨readings, read⟩ := exists_samples passes (s.now state).1 budget
        settings.samplingInterval [] (s.now state).2
      refine iff_of_true ?_ rfl
      rw [Option.bind_some]
      dsimp only
      rw [read]
      rfl

/-- Without a runtime a calibration comes down to reading the power draw. -/
theorem calibrate_of_gpu (absent : s.runtime = .absent σ) {profile : HardwareProfile}
    (gpu : profile.hasGpu = true) :
    calibrate s profile settings state =
      (PowerSampling.run s settings state).map fun (sampling, after) =>
        ⟨if sampling.hasPower then sampling else profile.estimatedResult,
          [.prepare settings.matrixSize false], after⟩ := by
  have nothing : (CalibrationResult.empty .computeBenchmark).hasThroughput = false := by decide
  unfold calibrate
  rw [if_pos gpu, Benchmark.run_absent absent, Option.bind_some]
  simp only [nothing, Bool.false_eq_true, if_false]

/-- Without a runtime, the power draws that are read are the result if there are any. -/
theorem result_of_sampled (absent : s.runtime = .absent σ) {profile : HardwareProfile}
    (gpu : profile.hasGpu = true) {sampled : CalibrationResult × σ}
    (found : PowerSampling.run s settings state = some sampled)
    (power : sampled.1.hasPower = true) :
    (calibrate s profile settings state).map (·.result) = some sampled.1 := by
  rw [calibrate_of_gpu absent gpu, found]
  exact congrArg some (if_pos power)

theorem calibrate_of_no_gpu {profile : HardwareProfile} (noGpu : ¬profile.hasGpu = true) :
    calibrate s profile settings state = some ⟨.empty .estimated, [], state⟩ :=
  if_neg noGpu

/-- Where time passes, whether a calibration gives a result hangs on the time for reading the power
draw, and only where there is a graphics processor. -/
theorem calibrate_isSome_iff (passes : s.TimePasses) (absent : s.runtime = .absent σ)
    (profile : HardwareProfile) :
    (calibrate s profile settings state).isSome = true ↔
      (profile.hasGpu = true → settings.powerSamplingDuration?.isSome = true) := by
  by_cases gpu : profile.hasGpu = true
  · rw [calibrate_of_gpu absent gpu, Option.isSome_map, PowerSampling.run_isSome_iff passes]
    simp only [gpu, true_implies]
  · rw [calibrate_of_no_gpu gpu]
    exact iff_of_true rfl fun present => absurd present gpu

theorem withoutThroughput_calibrate (absent : s.runtime = .absent σ) {profile : HardwareProfile}
    {outcome : Benchmark.Outcome σ}
    (calibrated : calibrate s profile settings state = some outcome) :
    outcome.result.WithoutThroughput := by
  by_cases gpu : profile.hasGpu = true
  · rw [calibrate_of_gpu absent gpu] at calibrated
    obtain ⟨⟨sampling, after⟩, sampled, rfl⟩ := Option.map_eq_some_iff.mp calibrated
    dsimp only
    split
    · exact PowerSampling.withoutThroughput_run sampled
    · exact profile.withoutThroughput_estimatedResult
  · rw [calibrate_of_no_gpu gpu, Option.some.injEq] at calibrated
    rw [← calibrated]
    exact CalibrationResult.withoutThroughput_empty .estimated

end EnergyAudit
