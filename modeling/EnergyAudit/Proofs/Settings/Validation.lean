import EnergyAudit.Proofs.Duration
import EnergyAudit.Settings

/-! # What valid settings promise

Settings that are not refused have a tolerance that zero is not beyond, and times that are numbers.
Such a time is a duration if it is less than 2^64 seconds, which is not looked at.  A negative time
is no time at all. -/

namespace EnergyAudit

namespace CalibrationSettings

variable {settings : CalibrationSettings}

/-- The times that a calibration goes by. -/
def durations (settings : CalibrationSettings) : List (Option Duration) :=
  [settings.benchmarkDuration?, settings.powerSamplingDuration?, some settings.samplingInterval,
    some settings.probeTimeout, some settings.detectTimeout]

/-- No time has more seconds than 64 bits can hold. -/
theorem seconds_lt_of_mem_durations {d : Duration} (member : some d ∈ settings.durations) :
    d.seconds < UInt64.size := by
  simp only [durations, List.mem_cons, Option.some.injEq, List.not_mem_nil, or_false] at member
  rcases member with found | found | rfl | rfl | rfl
  · exact Duration.seconds_lt_of_ofSeconds? found.symm
  · exact Duration.seconds_lt_of_ofSeconds? found.symm
  all_goals exact Duration.seconds_ofMilliseconds_lt _

end CalibrationSettings

namespace Settings

variable {settings chosen : Settings}

theorem validate_eq_ok :
    settings.validate = .ok chosen ↔ settings.firstInvalid? = none ∧ settings = chosen := by
  unfold validate
  cases settings.firstInvalid? <;> simp

/-- What settings of numbers are not refused for. -/
structure Sensible (settings : Settings) : Prop where
  tolerance : ¬ settings.baseline.regressionThresholdPct < 0.0
  benchmark : settings.calibration.benchmarkDurationS.isFinite = true
  sampling : settings.calibration.powerSamplingDurationS.isFinite = true

theorem sensible_of_valid (valid : settings.firstInvalid? = none) : settings.Sensible := by
  unfold firstInvalid? at valid
  dsimp only at valid
  split at valid
  · contradiction
  · split at valid
    · contradiction
    · split at valid
      · contradiction
      · split at valid
        · contradiction
        · rename_i tolerance _ _ times
          simp only [Bool.or_eq_true, Bool.not_eq_true', decide_eq_true_eq, not_or,
            Bool.not_eq_false] at tolerance times
          exact ⟨tolerance.2, times.1, times.2⟩

/-- Valid settings have all five durations exactly if the two that are given in seconds are less
than 2^64 seconds.  These two are then rounded to the nearest nanosecond, or to none where they are
negative. -/
theorem durations_of_valid (valid : settings.validate = .ok settings) :
    ((∀ duration ∈ settings.calibration.durations, duration.isSome = true) ↔
        settings.calibration.benchmarkDurationS < Duration.secondsLimit ∧
          settings.calibration.powerSamplingDurationS < Duration.secondsLimit) ∧
      (∀ d, some d ∈ settings.calibration.durations → d.seconds < UInt64.size) ∧
      (∀ d, settings.calibration.benchmarkDuration? = some d →
        d.IsNearest settings.calibration.benchmarkDurationS) ∧
      ∀ d, settings.calibration.powerSamplingDuration? = some d →
        d.IsNearest settings.calibration.powerSamplingDurationS := by
  obtain ⟨-, benchmark, sampling⟩ := sensible_of_valid (validate_eq_ok.mp valid).1
  have isSome_iff {x : Float} (finite : x.isFinite = true) :
      (Duration.ofSeconds? x).isSome = true ↔ x < Duration.secondsLimit := by
    rw [Double.lt_iff_not_le finite (by rfl), ← Duration.ofSeconds?_eq_none_iff,
      ← Option.not_isSome_iff_eq_none, not_not]
  refine ⟨?_, fun d member => CalibrationSettings.seconds_lt_of_mem_durations member,
    fun d found => Duration.isNearest_of_ofSeconds? found,
    fun d found => Duration.isNearest_of_ofSeconds? found⟩
  simp only [CalibrationSettings.durations, List.forall_mem_cons, Option.isSome_some,
    List.not_mem_nil, false_implies, implies_true, and_true]
  exact and_congr (isSome_iff benchmark) (isSome_iff sampling)

/-- Settings with the greatest time that is a duration, and with a negative one. -/
def extremeTimes : Settings :=
  { calibration :=
      { benchmarkDurationS := 18446744073709549568.0, powerSamplingDurationS := -1.0 } }

theorem durations_of_extremeTimes :
    extremeTimes.validate = .ok extremeTimes ∧
      ∀ duration ∈ extremeTimes.calibration.durations, duration.isSome = true := by
  have valid : extremeTimes.validate = .ok extremeTimes :=
    validate_eq_ok.mpr ⟨by decide +kernel, rfl⟩
  exact ⟨valid, (durations_of_valid valid).1.mpr (by decide +kernel)⟩

/-- Settings with times that are longer than any duration. -/
def endlessTimes : Settings :=
  { calibration := { benchmarkDurationS := 1e20, powerSamplingDurationS := 1e300 } }

/-- The settings are valid, and yet the two times are no durations. -/
theorem no_duration_of_endlessTimes :
    endlessTimes.validate = .ok endlessTimes ∧
      endlessTimes.calibration.benchmarkDuration? = none ∧
        endlessTimes.calibration.powerSamplingDuration? = none := by
  refine ⟨validate_eq_ok.mpr ⟨by decide +kernel, rfl⟩, ?_, ?_⟩
  · exact Duration.ofSeconds?_eq_none_iff.mpr (by decide +kernel)
  · exact Duration.ofSeconds?_eq_none_iff.mpr (by decide +kernel)

end Settings

end EnergyAudit
