import EnergyAudit.Proofs.Double
import EnergyAudit.Proofs.Regression.Comparison

/-! # A run compared with itself

A run that was saved as a baseline has changed in nothing, whatever else the store holds, and
passes. -/

namespace EnergyAudit

/-- Whether the doubles that a baseline takes from the result come back as themselves. -/
structure CalibrationResult.ReadsBack (result : CalibrationResult) : Prop where
  score : Json.DoubleReadsBack result.benchmarkScoreTflops
  power : Json.DoubleReadsBack result.avgPowerDrawW
  energy : Json.DoubleReadsBack result.energyPerTflopJoules

namespace Regression

open BaselineStore

variable {baseline : Baseline} {run : CurrentRun} {policy : RegressionPolicy}

/-- The change of a run that has changed in nothing. -/
structure Unchanged (change : RelativeChange) : Prop where
  hasBaseline : change.hasBaseline = true
  sameHardware : change.sameHardware = true
  confident : change.lowConfidence = false
  issues : change.issuesDelta = 0
  critical : change.criticalDelta = 0
  warning : change.warningDelta = 0
  energy : (change.energyChangePct == 0.0) = true
  benchmark : (change.benchmarkChangePct == 0.0) = true
  noGap : change.throughputGap = false
  passed : change.passed = true
  reason : change.reason = "✅ No regressions detected."

/-- A baseline with the numbers of the run. -/
structure Records (baseline : Baseline) (run : CurrentRun) : Prop where
  hardware : baseline.hardwareFingerprint = run.fingerprint
  total : baseline.totalIssues = run.summary.totalIssues
  critical : baseline.criticalCount = run.summary.criticalCount
  warning : baseline.warningCount = run.summary.warningCount
  score : baseline.benchmarkScoreTflops = run.calibration.benchmarkScoreTflops
  power : baseline.avgPowerDrawW = run.calibration.avgPowerDrawW
  energy : baseline.energyPerTflopJoules = run.calibration.energyPerTflopJoules
  method : baseline.method = some run.calibration.method

theorem exists_records (hardware : HardwareProfile) (calibration : CalibrationResult)
    (counts : SeverityCounts)
    (small : counts.critical.toNat + counts.warning.toNat + counts.info.toNat < Count.signedBound)
    (origin : RunOrigin) :
    ∃ baseline summary, Baseline.ofRun? hardware calibration counts origin = some baseline ∧
      RunSummary.ofCounts? counts = some summary ∧
        Records baseline ⟨hardware.hardwareFingerprint, summary, calibration⟩ := by
  obtain ⟨total, known⟩ := SeverityCounts.exists_total? small
  simp only [Baseline.ofRun?, RunSummary.ofCounts?, known, Option.map_some]
  exact ⟨_, _, rfl, rfl, rfl, rfl, rfl, rfl, rfl, rfl, rfl, rfl⟩

theorem Records.readsBack (records : Records baseline run)
    (doubles : run.calibration.ReadsBack) : baseline.ReadsBack where
  score := records.score ▸ doubles.score
  power := records.power ▸ doubles.power
  energy := records.energy ▸ doubles.energy

theorem percentChange_self {x : Float} (positive : x > 0.0) (finite : x.isFinite = true) :
    percentChange x x = 0.0 := by
  unfold percentChange
  rw [Double.sub_self positive finite, Double.zero_div positive finite]
  rfl

/-- The percentages of a run that is as its baseline are zero; that of the throughput may be the
negative zero. -/
theorem Records.percentages_eq (records : Records baseline run)
    (doubles : run.calibration.ReadsBack) :
    ∃ sign, percentages baseline run.calibration = (0.0, .ofModel (.pack (.zero sign))) := by
  unfold percentages
  rw [records.energy, records.score]
  split
  case isTrue measured =>
    rw [Bool.and_self, decide_eq_true_eq] at measured
    rw [percentChange_self measured (Double.isFinite_of_readsBack doubles.energy)]
    exact ⟨.positive, rfl⟩
  case isFalse =>
    split
    case isTrue measured =>
      rw [Bool.and_self, decide_eq_true_eq] at measured
      rw [percentChange_self measured (Double.isFinite_of_readsBack doubles.score)]
      exact ⟨.negative, rfl⟩
    case isFalse => exact ⟨.positive, rfl⟩

theorem verdict?_of_zero (tolerant : 0.0 ≤ policy.thresholdPct)
    (sign : Float.Model.UnpackedFloat.Sign) :
    verdict? policy 0 0 0.0 (.ofModel (.pack (.zero sign))) = some .unchanged := by
  have energy : ¬ (0.0 : Float) > policy.thresholdPct := Double.not_lt_zero tolerant .positive
  have throughput := Double.not_lt_zero tolerant sign
  unfold verdict?
  rw [if_neg (by decide), if_neg energy, if_neg (by simp [throughput]), if_neg (by decide),
    if_neg (by decide)]

theorem Records.exists_unchanged (records : Records baseline run)
    (doubles : run.calibration.ReadsBack) (tolerant : 0.0 ≤ policy.thresholdPct) :
    ∃ change, compareWith? baseline run policy = some change ∧ Unchanged change := by
  obtain ⟨sign, zeros⟩ := records.percentages_eq doubles
  refine ⟨changeOf baseline run policy 0 0 0 .unchanged, ?_, ?_⟩
  · rw [compareWith?_eq_some, records.total, records.critical, records.warning, zeros]
    exact ⟨0, 0, 0, .unchanged, Count.change?_self _, Count.change?_self _, Count.change?_self _,
      verdict?_of_zero tolerant sign, rfl⟩
  · have throughput := Double.not_lt_zero tolerant sign
    exact {
      hasBaseline := rfl
      sameHardware := by simp [changeOf, records.hardware]
      confident := by simp [changeOf, records.hardware, records.method]
      issues := rfl
      critical := rfl
      warning := rfl
      energy := by
        change ((percentages baseline run.calibration).1 == 0.0) = true
        rw [zeros]
        exact Double.zero_beq .positive
      benchmark := by
        change ((percentages baseline run.calibration).2 == 0.0) = true
        rw [zeros]
        exact Double.zero_beq sign
      noGap := by simp [changeOf, zeros, throughput]
      passed := rfl
      reason := rfl }

/-- A run that was saved as a baseline passes against itself, whatever else the store holds. -/
theorem unchanged_of_saved {hardware : HardwareProfile}
    (machine : hardware = .noGpu ∨ ∃ query cudaVersion, hardware = .resolve query cudaVersion)
    (counts : SeverityCounts)
    (small : counts.critical.toNat + counts.warning.toNat + counts.info.toNat < Count.signedBound)
    {calibration : CalibrationResult} (doubles : calibration.ReadsBack) (origin : RunOrigin)
    (policy : RegressionPolicy) (tolerant : 0.0 ≤ policy.thresholdPct) :
    ∃ baseline summary, Baseline.ofRun? hardware calibration counts origin = some baseline ∧
      RunSummary.ofCounts? counts = some summary ∧
      ∀ (store : BaselineStore) (faults : Faults) (w : Workspace) (key : String),
        (store.save faults w baseline).result = .ok key →
        store.Apart (w.makeDirectories store.directory).1 →
        (store.readable (w.makeDirectories store.directory).1).ReadsBack →
          ∃ comparison,
            compareWithStore? store ((store.save faults w baseline).final w)
              ⟨hardware.hardwareFingerprint, summary, calibration⟩ policy = some comparison ∧
            comparison.baseline = some baseline ∧ Unchanged comparison.change := by
  obtain ⟨baseline, summary, taken, summarized, records⟩ :=
    exists_records hardware calibration counts small origin
  refine ⟨baseline, summary, taken, summarized, ?_⟩
  intro store faults w key saved apart old
  obtain ⟨_, calm, w', place, opens⟩ := exists_opens_of_save saved
  rw [opens.made] at apart old
  have found := opens.read apart calm old (records.readsBack doubles)
  have proper : Baseline.IsFingerprint hardware.hardwareFingerprint := by
    rcases machine with rfl | ⟨query, cudaVersion, rfl⟩
    · exact HardwareProfile.isFingerprint_resolve none none
    · exact HardwareProfile.isFingerprint_resolve query cudaVersion
  have loaded : store.load? ((store.save faults w baseline).final w)
      hardware.hardwareFingerprint = some baseline := by
    rw [load?_eq, readable_of_read found, ← proper.key_eq_iff.mpr records.hardware]
    exact BaselineDocument.select?_of_find?
      (proper.key_eq_iff.mpr records.hardware ▸ proper.nonempty)
      (SortedMap.find?_insert_same _ _ _)
  obtain ⟨change, compared, unchanged⟩ := records.exists_unchanged doubles tolerant
  refine ⟨⟨change, some baseline⟩, ?_, rfl, unchanged⟩
  rw [compareWithStore?_of_load? loaded, compared]
  rfl

/-- A machine with a processor. -/
def processor : HardwareProfile := .resolve (some ⟨"NVIDIA L4", "550.54.14", 23034, 1⟩) none

/-- What such a machine was measured to do. -/
def performance : CalibrationResult := ⟨82.6, 412.25, 4.990317, 5.0, .computeBenchmark⟩

/-- The run is compared with its own baseline, although another machine has a newer one. -/
theorem unchanged_of_plain_save :
    ∃ baseline summary comparison w,
      Baseline.ofRun? processor performance ⟨1, 2, 3⟩ ⟨"c", "main", "2025-01-31T12:00:00Z"⟩ =
        some baseline ∧
      (plain.save Faults.none ⟨.empty, []⟩ (measured "b" "2025-02-01T12:00:00Z")).final
        ⟨.empty, []⟩ = w ∧
      (plain.save Faults.none w baseline).result = .ok baseline.key ∧
      compareWithStore? plain ((plain.save Faults.none w baseline).final w)
        ⟨processor.hardwareFingerprint, summary, performance⟩ {} = some comparison ∧
      comparison.baseline = some baseline ∧ Unchanged comparison.change := by
  have doubles : performance.ReadsBack :=
    ⟨by decide +kernel, by decide +kernel, by decide +kernel⟩
  have calm : Calm Faults.none := fun _ _ => rfl
  obtain ⟨_, before⟩ := plain_opens.save calm (measured "b" "2025-02-01T12:00:00Z")
  have holds := plain_opens.holds plain_settled.apart calm rfl
    (readable_plain ▸ BaselineDocument.readsBack_empty)
    (readsBack_measured "b" "2025-02-01T12:00:00Z")
  have old : (plain.readable ((plain.save Faults.none ⟨.empty, []⟩
      (measured "b" "2025-02-01T12:00:00Z")).final ⟨.empty, []⟩)).ReadsBack := by
    rw [readable_of_read holds.read]
    exact holds.readsBack
  have apart := holds.keeps.apart
  rw [before] at old apart
  obtain ⟨baseline, summary, taken, _, compares⟩ :=
    @unchanged_of_saved processor (.inr ⟨_, _, rfl⟩) ⟨1, 2, 3⟩ (by decide) _ doubles
      ⟨"c", "main", "2025-01-31T12:00:00Z"⟩ {} (by decide +kernel)
  have opens := plain_opens_put (((plain.before Faults.none ⟨.empty, []⟩).insert
    (measured "b" "2025-02-01T12:00:00Z")).render ++ "\n").toUTF8
  obtain ⟨saved, _⟩ := opens.save calm baseline
  have made := opens.made
  obtain ⟨comparison, compared, used, unchanged⟩ := compares plain Faults.none _ _ saved
    (made ▸ apart) (made ▸ old)
  exact ⟨baseline, summary, comparison, _, taken, before, saved, compared, used, unchanged⟩

/-- A store whose document is a link that its own directory is reached through. -/
def looped : BaselineStore := ⟨"x/x"⟩

/-- The workspace with the link, which leads to the directory that it is in. -/
def loop : Workspace := ⟨⟨[(["x"], .link ".")]⟩, []⟩

/-- A save takes away the link, and with it the way to what was saved. -/
theorem no_baseline_behind_link :
    ∃ baseline summary comparison,
      Baseline.ofRun? .noGpu (.empty .none) .zero ⟨"c", "main", "1"⟩ = some baseline ∧
      RunSummary.ofCounts? .zero = some summary ∧
      (looped.save Faults.none loop baseline).result = .ok baseline.key ∧
      compareWithStore? looped ((looped.save Faults.none loop baseline).final loop)
        ⟨HardwareProfile.noGpu.hardwareFingerprint, summary, .empty .none⟩ {} = some comparison ∧
      comparison.change.hasBaseline = false := by
  obtain ⟨baseline, summary, taken, summarized, _⟩ :=
    exists_records .noGpu (.empty .none) .zero (by decide) ⟨"c", "main", "1"⟩
  have opens : looped.Opens loop loop (.present ["x"] (.link ".")) :=
    ⟨by rfl, by rfl, by rfl, nofun⟩
  have calm : Calm Faults.none := fun _ _ => rfl
  obtain ⟨saved, final⟩ := opens.save calm baseline
  have lost (document : BaselineDocument) (fingerprint : String) :
      looped.load? (loop.put ["x"] (fileOf document)) fingerprint = none := by
    rfl
  refine ⟨baseline, summary, ⟨withoutBaseline, none⟩, taken, summarized, saved, ?_, rfl⟩
  rw [final]
  exact compareWithStore?_of_none (lost _ _) {}

end Regression

end EnergyAudit
