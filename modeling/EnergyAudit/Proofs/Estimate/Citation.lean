import EnergyAudit.Estimate.Energy
import Mathlib.Data.List.Pairwise

/-! # What an estimate cites

An estimate rests on one row of the table of measurements, which its key tells: the row for the
scheme on the architecture, else the one for half precision there, else the one for half precision
on the architecture that is assumed.  So a scheme that no row is for has the estimate of half
precision, and how far the estimate is to be trusted follows from the architecture of the row.  What
is said of a machine that is not known has no part in its estimate. -/

namespace EnergyAudit

namespace ReferenceMeasurement

variable {architecture : Architecture} {quantization : Quantization}
  {row other : ReferenceMeasurement}

/-- Architecture and scheme of the measurement. -/
def key (row : ReferenceMeasurement) : String :=
  row.architecture.name ++ "/" ++ row.quantization.label

/-- The measurement is the one of the table for the scheme on the architecture. -/
structure Measures (row : ReferenceMeasurement) (architecture : Architecture)
    (quantization : Quantization) : Prop where
  listed : row ∈ table
  on : row.architecture = architecture
  of : row.quantization = quantization

/-- The measurement serves for the scheme on the architecture. -/
inductive Serves (row : ReferenceMeasurement) (architecture : Architecture)
    (quantization : Quantization) : Prop where
  | own (measures : row.Measures architecture quantization)
  /-- Half precision stands in for a scheme that was not measured. -/
  | half (noOwn : ∀ other, ¬ Measures other architecture quantization)
      (measures : row.Measures architecture .fp16)
  /-- The assumed architecture stands in for one that was not measured. -/
  | assumed (noOwn : ∀ other, ¬ Measures other architecture quantization)
      (noHalf : ∀ other, ¬ Measures other architecture .fp16)
      (measures : row.Measures EnergyEstimate.assumedArchitecture .fp16)

theorem pairwise_key_ne :
    table.Pairwise fun row other => row.key ≠ other.key := by
  decide

theorem eq_of_key (listed : row ∈ table) (listed' : other ∈ table) (same : row.key = other.key) :
    row = other := by
  by_contra different
  have apart : Std.Symm fun row other : ReferenceMeasurement => row.key ≠ other.key :=
    ⟨fun _ _ => Ne.symm⟩
  exact pairwise_key_ne.forall listed listed' different same

theorem Measures.unique (first : row.Measures architecture quantization)
    (second : other.Measures architecture quantization) : row = other := by
  refine eq_of_key first.listed second.listed ?_
  rw [key, key, first.on, first.of, second.on, second.of]

theorem find?_eq_some_iff :
    find? architecture quantization = some row ↔ row.Measures architecture quantization := by
  have sound {row : ReferenceMeasurement} (found : find? architecture quantization = some row) :
      row.Measures architecture quantization := by
    have fits := List.find?_some found
    rw [Bool.and_eq_true, beq_iff_eq, beq_iff_eq] at fits
    exact ⟨List.mem_of_find?_eq_some found, fits.1, fits.2⟩
  refine ⟨sound, fun measures => ?_⟩
  cases outcome : find? architecture quantization with
  | some other => rw [(sound outcome).unique measures]
  | none =>
      have misfit := List.find?_eq_none.mp outcome row measures.listed
      simp [measures.on, measures.of] at misfit

theorem find?_eq_none_iff : find? architecture quantization = none ↔
    ∀ row, ¬ Measures row architecture quantization := by
  simp only [Option.eq_none_iff_forall_ne_some, ne_eq, find?_eq_some_iff]

/-- The measurement that stands in for all is in the table. -/
theorem fallback_measures : fallback.Measures EnergyEstimate.assumedArchitecture .fp16 :=
  ⟨List.mem_cons_self, rfl, rfl⟩

theorem serves_nearest (architecture : Architecture) (quantization : Quantization) :
    (nearest architecture quantization).Serves architecture quantization := by
  unfold nearest
  cases own : find? architecture quantization with
  | some row => exact .own (find?_eq_some_iff.mp own)
  | none =>
      rw [Option.none_or]
      have noOwn := find?_eq_none_iff.mp own
      cases half : find? architecture .fp16 with
      | some row => exact .half noOwn (find?_eq_some_iff.mp half)
      | none => exact .assumed noOwn (find?_eq_none_iff.mp half) fallback_measures

theorem Serves.listed (serves : row.Serves architecture quantization) : row ∈ table := by
  cases serves with
  | own measures | half _ measures | assumed _ _ measures => exact measures.listed

/-- A scheme that was not measured on the architecture gets what half precision gets. -/
theorem nearest_of_not_measured (noOwn : ∀ row, ¬ Measures row architecture quantization) :
    nearest architecture quantization = nearest architecture .fp16 := by
  unfold nearest
  rw [find?_eq_none_iff.mpr noOwn, Option.none_or, Option.or_self]

end ReferenceMeasurement

namespace EnergyEstimate

open ReferenceMeasurement

variable {hardware : HardwareProfile}

/-- The estimate is a multiple of the measurement, and cites it and no other row of the table. -/
structure RestsOn (estimate : EnergyEstimate) (row : ReferenceMeasurement) : Prop where
  architecture : estimate.referenceArchitecture = row.architecture
  quantization : estimate.referenceQuantization = row.quantization
  cited : ∀ other ∈ table, other.key = estimate.referenceKey ↔ other = row
  energy : estimate.energyJPer1kTokens =
    row.joules * estimate.modelScale * estimate.batchScale * estimate.archScale

theorem restsOn_nearest (parametersB : Float) (quantization : Quantization) (batchSize : UInt32)
    (hardware : HardwareProfile) :
    (ofModel parametersB quantization batchSize hardware).RestsOn
      (nearest (architectureOf hardware) quantization) where
  architecture := rfl
  quantization := rfl
  cited _ listed :=
    ⟨eq_of_key listed (serves_nearest _ _).listed,
      fun same => congrArg ReferenceMeasurement.key same⟩
  energy := rfl

theorem architectureOf_of_known (known : hardware.known = true) :
    architectureOf hardware = hardware.architecture :=
  if_pos known

theorem architectureOf_of_unknown (unknown : hardware.known = false) :
    architectureOf hardware = assumedArchitecture :=
  if_neg (Bool.eq_false_iff.mp unknown)

theorem confidenceIn_eq_low_iff {measured : Architecture} :
    confidenceIn hardware measured = .low ↔ hardware.known = false := by
  unfold confidenceIn
  cases hardware.known with
  | false => simp
  | true => simp only [Bool.not_true, Bool.false_eq_true, if_false]; split <;> simp

theorem confidenceIn_eq_high_iff {measured : Architecture} :
    confidenceIn hardware measured = .high ↔
      hardware.known = true ∧ measured = hardware.architecture := by
  unfold confidenceIn architectureOf
  cases hardware.known <;> simp

theorem confidenceIn_eq_medium_iff {measured : Architecture} :
    confidenceIn hardware measured = .medium ↔
      hardware.known = true ∧ measured ≠ hardware.architecture := by
  unfold confidenceIn architectureOf
  cases hardware.known <;> simp

/-- Machines that are not known have one estimate, whatever else is said of them. -/
theorem ofModel_of_unknown {other : HardwareProfile} (unknown : hardware.known = false)
    (unknown' : other.known = false) (parametersB : Float) (quantization : Quantization)
    (batchSize : UInt32) :
    ofModel parametersB quantization batchSize hardware =
      ofModel parametersB quantization batchSize other := by
  simp [ofModel, architectureOf, confidenceIn, unknown, unknown']

theorem ofModel_of_not_measured {quantization : Quantization}
    (unlisted : ∀ row ∈ table, row.quantization ≠ quantization) (parametersB : Float)
    (batchSize : UInt32) (hardware : HardwareProfile) :
    ofModel parametersB quantization batchSize hardware =
      ofModel parametersB .fp16 batchSize hardware := by
  have same : nearest (architectureOf hardware) quantization =
      nearest (architectureOf hardware) .fp16 :=
    nearest_of_not_measured fun row measures => unlisted row measures.listed measures.of
  unfold ofModel
  rw [same]

/-- An estimate rests on the row that serves for the scheme of the label on the architecture of the
machine, or on the assumed one for a machine that is not known.  A label that no row is for has the
estimate of half precision.  The estimate is trusted least for a machine that is not known, and most
for one with a row of its own architecture.  Nothing but that a machine is not known has a part in
the estimate for it. -/
theorem citation_of_ofModel (parametersB : Float) (label : String) (batchSize : UInt32)
    (hardware : HardwareProfile) :
    let scheme := Quantization.ofLabel label
    let estimate := ofModel parametersB scheme batchSize hardware
    (∃ row ∈ table, estimate.RestsOn row ∧
      (hardware.known = true → row.Serves hardware.architecture scheme) ∧
      (hardware.known = false → row.Serves assumedArchitecture scheme)) ∧
    ((∀ row ∈ table, row.quantization ≠ scheme) →
      estimate = ofModel parametersB .fp16 batchSize hardware) ∧
    (estimate.confidence = .low ↔ hardware.known = false) ∧
    (estimate.confidence = .high ↔
      hardware.known = true ∧ estimate.referenceArchitecture = hardware.architecture) ∧
    (estimate.confidence = .medium ↔
      hardware.known = true ∧ estimate.referenceArchitecture ≠ hardware.architecture) ∧
    (hardware.known = false → estimate.archScale = 1.0 ∧
      ∀ other : HardwareProfile, other.known = false →
        estimate = ofModel parametersB scheme batchSize other) := by
  intro scheme estimate
  have serves := serves_nearest (architectureOf hardware) scheme
  refine ⟨⟨_, serves.listed, restsOn_nearest parametersB scheme batchSize hardware, ?_, ?_⟩, ?_,
    confidenceIn_eq_low_iff, confidenceIn_eq_high_iff, confidenceIn_eq_medium_iff, ?_⟩
  · intro known
    rwa [← architectureOf_of_known known]
  · intro unknown
    rwa [← architectureOf_of_unknown unknown]
  · intro unlisted
    exact ofModel_of_not_measured unlisted parametersB batchSize hardware
  · intro unknown
    refine ⟨by simp [estimate, ofModel, unknown], fun other unknown' => ?_⟩
    exact ofModel_of_unknown unknown unknown' parametersB scheme batchSize

/-- A machine that is not known, of which all the same an architecture and a factor are told. -/
def hearsayMachine : HardwareProfile :=
  { HardwareProfile.noGpu with architecture := .hopper, energyScaleFactor := 9.0 }

/-- A machine that is known, with an architecture that was never measured. -/
def hopperMachine : HardwareProfile :=
  { hearsayMachine with known := true }

/-- A label that no row is for, once on a machine that is not known and once on one whose
architecture no row is for. -/
theorem citation_of_unmeasured_label :
    let estimate := ofModel 13.0 (.ofLabel " INT4 ") 64 hearsayMachine
    let borrowed := ofModel 13.0 (.ofLabel " INT4 ") 64 hopperMachine
    estimate.referenceKey = "ada/fp16" ∧ estimate.confidence = .low ∧ estimate.archScale = 1.0 ∧
      estimate = ofModel 13.0 .fp16 64 hearsayMachine ∧
      estimate = ofModel 13.0 (.ofLabel " INT4 ") 64 .noGpu ∧ borrowed.confidence = .medium ∧
      ∃ row ∈ table, borrowed.RestsOn row ∧ row.Serves .hopper (.ofLabel " INT4 ") := by
  obtain ⟨_, halved, low, _, _, alike⟩ := citation_of_ofModel 13.0 " INT4 " 64 hearsayMachine
  obtain ⟨⟨row, listed, rests, known, _⟩, _, _, _, medium, _⟩ :=
    citation_of_ofModel 13.0 " INT4 " 64 hopperMachine
  have half := halved (by decide +kernel)
  have unscaled := alike rfl
  exact ⟨by rw [half]; decide +kernel, low.mpr rfl, unscaled.1, half, unscaled.2 .noGpu rfl,
    medium.mpr ⟨rfl, by decide +kernel⟩, row, listed, rests, known rfl⟩

end EnergyEstimate

end EnergyAudit
