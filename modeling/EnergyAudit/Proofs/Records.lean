import EnergyAudit.Audit.Report
import EnergyAudit.Estimate.Energy
import EnergyAudit.Proofs.Json.Fields
import EnergyAudit.Proofs.Estimate.Labels
import EnergyAudit.Regression

/-! # Records read back

The records that are handed on as JSON are read from their texts as what they were: reports with
their findings, profiles of machines, results of calibration, comparisons, and estimates whose
scheme has a label. -/

namespace EnergyAudit

open Json

/-! ## Reports -/

namespace SourceLocation

theorem ofJson?_toJson (location : SourceLocation) : ofJson? location.toJson = some location := by
  obtain ⟨file, line⟩ := location
  cases line with
  | none =>
      simp [toJson, ofJson?, fields?, findField, FieldNames.matches, field, required, asString?,
        Json.optional]
  | some line =>
      simp only [toJson, ofJson?]
      rw [fields?_plain (by rfl) (by decide)]
      simp [required, asString?, optional_ofWord64]

theorem readsBack_toJson (location : SourceLocation) : location.toJson.ReadsBack := by
  obtain ⟨file, line⟩ := location
  cases line with
  | none => exact ⟨trivial, trivial⟩
  | some line => exact ⟨trivial, readsBack_ofWord64 line, trivial⟩

end SourceLocation

namespace Severity

theorem ofJson?_toJson (severity : Severity) : ofJson? severity.toJson = some severity :=
  ofName?_name severity

end Severity

namespace SeverityCounts

theorem ofJson?_toJson (counts : SeverityCounts) : ofJson? counts.toJson = some counts := by
  simp only [toJson, ofJson?]
  rw [fields?_plain (by rfl) (by decide)]
  simp [required, asWord64?_ofWord64]

theorem readsBack_toJson (counts : SeverityCounts) : counts.toJson.ReadsBack :=
  ⟨readsBack_ofWord64 _, readsBack_ofWord64 _, readsBack_ofWord64 _, trivial⟩

end SeverityCounts

namespace Finding

theorem ofJson?_toJson (finding : Finding) : ofJson? finding.toJson = some finding := by
  simp only [toJson, ofJson?]
  rw [fields?_plain (by rfl) (by decide)]
  simp [required, asString?, Severity.ofJson?_toJson, SourceLocation.ofJson?_toJson]

theorem readsBack_toJson (finding : Finding) : finding.toJson.ReadsBack :=
  ⟨trivial, trivial, trivial, trivial, trivial, SourceLocation.readsBack_toJson _, trivial, trivial⟩

theorem readsBack_all (findings : List Finding) :
    Json.ItemsReadBack (findings.map Finding.toJson) := by
  induction findings with
  | nil => trivial
  | cons finding findings ih => exact ⟨finding.readsBack_toJson, ih⟩

end Finding

namespace AuditReport

theorem ofJson?_toJson (report : AuditReport) : ofJson? report.toJson = some report := by
  have findings := asList?_map Finding.ofJson?_toJson report.findings
  simp only [toJson, ofJson?]
  rw [fields?_plain (by rfl) (by decide)]
  simp [required, findings, asWord64?_ofWord64, Severity.ofJson?_toJson,
    SeverityCounts.ofJson?_toJson]

theorem readsBack_toJson (report : AuditReport) : report.toJson.ReadsBack :=
  ⟨Finding.readsBack_all _, readsBack_ofWord64 _, readsBack_ofWord64 _, readsBack_ofWord64 _,
    trivial, SeverityCounts.readsBack_toJson _, trivial⟩

end AuditReport

/-! ## Records with doubles -/

namespace HardwareProfile

def doubles (profile : HardwareProfile) : List Float := [profile.energyScaleFactor]

theorem ofJson?_toJson (profile : HardwareProfile) : ofJson? profile.toJson = some profile := by
  have architecture : Architecture.ofJson? profile.architecture.toJson = _ :=
    Architecture.ofName?_name profile.architecture
  simp only [toJson, ofJson?]
  rw [fields?_plain (by rfl) (by decide)]
  simp [required, asString?, asBool?, asDouble?, asWord32?_ofWord32, asWord64?_ofWord64,
    architecture]

theorem readsBack_toJson {profile : HardwareProfile}
    (doubles : ∀ x ∈ profile.doubles, DoubleReadsBack x) : profile.toJson.ReadsBack := by
  have scale := doubles _ List.mem_cons_self
  exact ⟨trivial, readsBack_ofWord32 _, trivial, trivial, readsBack_ofWord64 _, trivial, trivial,
    readsBack_ofWord32 _, readsBack_ofWord32 _, scale, trivial, trivial⟩

end HardwareProfile

namespace CalibrationResult

def doubles (result : CalibrationResult) : List Float :=
  [result.benchmarkScoreTflops, result.avgPowerDrawW, result.energyPerTflopJoules, result.durationS]

theorem ofJson?_toJson (result : CalibrationResult) : ofJson? result.toJson = some result := by
  have method : CalibrationMethod.ofJson? result.method.toJson = _ :=
    CalibrationMethod.ofName?_name result.method
  simp only [toJson, ofJson?]
  rw [fields?_plain (by rfl) (by decide)]
  simp [required, asDouble?, method]

theorem readsBack_toJson {result : CalibrationResult}
    (doubles : ∀ x ∈ result.doubles, DoubleReadsBack x) : result.toJson.ReadsBack := by
  simp only [CalibrationResult.doubles, List.forall_mem_cons] at doubles
  obtain ⟨score, power, energy, duration, _⟩ := doubles
  exact ⟨score, power, energy, duration, trivial, trivial⟩

end CalibrationResult

namespace RelativeChange

def doubles (change : RelativeChange) : List Float :=
  [change.energyChangePct, change.benchmarkChangePct]

theorem ofJson?_toJson (change : RelativeChange) : ofJson? change.toJson = some change := by
  simp only [toJson, ofJson?]
  rw [fields?_plain (by rfl) (by decide)]
  simp [required, asString?, asBool?, asDouble?, asSigned64?_ofSigned64]

theorem readsBack_toJson {change : RelativeChange}
    (doubles : ∀ x ∈ change.doubles, DoubleReadsBack x) : change.toJson.ReadsBack := by
  simp only [RelativeChange.doubles, List.forall_mem_cons] at doubles
  obtain ⟨energy, benchmark, _⟩ := doubles
  exact ⟨trivial, trivial, energy, readsBack_ofSigned64 _, readsBack_ofSigned64 _,
    readsBack_ofSigned64 _, benchmark, trivial, trivial, trivial, trivial, trivial⟩

end RelativeChange

namespace EnergyEstimate

def doubles (estimate : EnergyEstimate) : List Float :=
  [estimate.energyJPer1kTokens, estimate.modelScale, estimate.batchScale, estimate.archScale]

theorem ofJson?_toJson {estimate : EnergyEstimate} {label : String}
    (labelled : estimate.referenceQuantization = Quantization.ofLabel label) :
    ofJson? estimate.toJson = some estimate := by
  have confidence : Confidence.ofJson? estimate.confidence.toJson = _ :=
    Confidence.ofName?_name estimate.confidence
  have architecture : Architecture.ofJson? estimate.referenceArchitecture.toJson = _ :=
    Architecture.ofName?_name estimate.referenceArchitecture
  have quantization : Quantization.ofJson? estimate.referenceQuantization.toJson =
      some estimate.referenceQuantization := by
    rw [labelled]
    exact congrArg some (Quantization.ofLabel_label_ofLabel label)
  simp only [toJson, ofJson?]
  rw [fields?_plain (by rfl) (by decide)]
  simp [required, asDouble?, confidence, architecture, quantization]

theorem readsBack_toJson {estimate : EnergyEstimate}
    (doubles : ∀ x ∈ estimate.doubles, DoubleReadsBack x) : estimate.toJson.ReadsBack := by
  simp only [EnergyEstimate.doubles, List.forall_mem_cons] at doubles
  obtain ⟨energy, model, batch, arch, _⟩ := doubles
  exact ⟨energy, trivial, trivial, trivial, model, batch, arch, trivial⟩

end EnergyEstimate

namespace Json

/-- The records are read back from their texts.  That a finite double is read back from its text is
assumed of each double of a record. -/
theorem decode_records :
    (∀ report : AuditReport, (parse? report.jsonText).bind AuditReport.ofJson? = some report) ∧
    (∀ profile : HardwareProfile, (∀ x ∈ profile.doubles, x.isFinite = true) →
      (∀ x ∈ profile.doubles, x.isFinite = true → DoubleReadsBack x) →
        (parse? profile.toJson.render).bind HardwareProfile.ofJson? = some profile) ∧
    (∀ result : CalibrationResult, (∀ x ∈ result.doubles, x.isFinite = true) →
      (∀ x ∈ result.doubles, x.isFinite = true → DoubleReadsBack x) →
        (parse? result.toJson.render).bind CalibrationResult.ofJson? = some result) ∧
    (∀ change : RelativeChange, (∀ x ∈ change.doubles, x.isFinite = true) →
      (∀ x ∈ change.doubles, x.isFinite = true → DoubleReadsBack x) →
        (parse? change.toJson.render).bind RelativeChange.ofJson? = some change) ∧
    ∀ (estimate : EnergyEstimate) (label : String),
      estimate.referenceQuantization = Quantization.ofLabel label →
      (∀ x ∈ estimate.doubles, x.isFinite = true) →
      (∀ x ∈ estimate.doubles, x.isFinite = true → DoubleReadsBack x) →
        (parse? estimate.toJson.render).bind EnergyEstimate.ofJson? = some estimate := by
  refine ⟨?_, ?_, ?_, ?_, ?_⟩
  · intro report
    exact decode_render report.readsBack_toJson report.ofJson?_toJson
  · intro profile finite assumed
    have decoded := profile.ofJson?_toJson
    exact decode_render_of_doubles HardwareProfile.readsBack_toJson decoded finite assumed
  · intro result finite assumed
    have decoded := result.ofJson?_toJson
    exact decode_render_of_doubles CalibrationResult.readsBack_toJson decoded finite assumed
  · intro change finite assumed
    have decoded := change.ofJson?_toJson
    exact decode_render_of_doubles RelativeChange.readsBack_toJson decoded finite assumed
  · intro estimate label labelled finite assumed
    have decoded := EnergyEstimate.ofJson?_toJson labelled
    exact decode_render_of_doubles EnergyEstimate.readsBack_toJson decoded finite assumed

/-- The profile of a machine that has a processor, what it was measured to do, a comparison that
fails the gate, and an estimate whose scheme goes by another name. -/
theorem decode_records_of_measured :
    (parse? (HardwareProfile.resolve (some ⟨"NVIDIA A800", "550.54.14", 81920, 2⟩)
        (some "12.4")).toJson.render).bind HardwareProfile.ofJson? =
      some (.resolve (some ⟨"NVIDIA A800", "550.54.14", 81920, 2⟩) (some "12.4")) ∧
    (parse? (CalibrationResult.toJson ⟨82.6, 412.25, 4.990317, 5.0, .computeBenchmark⟩).render).bind
        CalibrationResult.ofJson? =
      some ⟨82.6, 412.25, 4.990317, 5.0, .computeBenchmark⟩ ∧
    (parse? (RelativeChange.toJson ⟨true, true, 12.5, -2, 1, 0, -0.0625, false, "❌ \"1\" new\n",
        false, true⟩).render).bind RelativeChange.ofJson? =
      some ⟨true, true, 12.5, -2, 1, 0, -0.0625, false, "❌ \"1\" new\n", false, true⟩ ∧
    (parse? (EnergyEstimate.toJson
        ⟨431.7, .high, .ada, .ofLabel " INT8 ", 1.75, 0.36, 1.1⟩).render).bind
          EnergyEstimate.ofJson? =
      some ⟨431.7, .high, .ada, .ofLabel " INT8 ", 1.75, 0.36, 1.1⟩ := by
  obtain ⟨_, profiles, results, changes, estimates⟩ := decode_records
  refine ⟨?_, ?_, ?_, ?_⟩
  · exact profiles _ (by decide +kernel) (by decide +kernel)
  · exact results _ (by decide +kernel) (by decide +kernel)
  · exact changes _ (by decide +kernel) (by decide +kernel)
  · exact estimates _ " INT8 " rfl (by decide +kernel) (by decide +kernel)

end Json

end EnergyAudit
