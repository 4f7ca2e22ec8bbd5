import EnergyAudit.Proofs.Baseline.Layout
import EnergyAudit.Proofs.Double.Text
import EnergyAudit.Proofs.Json.RoundTrip

/-! # Documents of baselines with any doubles

Each baseline of a document comes back under its key, with the doubles that come back of its own, if
all doubles of the document are finite.  A document with any other double is no document once it is
written: its text cannot be read. -/

namespace EnergyAudit

open Json

theorem Json.asDouble?_reread (x : Float) :
    asDouble? ((doubleReread? x).elim .null .float) = doubleReread? x := by
  cases doubleReread? x <;> rfl

namespace Baseline

/-- What comes back of the baseline, if its doubles are finite. -/
def reread? (baseline : Baseline) : Option Baseline := do
  return { baseline with
    benchmarkScoreTflops := ← doubleReread? baseline.benchmarkScoreTflops
    avgPowerDrawW := ← doubleReread? baseline.avgPowerDrawW
    energyPerTflopJoules := ← doubleReread? baseline.energyPerTflopJoules }

theorem isSome_reread? (baseline : Baseline) :
    baseline.reread?.isSome = baseline.doubles.all Float.isFinite := by
  simp only [doubles, List.all_cons, List.all_nil, Bool.and_true, ← Double.isSome_doubleReread?]
  unfold reread?
  cases doubleReread? baseline.benchmarkScoreTflops <;>
    cases doubleReread? baseline.avgPowerDrawW <;>
      cases doubleReread? baseline.energyPerTflopJoules <;> rfl

theorem legible_toJson (baseline : Baseline) : baseline.toJson.Legible := by
  have word (n : UInt64) : (ofWord64 n).Legible := (readsBack_ofWord64 n).legible
  cases method : baseline.method <;>
    simp [toJson, methodMember, method, Legible, MembersLegible, word, Double.doubleLegible,
      CalibrationMethod.toJson]

theorem fields?_reread (baseline : Baseline) :
    fields? true fieldNames baseline.toJson.reread =
      some [some (.str baseline.hardwareFingerprint), some (.str baseline.gpuName),
        some (.str baseline.timestamp),
        some ((doubleReread? baseline.benchmarkScoreTflops).elim .null .float),
        some ((doubleReread? baseline.avgPowerDrawW).elim .null .float),
        some ((doubleReread? baseline.energyPerTflopJoules).elim .null .float),
        some (.ofWord64 baseline.totalIssues), some (.ofWord64 baseline.criticalCount),
        some (.ofWord64 baseline.warningCount), some (.str baseline.commitSha),
        some (.str baseline.branch), baseline.method.map CalibrationMethod.toJson] := by
  cases method : baseline.method <;>
    simp [toJson, method, methodMember, reread, rereadMembers, fields?, fieldNames, shape, field,
      findField, FieldNames.matches, ofWord64, CalibrationMethod.toJson]

theorem ofJson?_reread (baseline : Baseline) :
    ofJson? baseline.toJson.reread = baseline.reread? := by
  unfold ofJson?
  rw [fields?_reread]
  refine (Option.bind_some ..).trans ?_
  dsimp only [withDefault]
  rw [asDouble?_reread, asDouble?_reread, asDouble?_reread, asWord64?_ofWord64, asWord64?_ofWord64,
    asWord64?_ofWord64, optional_method]
  rfl

end Baseline

namespace BaselineDocument

/-- What comes back of the document, if its doubles are finite. -/
def reread? (document : BaselineDocument) : Option BaselineDocument :=
  (document.baselines.traverse? Baseline.reread?).map BaselineDocument.mk

theorem isSome_reread? (document : BaselineDocument) :
    document.reread?.isSome = document.doubles.all Float.isFinite := by
  rw [reread?, Option.isSome_map, SortedMap.isSome_traverse?, doubles, List.all_flatMap]
  simp only [Baseline.isSome_reread?]

theorem find?_of_reread? {document again : BaselineDocument} (read : document.reread? = some again)
    (key : String) :
    again.baselines.find? key = (document.baselines.find? key).bind Baseline.reread? := by
  obtain ⟨baselines, all, rfl⟩ := Option.map_eq_some_iff.mp read
  exact SortedMap.find?_of_traverse? all key

theorem legible_toJson (document : BaselineDocument) : document.toJson.Legible := by
  have members (entries : List (String × Baseline)) :
      MembersLegible (entries.map fun entry => (entry.1, entry.2.toJson)) := by
    induction entries with
    | nil => trivial
    | cons entry entries ih => exact ⟨entry.2.legible_toJson, ih⟩
  exact ⟨members document.baselines.entries, trivial⟩

theorem mapM_reread (entries : List (String × Baseline)) :
    (rereadMembers (entries.map fun entry => (entry.1, entry.2.toJson))).mapM
      (fun member => (Baseline.ofJson? member.2).map (member.1, ·)) =
        entries.mapM (SortedMap.entryWith? Baseline.reread?) := by
  induction entries with
  | nil => rfl
  | cons entry entries ih =>
      simp only [List.map_cons, rereadMembers, List.mapM_cons, Baseline.ofJson?_reread, ih]
      rfl

theorem toJson_reread (document : BaselineDocument) :
    document.toJson.reread = .obj [("baselines", .obj (rereadMembers
      (document.baselines.entries.map fun entry => (entry.1, entry.2.toJson))))] := by
  simp [toJson, baselinesJson, reread, rereadMembers]

theorem ofJson?_baselines (value : Json) :
    ofJson? (.obj [("baselines", value)]) = (baselinesOfJson? value).map BaselineDocument.mk := by
  cases read : baselinesOfJson? value <;>
    simp [ofJson?, fields?, findField, FieldNames.matches, field, required, read]

theorem ofJson?_reread (document : BaselineDocument) :
    ofJson? document.toJson.reread = document.reread? := by
  rw [toJson_reread, ofJson?_baselines, baselinesOfJson?, mapM_reread]
  rfl

/-- The text of a document is read as what comes back of the document, if anything does. -/
theorem toOption_parse_render (document : BaselineDocument) :
    (parse (document.render ++ "\n")).toOption = document.reread? := by
  have tree : parseMerged? (document.render ++ "\n") = some document.toJson.reread := by
    have whole : parseMerged? (document.toJson.render ++ "\n") = _ :=
      parseMerged?_render_legible document.legible_toJson document.isReadable_toJson (by decide)
    rwa [merged_toJson] at whole
  have value := ofJson?_reread document
  rw [toJson_reread] at tree value
  rw [parse, tree]
  simp only [ofMembers, member?, List.find?_cons_of_pos, beq_self_eq_true, Option.map_some, value]
  cases document.reread? <;> rfl

end BaselineDocument

end EnergyAudit
