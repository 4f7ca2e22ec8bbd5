import EnergyAudit.Baseline.Document
import EnergyAudit.Proofs.Json.Fields
import EnergyAudit.Proofs.SortedMap

/-! # Documents of baselines read back

A document of baselines is read back from its text with every field of every baseline, under the
same keys. -/

namespace EnergyAudit

open Json

/-- Members with different keys stay as they are when the last one of each key is kept. -/
theorem Json.mergedMembers_eq {members : List (String × Json)}
    (values : ∀ member ∈ members, member.2.merged = member.2)
    (keys : members.Pairwise (fun a b => a.1 ≠ b.1)) : mergedMembers members = members := by
  induction members with
  | nil => rfl
  | cons member members ih =>
      obtain ⟨different, tail⟩ := List.pairwise_cons.mp keys
      have rest := ih (fun later found => values later (List.mem_cons_of_mem _ found)) tail
      have unmatched : members.any (·.1 == member.1) = false := by
        rw [List.any_eq_false]
        intro later found
        simpa using Ne.symm (different later found)
      simp [mergedMembers, rest, unmatched, values member List.mem_cons_self]

namespace Baseline

/-- Whether the doubles of the baseline come back as themselves. -/
structure ReadsBack (baseline : Baseline) : Prop where
  score : DoubleReadsBack baseline.benchmarkScoreTflops
  power : DoubleReadsBack baseline.avgPowerDrawW
  energy : DoubleReadsBack baseline.energyPerTflopJoules

instance (baseline : Baseline) : Decidable baseline.ReadsBack :=
  decidable_of_iff (DoubleReadsBack baseline.benchmarkScoreTflops ∧
      DoubleReadsBack baseline.avgPowerDrawW ∧ DoubleReadsBack baseline.energyPerTflopJoules)
    ⟨fun ⟨score, power, energy⟩ => ⟨score, power, energy⟩,
      fun ⟨score, power, energy⟩ => ⟨score, power, energy⟩⟩

theorem fields?_toJson (baseline : Baseline) :
    fields? true fieldNames baseline.toJson =
      some [some (.str baseline.hardwareFingerprint), some (.str baseline.gpuName),
        some (.str baseline.timestamp), some (.float baseline.benchmarkScoreTflops),
        some (.float baseline.avgPowerDrawW), some (.float baseline.energyPerTflopJoules),
        some (.ofWord64 baseline.totalIssues), some (.ofWord64 baseline.criticalCount),
        some (.ofWord64 baseline.warningCount), some (.str baseline.commitSha),
        some (.str baseline.branch), baseline.method.map CalibrationMethod.toJson] := by
  cases method : baseline.method with
  | none =>
      simp [toJson, method, methodMember, fields?, fieldNames, shape, field, findField,
        FieldNames.matches]
  | some kept =>
      simp [toJson, method, methodMember, fields?, fieldNames, shape, field, findField,
        FieldNames.matches]

theorem optional_method (method : Option CalibrationMethod) :
    optional CalibrationMethod.ofJson? (method.map CalibrationMethod.toJson) = some method := by
  cases method with
  | none => rfl
  | some method => cases method <;> rfl

theorem ofJson?_toJson (baseline : Baseline) : ofJson? baseline.toJson = some baseline := by
  simp [ofJson?, fields?_toJson, withDefault, asString?, asDouble?, asWord64?_ofWord64,
    optional_method]

theorem readsBack_toJson {baseline : Baseline} (doubles : baseline.ReadsBack) :
    baseline.toJson.ReadsBack := by
  cases method : baseline.method with
  | none =>
      simp [toJson, methodMember, method, Json.ReadsBack, MembersReadBack, readsBack_ofWord64,
        doubles.score, doubles.power, doubles.energy]
  | some kept =>
      simp [toJson, methodMember, method, Json.ReadsBack, MembersReadBack, readsBack_ofWord64,
        doubles.score, doubles.power, doubles.energy, CalibrationMethod.toJson]

theorem merged_toJson (baseline : Baseline) : baseline.toJson.merged = baseline.toJson := by
  cases method : baseline.method with
  | none => simp [toJson, methodMember, method, merged, mergedMembers, ofWord64]
  | some kept =>
      simp [toJson, methodMember, method, merged, mergedMembers, ofWord64,
        CalibrationMethod.toJson]

theorem isReadable_toJson {depth : Nat} (deep : 0 < depth) (baseline : Baseline) :
    baseline.toJson.isReadable depth = true := by
  cases method : baseline.method with
  | none =>
      simp [toJson, methodMember, method, isReadable, membersReadable, ofWord64, deep]
  | some kept =>
      simp [toJson, methodMember, method, isReadable, membersReadable, ofWord64, deep,
        CalibrationMethod.toJson]

end Baseline

namespace BaselineDocument

/-- Whether the doubles of all its baselines come back as themselves. -/
def ReadsBack (document : BaselineDocument) : Prop :=
  ∀ entry ∈ document.baselines.entries, entry.2.ReadsBack

theorem readsBack_empty : empty.ReadsBack := nofun

theorem ReadsBack.insert {document : BaselineDocument} {baseline : Baseline}
    (readsBack : document.ReadsBack) (added : baseline.ReadsBack) :
    (document.insert baseline).ReadsBack := by
  intro entry member
  rcases SortedMap.mem_insertEntry member with rfl | old
  · exact added
  · exact readsBack entry old

theorem readsBack_members {entries : List (String × Baseline)}
    (readsBack : ∀ entry ∈ entries, entry.2.ReadsBack) :
    MembersReadBack (entries.map fun entry => (entry.1, entry.2.toJson)) := by
  induction entries with
  | nil => trivial
  | cons entry entries ih =>
      exact ⟨Baseline.readsBack_toJson (readsBack entry List.mem_cons_self),
        ih fun later member => readsBack later (List.mem_cons_of_mem _ member)⟩

theorem readsBack_toJson {document : BaselineDocument} (readsBack : document.ReadsBack) :
    document.toJson.ReadsBack :=
  ⟨readsBack_members readsBack, trivial⟩

theorem membersReadable_entries {depth : Nat} (deep : 0 < depth)
    (entries : List (String × Baseline)) :
    membersReadable depth (entries.map fun entry => (entry.1, entry.2.toJson)) = true := by
  induction entries with
  | nil => rfl
  | cons entry entries ih =>
      simp only [List.map_cons, membersReadable, Baseline.isReadable_toJson deep, ih, Bool.and_self]

theorem merged_toJson (document : BaselineDocument) : document.toJson.merged = document.toJson := by
  have entries : mergedMembers
      (document.baselines.entries.map fun entry => (entry.1, entry.2.toJson)) =
        document.baselines.entries.map fun entry => (entry.1, entry.2.toJson) := by
    apply mergedMembers_eq
    · intro member found
      obtain ⟨entry, _, rfl⟩ := List.mem_map.mp found
      exact Baseline.merged_toJson entry.2
    · rw [List.pairwise_map]
      apply document.baselines.ascending.imp
      intro a b less same
      exact String.lt_irrefl b.1 (same ▸ less)
  simp [toJson, baselinesJson, merged, mergedMembers, entries]

theorem ofJson?_toJson (document : BaselineDocument) :
    ofJson? document.toJson = some document := by
  have entries : ∀ entries : List (String × Baseline),
      (entries.map fun entry => (entry.1, entry.2.toJson)).mapM
        (fun member => (Baseline.ofJson? member.2).map (member.1, ·)) = some entries := by
    intro entries
    induction entries with
    | nil => rfl
    | cons entry entries ih =>
        rw [List.map_cons, List.mapM_cons, ih, Baseline.ofJson?_toJson]
        rfl
  simp [ofJson?, toJson, fields?, findField, FieldNames.matches, field, required,
    baselinesJson, baselinesOfJson?, entries, SortedMap.ofList_entries]

theorem isReadable_toJson (document : BaselineDocument) :
    document.toJson.isReadable maxDepth = true := by
  simp only [toJson, baselinesJson, isReadable, membersReadable, Bool.and_true,
    membersReadable_entries (show 0 < maxDepth - 1 - 1 by decide)]
  decide

theorem parseMerged?_render {document : BaselineDocument} {spaces : String}
    (readsBack : document.ReadsBack) (spacesOnly : spaces.toList.all isSpace = true) :
    parseMerged? (document.render ++ spaces) = some document.toJson := by
  have tree : Json.parse? (document.render ++ spaces) = some document.toJson :=
    parse?_render (readsBack_toJson readsBack) spacesOnly
  simp [parseMerged?, tree, isReadable_toJson, merged_toJson]

theorem member?_toJson (document : BaselineDocument) :
    Json.member? [("baselines", baselinesJson document.baselines)] "baselines" =
      some (baselinesJson document.baselines) := by
  simp [Json.member?]

theorem parse_of_parseMerged? {document : BaselineDocument} {text : String}
    (merged : parseMerged? text = some document.toJson) : parse text = .ok document := by
  have whole := ofJson?_toJson document
  simp only [toJson] at merged whole
  simp only [parse, merged, ofMembers, document.member?_toJson, whole]

theorem parse_render {document : BaselineDocument} (readsBack : document.ReadsBack) :
    parse (document.render ++ "\n") = .ok document :=
  parse_of_parseMerged? (parseMerged?_render readsBack (by decide))

end BaselineDocument

end EnergyAudit
