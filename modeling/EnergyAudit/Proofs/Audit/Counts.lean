import EnergyAudit.Audit.Report
import EnergyAudit.Proofs.Audit.Aggregation
import EnergyAudit.Proofs.Regression.Comparison

/-! # Counts of findings

Counts are told from the severities of the findings that meet the threshold, and the critical ones
are counted whatever it is.  A list that fits into memory has fewer findings than the signed numbers
of 64 bits can say, and such a list has a summary with which the gate can compare. -/

namespace EnergyAudit

theorem RunSummary.criticalCount_of_ofCounts? {counts : SeverityCounts} {summary : RunSummary}
    (counted : ofCounts? counts = some summary) : summary.criticalCount = counts.critical := by
  obtain ⟨_, -, rfl⟩ := Option.map_eq_some_iff.mp counted
  rfl

theorem Rule.map_severity_check (rule : Rule) (source : List Char) (file other : String) :
    (rule.check source file).map (·.severity) = (rule.check source other).map (·.severity) := by
  have atLine (line : Option Nat) (advice : Advice) :
      (rule.reportAt file line advice).map (·.severity) =
        (rule.reportAt other line advice).map (·.severity) := by
    cases line <;> rfl
  cases rule with
  | defaultInt8 => exact atLine _ _
  | smallModelNf4 =>
      unfold check
      dsimp only
      split
      · exact atLine _ _
      · rfl
  | sequentialGenerate => exact atLine _ _
  | precisionConflict => exact atLine _ _
  | missingDeviceMap => exact atLine _ _
  | redundantFourBit =>
      rw [check, check, List.map_map, List.map_map]
      rfl

namespace Audit

open SeverityCounts

variable {findings : List Finding}

/-- Under whatever name a text is looked at, the findings are of the same severities. -/
theorem map_severity_findings (rules : List Rule) (text : Option String) (file other : String) :
    (auditFile rules ⟨file, text⟩).findings.map (·.severity) =
      (auditFile rules ⟨other, text⟩).findings.map (·.severity) := by
  cases text with
  | none => rfl
  | some text =>
      simp only [auditFile]
      split
      · simp only [Outcome.findings, scan, List.map_flatMap,
          Rule.map_severity_check _ text.toList file other]
      · rfl

theorem counts_aggregate (findings : List Finding) (threshold : Severity) :
    counts (aggregate findings threshold) =
      tally ((findings.map (·.severity)).filter (·.meets threshold)) := by
  refine tally_perm ?_
  rw [List.filter_map]
  exact (List.mergeSort_perm ..).map _

/-- Every threshold lets critical findings through. -/
theorem critical_counts_aggregate (findings : List Finding) (threshold : Severity) :
    (counts (aggregate findings threshold)).critical =
      UInt64.ofNat (findings.countP (·.severity == .critical)) := by
  have kept (severities : List Severity) :
      (severities.filter (·.meets threshold)).count .critical = severities.count .critical :=
    List.count_filter (by cases threshold <;> rfl)
  have counted : (counts (aggregate findings threshold)).critical =
      UInt64.ofNat (((findings.map (·.severity)).filter (·.meets threshold)).count .critical) := by
    rw [counts_aggregate]
    exact get_tally _ .critical
  rw [counted, kept, List.count, List.countP_map]
  rfl

theorem toNat_counts (few : findings.length < UInt64.size) (severity : Severity) :
    ((counts findings).get severity).toNat = (findings.map (·.severity)).count severity :=
  toNat_get_tally (by rwa [List.length_map]) severity

theorem sum_counts (few : findings.length < UInt64.size) :
    (counts findings).critical.toNat + (counts findings).warning.toNat +
      (counts findings).info.toNat = findings.length := by
  have critical := toNat_counts few .critical
  have warning := toNat_counts few .warning
  have info := toNat_counts few .info
  have all := length_eq_sum_count (findings.map (·.severity))
  rw [List.length_map] at all
  rw [all, ← critical, ← warning, ← info]
  rfl

/-- The counts add up to the number of findings, if that is not more than a word can say. -/
theorem total?_counts (few : findings.length < UInt64.size) :
    (counts findings).total? = some (UInt64.ofNat findings.length) := by
  have sum := sum_counts few
  have known := total?_eq (sum ▸ few)
  have value := toNat_total? known
  rw [known, ← UInt64.ofNat_toNat (x := _ + _), value, sum]

theorem exists_summary (few : findings.length < Count.signedBound) :
    ∃ summary, RunSummary.ofCounts? (counts findings) = some summary ∧ summary.Moderate := by
  have size : Count.signedBound ≤ UInt64.size := by decide
  have sum := sum_counts (Nat.lt_of_lt_of_le few size)
  obtain ⟨total, known⟩ := exists_total? (sum ▸ few)
  have value := toNat_total? known
  have moderate : total.toNat < Count.signedBound ∧
      (counts findings).critical.toNat < Count.signedBound ∧
        (counts findings).warning.toNat < Count.signedBound := by omega
  refine ⟨⟨total, (counts findings).critical, (counts findings).warning⟩, ?_, moderate⟩
  rw [RunSummary.ofCounts?, known]
  rfl

end Audit

end EnergyAudit
