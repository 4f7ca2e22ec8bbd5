import EnergyAudit.Proofs.Regression.Decision
import EnergyAudit.Proofs.Regression.Gate

/-! # Changes of counts of any size

Counts have 64 bits, and their changes are signed numbers of as many.  A count beyond the signed
numbers is taken for a negative one, so that changes are right between counts on the same side of
the first such count, and between no others: there a change has the wrong sign, or is no number at
all. -/

namespace EnergyAudit

namespace Regression

variable {baseline : Baseline} {run : CurrentRun} {policy : RegressionPolicy}

theorem sameSides_of_countsExactly {change : RelativeChange}
    (compared : compareWith? baseline run policy = some change)
    (exact : CountsExactly baseline run.summary change) : SameSides baseline run.summary := by
  obtain ⟨issues, critical, warning, verdict, issuesKnown, criticalKnown, warningKnown, _, rfl⟩ :=
    compareWith?_eq_some.mp compared
  exact {
    issues := (Count.toInt_change?_iff issuesKnown).mp exact.issues
    critical := (Count.toInt_change?_iff criticalKnown).mp exact.critical
    warning := (Count.toInt_change?_iff warningKnown).mp exact.warning }

/-- The gate finds the changes of all counts, as what the counts differ by, exactly if each count of
the run is on the same side as that of the baseline.  Where a comparison is made all the same, the
signs of the changes are right for the counts on the same side and wrong for the others.  What a
comparison comes to can always be shown. -/
theorem changes_of_sameSides (baseline : Baseline) (run : CurrentRun) (policy : RegressionPolicy) :
    ((∃ change, classify? (some baseline) run policy = some change ∧
        CountsExactly baseline run.summary change) ↔ SameSides baseline run.summary) ∧
      ∀ change, classify? (some baseline) run policy = some change →
        ((0 < change.criticalDelta ↔ baseline.criticalCount < run.summary.criticalCount) ↔
          Count.SameSide baseline.criticalCount run.summary.criticalCount) ∧
        (Count.SignOf baseline.totalIssues run.summary.totalIssues change.issuesDelta ↔
          Count.SameSide baseline.totalIssues run.summary.totalIssues) ∧
        ∃ text, change.markdown? (some baseline) = some text := by
  constructor
  · constructor
    · rintro ⟨change, compared, exact⟩
      exact sameSides_of_countsExactly compared exact
    · intro same
      obtain ⟨_, _, _, _, _, _, _, compared, exact⟩ := same.exists_reaches policy
      exact ⟨_, compared, exact⟩
  · intro change compared
    have shown := exists_markdown?_of_compareWith? compared
    obtain ⟨issues, critical, warning, verdict, issuesKnown, criticalKnown, _, _, rfl⟩ :=
      compareWith?_eq_some.mp compared
    exact ⟨Count.change?_pos_iff_iff criticalKnown, Count.signOf_iff issuesKnown, shown⟩

theorem changes_of_great_counts :
    SameSides { totalIssues := 9223372036854775809, criticalCount := 9223372036854775808 }
        ⟨9223372036854775809, 9223372036854775809, 0⟩ ∧
      ∃ change, classify?
          (some { totalIssues := 9223372036854775809, criticalCount := 9223372036854775808 })
          ⟨"fp", ⟨9223372036854775809, 9223372036854775809, 0⟩, .empty .none⟩ {} = some change ∧
        change.issuesDelta.toInt = 0 ∧ change.criticalDelta.toInt = 1 ∧
          0 < change.criticalDelta := by
  have same : SameSides
      { totalIssues := 9223372036854775809, criticalCount := 9223372036854775808 }
      ⟨9223372036854775809, 9223372036854775809, 0⟩ := ⟨by decide, by decide, by decide⟩
  obtain ⟨exact_iff, signs⟩ := changes_of_sameSides
    { totalIssues := 9223372036854775809, criticalCount := 9223372036854775808 }
    ⟨"fp", ⟨9223372036854775809, 9223372036854775809, 0⟩, .empty .none⟩ {}
  obtain ⟨change, compared, counts⟩ := exact_iff.mpr same
  have sign : 0 < change.criticalDelta ↔ _ := (signs change compared).1.mpr same.critical
  exact ⟨same, change, compared, counts.issues, counts.critical, sign.mpr (by decide)⟩

/-- The counts of a document may be such that nothing is said of a run with fewer critical findings,
or that a run without any fails for a new one. -/
theorem classify_of_great_counts :
    (∃ text document, BaselineDocument.parse text = .ok document ∧
        document.baselines.find? "fp" = some
          { hardwareFingerprint := "fp", criticalCount := 9223372036854775808 } ∧
        classify? (document.baselines.find? "fp")
          ⟨"fp", ⟨0, 9223372036854775807, 0⟩, .empty .none⟩ {} = none) ∧
      ∃ text document change, BaselineDocument.parse text = .ok document ∧
        document.baselines.find? "fp" = some
          { hardwareFingerprint := "fp", criticalCount := 18446744073709551615 } ∧
        classify? (document.baselines.find? "fp") ⟨"fp", ⟨0, 0, 0⟩, .empty .none⟩ {} = some change ∧
        change.criticalDelta = 1 ∧ change.passed = false ∧
          change.reason = "❌ 1 new critical issue(s) introduced." := by
  constructor
  · exact ⟨_, .insert .empty { hardwareFingerprint := "fp", criticalCount := 9223372036854775808 },
      BaselineDocument.parse_render (BaselineDocument.readsBack_empty.insert (by decide +kernel)),
      rfl, by decide⟩
  · refine ⟨_, .insert .empty
        { hardwareFingerprint := "fp", criticalCount := 18446744073709551615 }, _,
      BaselineDocument.parse_render (BaselineDocument.readsBack_empty.insert (by decide +kernel)),
      rfl, rfl, ?_, ?_, ?_⟩
    all_goals rfl

end Regression

end EnergyAudit
