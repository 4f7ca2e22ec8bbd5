import EnergyAudit.Regression

/-! # Verdicts and their reasons

The gate looks at its reasons in a fixed order and takes the first one that applies.  It fails for
three of them, and when none of those applies it is only the wording that is left to decide. -/

namespace EnergyAudit.Regression

variable {policy : RegressionPolicy} {critical issues : Int64} {energy throughput : Float}
  {verdict : Verdict}

/-- Whether one of the three reasons to fail applies. -/
def Fails (policy : RegressionPolicy) (critical : Int64) (energy throughput : Float) : Prop :=
  0 < critical ∨ energy > policy.thresholdPct ∨
    policy.gateOnThroughput = true ∧ throughput > policy.thresholdPct

/-- The verdict is the one of the first reason that applies. -/
inductive Reaches (policy : RegressionPolicy) (critical issues : Int64)
    (energy throughput : Float) : Verdict → Prop
  | newCritical (more : 0 < critical) :
      Reaches policy critical issues energy throughput (.newCritical critical)
  | energyRegressed (noMore : ¬ 0 < critical) (dearer : energy > policy.thresholdPct) :
      Reaches policy critical issues energy throughput
        (.energyRegressed energy policy.thresholdPct)
  | throughputDropped (noMore : ¬ 0 < critical) (notDearer : ¬ energy > policy.thresholdPct)
      (gated : policy.gateOnThroughput = true) (slower : throughput > policy.thresholdPct) :
      Reaches policy critical issues energy throughput
        (.throughputDropped throughput policy.thresholdPct)
  | newIssues (fine : ¬ Fails policy critical energy throughput) (grown : 0 < issues) :
      Reaches policy critical issues energy throughput (.newIssues issues)
  | fixedIssues {count : Int64} (fine : ¬ Fails policy critical energy throughput)
      (shrunk : issues < 0) (opposite : Count.opposite? issues = some count) :
      Reaches policy critical issues energy throughput (.fixedIssues count)
  | unchanged (fine : ¬ Fails policy critical energy throughput) (notGrown : ¬ 0 < issues)
      (notShrunk : ¬ issues < 0) : Reaches policy critical issues energy throughput .unchanged

theorem reaches_of_verdict? (decided : verdict? policy critical issues energy throughput =
    some verdict) : Reaches policy critical issues energy throughput verdict := by
  unfold verdict? at decided
  by_cases more : 0 < critical
  · rw [if_pos more, Option.some.injEq] at decided
    exact decided ▸ .newCritical more
  · rw [if_neg more] at decided
    by_cases dearer : energy > policy.thresholdPct
    · rw [if_pos dearer, Option.some.injEq] at decided
      exact decided ▸ .energyRegressed more dearer
    · rw [if_neg dearer] at decided
      by_cases slower : policy.gateOnThroughput = true ∧ throughput > policy.thresholdPct
      · rw [if_pos (by simpa using slower), Option.some.injEq] at decided
        exact decided ▸ .throughputDropped more dearer slower.1 slower.2
      · rw [if_neg (by simpa using slower)] at decided
        have fine : ¬ Fails policy critical energy throughput := by
          simp only [Fails, more, dearer, slower, or_self, not_false_eq_true]
        by_cases grown : 0 < issues
        · rw [if_pos grown, Option.some.injEq] at decided
          exact decided ▸ .newIssues fine grown
        · rw [if_neg grown] at decided
          by_cases shrunk : issues < 0
          · rw [if_pos shrunk, Option.map_eq_some_iff] at decided
            obtain ⟨count, opposite, rfl⟩ := decided
            exact .fixedIssues fine shrunk opposite
          · rw [if_neg shrunk, Option.some.injEq] at decided
            exact decided ▸ .unchanged fine grown shrunk

theorem verdict?_of_reaches (reaches : Reaches policy critical issues energy throughput verdict) :
    verdict? policy critical issues energy throughput = some verdict := by
  have notFailing (fine : ¬ Fails policy critical energy throughput) :
      verdict? policy critical issues energy throughput =
        if 0 < issues then some (.newIssues issues)
        else if issues < 0 then (Count.opposite? issues).map .fixedIssues
        else some .unchanged := by
    simp only [Fails, not_or, not_and] at fine
    obtain ⟨noMore, notDearer, notSlower⟩ := fine
    rw [verdict?, if_neg noMore, if_neg notDearer, if_neg (by simpa using notSlower)]
  cases reaches with
  | newCritical more => rw [verdict?, if_pos more]
  | energyRegressed noMore dearer => rw [verdict?, if_neg noMore, if_pos dearer]
  | throughputDropped noMore notDearer gated slower =>
      rw [verdict?, if_neg noMore, if_neg notDearer, if_pos (by simp [gated, slower])]
  | newIssues fine grown => rw [notFailing fine, if_pos grown]
  | fixedIssues fine shrunk opposite =>
      have notGrown : ¬ 0 < issues := Int64.not_lt.mpr (Int64.le_of_lt shrunk)
      rw [notFailing fine, if_neg notGrown, if_pos shrunk, opposite, Option.map_some]
  | unchanged fine notGrown notShrunk =>
      rw [notFailing fine, if_neg notGrown, if_neg notShrunk]

theorem Reaches.unique {other : Verdict}
    (reaches : Reaches policy critical issues energy throughput verdict)
    (again : Reaches policy critical issues energy throughput other) : verdict = other :=
  Option.some.inj ((verdict?_of_reaches reaches).symm.trans (verdict?_of_reaches again))

/-- A verdict fails for one of three reasons, of which no count but that of the critical findings is
one. -/
theorem Reaches.passed_eq_false_iff
    (reaches : Reaches policy critical issues energy throughput verdict) :
    verdict.passed = false ↔ Fails policy critical energy throughput := by
  cases reaches with
  | newCritical more => exact iff_of_true rfl (.inl more)
  | energyRegressed _ dearer => exact iff_of_true rfl (.inr (.inl dearer))
  | throughputDropped _ _ gated slower => exact iff_of_true rfl (.inr (.inr ⟨gated, slower⟩))
  | newIssues fine | fixedIssues fine | unchanged fine => exact iff_of_false nofun fine

end EnergyAudit.Regression
