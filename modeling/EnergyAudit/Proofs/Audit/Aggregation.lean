import EnergyAudit.Audit.Report
import Mathlib.Data.List.Sort

/-! # The order of aggregated findings

Findings are put in order by severity and file, and nothing is said of two findings that are alike
in both.  What settles the order all the same is that those keep the order they were found in: an
ordered list is known by its findings of each severity and file.  Lists that agree on these are
aggregated to the same, and a stricter threshold leaves out some findings without moving the
others. -/

namespace EnergyAudit

theorem Severity.meets_of_meets {severity lax strict : Severity}
    (stricter : lax.rank ≤ strict.rank) (meets : severity.meets strict = true) :
    severity.meets lax = true := by
  simp only [Severity.meets, decide_eq_true_eq] at meets ⊢
  exact Nat.le_trans stricter meets

/-- What findings are put in order by. -/
def Finding.standing (finding : Finding) : Severity × String := (finding.severity, finding.file)

namespace Audit

/-! ## The order -/

/-- Whether findings of the first severity and file may stand before those of the second. -/
def Precedes (first second : Severity × String) : Prop :=
  second.1.rank < first.1.rank ∨ first.1 = second.1 ∧ first.2 ≤ second.2

namespace Precedes

variable {first second third : Severity × String}

theorem refl (standing : Severity × String) : Precedes standing standing :=
  .inr ⟨rfl, String.le_refl _⟩

theorem total (first second : Severity × String) :
    Precedes first second ∨ Precedes second first := by
  rcases Nat.lt_trichotomy first.1.rank second.1.rank with less | same | greater
  · exact .inr (.inl less)
  · have severity := Severity.rank_injective same
    rcases String.le_total first.2 second.2 with below | above
    · exact .inl (.inr ⟨severity, below⟩)
    · exact .inr (.inr ⟨severity.symm, above⟩)
  · exact .inl (.inl greater)

theorem trans (before : Precedes first second) (after : Precedes second third) :
    Precedes first third := by
  rcases before with more | ⟨same, below⟩ <;> rcases after with more' | ⟨same', below'⟩
  · exact .inl (Nat.lt_trans more' more)
  · exact .inl (same' ▸ more)
  · exact .inl (same ▸ more')
  · exact .inr ⟨same.trans same', String.le_trans below below'⟩

theorem antisymm (before : Precedes first second) (after : Precedes second first) :
    first = second := by
  rcases before with more | ⟨same, below⟩ <;> rcases after with more' | ⟨same', below'⟩
  · omega
  · exact absurd more (by simp [same'])
  · exact absurd more' (by simp [same])
  · exact Prod.ext same (String.le_antisymm below below')

end Precedes

variable {a b : Finding} {findings others : List Finding} {standing : Severity × String}

theorem inOrder_iff : inOrder a b = true ↔ Precedes a.standing b.standing := by
  simp only [inOrder, Precedes, Finding.standing, Bool.or_eq_true, Bool.and_eq_true,
    decide_eq_true_eq, beq_iff_eq, Bool.not_eq_true', decide_eq_false_iff_not, String.not_lt]

theorem inOrder_trans (a b c : Finding) (before : inOrder a b = true)
    (after : inOrder b c = true) : inOrder a c = true :=
  inOrder_iff.mpr ((inOrder_iff.mp before).trans (inOrder_iff.mp after))

theorem inOrder_total (a b : Finding) : (inOrder a b || inOrder b a) = true := by
  rw [Bool.or_eq_true, inOrder_iff, inOrder_iff]
  exact Precedes.total a.standing b.standing

/-- Whether no finding stands behind one that it has to precede. -/
abbrev Ordered (findings : List Finding) : Prop :=
  findings.Pairwise fun a b => inOrder a b = true

/-! ## Findings of one severity in one file -/

/-- The findings of one severity in one file. -/
def alike (standing : Severity × String) (findings : List Finding) : List Finding :=
  findings.filter (·.standing == standing)

theorem mem_alike : a ∈ alike standing findings ↔ a ∈ findings ∧ a.standing = standing := by
  simp [alike]

theorem alike_cons_of_standing :
    alike a.standing (a :: findings) = a :: alike a.standing findings :=
  List.filter_cons_of_pos (by simp)

theorem alike_filter (keeps : Severity → Bool) :
    alike standing (findings.filter (keeps ·.severity)) =
      (alike standing findings).filter (keeps ·.severity) := by
  simp only [alike, List.filter_filter, Bool.and_comm]

theorem Ordered.head_eq (ordered : Ordered (a :: findings)) (ordered' : Ordered (b :: others))
    (same : ∀ standing, alike standing (a :: findings) = alike standing (b :: others)) :
    a = b := by
  have inOther : a ∈ b :: others :=
    (mem_alike.mp (same a.standing ▸ mem_alike.mpr ⟨List.mem_cons_self, rfl⟩)).1
  have inThis : b ∈ a :: findings :=
    (mem_alike.mp (same b.standing ▸ mem_alike.mpr ⟨List.mem_cons_self, rfl⟩)).1
  -- Either finding stands behind the other one in one of the lists, unless they are the same.
  have standing : a.standing = b.standing := by
    rcases List.mem_cons.mp inThis with rfl | later
    · rfl
    · rcases List.mem_cons.mp inOther with rfl | later'
      · rfl
      · exact (inOrder_iff.mp (List.rel_of_pairwise_cons ordered later)).antisymm
          (inOrder_iff.mp (List.rel_of_pairwise_cons ordered' later'))
  have heads := same a.standing
  rw [alike_cons_of_standing, standing, alike_cons_of_standing] at heads
  exact (List.cons.inj heads).1

/-- An ordered list is known by its findings of each severity and file. -/
theorem Ordered.ext (ordered : Ordered findings) (ordered' : Ordered others)
    (same : ∀ standing, alike standing findings = alike standing others) : findings = others := by
  induction findings generalizing others with
  | nil =>
      cases others with
      | nil => rfl
      | cons b others =>
          have nothing := same b.standing
          rw [alike_cons_of_standing] at nothing
          exact nomatch nothing
  | cons a findings ih =>
      cases others with
      | nil =>
          have nothing := same a.standing
          rw [alike_cons_of_standing] at nothing
          exact nomatch nothing
      | cons b others =>
          obtain rfl := ordered.head_eq ordered' same
          have rest : ∀ standing, alike standing findings = alike standing others := by
            intro standing
            have whole := same standing
            by_cases own : a.standing = standing
            · subst own
              rw [alike_cons_of_standing, alike_cons_of_standing] at whole
              exact (List.cons.inj whole).2
            · simpa [alike, own] using whole
          rw [ih (List.Pairwise.of_cons ordered) (List.Pairwise.of_cons ordered') rest]

/-- Putting findings in order moves none of those that are alike. -/
theorem alike_mergeSort (standing : Severity × String) (findings : List Finding) :
    alike standing (findings.mergeSort inOrder) = alike standing findings := by
  have ordered : Ordered (alike standing findings) := by
    apply List.pairwise_of_forall_mem_list
    intro a inFirst b inSecond
    rw [inOrder_iff, (mem_alike.mp inFirst).2, (mem_alike.mp inSecond).2]
    exact Precedes.refl standing
  -- The sort is stable: what is in order before it is a sublist of what comes out.  Of the findings
  -- that are alike it is as long as the whole, so that it is the whole.
  have kept : (alike standing findings).Sublist (findings.mergeSort inOrder) :=
    List.sublist_mergeSort inOrder_trans inOrder_total ordered List.filter_sublist
  have inside : (alike standing findings).Sublist
      (alike standing (findings.mergeSort inOrder)) := by
    have filtered := kept.filter (·.standing == standing)
    simpa only [alike, List.filter_filter, Bool.and_self] using filtered
  have length := ((List.mergeSort_perm findings inOrder).filter (·.standing == standing)).length_eq
  exact (inside.eq_of_length length.symm).symm

/-! ## Aggregation -/

theorem mem_aggregate {threshold : Severity} :
    a ∈ aggregate findings threshold ↔
      a ∈ findings ∧ a.severity.meets threshold = true := by
  rw [aggregate, List.mem_mergeSort, List.mem_filter]

theorem ordered_aggregate (findings : List Finding) (threshold : Severity) :
    Ordered (aggregate findings threshold) :=
  List.pairwise_mergeSort inOrder_trans inOrder_total _

theorem aggregate_of_ordered {threshold : Severity} (ordered : Ordered findings)
    (met : ∀ finding ∈ findings, finding.severity.meets threshold = true) :
    aggregate findings threshold = findings := by
  rw [aggregate, List.filter_eq_self.mpr met]
  exact List.mergeSort_of_pairwise ordered

/-- Aggregation keeps the findings of one severity and file as they are, if they meet the
threshold. -/
theorem alike_aggregate (standing : Severity × String) (findings : List Finding)
    (threshold : Severity) :
    alike standing (aggregate findings threshold) =
      (alike standing findings).filter (·.severity.meets threshold) := by
  rw [aggregate, alike_mergeSort, alike_filter (·.meets threshold)]

/-- The order in which findings are found matters only among those that are alike. -/
theorem aggregate_congr (same : ∀ standing, alike standing findings = alike standing others)
    (threshold : Severity) : aggregate findings threshold = aggregate others threshold := by
  refine (ordered_aggregate findings threshold).ext (ordered_aggregate others threshold) ?_
  intro standing
  rw [alike_aggregate, alike_aggregate, same]

/-- A stricter threshold leaves findings out and moves none. -/
theorem aggregate_of_stricter {lax strict : Severity} (stricter : lax.rank ≤ strict.rank)
    (findings : List Finding) :
    aggregate findings strict = (aggregate findings lax).filter (·.severity.meets strict) := by
  have ordered : Ordered ((aggregate findings lax).filter (·.severity.meets strict)) :=
    (ordered_aggregate findings lax).sublist List.filter_sublist
  refine (ordered_aggregate findings strict).ext ordered ?_
  intro standing
  rw [alike_filter (·.meets strict), alike_aggregate, alike_aggregate, List.filter_filter]
  refine List.filter_congr ?_
  intro finding _
  cases meets : finding.severity.meets strict with
  | false => rfl
  | true => simp [Severity.meets_of_meets stricter meets]

theorem perm_aggregate (same : findings.Perm others) (threshold : Severity) :
    (aggregate findings threshold).Perm (aggregate others threshold) :=
  (List.mergeSort_perm ..).trans ((same.filter _).trans (List.mergeSort_perm ..).symm)

/-- Findings in whatever order come to the same severities and files in the same order. -/
theorem map_standing_aggregate (same : findings.Perm others) (threshold : Severity) :
    (aggregate findings threshold).map Finding.standing =
      (aggregate others threshold).map Finding.standing := by
  have ordered (findings : List Finding) :
      ((aggregate findings threshold).map Finding.standing).Pairwise Precedes :=
    List.pairwise_map.mpr ((ordered_aggregate findings threshold).imp inOrder_iff.mp)
  exact List.Perm.eq_of_pairwise (fun _ _ _ _ => Precedes.antisymm) (ordered findings)
    (ordered others) ((perm_aggregate same threshold).map _)

/-- The counts are told from the severities and files alone. -/
theorem counts_congr (same : findings.map Finding.standing = others.map Finding.standing) :
    counts findings = counts others := by
  have severities := congrArg (List.map Prod.fst) same
  rw [List.map_map, List.map_map] at severities
  exact congrArg SeverityCounts.tally severities

end Audit

end EnergyAudit
