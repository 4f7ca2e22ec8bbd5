import EnergyAudit.Proofs.Audit.Counts
import EnergyAudit.Proofs.Text.Order

/-! # Audits in parts

Aggregation loses no finding that meets the threshold and moves none that need not be moved, which
is all that there is to say about it.  So it makes no difference whether findings are aggregated at
once or part by part, or by two thresholds one after the other, and the report on many files is put
together from reports on parts of them. -/

namespace EnergyAudit

theorem Severity.meets_max (severity first second : Severity) :
    severity.meets (first.max second) = (severity.meets first && severity.meets second) := by
  cases severity <;> cases first <;> cases second <;> rfl

namespace Audit

variable {findings others result : List Finding} {threshold : Severity}

/-! ## What aggregation is -/

/-- The findings that meet the threshold, the more serious ones first and then by the bytes of the
file names, those alike in both as they were found. -/
structure IsAggregate (findings : List Finding) (threshold : Severity) (result : List Finding) :
    Prop where
  kept : result.Perm (findings.filter (·.severity.meets threshold))
  severities : result.Pairwise fun a b => b.severity.rank ≤ a.severity.rank
  files : result.Pairwise fun a b =>
    a.severity = b.severity → Text.bytes a.file ≤ Text.bytes b.file
  ties : ∀ standing,
    alike standing result = alike standing (findings.filter (·.severity.meets threshold))

theorem inOrder_iff_bytes {a b : Finding} : inOrder a b = true ↔
    b.severity.rank ≤ a.severity.rank ∧
      (a.severity = b.severity → Text.bytes a.file ≤ Text.bytes b.file) := by
  rw [inOrder_iff, Precedes, Text.bytes_le_bytes_iff]
  constructor
  · rintro (more | ⟨same, below⟩)
    · exact ⟨Nat.le_of_lt more, fun same => absurd more (by simp [Finding.standing, same])⟩
    · exact ⟨by rw [show a.severity = b.severity from same], fun _ => below⟩
  · rintro ⟨atLeast, below⟩
    rcases Nat.lt_or_eq_of_le atLeast with more | same
    · exact .inl more
    · have severity := Severity.rank_injective same.symm
      exact .inr ⟨severity, below severity⟩

theorem isAggregate_aggregate (findings : List Finding) (threshold : Severity) :
    IsAggregate findings threshold (aggregate findings threshold) := by
  have ordered := ordered_aggregate findings threshold
  exact {
    kept := List.mergeSort_perm ..
    severities := ordered.imp fun before => (inOrder_iff_bytes.mp before).1
    files := ordered.imp fun before => (inOrder_iff_bytes.mp before).2
    ties := fun standing => by rw [aggregate, alike_mergeSort] }

/-- Nothing else is an aggregate of the findings. -/
theorem isAggregate_iff :
    IsAggregate findings threshold result ↔ result = aggregate findings threshold := by
  constructor
  · intro is
    have ordered : Ordered result :=
      is.severities.imp₂ (fun _ _ severities files => inOrder_iff_bytes.mpr ⟨severities, files⟩)
        is.files
    refine ordered.ext (ordered_aggregate findings threshold) fun standing => ?_
    rw [is.ties, (isAggregate_aggregate findings threshold).ties]
  · rintro rfl
    exact isAggregate_aggregate findings threshold

/-! ## Aggregation in parts -/

theorem alike_append (standing : Severity × String) (findings others : List Finding) :
    alike standing (findings ++ others) = alike standing findings ++ alike standing others :=
  List.filter_append ..

/-- To aggregate by two thresholds is to aggregate by the stricter one. -/
theorem aggregate_aggregate (findings : List Finding) (first second : Severity) :
    aggregate (aggregate findings first) second = aggregate findings (first.max second) := by
  refine (ordered_aggregate _ second).ext (ordered_aggregate findings _) fun standing => ?_
  rw [alike_aggregate, alike_aggregate, alike_aggregate, List.filter_filter]
  refine List.filter_congr fun finding _ => ?_
  rw [Severity.meets_max, Bool.and_comm]

/-- Findings that are aggregated already may be aggregated with others. -/
theorem aggregate_append (findings others : List Finding) (threshold : Severity) :
    aggregate (findings ++ others) threshold =
      aggregate (aggregate findings threshold ++ aggregate others threshold) threshold := by
  refine (ordered_aggregate _ threshold).ext (ordered_aggregate _ threshold) fun standing => ?_
  rw [alike_aggregate, alike_aggregate, alike_append, alike_append, alike_aggregate,
    alike_aggregate, List.filter_append, List.filter_append, List.filter_filter,
    List.filter_filter]
  simp only [Bool.and_self]

theorem counts_aggregate_append (findings others : List Finding) (threshold : Severity) :
    counts (aggregate (findings ++ others) threshold) =
      (counts (aggregate findings threshold)).add (counts (aggregate others threshold)) := by
  rw [counts_aggregate, counts_aggregate, counts_aggregate, List.map_append, List.filter_append,
    SeverityCounts.tally_append]

end Audit

/-! ## Reports on parts -/

namespace AuditReport

open Audit

variable (rules : List Rule) (threshold : Severity)

/-- The report on the files of both reports, of which those of the first one come first. -/
def merge (report other : AuditReport) : AuditReport where
  findings := aggregate (report.findings ++ other.findings) report.threshold
  filesScanned := report.filesScanned + other.filesScanned
  filesSkipped := report.filesSkipped + other.filesSkipped
  filesFailed := report.filesFailed + other.filesFailed
  threshold := report.threshold
  counts := report.counts.add other.counts

theorem ofFiles_append (files others : List SourceFile) :
    ofFiles rules (files ++ others) threshold =
      (ofFiles rules files threshold).merge (ofFiles rules others threshold) := by
  simp only [ofFiles, merge, List.map_append, List.flatMap_append, List.countP_append,
    List.length_append, UInt64.ofNat_add, counts_aggregate_append]
  rw [aggregate_append]

/-- The reports on the parts, one after the other, are merged into the report on all files. -/
theorem ofFiles_flatten (files : List SourceFile) (parts : List (List SourceFile)) :
    ofFiles rules (files ++ parts.flatten) threshold =
      parts.foldl (fun report part => report.merge (ofFiles rules part threshold))
        (ofFiles rules files threshold) := by
  induction parts generalizing files with
  | nil => rw [List.flatten_nil, List.append_nil, List.foldl_nil]
  | cons part parts ih =>
      rw [List.flatten_cons, ← List.append_assoc, ih, List.foldl_cons, ofFiles_append]

/-- Findings have one aggregate by a threshold, and the counts of it add up to its length.  To
aggregate by two thresholds, or to aggregate in parts first, comes to the same, so that an audit may
be made in parts. -/
theorem aggregation_in_parts (findings others : List Finding) (strict : Severity)
    (parts : List (List SourceFile)) :
    (∀ result, IsAggregate findings threshold result ↔ result = aggregate findings threshold) ∧
      ((aggregate findings threshold).length < UInt64.size →
        (Audit.counts (aggregate findings threshold)).total? =
          some (.ofNat (aggregate findings threshold).length)) ∧
      aggregate (aggregate findings threshold) strict =
        aggregate findings (threshold.max strict) ∧
      aggregate (findings ++ others) threshold =
        aggregate (aggregate findings threshold ++ aggregate others threshold) threshold ∧
      ofFiles rules parts.flatten threshold =
        parts.foldl (fun report part => report.merge (ofFiles rules part threshold))
          (ofFiles rules [] threshold) :=
  ⟨fun _ => isAggregate_iff, total?_counts, aggregate_aggregate findings threshold strict,
    aggregate_append findings others threshold, ofFiles_flatten rules threshold [] parts⟩

/-- Two parts of an audit, with files that load in 8 bits and one that names no device. -/
def loadingParts : List (List SourceFile) :=
  [[⟨"b.py", some "load_in_8bit=True"⟩, ⟨"c.py", some "m = from_pretrained(n)"⟩],
    [⟨"a.py", some "load_in_8bit=True"⟩]]

/-- What the rules find in these files, one after the other. -/
def loadingFindings : List Finding :=
  (loadingParts.flatten.map (auditFile [.defaultInt8, .missingDeviceMap])).flatMap (·.findings)

theorem aggregation_of_loadingFindings :
    (aggregate loadingFindings .info).length < UInt64.size ∧
      (Audit.counts (aggregate loadingFindings .info)).total? = some 3 ∧
      IsAggregate loadingFindings .info (aggregate loadingFindings .info) ∧
      aggregate (aggregate loadingFindings .info) .critical =
        aggregate loadingFindings .critical ∧
      (aggregate loadingFindings .critical).length = 2 ∧
      (loadingParts.foldl (fun report part =>
        report.merge (ofFiles [.defaultInt8, .missingDeviceMap] part .info))
          (ofFiles [.defaultInt8, .missingDeviceMap] [] .info)).counts = ⟨2, 0, 1⟩ := by
  have all : (aggregate loadingFindings .info).length = 3 := by
    rw [aggregate, List.length_mergeSort]
    decide +kernel
  have critical : (aggregate loadingFindings .critical).length = 2 := by
    rw [aggregate, List.length_mergeSort]
    decide +kernel
  have few : (aggregate loadingFindings .info).length < UInt64.size := all ▸ by decide
  obtain ⟨unique, counted, twice, -, merged⟩ :=
    aggregation_in_parts [.defaultInt8, .missingDeviceMap] .info loadingFindings [] .critical
      loadingParts
  have counts : (ofFiles [.defaultInt8, .missingDeviceMap] loadingParts.flatten .info).counts =
      ⟨2, 0, 1⟩ := by
    refine (counts_aggregate _ _).trans ?_
    decide +kernel
  exact ⟨few, (counted few).trans (by rw [all]; rfl), (unique _).mpr rfl, twice, critical,
    merged ▸ counts⟩

end AuditReport

end EnergyAudit
