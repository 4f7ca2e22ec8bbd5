import EnergyAudit.Proofs.Audit.Aggregation
import EnergyAudit.Proofs.Audit.SourceFile
import EnergyAudit.Proofs.Rule.Advice
import Mathlib.Data.List.Perm.Basic

/-! # The order of files and rules

An audit looks at its files one after the other, and at each of them with one rule after the other.
Findings of one severity in one file all come from a file that is shown under that name.  In a
workspace there is just one such file, which reads the same each time it is looked at, so that the
order of the files does not show in the report.  Elsewhere it may show among findings in files that
are shown alike.  The order of the rules shows only among findings of one severity in one file. -/

namespace EnergyAudit

namespace Audit

variable {rules rules' : List Rule} {contents : Contents} {paths paths' : List RawPath}

theorem file_of_mem_findings {file : SourceFile} {finding : Finding}
    (member : finding ∈ (auditFile rules file).findings) : finding.file = file.name := by
  unfold auditFile at member
  split at member
  · exact nomatch member
  · split at member
    · obtain ⟨rule, _, reported⟩ := List.mem_flatMap.mp member
      exact Rule.file_of_mem_check reported
    · exact nomatch member

/-- Reports on the same files that differ at most in the order of findings of one severity in one
file. -/
structure Rearranged (report report' : AuditReport) : Prop where
  findings : report.findings.Perm report'.findings
  standings : report.findings.map Finding.standing = report'.findings.map Finding.standing
  counts : report.counts = report'.counts
  scanned : report.filesScanned = report'.filesScanned
  skipped : report.filesSkipped = report'.filesSkipped
  failed : report.filesFailed = report'.filesFailed
  threshold : report.threshold = report'.threshold

/-! ## The order of the files -/

theorem rearranged_of_perm_paths (same : paths.Perm paths') (contents : Contents)
    (rules : List Rule) (threshold : Severity) :
    Rearranged (ofPaths contents rules paths threshold)
      (ofPaths contents rules paths' threshold) := by
  have outcomes := (same.map (sourceFile contents)).map (auditFile rules)
  have found := outcomes.flatMap_right (·.findings)
  have standings := map_standing_aggregate found threshold
  exact {
    findings := perm_aggregate found threshold
    standings
    counts := counts_congr standings
    scanned := congrArg UInt64.ofNat (same.map _).length_eq
    skipped := congrArg UInt64.ofNat (outcomes.countP_eq _)
    failed := congrArg UInt64.ofNat (outcomes.countP_eq _)
    threshold := rfl }

/-- Among the paths, files that are shown alike hold the same. -/
def Recognizable (contents : Contents) (paths : List RawPath) : Prop :=
  ∀ path ∈ paths, ∀ other ∈ paths, path.display = other.display →
    ∀ content ∈ contents path, ∀ content' ∈ contents other, content = content'

theorem recognizable_contents (w : Workspace) (paths : List RawPath) :
    Recognizable w.contents paths := by
  intro path _ other _ same content found content' found'
  obtain rfl := Workspace.eq_of_display_eq (Option.isSome_of_mem found)
    (Option.isSome_of_mem found') same
  exact Option.mem_unique found found'

/-- Lists that are the same wherever they are not empty may be put together in any order. -/
theorem flatMap_eq_of_perm {α β : Type} {items items' : List α} {list : α → List β}
    (same : items.Perm items')
    (alike : ∀ a ∈ items, ∀ b ∈ items, list a ≠ [] → list b ≠ [] → list a = list b) :
    items.flatMap list = items'.flatMap list := by
  induction same with
  | nil => rfl
  | cons a _ ih =>
      rw [List.flatMap_cons, List.flatMap_cons, ih fun b member b' member' =>
        alike b (.tail a member) b' (.tail a member')]
  | swap a b items =>
      have both := alike a (by simp) b (by simp)
      simp only [List.flatMap_cons, ← List.append_assoc]
      by_cases first : list a = []
      · rw [first, List.append_nil, List.nil_append]
      by_cases second : list b = []
      · rw [second, List.append_nil, List.nil_append]
      rw [both first second]
  | trans before _ ih ih' =>
      refine (ih alike).trans (ih' fun a member b member' => ?_)
      exact alike a (before.mem_iff.mpr member) b (before.mem_iff.mpr member')

/-- Findings of one severity under one name come from the paths that are shown under that name. -/
theorem alike_flatMap {find : RawPath → List Finding}
    (own : ∀ path, ∀ finding ∈ find path, finding.file = path.display)
    (standing : Severity × String) (paths : List RawPath) :
    alike standing (paths.flatMap find) =
      (paths.filter (·.display == standing.2)).flatMap fun path =>
        alike standing (find path) := by
  induction paths with
  | nil => rfl
  | cons path paths ih =>
      have split : alike standing ((path :: paths).flatMap find) =
          alike standing (find path) ++ alike standing (paths.flatMap find) :=
        List.filter_append ..
      rw [split, ih]
      by_cases shown : path.display = standing.2
      · rw [List.filter_cons_of_pos (by simpa using shown), List.flatMap_cons]
      · have none : alike standing (find path) = [] := by
          refine List.filter_eq_nil_iff.mpr fun finding member => ?_
          rw [beq_iff_eq]
          rintro rfl
          exact shown (own path finding member).symm
        rw [none, List.nil_append, List.filter_cons_of_neg (by simpa using shown)]

theorem findings_sourceFile_eq (recognizable : Recognizable contents paths) {path other : RawPath}
    (listed : path ∈ paths) (listed' : other ∈ paths) (shown : path.display = other.display)
    (some : (auditFile rules (sourceFile contents path)).findings ≠ [])
    (some' : (auditFile rules (sourceFile contents other)).findings ≠ []) :
    sourceFile contents path = sourceFile contents other := by
  have readable {path : RawPath}
      (some : (auditFile rules (sourceFile contents path)).findings ≠ []) :
      ∃ content, contents path = .some content := by
    refine Option.ne_none_iff_exists'.mp fun none => some ?_
    simp only [auditFile, sourceFile, none, Option.map_none]
    rfl
  obtain ⟨content, found⟩ := readable some
  obtain ⟨content', found'⟩ := readable some'
  have same := recognizable path listed other listed' shown content found content' found'
  simp only [sourceFile, shown, found, found', same]

/-- The order of files that can be told apart does not show in the report. -/
theorem ofPaths_of_perm (same : paths.Perm paths') (recognizable : Recognizable contents paths)
    (rules : List Rule) (threshold : Severity) :
    ofPaths contents rules paths threshold = ofPaths contents rules paths' threshold := by
  have findings : aggregate (((paths.map (sourceFile contents)).map (auditFile rules)).flatMap
        (·.findings)) threshold =
      aggregate (((paths'.map (sourceFile contents)).map (auditFile rules)).flatMap
        (·.findings)) threshold := by
    refine aggregate_congr (fun standing => ?_) threshold
    have own : ∀ path, ∀ finding ∈ (auditFile rules (sourceFile contents path)).findings,
        finding.file = path.display := fun _ _ => file_of_mem_findings
    simp only [List.flatMap_map, alike_flatMap own]
    refine flatMap_eq_of_perm (same.filter _) fun path member other member' some some' => ?_
    obtain ⟨listed, shown⟩ := List.mem_filter.mp member
    obtain ⟨listed', shown'⟩ := List.mem_filter.mp member'
    rw [beq_iff_eq] at shown shown'
    have found {path : RawPath}
        (some : alike standing (auditFile rules (sourceFile contents path)).findings ≠ []) :
        (auditFile rules (sourceFile contents path)).findings ≠ [] := fun none =>
      some (by rw [none]; rfl)
    rw [findings_sourceFile_eq recognizable listed listed' (shown.trans shown'.symm) (found some)
      (found some')]
  have rearranged := rearranged_of_perm_paths same contents rules threshold
  exact AuditReport.ext findings rearranged.scanned rearranged.skipped rearranged.failed rfl
    rearranged.counts

/-! ## The order of the rules -/

theorem perm_findings_auditFile (same : rules.Perm rules') (file : SourceFile) :
    (auditFile rules file).findings.Perm (auditFile rules' file).findings := by
  unfold auditFile
  split
  · exact .refl _
  · split
    · exact same.flatMap_right _
    · exact .refl _

/-- Which files are left out is not up to the rules. -/
theorem isSkipped_auditFile (rules rules' : List Rule) (file : SourceFile) :
    (auditFile rules file).isSkipped = (auditFile rules' file).isSkipped := by
  unfold auditFile
  split
  · rfl
  · split <;> rfl

theorem isUnreadable_auditFile (rules rules' : List Rule) (file : SourceFile) :
    (auditFile rules file).isUnreadable = (auditFile rules' file).isUnreadable := by
  unfold auditFile
  split
  · rfl
  · split <;> rfl

theorem rearranged_of_perm_rules (same : rules.Perm rules') (contents : Contents)
    (paths : List RawPath) (threshold : Severity) :
    Rearranged (ofPaths contents rules paths threshold)
      (ofPaths contents rules' paths threshold) := by
  have found : (((paths.map (sourceFile contents)).map (auditFile rules)).flatMap
        (·.findings)).Perm
      (((paths.map (sourceFile contents)).map (auditFile rules')).flatMap (·.findings)) := by
    simp only [List.flatMap_map]
    exact List.Perm.flatMap_left _ fun path _ => perm_findings_auditFile same _
  have standings := map_standing_aggregate found threshold
  exact {
    findings := perm_aggregate found threshold
    standings
    counts := counts_congr standings
    scanned := rfl
    skipped := by
      simp only [ofPaths, AuditReport.ofFiles, List.countP_map, Function.comp_def,
        isSkipped_auditFile rules rules']
    failed := by
      simp only [ofPaths, AuditReport.ofFiles, List.countP_map, Function.comp_def,
        isUnreadable_auditFile rules rules']
    threshold := rfl }

/-- A workspace with one file, on which two critical rules have something to say. -/
def twoCritical : Workspace where
  tree := ⟨[(["a.py"], .file "load_in_8bit=True, load_in_4bit=True".toUTF8)]⟩
  directory := []

/-- Two files that are no text as paths and are shown alike, with a finding in different lines. -/
def shownAlike : Contents := fun path =>
  if path = ⟨[0xfe]⟩ then some "load_in_8bit=True".toUTF8
  else if path = ⟨[0xff]⟩ then some "\nload_in_8bit=True".toUTF8
  else none

/-- The order of files that are shown alike and hold something else does show, and so does the order
of rules. -/
theorem orders_show :
    ofPaths shownAlike Rule.all [⟨[0xfe]⟩, ⟨[0xff]⟩] .info ≠
        ofPaths shownAlike Rule.all [⟨[0xff]⟩, ⟨[0xfe]⟩] .info ∧
      ofPaths twoCritical.contents [.defaultInt8, .precisionConflict] [.ofText "a.py"] .info ≠
        ofPaths twoCritical.contents [.precisionConflict, .defaultInt8] [.ofText "a.py"]
          .info := by
  constructor
  · have first : (ofPaths shownAlike Rule.all [⟨[0xfe]⟩, ⟨[0xff]⟩] .info).findings = _ :=
      aggregate_of_ordered (by decide +kernel) (by decide +kernel)
    have second : (ofPaths shownAlike Rule.all [⟨[0xff]⟩, ⟨[0xfe]⟩] .info).findings = _ :=
      aggregate_of_ordered (by decide +kernel) (by decide +kernel)
    intro same
    rw [same, second] at first
    exact absurd first (by decide +kernel)
  · have first : (ofPaths twoCritical.contents [.defaultInt8, .precisionConflict]
        [.ofText "a.py"] .info).findings = _ :=
      aggregate_of_ordered (by decide +kernel) (by decide +kernel)
    have second : (ofPaths twoCritical.contents [.precisionConflict, .defaultInt8]
        [.ofText "a.py"] .info).findings = _ :=
      aggregate_of_ordered (by decide +kernel) (by decide +kernel)
    intro same
    rw [same, second] at first
    exact absurd first (by decide +kernel)

end Audit

end EnergyAudit
