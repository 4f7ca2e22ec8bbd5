import EnergyAudit.Proofs.Audit.Permutation
import EnergyAudit.Proofs.Count

/-! # Files that add nothing to a report

A path that cannot be read, and a file that mentions no keyword, leave a trace in the counts of
files and nowhere else, whatever stands before and behind them.  So the paths of an audit fall into
three parts: those that cannot be read, those that are left out, and those that are examined.  The
report says how many there are of the first two, and its findings are all about the last. -/

namespace EnergyAudit

namespace Audit

/-- Whether the text mentions a keyword, in any mixture of case. -/
def MentionsKeyword (text : String) : Prop :=
  ∃ keyword ∈ keywords, keyword <:+: Text.lower text.toList

/-- Whether the path leads to no file that can be read. -/
def Unreadable (w : Workspace) (path : String) : Prop := ∃ e, w.read path = .error e

/-- Whether the path leads to a file without any keyword. -/
def Irrelevant (w : Workspace) (path : String) : Prop :=
  ∃ text, w.readLossy? path = some text ∧ ¬ MentionsKeyword text

/-- Whether the path leads to a file with a keyword. -/
def Relevant (w : Workspace) (path : String) : Prop :=
  ∃ text, w.readLossy? path = some text ∧ MentionsKeyword text

variable {w : Workspace} {path : String} {rules : List Rule} {threshold : Severity}

theorem needsScan_iff {text : String} : needsScan text.toList = true ↔ MentionsKeyword text := by
  simp only [needsScan, MentionsKeyword, List.any_eq_true, Text.contains_iff]

theorem unreadable_iff : Unreadable w path ↔ w.readLossy? path = none := by
  unfold Unreadable Workspace.readLossy?
  cases w.read path with
  | ok content => simp
  | error e => simp

theorem unreadable_or_irrelevant_or_relevant (w : Workspace) (path : String) :
    Unreadable w path ∨ Irrelevant w path ∨ Relevant w path := by
  cases found : w.readLossy? path with
  | none => exact .inl (unreadable_iff.mpr found)
  | some text =>
      by_cases mentions : MentionsKeyword text
      · exact .inr (.inr ⟨text, found, mentions⟩)
      · exact .inr (.inl ⟨text, found, mentions⟩)

/-! ## What one file comes to -/

theorem Unreadable.auditFile_eq (unreadable : Unreadable w path) (rules : List Rule) :
    auditFile rules (textFile w path) = .unreadable := by
  simp only [auditFile, textFile, unreadable_iff.mp unreadable]

theorem Irrelevant.auditFile_eq (irrelevant : Irrelevant w path) (rules : List Rule) :
    auditFile rules (textFile w path) = .skipped := by
  obtain ⟨text, found, mentions⟩ := irrelevant
  simp only [auditFile, textFile, found]
  exact if_neg fun needed => mentions (needsScan_iff.mp needed)

theorem Relevant.auditFile_eq (relevant : Relevant w path) (rules : List Rule) :
    ∃ findings, auditFile rules (textFile w path) = .scanned findings := by
  obtain ⟨text, found, mentions⟩ := relevant
  simp only [auditFile, textFile, found]
  exact ⟨_, if_pos (needsScan_iff.mpr mentions)⟩

end Audit

/-! ## One file more -/

namespace AuditReport

/-- The report with one more file, which could not be read. -/
def withUnreadable (report : AuditReport) : AuditReport :=
  { report with
    filesScanned := report.filesScanned + 1
    filesFailed := report.filesFailed + 1 }

/-- The report with one more file, which was left out. -/
def withSkipped (report : AuditReport) : AuditReport :=
  { report with
    filesScanned := report.filesScanned + 1
    filesSkipped := report.filesSkipped + 1 }

end AuditReport

namespace Audit

open AuditReport

variable {w : Workspace} {path : String} {paths failed skipped examined : List String}
  {rules : List Rule} {threshold : Severity} {finding : Finding}

/-- A file without findings shows in the counts of files only. -/
theorem run_insert_of_findings (rules : List Rule) (before after : List String)
    (threshold : Severity)
    (silent : (auditFile rules (textFile w path)).findings = []) :
    run w rules (before ++ path :: after) threshold =
      { run w rules (before ++ after) threshold with
        filesScanned := (run w rules (before ++ after) threshold).filesScanned + 1
        filesSkipped := (run w rules (before ++ after) threshold).filesSkipped +
          if (auditFile rules (textFile w path)).isSkipped then 1 else 0
        filesFailed := (run w rules (before ++ after) threshold).filesFailed +
          if (auditFile rules (textFile w path)).isUnreadable then 1 else 0 } := by
  simp only [run_eq, ofFiles, List.map_append, List.map_cons, List.flatMap_append,
    List.flatMap_cons, silent, List.nil_append, List.countP_append, List.countP_cons,
    List.length_append, List.length_cons, ← Nat.add_assoc, UInt64.ofNat_add]
  split <;> split <;> rfl

theorem run_insert_unreadable (unreadable : Unreadable w path) (rules : List Rule)
    (before after : List String) (threshold : Severity) :
    run w rules (before ++ path :: after) threshold =
      (run w rules (before ++ after) threshold).withUnreadable := by
  have outcome := unreadable.auditFile_eq rules
  rw [run_insert_of_findings rules before after threshold (by rw [outcome]; rfl), outcome]
  exact congrArg (AuditReport.mk _ _ · _ _ _) (UInt64.add_zero _)

theorem run_insert_irrelevant (irrelevant : Irrelevant w path) (rules : List Rule)
    (before after : List String) (threshold : Severity) :
    run w rules (before ++ path :: after) threshold =
      (run w rules (before ++ after) threshold).withSkipped := by
  have outcome := irrelevant.auditFile_eq rules
  rw [run_insert_of_findings rules before after threshold (by rw [outcome]; rfl), outcome]
  exact congrArg (AuditReport.mk _ _ _ · _ _) (UInt64.add_zero _)

/-! ## All files -/

/-- The paths in three parts, by what they come to. -/
structure Parts (w : Workspace) (paths failed skipped examined : List String) : Prop where
  all : (failed ++ (skipped ++ examined)).Perm paths
  failed : ∀ path ∈ failed, Unreadable w path
  skipped : ∀ path ∈ skipped, Irrelevant w path
  examined : ∀ path ∈ examined, Relevant w path

theorem exists_parts (w : Workspace) (paths : List String) :
    ∃ failed skipped examined, Parts w paths failed skipped examined := by
  induction paths with
  | nil => exact ⟨[], [], [], .refl _, nofun, nofun, nofun⟩
  | cons path paths ih =>
      obtain ⟨failed, skipped, examined, parts⟩ := ih
      rcases unreadable_or_irrelevant_or_relevant w path with unreadable | irrelevant | relevant
      · exact ⟨path :: failed, skipped, examined, parts.all.cons path,
          List.forall_mem_cons.mpr ⟨unreadable, parts.failed⟩, parts.skipped, parts.examined⟩
      · refine ⟨failed, path :: skipped, examined, ?_, parts.failed,
          List.forall_mem_cons.mpr ⟨irrelevant, parts.skipped⟩, parts.examined⟩
        exact List.perm_middle.trans (parts.all.cons path)
      · refine ⟨failed, skipped, path :: examined, ?_, parts.failed, parts.skipped,
          List.forall_mem_cons.mpr ⟨relevant, parts.examined⟩⟩
        rw [← List.append_assoc]
        exact List.perm_middle.trans (.cons path (List.append_assoc .. ▸ parts.all))

namespace Parts

/-- Of the outcomes that are no scans, there are as many as the parts have paths. -/
theorem countP_eq (parts : Parts w paths failed skipped examined) (rules : List Rule)
    {holds : Outcome → Bool} (noScan : ∀ findings, holds (.scanned findings) = false) :
    (paths.map fun path => auditFile rules (textFile w path)).countP holds =
      (if holds .unreadable then failed.length else 0) +
        if holds .skipped then skipped.length else 0 := by
  have ofFailed : failed.map (fun path => auditFile rules (textFile w path)) =
      List.replicate failed.length .unreadable :=
    List.map_eq_replicate_iff.mpr fun path member => (parts.failed path member).auditFile_eq rules
  have ofSkipped : skipped.map (fun path => auditFile rules (textFile w path)) =
      List.replicate skipped.length .skipped :=
    List.map_eq_replicate_iff.mpr fun path member => (parts.skipped path member).auditFile_eq rules
  have ofExamined : (examined.map fun path => auditFile rules (textFile w path)).countP holds =
      0 := by
    rw [List.countP_eq_zero, List.forall_mem_map]
    intro path member
    obtain ⟨findings, outcome⟩ := (parts.examined path member).auditFile_eq rules
    rw [outcome, noScan]
    nofun
  rw [← (parts.all.map _).countP_eq, List.map_append, List.map_append, List.countP_append,
    List.countP_append, ofFailed, ofSkipped, ofExamined, List.countP_replicate,
    List.countP_replicate, Nat.add_zero]

theorem filesFailed_run (parts : Parts w paths failed skipped examined) (rules : List Rule)
    (threshold : Severity) :
    (run w rules paths threshold).filesFailed = .ofNat failed.length := by
  simp only [run_eq, ofFiles, List.map_map]
  exact congrArg UInt64.ofNat (parts.countP_eq rules fun _ => rfl)

theorem filesSkipped_run (parts : Parts w paths failed skipped examined) (rules : List Rule)
    (threshold : Severity) :
    (run w rules paths threshold).filesSkipped = .ofNat skipped.length := by
  simp only [run_eq, ofFiles, List.map_map]
  exact congrArg UInt64.ofNat ((parts.countP_eq rules fun _ => rfl).trans (Nat.zero_add _))

theorem mem_examined (parts : Parts w paths failed skipped examined) (listed : path ∈ paths)
    (relevant : Relevant w path) : path ∈ examined := by
  obtain ⟨text, found, mentions⟩ := relevant
  rcases List.mem_append.mp (parts.all.mem_iff.mpr listed) with inFailed | later
  · rw [unreadable_iff.mp (parts.failed path inFailed)] at found
    contradiction
  · rcases List.mem_append.mp later with inSkipped | inExamined
    · obtain ⟨other, found', silent⟩ := parts.skipped path inSkipped
      cases found.symm.trans found'
      contradiction
    · exact inExamined

end Parts

/-- A finding is about a file that is examined, and meets the threshold. -/
theorem of_mem_findings_run (member : finding ∈ (run w rules paths threshold).findings) :
    (finding.file ∈ paths ∧ Relevant w finding.file) ∧
      finding.severity.meets threshold = true := by
  rw [run_eq] at member
  obtain ⟨found, meets⟩ := mem_aggregate.mp member
  rw [List.map_map, List.flatMap_map] at found
  obtain ⟨path, listed, found⟩ := List.mem_flatMap.mp found
  have named : finding.file = path := file_of_mem_findings found
  refine ⟨?_, meets⟩
  rw [named]
  refine ⟨listed, ?_⟩
  rcases unreadable_or_irrelevant_or_relevant w path with unreadable | irrelevant | relevant
  · rw [Function.comp_apply, unreadable.auditFile_eq] at found
    exact nomatch found
  · rw [Function.comp_apply, irrelevant.auditFile_eq] at found
    exact nomatch found
  · exact relevant

/-- What a report says of the paths that it is about, and of its findings. -/
structure AccountsFor (w : Workspace) (paths : List String) (threshold : Severity)
    (report : AuditReport) : Prop where
  scanned : report.filesScanned = .ofNat paths.length
  parts : ∃ failed skipped examined, Parts w paths failed skipped examined ∧
    report.filesFailed = .ofNat failed.length ∧ report.filesSkipped = .ofNat skipped.length ∧
      ∀ finding ∈ report.findings, finding.file ∈ examined
  /-- As many paths as a word can say are counted as they are. -/
  within : paths.length < UInt64.size →
    report.filesFailed.toNat + report.filesSkipped.toNat ≤ report.filesScanned.toNat ∧
      report.filesScanned.toNat = paths.length
  tally : ∀ severity,
    report.counts.get severity = .ofNat (report.findings.countP (·.severity == severity))
  met : ∀ finding ∈ report.findings, finding.severity.meets threshold = true

theorem accountsFor_run (w : Workspace) (rules : List Rule) (paths : List String)
    (threshold : Severity) : AccountsFor w paths threshold (run w rules paths threshold) := by
  obtain ⟨failed, skipped, examined, parts⟩ := exists_parts w paths
  have ofFailed := parts.filesFailed_run rules threshold
  have ofSkipped := parts.filesSkipped_run rules threshold
  have ofScanned : (run w rules paths threshold).filesScanned = .ofNat paths.length := by
    rw [run_eq]
    exact congrArg UInt64.ofNat (List.length_map _)
  exact {
    scanned := ofScanned
    parts := by
      refine ⟨failed, skipped, examined, parts, ofFailed, ofSkipped, ?_⟩
      intro finding member
      obtain ⟨⟨listed, relevant⟩, -⟩ := of_mem_findings_run member
      exact parts.mem_examined listed relevant
    within := by
      intro few
      have length := parts.all.length_eq
      simp only [List.length_append] at length
      rw [ofFailed, ofSkipped, ofScanned, UInt64.toNat_ofNat_of_lt' (by omega),
        UInt64.toNat_ofNat_of_lt' (by omega), UInt64.toNat_ofNat_of_lt' few]
      omega
    tally := by
      intro severity
      have tallied := SeverityCounts.get_tally
        ((run w rules paths threshold).findings.map (·.severity)) severity
      rw [List.count, List.countP_map] at tallied
      exact tallied
    met := fun finding member => (of_mem_findings_run member).2 }

/-- A path that cannot be read, or that leads to a file without a keyword, adds one to the counts of
files wherever it stands among the paths, and changes nothing else in the report.  Every report
accounts for all its paths, and all its findings are about files that were examined. -/
theorem run_isolates (w : Workspace) (rules : List Rule) (threshold : Severity) :
    (∀ before after path, Unreadable w path →
      run w rules (before ++ path :: after) threshold =
        (run w rules (before ++ after) threshold).withUnreadable) ∧
    (∀ before after path, Irrelevant w path →
      run w rules (before ++ path :: after) threshold =
        (run w rules (before ++ after) threshold).withSkipped) ∧
    ∀ paths, AccountsFor w paths threshold (run w rules paths threshold) := by
  refine ⟨?_, ?_, ?_⟩
  · intro before after path unreadable
    exact run_insert_unreadable unreadable rules before after threshold
  · intro before after path irrelevant
    exact run_insert_irrelevant irrelevant rules before after threshold
  · intro paths
    exact accountsFor_run w rules paths threshold

/-- A workspace with a file that loads in 8 bits and one that loads nothing. -/
def loadAndPrint : Workspace where
  tree := ⟨[(["a.py"], .file "load_in_8bit=True".toUTF8), (["b.py"], .file "print(1)".toUTF8)]⟩
  directory := []

theorem run_isolates_of_loadAndPrint :
    Unreadable loadAndPrint "gone.py" ∧ Irrelevant loadAndPrint "b.py" ∧
      run loadAndPrint Rule.all ["gone.py", "a.py", "b.py"] .info =
        (run loadAndPrint Rule.all ["a.py"] .info).withSkipped.withUnreadable ∧
      (run loadAndPrint Rule.all ["a.py"] .info).counts.critical = 1 := by
  have unreadable : Unreadable loadAndPrint "gone.py" := ⟨.notFound, by rfl⟩
  have irrelevant : Irrelevant loadAndPrint "b.py" := by
    refine ⟨"print(1)", by decide +kernel, ?_⟩
    rw [← needsScan_iff]
    decide +kernel
  obtain ⟨ofUnreadable, ofIrrelevant, -⟩ := run_isolates loadAndPrint Rule.all .info
  refine ⟨unreadable, irrelevant, ?_, by decide +kernel⟩
  calc
    run loadAndPrint Rule.all ["gone.py", "a.py", "b.py"] .info =
        (run loadAndPrint Rule.all ["a.py", "b.py"] .info).withUnreadable :=
      ofUnreadable [] ["a.py", "b.py"] "gone.py" unreadable
    _ = (run loadAndPrint Rule.all ["a.py"] .info).withSkipped.withUnreadable :=
      congrArg AuditReport.withUnreadable (ofIrrelevant ["a.py"] [] "b.py" irrelevant)

end Audit

end EnergyAudit
