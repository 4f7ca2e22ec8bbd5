import EnergyAudit.Proofs.Audit.Blocks
import EnergyAudit.Proofs.Audit.Counts
import EnergyAudit.Proofs.Audit.SourceFile

/-! # The sections of a report

A report in Markdown goes through the findings once for each severity.  Since an audit puts the more
serious findings first, this moves none of them: without the headings, the lines of a report are
those of one block for each finding, in the order of the findings.  The counts, which the summary
goes by, are those of the blocks under the headings.  All of this is said of findings in files whose
names are single lines; others may bring lines of their own into the report. -/

namespace EnergyAudit

namespace Audit

open Text

variable {findings : List Finding}

/-! ## Findings of one severity -/

/-- The findings of a severity. -/
def ofSeverity (findings : List Finding) (severity : Severity) : List Finding :=
  findings.filter (·.severity == severity)

theorem mem_ofSeverity {finding : Finding} {severity : Severity} :
    finding ∈ ofSeverity findings severity ↔
      finding ∈ findings ∧ finding.severity = severity := by
  simp [ofSeverity]

theorem alike_ofSeverity (standing : Severity × String) (severity : Severity) :
    alike standing (ofSeverity findings severity) =
      if severity = standing.1 then alike standing findings else [] := by
  simp only [alike, ofSeverity, List.filter_filter]
  split
  case isTrue same =>
    refine List.filter_congr fun finding _ => ?_
    rw [same, Finding.standing, Bool.and_eq_left_iff_imp]
    intro own
    rw [← eq_of_beq own]
    exact beq_self_eq_true _
  case isFalse other =>
    refine List.filter_eq_nil_iff.mpr fun finding _ both => other ?_
    obtain ⟨own, same⟩ := (Bool.and_eq_true _ _).mp both
    rw [← eq_of_beq own, ← eq_of_beq same]
    rfl

/-- Ordered findings stand severity by severity already. -/
theorem flatMap_ofSeverity (ordered : Ordered findings) :
    Severity.descending.flatMap (ofSeverity findings) = findings := by
  have descends : Severity.descending.Pairwise fun first second => second.rank < first.rank := by
    decide
  refine Ordered.ext ?_ ordered ?_
  · rw [Ordered, List.pairwise_flatMap]
    refine ⟨fun severity _ => ordered.sublist List.filter_sublist, descends.imp ?_⟩
    intro first second less a inFirst b inSecond
    rw [inOrder_iff]
    refine .inl ?_
    rw [Finding.standing, Finding.standing, (mem_ofSeverity.mp inFirst).2,
      (mem_ofSeverity.mp inSecond).2]
    exact less
  · intro standing
    have within : alike standing (Severity.descending.flatMap (ofSeverity findings)) =
        Severity.descending.flatMap fun severity => alike standing (ofSeverity findings severity) :=
      List.filter_flatMap ..
    rw [within]
    simp only [alike_ofSeverity]
    obtain ⟨severity, file⟩ := standing
    cases severity <;> simp [Severity.descending]

theorem toNat_get_counts (few : findings.length < UInt64.size) (severity : Severity) :
    ((counts findings).get severity).toNat = (ofSeverity findings severity).length := by
  rw [toNat_counts few, List.count, List.countP_map, List.countP_eq_length_filter]
  rfl

theorem counts_pos_iff (few : findings.length < UInt64.size) (severity : Severity) :
    0 < (counts findings).get severity ↔ ofSeverity findings severity ≠ [] := by
  rw [UInt64.lt_iff_toNat_lt, toNat_get_counts few, ne_eq, ← List.length_eq_zero_iff]
  exact Nat.pos_iff_ne_zero

/-! ## Sections -/

/-- What the findings of a severity are called in the summary. -/
def noun : Severity → String
  | .critical => "critical"
  | .warning => "warning(s)"
  | .info => "info"

/-- A severity, and the findings under its heading. -/
structure Section where
  severity : Severity
  findings : List Finding

namespace Section

/-- The lines of the section: its heading, an empty line, and the blocks of its findings. -/
def lines (part : Section) : List String :=
  headingLine part.severity :: "" :: part.findings.flatMap blockLines

/-- The entry of the section in the summary. -/
def entry (part : Section) : String :=
  "**" ++ toString part.findings.length ++ "** " ++ noun part.severity

end Section

/-- The lines without the headings and the line behind each of them. -/
def withoutHeadings : List String → List String
  | [] => []
  | [line] => if IsHeading line then [] else [line]
  | line :: next :: lines =>
      if IsHeading line then withoutHeadings lines else line :: withoutHeadings (next :: lines)

theorem withoutHeadings_cons {line : String} (plain : ¬ IsHeading line) (lines : List String) :
    withoutHeadings (line :: lines) = line :: withoutHeadings lines := by
  cases lines with
  | nil => simp [withoutHeadings, plain]
  | cons next lines => simp [withoutHeadings, plain]

theorem withoutHeadings_append {lines : List String} (plain : ∀ line ∈ lines, ¬ IsHeading line)
    (rest : List String) : withoutHeadings (lines ++ rest) = lines ++ withoutHeadings rest := by
  induction lines with
  | nil => rfl
  | cons line lines ih =>
      obtain ⟨first, plain⟩ := List.forall_mem_cons.mp plain
      rw [List.cons_append, withoutHeadings_cons first, ih plain, List.cons_append]

/-- The findings in sections, one for each severity that occurs. -/
def sections (findings : List Finding) : List Section :=
  (Severity.descending.filter fun severity => !(ofSeverity findings severity).isEmpty).map
    fun severity => ⟨severity, ofSeverity findings severity⟩

/-- What yields nothing may be left out beforehand. -/
theorem flatMap_filter_of_silent {α β : Type} {yields : α → List β} {keeps : α → Bool}
    (silent : ∀ x, keeps x = false → yields x = []) (xs : List α) :
    (xs.filter keeps).flatMap yields = xs.flatMap yields := by
  induction xs with
  | nil => rfl
  | cons x xs ih =>
      cases kept : keeps x with
      | true => rw [List.filter_cons_of_pos kept, List.flatMap_cons, List.flatMap_cons, ih]
      | false =>
          rw [List.filter_cons_of_neg (by simp [kept]), List.flatMap_cons, silent x kept, ih,
            List.nil_append]

theorem flatMap_sections (ordered : Ordered findings) :
    (sections findings).flatMap (·.findings) = findings := by
  have silent : ∀ severity, (!(ofSeverity findings severity).isEmpty) = false →
      ofSeverity findings severity = [] := by
    intro severity empty
    simpa using empty
  rw [sections, List.flatMap_map, flatMap_filter_of_silent silent, flatMap_ofSeverity ordered]

theorem severity_sections (few : findings.length < UInt64.size) :
    (sections findings).map (·.severity) =
      Severity.descending.filter (0 < (counts findings).get ·) := by
  rw [sections, List.map_map]
  refine (List.map_id' _).trans (List.filter_congr fun severity _ => ?_)
  rw [Bool.eq_iff_iff, decide_eq_true_eq, counts_pos_iff few]
  simp

theorem countPhrases_counts (few : findings.length < UInt64.size) :
    countPhrases (counts findings) = (sections findings).map Section.entry := by
  have phrase (severity : Severity) (count : UInt64) :
      countPhrase severity count = "**" ++ toString count.toNat ++ "** " ++ noun severity := by
    cases severity <;> rfl
  rw [countPhrases, ← severity_sections few, sections, List.map_map, List.map_map, List.map_map]
  refine List.map_congr_left fun severity _ => ?_
  change countPhrase severity _ = _
  rw [phrase, toNat_get_counts few]
  rfl

theorem heading_eq (severity : Severity) : heading severity = headingLine severity := by
  cases severity <;> rfl

theorem feedLines_findingBlocks {findings : List Finding}
    (plain : ∀ finding ∈ findings, IsPlain finding) (rest : String) :
    feedLines (String.join (findings.map findingBlock) ++ rest) =
      findings.flatMap blockLines ++ feedLines rest := by
  induction findings with
  | nil => rfl
  | cons finding findings ih =>
      obtain ⟨first, plain⟩ := List.forall_mem_cons.mp plain
      rw [List.map_cons, String.join_cons, String.append_assoc, first.feedLines_findingBlock,
        ih plain, List.flatMap_cons, List.append_assoc]

/-- What is written for the severities takes the lines of the sections. -/
theorem feedLines_severitySections (plain : ∀ finding ∈ findings, IsPlain finding)
    (severities : List Severity) (rest : String) :
    feedLines (String.join (severities.map (severitySection findings)) ++ rest) =
      ((severities.filter fun severity => !(ofSeverity findings severity).isEmpty).flatMap
        fun severity => Section.lines ⟨severity, ofSeverity findings severity⟩)
      ++ feedLines rest := by
  induction severities with
  | nil => rfl
  | cons severity severities ih =>
      have own : ∀ finding ∈ ofSeverity findings severity, IsPlain finding := fun finding member =>
        plain finding (mem_ofSeverity.mp member).1
      have text : severitySection findings severity =
          if (ofSeverity findings severity).isEmpty then ""
          else unlines [heading severity, ""] ++
            String.join ((ofSeverity findings severity).map findingBlock) := rfl
      rw [List.map_cons, String.join_cons, String.append_assoc, text]
      by_cases empty : (ofSeverity findings severity).isEmpty
      · rw [if_pos empty, List.filter_cons_of_neg (by simpa using empty), String.empty_append, ih]
      · rw [if_neg empty, List.filter_cons_of_pos (by simpa using empty), String.append_assoc,
          feedLines_unlines_append, feedLines_findingBlocks own, ih, heading_eq,
          flatMap_feedLines, List.flatMap_cons, Section.lines]
        · simp only [List.cons_append, List.nil_append, List.append_assoc]
        · simp only [List.forall_mem_cons]
          exact ⟨isLine_headingLine severity, lacks_ofList rfl, List.forall_mem_nil _⟩

theorem withoutHeadings_lines {parts : List Section}
    (plain : ∀ part ∈ parts, ∀ finding ∈ part.findings, IsPlain finding) :
    withoutHeadings (parts.flatMap Section.lines) =
      (parts.flatMap (·.findings)).flatMap blockLines := by
  induction parts with
  | nil => rfl
  | cons part parts ih =>
      obtain ⟨first, plain⟩ := List.forall_mem_cons.mp plain
      have blocks : ∀ line ∈ part.findings.flatMap blockLines, ¬ IsHeading line := by
        intro line member
        obtain ⟨finding, listed, inside⟩ := List.mem_flatMap.mp member
        exact (first finding listed).not_isHeading line inside
      have heading : IsHeading (headingLine part.severity) := ⟨_, rfl⟩
      rw [List.flatMap_cons, Section.lines, List.cons_append, List.cons_append, withoutHeadings,
        if_pos heading, withoutHeadings_append blocks, ih plain, List.flatMap_cons,
        List.flatMap_append]

theorem count_headingLine_of_plain (severity : Severity) {lines : List String}
    (plain : ∀ line ∈ lines, ¬ IsHeading line) : lines.count (headingLine severity) = 0 :=
  List.count_eq_zero.mpr fun member => plain _ member ⟨severity, rfl⟩

/-- The headings are those of the sections, once each. -/
theorem count_headingLine_lines {parts : List Section}
    (plain : ∀ part ∈ parts, ∀ finding ∈ part.findings, IsPlain finding) (severity : Severity) :
    (parts.flatMap Section.lines).count (headingLine severity) =
      (parts.map (·.severity)).count severity := by
  induction parts with
  | nil => rfl
  | cons part parts ih =>
      obtain ⟨first, plain⟩ := List.forall_mem_cons.mp plain
      have blocks : (part.findings.flatMap blockLines).count (headingLine severity) = 0 := by
        refine count_headingLine_of_plain severity fun line member => ?_
        obtain ⟨finding, listed, inside⟩ := List.mem_flatMap.mp member
        exact (first finding listed).not_isHeading line inside
      have gap : ("" == headingLine severity) = false := by cases severity <;> decide
      have own : (headingLine part.severity == headingLine severity) =
          (part.severity == severity) := by
        rw [Bool.eq_iff_iff, beq_iff_eq, beq_iff_eq]
        exact ⟨headingLine_injective, congrArg headingLine⟩
      simp only [List.flatMap_cons, List.map_cons, List.count_append, List.count_cons,
        Section.lines, blocks, ih plain, gap, own]
      simp [Nat.add_comm]

end Audit

namespace AuditReport

open Audit Text

/-- A report in Markdown that shows the findings in these sections. -/
structure ShownIn (report : AuditReport) (sections : List Section) : Prop where
  lines : feedLines report.markdown =
    ["## ⚡ EcoCompute Energy Audit", "",
      "Scanned **" ++ toString report.filesScanned.toNat ++ "** file(s). Found "
        ++ ", ".intercalate (sections.map Section.entry) ++ ".", ""]
    ++ sections.flatMap Section.lines
    ++ ["---", "", "📊 Based on **93+ measurements** across RTX 4090D / A800 / RTX 5090.", ""]
  /-- Without the headings, there are the blocks of the findings, one after the other. -/
  withoutHeadings : withoutHeadings (sections.flatMap Section.lines) =
    report.findings.flatMap blockLines
  findings : sections.flatMap (·.findings) = report.findings
  own : ∀ part ∈ sections, ∀ finding ∈ part.findings, finding.severity = part.severity
  /-- The headings of the severities that occur are there once, and no others. -/
  headings : ∀ severity, (feedLines report.markdown).count (headingLine severity) =
    if 0 < report.counts.get severity then 1 else 0
  entries : sections.map (·.severity) =
    Severity.descending.filter (0 < report.counts.get ·)
  counted : ∀ part ∈ sections,
    part.findings.length = (report.counts.get part.severity).toNat

variable {report : AuditReport} {contents : Contents} {rules : List Rule} {paths : List RawPath}
  {threshold : Severity}

theorem isLine_intercalate {separator : String} (apart : IsLine separator) {parts : List String}
    (single : ∀ part ∈ parts, IsLine part) : IsLine (separator.intercalate parts) := by
  induction parts with
  | nil => exact lacks_ofList rfl
  | cons part parts ih =>
      obtain ⟨first, single⟩ := List.forall_mem_cons.mp single
      cases parts with
      | nil => rwa [String.intercalate_singleton]
      | cons next parts =>
          rw [String.intercalate_cons_cons]
          exact (first.append apart).append (ih single)

theorem isLine_entry (part : Section) : IsLine part.entry := by
  refine .append (.append (.append (lacks_ofList rfl) (isLine_toString_nat _))
    (lacks_ofList rfl)) ?_
  cases part.severity <;> exact lacks_ofList rfl

theorem feedLines_markdown (tallied : report.counts = Audit.counts report.findings)
    (few : report.findings.length < UInt64.size) (some : report.findings ≠ [])
    (plain : ∀ finding ∈ report.findings, IsPlain finding) :
    feedLines report.markdown =
      ["## ⚡ EcoCompute Energy Audit", "",
        "Scanned **" ++ toString report.filesScanned.toNat ++ "** file(s). Found "
          ++ ", ".intercalate ((sections report.findings).map Section.entry) ++ ".", ""]
      ++ (sections report.findings).flatMap Section.lines
      ++ ["---", "", "📊 Based on **93+ measurements** across RTX 4090D / A800 / RTX 5090.",
        ""] := by
  have summary : IsLine ("Scanned **" ++ toString report.filesScanned.toNat ++
      "** file(s). Found " ++ ", ".intercalate ((sections report.findings).map Section.entry) ++
        ".") := by
    have entries : IsLine (", ".intercalate ((sections report.findings).map Section.entry)) := by
      refine isLine_intercalate (lacks_ofList rfl) ?_
      rw [List.forall_mem_map]
      exact fun part _ => isLine_entry part
    simp only [lacks_append]
    exact ⟨⟨⟨⟨lacks_ofList rfl, isLine_toString_nat _⟩, lacks_ofList rfl⟩, entries⟩,
      lacks_ofList rfl⟩
  have empty : IsLine "" := lacks_ofList rfl
  have foot : feedLines (unlines ["---", "",
        "📊 Based on **93+ measurements** across RTX 4090D / A800 / RTX 5090."]) =
      ["---", "", "📊 Based on **93+ measurements** across RTX 4090D / A800 / RTX 5090.", ""] := by
    rw [feedLines_unlines, flatMap_feedLines]
    · rfl
    · simp only [List.forall_mem_cons]
      exact ⟨lacks_ofList rfl, empty, lacks_ofList rfl, List.forall_mem_nil _⟩
  have body : (Severity.descending.filter fun severity =>
        !(ofSeverity report.findings severity).isEmpty).flatMap
          (fun severity => Section.lines ⟨severity, ofSeverity report.findings severity⟩) =
      (sections report.findings).flatMap Section.lines := by
    rw [sections, List.flatMap_map]
  have scanned : scannedPhrase report ++ "Found " =
      "Scanned **" ++ toString report.filesScanned.toNat ++ "** file(s). Found " := by
    rw [scannedPhrase, String.append_assoc]
    rfl
  rw [markdown, if_neg (by simpa using some), String.append_assoc, feedLines_unlines_append,
    feedLines_severitySections plain, foot, body, tallied, countPhrases_counts few, scanned,
    flatMap_feedLines]
  · rw [← List.append_assoc]
    rfl
  · simp only [List.cons_append, List.nil_append, List.forall_mem_cons]
    exact ⟨lacks_ofList rfl, empty, summary, empty, List.forall_mem_nil _⟩

theorem shownIn_sections (ordered : Ordered report.findings)
    (tallied : report.counts = Audit.counts report.findings)
    (few : report.findings.length < UInt64.size) (some : report.findings ≠ [])
    (plain : ∀ finding ∈ report.findings, IsPlain finding) :
    report.ShownIn (sections report.findings) := by
  have written := feedLines_markdown tallied few some plain
  have entries : (sections report.findings).map (·.severity) =
      Severity.descending.filter (0 < report.counts.get ·) := tallied ▸ severity_sections few
  have within : ∀ part ∈ sections report.findings, ∀ finding ∈ part.findings,
      finding ∈ report.findings ∧ finding.severity = part.severity := by
    intro part member finding inside
    obtain ⟨severity, -, rfl⟩ := List.mem_map.mp member
    exact mem_ofSeverity.mp inside
  have plainWithin : ∀ part ∈ sections report.findings, ∀ finding ∈ part.findings,
      IsPlain finding := fun part member finding inside =>
    plain finding (within part member finding inside).1
  have plainHead : ∀ line ∈ ["## ⚡ EcoCompute Energy Audit", "",
      "Scanned **" ++ toString report.filesScanned.toNat ++ "** file(s). Found "
        ++ ", ".intercalate ((sections report.findings).map Section.entry) ++ ".", ""],
      ¬ IsHeading line := by
    simp only [List.forall_mem_cons]
    exact ⟨by decide +kernel, not_isHeading_of_head? (by simp), not_isHeading_of_head? (by simp),
      not_isHeading_of_head? (by simp), List.forall_mem_nil _⟩
  have plainFoot : ∀ line ∈ ["---", "",
      "📊 Based on **93+ measurements** across RTX 4090D / A800 / RTX 5090.", ""],
      ¬ IsHeading line := by
    simp only [List.forall_mem_cons]
    exact ⟨not_isHeading_of_head? (by simp), not_isHeading_of_head? (by simp),
      not_isHeading_of_head? (by simp), not_isHeading_of_head? (by simp), List.forall_mem_nil _⟩
  exact {
    lines := written
    withoutHeadings := by rw [withoutHeadings_lines plainWithin, flatMap_sections ordered]
    findings := flatMap_sections ordered
    own := fun part member finding inside => (within part member finding inside).2
    headings := by
      intro severity
      have nodup : (Severity.descending.filter (0 < report.counts.get ·)).Nodup :=
        List.Nodup.filter _ (by decide)
      have listed : severity ∈ Severity.descending := by cases severity <;> decide
      rw [written, List.count_append, List.count_append, count_headingLine_lines plainWithin,
        entries, nodup.count, count_headingLine_of_plain severity plainHead,
        count_headingLine_of_plain severity plainFoot]
      simp [listed]
    entries
    counted := by
      intro part member
      obtain ⟨severity, -, rfl⟩ := List.mem_map.mp member
      rw [tallied]
      exact (toNat_get_counts few severity).symm }

theorem isPlain_of_mem_findings {finding : Finding}
    (member : finding ∈ (ofPaths contents rules paths threshold).findings)
    (single : IsLine finding.file) : IsPlain finding := by
  obtain ⟨found, -⟩ := mem_aggregate.mp member
  obtain ⟨outcome, listed, found⟩ := List.mem_flatMap.mp found
  obtain ⟨file, -, rfl⟩ := List.mem_map.mp listed
  unfold auditFile at found
  split at found
  · exact nomatch found
  · split at found
    · obtain ⟨rule, -, reported⟩ := List.mem_flatMap.mp found
      obtain ⟨line, advice, said, rfl⟩ := Rule.exists_report_of_mem_check reported
      exact isPlain_report single line said
    · exact nomatch found

/-- A workspace with a file on which one rule has a hint and another one a warning. -/
def loadInLoop : Workspace where
  tree := ⟨[(["a.py"], .file
    "m = from_pretrained(n)\nfor p in ps:\n    m.generate(p)\n".toUTF8)]⟩
  directory := []

theorem infix_join {part : String} {parts : List String} (member : part ∈ parts) :
    part.toList <:+: (String.join parts).toList := by
  obtain ⟨before, after, rfl⟩ := List.append_of_mem member
  rw [String.join_append, String.join_cons, String.toList_append, String.toList_append,
    ← List.append_assoc]
  exact List.infix_append ..

/-- The name of a file stands in the report as it is. -/
theorem file_infix_markdown {finding : Finding} (member : finding ∈ report.findings) :
    finding.file.toList <:+: report.markdown.toList := by
  have inPlace : finding.file.toList <:+: (place finding.location).toList := by
    unfold place
    cases finding.location.line with
    | none => exact ⟨['`'], ['`'], by simp [Finding.file]⟩
    | some line =>
        exact ⟨['`'], "` (line ".toList ++ (toString line.toNat).toList ++ [')'],
          by simp [Finding.file]⟩
  have inBlock : (place finding.location).toList <:+: (findingBlock finding).toList := by
    have inTitle : (place finding.location).toList <:+:
        ("**" ++ finding.title ++ "** — " ++ place finding.location ++ "\n").toList :=
      ⟨("**" ++ finding.title ++ "** — ").toList, ['\n'], by simp⟩
    refine inTitle.trans (infix_join ?_)
    split <;> exact List.mem_map_of_mem List.mem_cons_self
  have inSection : (findingBlock finding).toList <:+:
      (severitySection report.findings finding.severity).toList := by
    have own : finding ∈ report.findings.filter (·.severity == finding.severity) :=
      List.mem_filter.mpr ⟨member, beq_self_eq_true _⟩
    have inBlocks := infix_join (List.mem_map_of_mem (f := findingBlock) own)
    unfold severitySection
    rw [if_neg (by simpa using List.ne_nil_of_mem own), String.toList_append]
    exact inBlocks.trans (List.suffix_append ..).isInfix
  have listed : finding.severity ∈ Severity.descending := by
    cases finding.severity <;> decide
  have inSections := infix_join
    (List.mem_map_of_mem (f := severitySection report.findings) listed)
  have inReport : (String.join (Severity.descending.map
      (severitySection report.findings))).toList <:+: report.markdown.toList := by
    rw [markdown, if_neg (by simpa using List.ne_nil_of_mem member), String.toList_append,
      String.toList_append]
    exact List.infix_append ..
  exact inPlace.trans (inBlock.trans (inSection.trans (inSections.trans inReport)))

/-- A workspace with a file whose name has the heading of critical findings for a line. -/
def headingInName : Workspace where
  tree := ⟨[(["a\n### 🔴 Critical Issues\n.py"], .file "m = from_pretrained(n)\n".toUTF8)]⟩
  directory := []

end AuditReport

end EnergyAudit
