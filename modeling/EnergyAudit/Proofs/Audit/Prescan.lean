import EnergyAudit.Audit.Report
import EnergyAudit.Proofs.Text.Lines
import EnergyAudit.Proofs.Text.Lowercase

/-! # The prescan loses nothing

A rule reports something only where the text has one of a few words, in some mixture of case.  None
of these words holds an s, so that each of them is left in the small form of the text, and with it
the keyword that it begins with.  An audit that scans every file therefore comes to the same
findings as one that first looks for the keywords. -/

namespace EnergyAudit

namespace Audit

/-- Whether the letter is small and has no other forms than its small and its capital one. -/
def isPlain (letter : Char) : Bool :=
  letter.toNat < 0x80 && letter.toLower != 's' && letter.toLower == letter

/-- A word that begins with a keyword cannot stand in a source without being noticed. -/
theorem needsScan_of_word {keyword word piece source : List Char} (listed : keyword ∈ keywords)
    (begins : keyword <+: word) (plain : word.all isPlain = true)
    (same : Pattern.SameLetters word piece) (inside : piece <:+: source) :
    needsScan source = true := by
  have letters : ∀ letter ∈ word,
      letter.toNat < 0x80 ∧ letter.toLower ≠ 's' ∧ letter.toLower = letter := by
    intro letter member
    simpa [isPlain, and_assoc] using List.all_eq_true.mp plain letter member
  have small := Text.word_infix_lower (fun letter member => (letters letter member).1)
    (fun letter member => (letters letter member).2.1) same inside
  have fixed : word.map Char.toLower = word := by
    rw [List.map_congr_left fun letter member => (letters letter member).2.2, List.map_id']
  rw [fixed] at small
  have noticed : keyword <:+: Text.lower source := begins.isInfix.trans small
  exact List.any_eq_true.mpr ⟨keyword, listed, Text.contains_iff.mpr noticed⟩

end Audit

namespace Rule

open Audit

theorem mem_codeLines_inside {line source : List Char} (member : line ∈ codeLines source) :
    line <:+: source := by
  obtain ⟨whole, inside, rfl⟩ := List.mem_map.mp member
  exact (List.takeWhile_prefix _).isInfix.trans (Text.mem_lines_inside inside)

/-- An argument that is a keyword is noticed where the code of a line switches it on. -/
theorem needsScan_of_enabled {argument : String} {source : List Char}
    (listed : argument.toList ∈ keywords)
    (plain : argument.toList.all isPlain = true)
    (found : (firstLine? (enabled argument).occursIn (codeLines source)).isSome = true) :
    needsScan source = true := by
  rw [firstLine?_isSome] at found
  obtain ⟨line, member, occurs⟩ := List.any_eq_true.mp found
  obtain ⟨piece, same, inside⟩ := Pattern.word_of_occursIn_sequence occurs
  exact needsScan_of_word listed (List.prefix_refl _) plain same
    (inside.trans (mem_codeLines_inside member))

theorem needsScan_of_eightBitLine? {source : List Char}
    (found : (eightBitLine? source).isSome = true) : needsScan source = true :=
  needsScan_of_enabled (by decide) (by decide) found

theorem needsScan_of_fourBitLine? {source : List Char}
    (found : (fourBitLine? source).isSome = true) : needsScan source = true :=
  needsScan_of_enabled (by decide) (by decide) found

theorem contains_of_bodyGenerates {indent : Nat} {lines : List (List Char)}
    (generates : bodyGenerates indent lines = true) :
    ∃ line ∈ lines, Text.contains generateCall line = true := by
  fun_induction bodyGenerates indent lines with
  | case1 => simp at generates
  | case2 line rest blank ih =>
      obtain ⟨found, member, call⟩ := ih generates
      exact ⟨found, List.mem_cons_of_mem _ member, call⟩
  | case3 => simp at generates
  | case4 line rest filled deeper ih =>
      rcases Bool.or_eq_true_iff.mp generates with call | later
      · exact ⟨line, List.mem_cons_self, call⟩
      · obtain ⟨found, member, call⟩ := ih later
        exact ⟨found, List.mem_cons_of_mem _ member, call⟩

theorem contains_of_linesBeforeLoop? {lines : List (List Char)}
    (found : (linesBeforeLoop? lines).isSome = true) :
    ∃ line ∈ lines, Text.contains generateCall line = true := by
  fun_induction linesBeforeLoop? lines with
  | case1 => simp at found
  | case2 header rest opens =>
      obtain ⟨line, member, call⟩ :=
        contains_of_bodyGenerates (Bool.and_eq_true_iff.mp opens).2
      exact ⟨line, List.mem_cons_of_mem _ member, call⟩
  | case3 header rest _ ih =>
      obtain ⟨line, member, call⟩ := ih (by simpa using found)
      exact ⟨line, List.mem_cons_of_mem _ member, call⟩

/-- The call is looked for as it is written, and its letters are small letters. -/
theorem needsScan_of_generationLoop? {source : List Char}
    (found : (generationLoop? source).isSome = true) : needsScan source = true := by
  rw [generationLoop?, Option.isSome_map] at found
  obtain ⟨line, member, call⟩ := contains_of_linesBeforeLoop? found
  have inside : generateCall <:+: source :=
    (Text.contains_iff.mp call).trans (Text.mem_lines_inside member)
  have same : Pattern.SameLetters generateCall generateCall :=
    List.forall₂_same.mpr fun letter _ => by simp [Pattern.sameLetter]
  exact needsScan_of_word (by decide) (List.prefix_refl _) (by decide) same inside

theorem needsScan_of_unplacedLoad? {source : List Char}
    (found : (unplacedLoad? source).isSome = true) : needsScan source = true := by
  obtain ⟨place, atPlace⟩ := Option.isSome_iff_exists.mp found
  obtain ⟨⟨line, index⟩, first, -⟩ := Option.map_eq_some_iff.mp atPlace
  have holds := List.find?_some first
  have member : line ∈ Text.lines source :=
    (List.mem_zipIdx' (List.mem_of_find?_eq_some first)).2 ▸ List.getElem_mem _
  simp only [isUnplacedLoad, Bool.and_eq_true] at holds
  obtain ⟨piece, same, inside⟩ := Pattern.word_of_occursIn_sequence holds.1.1
  exact needsScan_of_word (by decide) (List.prefix_refl _) (by decide) same
    (inside.trans (mem_codeLines_inside (List.mem_map_of_mem member)))

theorem needsScan_of_redundantParameters {source : List Char}
    (found : redundantParameters source ≠ []) : needsScan source = true := by
  obtain ⟨name, member⟩ := List.exists_mem_of_ne_nil _ found
  unfold redundantParameters at member
  split at member
  · contradiction
  · simp only [List.mem_filterMap, List.mem_cons, List.not_mem_nil, or_false] at member
    obtain ⟨⟨pattern, label⟩, listed, chosen⟩ := member
    have occurs : pattern.occursIn source = true := by
      by_contra missing
      simp [missing] at chosen
    rcases listed with same | same
    all_goals
      obtain ⟨rfl, -⟩ := Prod.mk.inj same
      obtain ⟨piece, same, inside⟩ := Pattern.word_of_occursIn occurs
      exact needsScan_of_word (show "bnb_4bit".toList ∈ keywords by decide) (by decide) (by decide)
        same inside

/-- What a rule reports at a line that it does not have is nothing. -/
theorem isSome_of_reportAt {rule : Rule} {file : String} {line : Option Nat} {advice : Advice}
    (reports : rule.reportAt file line advice ≠ []) : line.isSome = true := by
  cases line with
  | none => exact absurd rfl reports
  | some => rfl

/-- A rule reports nothing about a source that holds no keyword. -/
theorem needsScan_of_check {rule : Rule} {source : List Char} {file : String}
    (reports : rule.check source file ≠ []) : needsScan source = true := by
  cases rule with
  | defaultInt8 =>
      have found := isSome_of_reportAt reports
      unfold defaultInt8Line? at found
      split at found
      · contradiction
      · exact needsScan_of_eightBitLine? found
  | smallModelNf4 =>
      apply needsScan_of_fourBitLine?
      cases flag : fourBitLine? source with
      | none => simp [check, smallModelLoad?, flag] at reports
      | some => rfl
  | sequentialGenerate => exact needsScan_of_generationLoop? (isSome_of_reportAt reports)
  | precisionConflict =>
      have found := isSome_of_reportAt reports
      unfold precisionConflictLine? at found
      split at found
      · exact needsScan_of_eightBitLine? found
      · contradiction
  | missingDeviceMap => exact needsScan_of_unplacedLoad? (isSome_of_reportAt reports)
  | redundantFourBit =>
      apply needsScan_of_redundantParameters
      rintro nothing
      simp [check, nothing] at reports

end Rule

namespace Audit

theorem scan_eq_nil_of_not_needsScan {rules : List Rule} {source : List Char} {file : String}
    (skipped : needsScan source = false) : scan rules source file = [] := by
  refine List.flatMap_eq_nil_iff.mpr fun rule _ => ?_
  by_contra reports
  exact Bool.false_ne_true (skipped.symm.trans (Rule.needsScan_of_check reports))

/-- Audits one file with the rules, whatever words it holds. -/
def auditWholly (rules : List Rule) (file : SourceFile) : Outcome :=
  match file.text with
  | none => .unreadable
  | some text => .scanned (scan rules text.toList file.name)

theorem findings_auditWholly (rules : List Rule) (file : SourceFile) :
    (auditWholly rules file).findings = (auditFile rules file).findings := by
  unfold auditWholly auditFile
  cases file.text with
  | none => rfl
  | some text =>
      cases wanted : needsScan text.toList with
      | true => simp [wanted]
      | false => simp [wanted, Outcome.findings, scan_eq_nil_of_not_needsScan wanted]

theorem isUnreadable_auditWholly (rules : List Rule) (file : SourceFile) :
    (auditWholly rules file).isUnreadable = (auditFile rules file).isUnreadable := by
  unfold auditWholly auditFile
  cases file.text with
  | none => rfl
  | some text => by_cases wanted : needsScan text.toList <;> simp [wanted, Outcome.isUnreadable]

end Audit

namespace AuditReport

open Audit

/-- Audits the files with the rules and leaves none of them out. -/
def ofWholeFiles (rules : List Rule) (files : List SourceFile) (threshold : Severity) :
    AuditReport :=
  let outcomes := files.map (auditWholly rules)
  let findings := aggregate (outcomes.flatMap (·.findings)) threshold
  { findings
    filesScanned := .ofNat files.length
    filesSkipped := 0
    filesFailed := .ofNat (outcomes.countP (·.isUnreadable))
    threshold
    counts := Audit.counts findings }

/-- The prescan changes nothing: a source without a keyword has no findings under any list of rules,
and the audit that leaves such files out differs from the one that scans them all in nothing but how
many files it says it has left out. -/
theorem ofFiles_eq_ofWholeFiles (rules : List Rule) :
    (∀ source file, needsScan source = false → scan rules source file = []) ∧
      ∀ files threshold,
        ofFiles rules files threshold =
          { ofWholeFiles rules files threshold with
            filesSkipped := (ofFiles rules files threshold).filesSkipped } := by
  refine ⟨fun source file => scan_eq_nil_of_not_needsScan, fun files threshold => ?_⟩
  have findings : (files.map (auditFile rules)).flatMap (·.findings) =
      (files.map (auditWholly rules)).flatMap (·.findings) := by
    simp only [List.flatMap_map, findings_auditWholly]
  have failed : (files.map (auditFile rules)).countP (·.isUnreadable) =
      (files.map (auditWholly rules)).countP (·.isUnreadable) := by
    simp only [List.countP_map, Function.comp_def, isUnreadable_auditWholly]
  simp only [ofFiles, ofWholeFiles, findings, failed]

/-- The long s is a case of the letter s for the rules, and none for the prescan. -/
theorem scan_of_long_s :
    needsScan "BitſAndByteſConfig(threshold=6)".toList = false ∧
      scan Rule.all "BitſAndByteſConfig(threshold=6)".toList "run.py" = [] := by
  have skipped : needsScan "BitſAndByteſConfig(threshold=6)".toList = false := by decide +kernel
  exact ⟨skipped, (ofFiles_eq_ofWholeFiles Rule.all).1 _ _ skipped⟩

end AuditReport

end EnergyAudit
