import Mathlib.Data.List.Find
import EnergyAudit.Audit.Report
import EnergyAudit.Proofs.Audit.LineEnds
import EnergyAudit.Proofs.Pattern.Words
import EnergyAudit.Proofs.Text.LineEnds

/-! # Line numbers follow the code

Empty lines in front of a source move its code down.  No rule has anything to say about an empty
line, and the lines around a loading call are the same apart from empty ones, so that every finding
stays and its line number grows by the number of the empty lines. -/

namespace EnergyAudit

open Text (LineEnd emptyLines)

/-- The place so many lines further down. -/
def SourceLocation.movedDown (count : Nat) (location : SourceLocation) : SourceLocation :=
  { location with line := location.line.map (· + UInt64.ofNat count) }

def Finding.movedDown (count : Nat) (finding : Finding) : Finding :=
  { finding with location := finding.location.movedDown count }

theorem SourceLocation.movedDown_zero (location : SourceLocation) :
    location.movedDown 0 = location := by
  obtain ⟨file, line⟩ := location
  cases line with
  | none => rfl
  | some line =>
      have same : line + UInt64.ofNat 0 = line := UInt64.add_zero line
      rw [movedDown, Option.map_some, same]

theorem SourceLocation.movedDown_movedDown (first second : Nat) (location : SourceLocation) :
    (location.movedDown first).movedDown second = location.movedDown (first + second) := by
  obtain ⟨file, line⟩ := location
  cases line with
  | none => rfl
  | some line => simp [movedDown, UInt64.add_assoc]

theorem Finding.movedDown_zero (finding : Finding) : finding.movedDown 0 = finding := by
  rw [movedDown, SourceLocation.movedDown_zero]

theorem Finding.movedDown_movedDown (first second : Nat) (finding : Finding) :
    (finding.movedDown first).movedDown second = finding.movedDown (first + second) := by
  rw [movedDown, movedDown, SourceLocation.movedDown_movedDown]
  rfl

namespace Rule

/-! ## One more line in front -/

theorem firstLine?_cons {holds : List Char → Bool} {line : List Char} (missed : holds line = false)
    (lines : List (List Char)) :
    firstLine? holds (line :: lines) = (firstLine? holds lines).map (· + 1) := by
  simp [firstLine?, List.findIdx?_cons, missed, Function.comp_def]

theorem codeLines_emptyLine (lineEnd : LineEnd) (source : List Char) :
    codeLines (lineEnd.text ++ source) = [] :: codeLines source := by
  rw [codeLines, codeLines, Text.lines_emptyLine]
  rfl

theorem eightBitLine?_emptyLine (lineEnd : LineEnd) (source : List Char) :
    eightBitLine? (lineEnd.text ++ source) = (eightBitLine? source).map (· + 1) := by
  rw [eightBitLine?, codeLines_emptyLine]
  exact firstLine?_cons (by decide) _

theorem fourBitLine?_emptyLine (lineEnd : LineEnd) (source : List Char) :
    fourBitLine? (lineEnd.text ++ source) = (fourBitLine? source).map (· + 1) := by
  rw [fourBitLine?, codeLines_emptyLine]
  exact firstLine?_cons (by decide) _

theorem any_codeLines_emptyLine {p : Pattern} (missed : p.occursIn [] = false)
    (lineEnd : LineEnd) (source : List Char) :
    (codeLines (lineEnd.text ++ source)).any p.occursIn = (codeLines source).any p.occursIn := by
  rw [codeLines_emptyLine, List.any_cons, missed, Bool.false_or]

theorem defaultInt8Line?_emptyLine (lineEnd : LineEnd) (source : List Char) :
    defaultInt8Line? (lineEnd.text ++ source) = (defaultInt8Line? source).map (· + 1) := by
  rw [defaultInt8Line?, defaultInt8Line?, any_codeLines_emptyLine (by decide),
    eightBitLine?_emptyLine]
  split
  · rfl
  · rfl

theorem precisionConflictLine?_emptyLine (lineEnd : LineEnd) (source : List Char) :
    precisionConflictLine? (lineEnd.text ++ source) =
      (precisionConflictLine? source).map (· + 1) := by
  rw [precisionConflictLine?, precisionConflictLine?, any_codeLines_emptyLine (by decide),
    eightBitLine?_emptyLine]
  split
  · rfl
  · rfl

theorem generationLoop?_emptyLine (lineEnd : LineEnd) (source : List Char) :
    generationLoop? (lineEnd.text ++ source) = (generationLoop? source).map (· + 1) := by
  have noHeader : loopHeader.occursIn [] = false := by decide
  rw [generationLoop?, Text.lines_emptyLine, linesBeforeLoop?, noHeader, Bool.false_and]
  rfl

/-! ## The lines around a loading call -/

/-- At the start of a source an empty line comes into reach of a loading call, and further down all
lines within reach move along with it. -/
theorem any_nearbyLines_cons {p : Pattern} {line : List Char} (missed : p.occursIn line = false)
    (lines : List (List Char)) (index : Nat) :
    (nearbyLines (line :: lines) (index + 1)).any p.occursIn =
      (nearbyLines lines index).any p.occursIn := by
  by_cases near : index < contextLines
  case pos =>
      have starts : index + 1 - contextLines = 0 ∧ index - contextLines = 0 := by omega
      have ends : min (index + 1 + contextLines + 1) (lines.length + 1) =
          min (index + contextLines + 1) lines.length + 1 := by omega
      simp only [nearbyLines, starts, List.length_cons, ends, Nat.sub_zero, List.drop_zero,
        List.take_succ_cons, List.any_cons, missed, Bool.false_or]
  case neg =>
      have starts : index + 1 - contextLines = index - contextLines + 1 := by omega
      have ends : min (index + 1 + contextLines + 1) (lines.length + 1) -
            (index - contextLines + 1) =
          min (index + contextLines + 1) lines.length - (index - contextLines) := by omega
      simp only [nearbyLines, starts, List.length_cons, ends, List.drop_succ_cons]

theorem isUnplacedLoad_cons (lines : List (List Char)) (line : List Char) (index : Nat) :
    isUnplacedLoad ([] :: lines) line (index + 1) = isUnplacedLoad lines line index := by
  rw [isUnplacedLoad, isUnplacedLoad, any_nearbyLines_cons (by decide)]

theorem unplacedLoad?_emptyLine (lineEnd : LineEnd) (source : List Char) :
    unplacedLoad? (lineEnd.text ++ source) = (unplacedLoad? source).map (· + 1) := by
  have noCall (index : Nat) : isUnplacedLoad ([] :: Text.lines source) [] index = false := by
    rw [isUnplacedLoad, show loadingCall.occursIn (code []) = false by decide]
    rfl
  have moved : (Text.lines source).zipIdx 1 =
      (Text.lines source).zipIdx.map fun entry => (entry.1, entry.2 + 1) :=
    List.zipIdx_succ
  simp only [unplacedLoad?, Text.lines_emptyLine, List.zipIdx_cons, List.find?_cons, noCall,
    Nat.zero_add, moved, List.find?_map, Function.comp_def, isUnplacedLoad_cons, Option.map_map]

/-! ## What is looked for in the source as a whole -/

theorem occursIn_emptyLine {p : Pattern} (noReturn : p.refuses '\r' = true)
    (noFeed : p.refuses '\n' = true) (lineEnd : LineEnd) (source : List Char) :
    p.occursIn (lineEnd.text ++ source) = p.occursIn source := by
  cases lineEnd with
  | feed => exact Pattern.occursIn_cons_of_refuses noFeed source
  | returnFeed =>
      exact (Pattern.occursIn_cons_of_refuses noReturn _).trans
        (Pattern.occursIn_cons_of_refuses noFeed source)

theorem smallModels_refuse_lineEnds :
    ∀ model ∈ smallModels, (spellingPattern model.spelling).refuses '\r' = true ∧
      (spellingPattern model.spelling).refuses '\n' = true := by
  decide

theorem smallModel?_emptyLine (lineEnd : LineEnd) (source : List Char) :
    smallModel? (lineEnd.text ++ source) = smallModel? source := by
  have same : smallModels.find? (·.occursIn (lineEnd.text ++ source)) =
      smallModels.find? (·.occursIn source) := by
    apply List.find?_congr
    intro model listed
    obtain ⟨noReturn, noFeed⟩ := smallModels_refuse_lineEnds model listed
    exact occursIn_emptyLine noReturn noFeed lineEnd source
  rw [smallModel?, smallModel?, same]

theorem smallModelLoad?_emptyLine (lineEnd : LineEnd) (source : List Char) :
    smallModelLoad? (lineEnd.text ++ source) =
      (smallModelLoad? source).map fun (model, line) => (model, line + 1) := by
  simp only [smallModelLoad?, fourBitLine?_emptyLine, smallModel?_emptyLine]
  cases fourBitLine? source with
  | none => rfl
  | some line =>
      cases smallModel? source with
      | none => rfl
      | some model => rfl

theorem redundantParameters_emptyLine (lineEnd : LineEnd) (source : List Char) :
    redundantParameters (lineEnd.text ++ source) = redundantParameters source := by
  have flag : fourBitFlag.occursIn (lineEnd.text ++ source) = fourBitFlag.occursIn source :=
    occursIn_emptyLine (by decide) (by decide) lineEnd source
  have dtype : computeDtype.occursIn (lineEnd.text ++ source) = computeDtype.occursIn source :=
    occursIn_emptyLine (by decide) (by decide) lineEnd source
  have kind : quantType.occursIn (lineEnd.text ++ source) = quantType.occursIn source :=
    occursIn_emptyLine (by decide) (by decide) lineEnd source
  simp only [redundantParameters, flag, List.filterMap_cons, List.filterMap_nil, dtype, kind]

/-! ## Findings -/

theorem report_succ (rule : Rule) (file : String) (line : Nat) (advice : Advice) :
    rule.report file (some (line + 1)) advice =
      (rule.report file (some line) advice).movedDown 1 := by
  simp only [report, Finding.movedDown, SourceLocation.movedDown, Option.map_some,
    UInt64.ofNat_add]

theorem reportAt_succ (rule : Rule) (file : String) (line : Option Nat) (advice : Advice) :
    rule.reportAt file (line.map (· + 1)) advice =
      (rule.reportAt file line advice).map (·.movedDown 1) := by
  cases line with
  | none => rfl
  | some line => exact congrArg ([·]) (rule.report_succ file line advice)

/-- A rule reports the same about a source with an empty line in front, one line further down. -/
theorem check_emptyLine (rule : Rule) (lineEnd : LineEnd) (source : List Char) (file : String) :
    rule.check (lineEnd.text ++ source) file =
      (rule.check source file).map (·.movedDown 1) := by
  cases rule with
  | defaultInt8 => simp only [check, defaultInt8Line?_emptyLine, reportAt_succ]
  | smallModelNf4 =>
      simp only [check, smallModelLoad?_emptyLine]
      cases smallModelLoad? source with
      | none => rfl
      | some load => exact reportAt_succ _ file (some load.2) _
  | sequentialGenerate => simp only [check, generationLoop?_emptyLine, reportAt_succ]
  | precisionConflict => simp only [check, precisionConflictLine?_emptyLine, reportAt_succ]
  | missingDeviceMap => simp only [check, unplacedLoad?_emptyLine, reportAt_succ]
  | redundantFourBit =>
      simp only [check, redundantParameters_emptyLine, List.map_map]
      rfl

/-! ## Lines that there are -/

/-- Whether the line, counted from one, is one of the source. -/
def IsLineOf (source : List Char) (line : Option Nat) : Prop :=
  ∀ n ∈ line, n ≤ (Text.lines source).length

variable {source : List Char}

theorem isLineOf_firstLine? (holds : List Char → Bool) (source : List Char) :
    IsLineOf source (firstLine? holds (codeLines source)) := by
  intro n found
  obtain ⟨index, first, rfl⟩ := Option.map_eq_some_iff.mp found
  have within : index < (codeLines source).length := (List.findIdx?_eq_some_iff_getElem.mp first).1
  rwa [codeLines, List.length_map] at within

theorem isLineOf_none : IsLineOf source none := nofun

theorem isLineOf_defaultInt8Line? (source : List Char) :
    IsLineOf source (defaultInt8Line? source) := by
  unfold defaultInt8Line?
  split
  · exact isLineOf_none
  · exact isLineOf_firstLine? _ source

theorem isLineOf_precisionConflictLine? (source : List Char) :
    IsLineOf source (precisionConflictLine? source) := by
  unfold precisionConflictLine?
  split
  · exact isLineOf_firstLine? _ source
  · exact isLineOf_none

theorem isLineOf_smallModelLoad? {model : String} {line : Nat}
    (found : smallModelLoad? source = some (model, line)) : IsLineOf source (some line) := by
  obtain ⟨first, flag, rest⟩ := Option.bind_eq_some_iff.mp found
  obtain ⟨name, _, same⟩ := Option.bind_eq_some_iff.mp rest
  obtain ⟨_, rfl⟩ := Prod.mk.inj (Option.some.inj same)
  exact flag ▸ isLineOf_firstLine? _ source

theorem lt_of_linesBeforeLoop? {lines : List (List Char)} {before : Nat}
    (found : linesBeforeLoop? lines = some before) : before < lines.length := by
  induction lines generalizing before with
  | nil => exact nomatch found
  | cons header rest ih =>
      rw [linesBeforeLoop?] at found
      split at found
      · cases found
        exact Nat.zero_lt_succ _
      · obtain ⟨later, next, rfl⟩ := Option.map_eq_some_iff.mp found
        exact Nat.succ_lt_succ (ih next)

theorem isLineOf_generationLoop? (source : List Char) :
    IsLineOf source (generationLoop? source) := by
  intro n found
  obtain ⟨before, first, rfl⟩ := Option.map_eq_some_iff.mp found
  exact lt_of_linesBeforeLoop? first

theorem isLineOf_unplacedLoad? (source : List Char) : IsLineOf source (unplacedLoad? source) := by
  intro n found
  obtain ⟨⟨line, index⟩, first, rfl⟩ := Option.map_eq_some_iff.mp found
  exact (List.mem_zipIdx' (List.mem_of_find?_eq_some first)).1

theorem isLineOf_of_mem_reportAt {rule : Rule} {file : String} {line : Option Nat}
    {advice : Advice} {finding : Finding} (within : IsLineOf source line)
    (member : finding ∈ rule.reportAt file line advice) :
    ∃ line, finding.line = line.map UInt64.ofNat ∧ IsLineOf source line := by
  cases line with
  | none => exact nomatch member
  | some n =>
      rw [List.mem_singleton.mp member]
      exact ⟨some n, rfl, within⟩

/-- Where a rule gives a line number, the source has a line of that number. -/
theorem isLineOf_of_mem_check {rule : Rule} {file : String} {finding : Finding}
    (member : finding ∈ rule.check source file) :
    ∃ line, finding.line = line.map UInt64.ofNat ∧ IsLineOf source line := by
  cases rule with
  | defaultInt8 => exact isLineOf_of_mem_reportAt (isLineOf_defaultInt8Line? source) member
  | smallModelNf4 =>
      unfold check at member
      dsimp only at member
      split at member
      · rename_i found
        exact isLineOf_of_mem_reportAt (isLineOf_smallModelLoad? found) member
      · exact nomatch member
  | sequentialGenerate => exact isLineOf_of_mem_reportAt (isLineOf_generationLoop? source) member
  | precisionConflict =>
      exact isLineOf_of_mem_reportAt (isLineOf_precisionConflictLine? source) member
  | missingDeviceMap => exact isLineOf_of_mem_reportAt (isLineOf_unplacedLoad? source) member
  | redundantFourBit =>
      obtain ⟨parameter, _, rfl⟩ := List.mem_map.mp member
      exact ⟨none, rfl, isLineOf_none⟩

end Rule

namespace Audit

variable {source : List Char}

theorem needsScan_emptyLine (lineEnd : LineEnd) (source : List Char) :
    needsScan (lineEnd.text ++ source) = needsScan source := by
  rw [Bool.eq_iff_iff, needsScan, needsScan, Text.lower_emptyLine, List.any_eq_true,
    List.any_eq_true]
  refine exists_congr fun keyword => and_congr_right fun listed => ?_
  obtain ⟨noReturn, noFeed⟩ := keywords_hold_no_lineEnd keyword listed
  rw [Text.contains_emptyLine noReturn noFeed]

theorem needsScan_emptyLines (ends : List LineEnd) (source : List Char) :
    needsScan (emptyLines ends ++ source) = needsScan source := by
  induction ends with
  | nil => rfl
  | cons lineEnd ends ih => rw [Text.emptyLines_cons_append, needsScan_emptyLine, ih]

theorem scan_emptyLine (rules : List Rule) (lineEnd : LineEnd) (source : List Char)
    (file : String) :
    scan rules (lineEnd.text ++ source) file = (scan rules source file).map (·.movedDown 1) := by
  simp only [scan, Rule.check_emptyLine, List.map_flatMap]

theorem scan_emptyLines (rules : List Rule) (ends : List LineEnd) (source : List Char)
    (file : String) :
    scan rules (emptyLines ends ++ source) file =
      (scan rules source file).map (·.movedDown ends.length) := by
  induction ends with
  | nil =>
      simp only [List.length_nil, Finding.movedDown_zero, List.map_id']
      rfl
  | cons lineEnd ends ih =>
      rw [Text.emptyLines_cons_append, scan_emptyLine, ih, List.map_map]
      simp only [Function.comp_def, Finding.movedDown_movedDown, List.length_cons]

theorem toNat_line_movedDown {rules : List Rule} {file : String} {finding : Finding}
    {line : UInt64} {count : Nat} (member : finding ∈ scan rules source file)
    (atLine : finding.line = some line) (few : source.length + count < UInt64.size) :
    ∃ later, (finding.movedDown count).line = some later ∧
      later.toNat = line.toNat + count := by
  obtain ⟨rule, _, reported⟩ := List.mem_flatMap.mp member
  obtain ⟨number, same, within⟩ := Rule.isLineOf_of_mem_check reported
  rw [atLine] at same
  obtain ⟨n, rfl, rfl⟩ := Option.map_eq_some_iff.mp same.symm
  have lines : n ≤ source.length := (within n rfl).trans (Text.length_lines_le source)
  refine ⟨UInt64.ofNat n + UInt64.ofNat count, ?_, ?_⟩
  · exact congrArg (Option.map (· + UInt64.ofNat count)) atLine
  · rw [← UInt64.ofNat_add, UInt64.toNat_ofNat_of_lt' (by omega),
      UInt64.toNat_ofNat_of_lt' (by omega)]

/-- Empty lines in front of a source change nothing but line numbers.  The prescan decides alike,
and every list of rules reports the same findings in the same order, with line numbers that are
greater by the number of the empty lines. -/
theorem scan_behind_emptyLines (ends : List LineEnd) (source : List Char) :
    needsScan (emptyLines ends ++ source) = needsScan source ∧
      ∀ rules file,
        scan rules (emptyLines ends ++ source) file =
            (scan rules source file).map (·.movedDown ends.length) ∧
          (source.length + ends.length < UInt64.size →
            ∀ finding ∈ scan rules source file, ∀ line, finding.line = some line →
              ∃ later, (finding.movedDown ends.length).line = some later ∧
                later.toNat = line.toNat + ends.length) := by
  refine ⟨needsScan_emptyLines ends source, fun rules file => ⟨?_, ?_⟩⟩
  · exact scan_emptyLines rules ends source file
  · intro few finding member line atLine
    exact toNat_line_movedDown member atLine few

/-- A load, a loop that generates answers and a flag, with an argument that has no line. -/
def loopBehindLoad : String :=
  "m = from_pretrained(name, bnb_4bit_quant_type)\nfor p in ps:\n    m.generate(p)\n"
    ++ "load_in_8bit=True\n"

theorem scan_loopBehindLoad_behind_emptyLines :
    loopBehindLoad.toList.length + 2 < UInt64.size ∧
      (scan Rule.all (emptyLines [.feed, .returnFeed] ++ loopBehindLoad.toList) "run.py").map
          (fun finding => (finding.ruleId, finding.line)) =
        [("default-int8", some 6), ("sequential-generate", some 4),
          ("missing-device-map", some 3), ("redundant-4bit-param", none)] ∧
      ∀ finding ∈ scan Rule.all loopBehindLoad.toList "run.py", ∀ line,
        finding.line = some line →
          ∃ later, (finding.movedDown 2).line = some later ∧ later.toNat = line.toNat + 2 := by
  have few : loopBehindLoad.toList.length + 2 < UInt64.size := by decide +kernel
  obtain ⟨-, moved⟩ := scan_behind_emptyLines [.feed, .returnFeed] loopBehindLoad.toList
  obtain ⟨same, grown⟩ := moved Rule.all "run.py"
  refine ⟨few, ?_, grown few⟩
  rw [same]
  decide +kernel

end Audit

end EnergyAudit
