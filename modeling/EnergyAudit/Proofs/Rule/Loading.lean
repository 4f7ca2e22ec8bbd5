import Mathlib.Logic.Relation
import EnergyAudit.Proofs.Rule.Edits
import EnergyAudit.Proofs.Rule.FirstLine
import EnergyAudit.Proofs.Rule.Flags

/-! # Loading in 8 and in 4 bits

Two rules report the first line that switches 8-bit loading on: one unless the outlier threshold is
set to zero somewhere, the other if 4-bit loading is switched on somewhere.  Neither takes notice of
comments.

Some rules look for 4-bit loading in the code of each line, and one looks for it in the source as a
whole, comments and line ends included.  What follows the code of a line is no word character, so
that a flag seen in the code is seen in the source. -/

namespace EnergyAudit.Rule

/-- The code of the line switches the argument on. -/
def FlagAt (argument : String) (source : List Char) (number : Nat) : Prop :=
  HoldsAt (Enables argument) (codeLines source) number

/-- The rule reports one finding, at the first line that switches 8-bit loading on, and nothing
else. -/
def ReportsFirstFlag (rule : Rule) (source : List Char) (file : String) : Prop :=
  ∃ number, IsLeast {number | FlagAt "load_in_8bit" source number} number ∧
    rule.ReportsAt source file number

/-- The argument that switches the outlier threshold off, on a line of its own. -/
def thresholdLine : List Char := "llm_int8_threshold=0.0".toList

variable {source other : List Char} {rule : Rule} {file : String} {line : Option Nat}
  {advice : Advice} {p : Pattern} {holds : List Char → Prop}

theorem reportAt_eq_nil_iff : rule.reportAt file line advice = [] ↔ line = none := by
  cases line with
  | none => simp [reportAt]
  | some number => simp [reportAt]

theorem any_codeLines_iff (reads : ∀ s, p.occursIn s = true ↔ holds s) :
    (codeLines source).any p.occursIn = true ↔ ∃ code ∈ codeLines source, holds code := by
  simp only [List.any_eq_true, reads]

theorem eightBitLine?_iff (source : List Char) :
    (∀ number, eightBitLine? source = some number ↔
        IsLeast {number | FlagAt "load_in_8bit" source number} number) ∧
      (eightBitLine? source = none ↔ ∀ number, ¬ FlagAt "load_in_8bit" source number) :=
  firstLine?_iff (fun _ => occursIn_eightBitFlag_iff) (codeLines source)

theorem any_zeroThreshold_iff : (codeLines source).any zeroThreshold.occursIn = true ↔
    ∃ code ∈ codeLines source, SetsToZero code :=
  any_codeLines_iff fun _ => occursIn_zeroThreshold_iff

theorem any_fourBitFlag_iff : (codeLines source).any fourBitFlag.occursIn = true ↔
    ∃ code ∈ codeLines source, Enables "load_in_4bit" code :=
  any_codeLines_iff fun _ => occursIn_fourBitFlag_iff

/-! ## What the rules report -/

/-- A rule that gives the line of 8-bit loading under a condition reports it under the condition,
and is silent otherwise. -/
theorem reportsFirstFlag_iff {found : Option Nat} (condition : Bool) {applies : Prop}
    (checks : rule.check source file = rule.reportAt file found advice)
    (gives : found = if condition then eightBitLine? source else none)
    (meaning : condition = true ↔ applies) :
    (rule.ReportsFirstFlag source file ↔
        (∃ number, FlagAt "load_in_8bit" source number) ∧ applies) ∧
      (rule.ReportsFirstFlag source file ∨ rule.check source file = []) := by
  obtain ⟨first, missed⟩ := eightBitLine?_iff source
  have within : IsLineOf source found := by
    rw [gives]
    split
    · exact isLineOf_firstLine? _ source
    · exact isLineOf_none
  cases outcome : found with
  | none =>
      have silent : rule.check source file = [] := by rw [checks, outcome, reportAt]
      refine ⟨⟨?_, ?_⟩, .inr silent⟩
      · rintro ⟨_, _, _, reports, _⟩
        exact absurd (silent.symm.trans reports) (List.cons_ne_nil _ _).symm
      · rintro ⟨⟨number, flag⟩, applied⟩
        rw [outcome, meaning.mpr applied, if_pos rfl] at gives
        exact absurd flag (missed.mp gives.symm number)
  | some number =>
      rw [outcome] at gives
      split at gives
      · rename_i applied
        have least := (first number).mp gives.symm
        have reports : rule.ReportsFirstFlag source file :=
          ⟨number, least, reportsAt checks within outcome⟩
        exact ⟨⟨fun _ => ⟨⟨number, least.1⟩, meaning.mp applied⟩, fun _ => reports⟩, .inl reports⟩
      · contradiction

theorem reportsFirstFlag_defaultInt8 (source : List Char) (file : String) :
    (defaultInt8.ReportsFirstFlag source file ↔
        (∃ number, FlagAt "load_in_8bit" source number) ∧
          ¬ ∃ code ∈ codeLines source, SetsToZero code) ∧
      (defaultInt8.ReportsFirstFlag source file ∨ defaultInt8.check source file = []) := by
  refine reportsFirstFlag_iff (!(codeLines source).any zeroThreshold.occursIn) rfl ?_ ?_
  · rw [defaultInt8Line?]
    cases (codeLines source).any zeroThreshold.occursIn <;> rfl
  · rw [Bool.not_eq_true', ← Bool.not_eq_true, any_zeroThreshold_iff]

theorem reportsFirstFlag_precisionConflict (source : List Char) (file : String) :
    (precisionConflict.ReportsFirstFlag source file ↔
        (∃ number, FlagAt "load_in_8bit" source number) ∧
          ∃ number, FlagAt "load_in_4bit" source number) ∧
      (precisionConflict.ReportsFirstFlag source file ∨ precisionConflict.check source file = []) :=
  reportsFirstFlag_iff _ rfl rfl (any_fourBitFlag_iff.trans exists_holdsAt_iff.symm)

/-! ## Edits -/

theorem eightBitFlag_overlooks_return : eightBitFlag.overlooks '\r' = true := by decide

theorem fourBitFlag_overlooks_return : fourBitFlag.overlooks '\r' = true := by decide

theorem zeroThreshold_overlooks_return : zeroThreshold.overlooks '\r' = true := by decide

theorem any_recommented (overlooked : p.overlooks '\r' = true) (edit : Recommented source other) :
    (codeLines other).any p.occursIn = (codeLines source).any p.occursIn := by
  rw [← firstLine?_isSome, ← firstLine?_isSome, firstLine?_recommented overlooked edit]

theorem check_recommented (edit : Recommented source other) (file : String) :
    defaultInt8.check other file = defaultInt8.check source file ∧
      precisionConflict.check other file = precisionConflict.check source file := by
  have eight : eightBitLine? other = eightBitLine? source :=
    firstLine?_recommented eightBitFlag_overlooks_return edit
  have zero := any_recommented zeroThreshold_overlooks_return edit
  have four := any_recommented fourBitFlag_overlooks_return edit
  constructor
  · rw [check, check, defaultInt8Line?, defaultInt8Line?, eight, zero]
  · rw [check, check, precisionConflictLine?, precisionConflictLine?, eight, four]

/-- What one edit of a comment leaves as it is, any number of them does. -/
theorem check_of_recommented (edits : Relation.ReflTransGen Recommented source other)
    (file : String) : defaultInt8.check other file = defaultInt8.check source file ∧
      precisionConflict.check other file = precisionConflict.check source file := by
  induction edits with
  | refl => exact ⟨rfl, rfl⟩
  | tail _ edit ih =>
      obtain ⟨sameDefault, sameConflict⟩ := check_recommented edit file
      exact ⟨sameDefault.trans ih.1, sameConflict.trans ih.2⟩

theorem isSome_precisionConflictLine? (source : List Char) :
    (precisionConflictLine? source).isSome =
      ((codeLines source).any fourBitFlag.occursIn &&
        (codeLines source).any eightBitFlag.occursIn) := by
  rw [precisionConflictLine?, ← firstLine?_isSome]
  split
  · rename_i four
    rw [four, Bool.true_and]
    exact firstLine?_isSome
  · rename_i single
    rw [Bool.eq_false_iff.mpr single]
    rfl

theorem check_inserted_thresholdLine (edit : Inserted thresholdLine source other) (file : String) :
    defaultInt8.check other file = [] ∧
      (precisionConflict.check other file = [] ↔ precisionConflict.check source file = []) := by
  have oneLine : '\n' ∉ thresholdLine := by decide
  have zero : zeroThreshold.occursIn (code thresholdLine) = true := by decide
  have noFour : fourBitFlag.occursIn (code thresholdLine) = false := by decide
  have noEight : eightBitFlag.occursIn (code thresholdLine) = false := by decide
  constructor
  · rw [check, reportAt_eq_nil_iff, defaultInt8Line?,
      any_codeLines_inserted zeroThreshold_overlooks_return oneLine edit, zero, Bool.or_true,
      if_pos rfl]
  · have four := any_codeLines_inserted fourBitFlag_overlooks_return oneLine edit
    have eight := any_codeLines_inserted eightBitFlag_overlooks_return oneLine edit
    rw [noFour, Bool.or_false] at four
    rw [noEight, Bool.or_false] at eight
    rw [check, check, reportAt_eq_nil_iff, reportAt_eq_nil_iff, ← Option.isNone_iff_eq_none,
      ← Option.isNone_iff_eq_none, ← Option.not_isSome, ← Option.not_isSome,
      isSome_precisionConflictLine?, isSome_precisionConflictLine?, four, eight]

/-! ## The two rules -/

/-- The flags are found where an argument is given the value true, and 8-bit loading is reported at
its first line: by one rule unless some code sets the outlier threshold to zero, by the other if
some code switches 4-bit loading on.  Edits of comments change nothing, and a line that sets the
threshold silences the one rule and is nothing to the other. -/
theorem eightBit_reported (source : List Char) :
    (∀ s, eightBitFlag.occursIn s = true ↔ Enables "load_in_8bit" s) ∧
      (∀ s, fourBitFlag.occursIn s = true ↔ Enables "load_in_4bit" s) ∧
      ∀ file,
        ((defaultInt8.ReportsFirstFlag source file ↔
            (∃ number, FlagAt "load_in_8bit" source number) ∧
              ¬ ∃ code ∈ codeLines source, SetsToZero code) ∧
          (defaultInt8.ReportsFirstFlag source file ∨ defaultInt8.check source file = [])) ∧
        ((precisionConflict.ReportsFirstFlag source file ↔
            (∃ number, FlagAt "load_in_8bit" source number) ∧
              ∃ number, FlagAt "load_in_4bit" source number) ∧
          (precisionConflict.ReportsFirstFlag source file ∨
            precisionConflict.check source file = [])) ∧
        (∀ other, Relation.ReflTransGen Recommented source other →
          defaultInt8.check other file = defaultInt8.check source file ∧
            precisionConflict.check other file = precisionConflict.check source file) ∧
        ∀ other, Inserted thresholdLine source other →
          defaultInt8.check other file = [] ∧
            (precisionConflict.check other file = [] ↔
              precisionConflict.check source file = []) :=
  ⟨fun _ => occursIn_eightBitFlag_iff, fun _ => occursIn_fourBitFlag_iff, fun file =>
    ⟨reportsFirstFlag_defaultInt8 source file, reportsFirstFlag_precisionConflict source file,
      fun _ edits => check_of_recommented edits file,
      fun _ edit => check_inserted_thresholdLine edit file⟩⟩

/-- Both flags, the one in a comment as well. -/
def flaggedCode : String := "# load_in_8bit=True\nload_in_4bit = true\nf(LOAD_IN_8BIT\t=True)  "

/-- Both flags, and a threshold in a comment. -/
def bothFlags : String := flaggedCode ++ "# llm_int8_threshold=0\n"

theorem eightBit_reported_of_bothFlags :
    defaultInt8.ReportsFirstFlag bothFlags.toList "run.py" ∧
      precisionConflict.ReportsFirstFlag bothFlags.toList "run.py" ∧
      Relation.ReflTransGen Recommented bothFlags.toList (flaggedCode ++ "\n").toList ∧
      defaultInt8.check (flaggedCode ++ "\n").toList "run.py" =
        defaultInt8.check bothFlags.toList "run.py" ∧
      Inserted thresholdLine bothFlags.toList (thresholdLine ++ '\n' :: bothFlags.toList) ∧
      defaultInt8.check (thresholdLine ++ '\n' :: bothFlags.toList) "run.py" = [] ∧
      precisionConflict.check (thresholdLine ++ '\n' :: bothFlags.toList) "run.py" ≠ [] := by
  have third : eightBitLine? bothFlags.toList = some 3 := by decide +kernel
  have second : (codeLines bothFlags.toList).any fourBitFlag.occursIn = true := by decide +kernel
  have kept : (codeLines bothFlags.toList).any zeroThreshold.occursIn = false := by decide +kernel
  have conflicts : precisionConflict.check bothFlags.toList "run.py" ≠ [] := by decide +kernel
  have eight := (((eightBitLine?_iff _).1 3).mp third).1
  have four := exists_holdsAt_iff.mpr (any_fourBitFlag_iff.mp second)
  rw [← Bool.not_eq_true, any_zeroThreshold_iff] at kept
  have edit : Recommented bothFlags.toList (flaggedCode ++ "\n").toList := by
    have old : bothFlags.toList =
        flaggedCode.toList ++ ("# llm_int8_threshold=0".toList ++ ['\n']) := by decide +kernel
    have new : (flaggedCode ++ "\n").toList = flaggedCode.toList ++ ([] ++ ['\n']) := by
      decide +kernel
    rw [old, new]
    exact .intro ⟨by decide, by simp⟩ ⟨List.not_mem_nil, nofun⟩ (.inr ⟨.feed, [], rfl⟩)
  have inserted : Inserted thresholdLine bothFlags.toList
      (thresholdLine ++ '\n' :: bothFlags.toList) :=
    @Inserted.intro _ [] _ [] _ (.inl ⟨rfl, .inl rfl⟩) (.inr ⟨.feed, rfl⟩)
  obtain ⟨-, -, all⟩ := eightBit_reported bothFlags.toList
  obtain ⟨⟨byDefault, -⟩, ⟨conflict, -⟩, recommented, lineIn⟩ := all "run.py"
  have edits := Relation.ReflTransGen.single edit
  obtain ⟨silent, same⟩ := lineIn _ inserted
  exact ⟨byDefault.mpr ⟨⟨3, eight⟩, kept⟩, conflict.mpr ⟨⟨3, eight⟩, four⟩, edits,
    (recommented _ edits).1, inserted, silent, mt same.mp conflicts⟩

/-! ## Where 4-bit loading is seen -/

variable {text : List Char}

/-- What follows the code of a line in the source is a comment, a line end or nothing. -/
theorem exists_append_of_mem_codeLines (member : text ∈ codeLines source) :
    ∃ before after, source = before ++ (text ++ after) ∧
      ∀ c ∈ after.head?, c = '#' ∨ c = '\r' ∨ c = '\n' := by
  obtain ⟨whole, inside, rfl⟩ := List.mem_map.mp member
  obtain ⟨before, after, split, ends⟩ := Text.exists_append_of_mem_lines inside
  have parts : code whole ++ whole.dropWhile (· != '#') = whole := List.takeWhile_append_dropWhile
  cases comment : whole.dropWhile (· != '#') with
  | nil =>
      rw [comment, List.append_nil] at parts
      rw [parts]
      exact ⟨before, after, split, fun c first => .inr (ends c first)⟩
  | cons c rest =>
      have sign := List.head?_dropWhile_not (· != '#') whole
      rw [comment] at sign parts
      refine ⟨before, c :: rest ++ after, ?_, fun d first => .inl ?_⟩
      · rw [← List.append_assoc (code whole), parts]
        exact split
      · obtain rfl := Option.some.inj first
        simpa using sign

/-- What is found in the code of a line is found in the source, if the pattern bears what may follow
the code. -/
theorem occursIn_of_mem_codeLines (comment : p.bears '#' = true) (returned : p.bears '\r' = true)
    (feed : p.bears '\n' = true) (member : text ∈ codeLines source)
    (occurs : p.occursIn text = true) : p.occursIn source = true := by
  obtain ⟨before, after, rfl, ends⟩ := exists_append_of_mem_codeLines member
  refine Pattern.occursIn_around occurs fun c first => ?_
  rcases ends c first with rfl | rfl | rfl
  · exact comment
  · exact returned
  · exact feed

theorem fourBitFlag_of_mem_codeLines (member : text ∈ codeLines source)
    (occurs : fourBitFlag.occursIn text = true) : fourBitFlag.occursIn source = true :=
  occursIn_of_mem_codeLines (by decide) (by decide) (by decide) member occurs

theorem exists_fourBit_of_smallModelNf4 {file : String}
    (reports : smallModelNf4.check source file ≠ []) :
    ∃ code ∈ codeLines source, fourBitFlag.occursIn code = true := by
  rw [← List.any_eq_true, ← firstLine?_isSome]
  show (fourBitLine? source).isSome = true
  cases flag : fourBitLine? source with
  | none => simp [check, smallModelLoad?, flag] at reports
  | some => rfl

theorem exists_fourBit_of_precisionConflict {file : String}
    (reports : precisionConflict.check source file ≠ []) :
    ∃ code ∈ codeLines source, fourBitFlag.occursIn code = true := by
  rw [← List.any_eq_true]
  cases four : (codeLines source).any fourBitFlag.occursIn with
  | false => simp [check, precisionConflictLine?, four, reportAt] at reports
  | true => rfl

/-- The rules on 4-bit loading do not contradict each other: a flag in the code of a line is seen in
the source as a whole, so that no argument is called redundant where a small model or a conflict is
reported. -/
theorem fourBit_consistent (source : List Char) :
    (∀ code ∈ codeLines source, fourBitFlag.occursIn code = true →
        fourBitFlag.occursIn source = true) ∧
      ∀ file, smallModelNf4.check source file ≠ [] ∨ precisionConflict.check source file ≠ [] →
        (∃ code ∈ codeLines source, fourBitFlag.occursIn code = true) ∧
          redundantFourBit.check source file = [] := by
  refine ⟨fun code => fourBitFlag_of_mem_codeLines, fun file reports => ?_⟩
  have seen : ∃ code ∈ codeLines source, fourBitFlag.occursIn code = true :=
    reports.elim exists_fourBit_of_smallModelNf4 exists_fourBit_of_precisionConflict
  obtain ⟨code, member, occurs⟩ := seen
  refine ⟨⟨code, member, occurs⟩, ?_⟩
  rw [check, redundantParameters, fourBitFlag_of_mem_codeLines member occurs]
  rfl

/-- A flag right before a carriage return, and one right before a comment. -/
def flagsAtTheEnd : String :=
  "a(load_in_8bit=True, load_in_4bit=True\r\nbnb_4bit_quant_type='nf4')\nload_in_4bit=true#phi-2"

theorem fourBit_consistent_flagsAtTheEnd :
    smallModelNf4.check flagsAtTheEnd.toList "run.py" ≠ [] ∧
      precisionConflict.check flagsAtTheEnd.toList "run.py" ≠ [] ∧
      fourBitFlag.occursIn "load_in_4bit=true".toList = true ∧
      fourBitFlag.occursIn flagsAtTheEnd.toList = true ∧
      redundantFourBit.check flagsAtTheEnd.toList "run.py" = [] := by
  have small : smallModelNf4.check flagsAtTheEnd.toList "run.py" ≠ [] := by decide +kernel
  have conflict : precisionConflict.check flagsAtTheEnd.toList "run.py" ≠ [] := by decide +kernel
  have member : "load_in_4bit=true".toList ∈ codeLines flagsAtTheEnd.toList := by decide +kernel
  have occurs : fourBitFlag.occursIn "load_in_4bit=true".toList = true := by decide
  obtain ⟨seen, silent⟩ := fourBit_consistent flagsAtTheEnd.toList
  exact ⟨small, conflict, occurs, seen _ member occurs, (silent "run.py" (.inl small)).2⟩

end EnergyAudit.Rule
