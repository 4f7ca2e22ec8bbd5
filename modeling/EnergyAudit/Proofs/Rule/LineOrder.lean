import EnergyAudit.Proofs.Pattern.Pieces
import EnergyAudit.Proofs.Rule.Loading

/-! # Lines in another order

Flags are looked for in the code of each line, and no name of a small model goes on over a line
feed.  The rules on flags report the same about a source whose lines stand in another order, but for
the line.  Of several models that are named, the table decides which one is reported, and not the
place where they are named. -/

namespace EnergyAudit

/-- The finding, wherever in its file it is. -/
def Finding.withoutLine (finding : Finding) : Finding :=
  { finding with location := { finding.location with line := none } }

namespace Rule

open Text (splitOn)

/-- The source that has the lines, with line feeds between them. -/
def sourceOf (lines : List (List Char)) : List Char := ['\n'].intercalate lines

/-- The rules that look for flags line by line. -/
def flagRules : List Rule := [.defaultInt8, .smallModelNf4, .precisionConflict]

/-- The rule reports the same about both sources, once at most, at whatever line of each. -/
structure ReportsAlike (rule : Rule) (source other : List Char) (file : String) : Prop where
  once : (rule.check source file).length ≤ 1
  number : (rule.check source file).length = (rule.check other file).length
  findings : (rule.check source file).map (·.withoutLine) =
    (rule.check other file).map (·.withoutLine)

variable {lines others : List (List Char)} {source other : List Char} {rule : Rule}
  {file : String} {found found' : Option Nat} {advice : Advice} {p : Pattern}

/-! ## What is found in the lines -/

theorem perm_splitOn_sourceOf (oneLine : ∀ line ∈ lines, '\n' ∉ line)
    (same : lines.Perm others) :
    (splitOn '\n' (sourceOf lines)).Perm (splitOn '\n' (sourceOf others)) := by
  cases lines with
  | nil =>
      rw [List.nil_perm.mp same]
  | cons line lines =>
      have some : others ≠ [] := by
        rintro rfl
        exact nomatch same.length_eq
      have oneLine' : ∀ line ∈ others, '\n' ∉ line := fun line listed =>
        oneLine line (same.mem_iff.mpr listed)
      rw [sourceOf, sourceOf, Text.splitOn_intercalate (List.cons_ne_nil _ _) oneLine,
        Text.splitOn_intercalate some oneLine']
      exact same

theorem any_codeLines_of_perm (overlooked : p.overlooks '\r' = true)
    (same : (splitOn '\n' source).Perm (splitOn '\n' other)) :
    (codeLines source).any p.occursIn = (codeLines other).any p.occursIn := by
  rw [any_codeLines overlooked, any_codeLines overlooked, (same.map code).any_eq]

theorem isSome_eightBitLine?_of_perm (same : (splitOn '\n' source).Perm (splitOn '\n' other)) :
    (eightBitLine? source).isSome = (eightBitLine? other).isSome := by
  rw [eightBitLine?, eightBitLine?, firstLine?_isSome, firstLine?_isSome,
    any_codeLines_of_perm eightBitFlag_overlooks_return same]

theorem isSome_fourBitLine?_of_perm (same : (splitOn '\n' source).Perm (splitOn '\n' other)) :
    (fourBitLine? source).isSome = (fourBitLine? other).isSome := by
  rw [fourBitLine?, fourBitLine?, firstLine?_isSome, firstLine?_isSome,
    any_codeLines_of_perm fourBitFlag_overlooks_return same]

theorem smallModels_stay_in_line : ∀ model ∈ smallModels,
    (spellingPattern model.spelling).avoids '\n' = true ∧
      (spellingPattern model.spelling).bears '\n' = true := by
  decide

theorem smallModel?_of_perm (same : (splitOn '\n' source).Perm (splitOn '\n' other)) :
    smallModel? source = smallModel? other := by
  have named : ∀ model ∈ smallModels, model.occursIn source = model.occursIn other := by
    intro model listed
    obtain ⟨avoids, bears⟩ := smallModels_stay_in_line model listed
    exact Pattern.occursIn_of_perm_splitOn avoids bears same
  rw [smallModel?, smallModel?, List.find?_congr named]

/-! ## What the rules report -/

theorem length_reportAt_le (rule : Rule) (file : String) (found : Option Nat) (advice : Advice) :
    (rule.reportAt file found advice).length ≤ 1 := by
  cases found with
  | none => exact Nat.zero_le 1
  | some line => exact Nat.le_refl 1

theorem map_withoutLine_reportAt (same : found.isSome = found'.isSome) :
    (rule.reportAt file found advice).map (·.withoutLine) =
      (rule.reportAt file found' advice).map (·.withoutLine) := by
  cases found with
  | none =>
      have none : found' = none :=
        Option.isNone_iff_eq_none.mp (Option.isSome_eq_false_iff.mp same.symm)
      rw [none]
  | some line =>
      obtain ⟨line', rfl⟩ := Option.isSome_iff_exists.mp same.symm
      rfl

theorem reportsAlike_of_isSome (checks : rule.check source file = rule.reportAt file found advice)
    (checks' : rule.check other file = rule.reportAt file found' advice)
    (same : found.isSome = found'.isSome) : rule.ReportsAlike source other file := by
  have findings : (rule.check source file).map (·.withoutLine) =
      (rule.check other file).map (·.withoutLine) := by
    rw [checks, checks']
    exact map_withoutLine_reportAt same
  have number := congrArg List.length findings
  rw [List.length_map, List.length_map] at number
  exact ⟨checks ▸ length_reportAt_le rule file found advice, number, findings⟩

/-- The rule on small models reports the line of 4-bit loading if a model is named anywhere. -/
theorem check_smallModelNf4 (source : List Char) (file : String) :
    smallModelNf4.check source file =
      match smallModel? source with
      | some model => smallModelNf4.reportAt file (fourBitLine? source) (smallModelAdvice model)
      | none => [] := by
  rw [check, smallModelLoad?]
  cases fourBitLine? source with
  | none => cases smallModel? source <;> rfl
  | some line => cases smallModel? source <;> rfl

theorem reportsAlike_smallModelNf4 (same : (splitOn '\n' source).Perm (splitOn '\n' other))
    (file : String) : smallModelNf4.ReportsAlike source other file := by
  have checks := check_smallModelNf4 source file
  have checks' := check_smallModelNf4 other file
  rw [← smallModel?_of_perm same] at checks'
  cases named : smallModel? source with
  | none =>
      rw [named] at checks checks'
      exact ⟨by simp [checks], by rw [checks, checks'], by rw [checks, checks']⟩
  | some model =>
      rw [named] at checks checks'
      exact reportsAlike_of_isSome checks checks' (isSome_fourBitLine?_of_perm same)

theorem reportsAlike_of_perm (same : (splitOn '\n' source).Perm (splitOn '\n' other))
    (file : String) : ∀ rule ∈ flagRules, rule.ReportsAlike source other file := by
  have eight := isSome_eightBitLine?_of_perm same
  have zero := any_codeLines_of_perm zeroThreshold_overlooks_return same
  have four := any_codeLines_of_perm fourBitFlag_overlooks_return same
  simp only [flagRules, List.forall_mem_cons]
  refine ⟨reportsAlike_of_isSome rfl rfl ?_, reportsAlike_smallModelNf4 same file,
    reportsAlike_of_isSome rfl rfl ?_, nofun⟩
  · rw [defaultInt8Line?, defaultInt8Line?, zero]
    split
    · rfl
    · exact eight
  · rw [precisionConflictLine?, precisionConflictLine?, four]
    split
    · exact eight
    · rfl

theorem map_smallModelLoad?_of_perm (same : (splitOn '\n' source).Perm (splitOn '\n' other)) :
    (smallModelLoad? source).map (·.1) = (smallModelLoad? other).map (·.1) := by
  have named (source : List Char) : (smallModelLoad? source).map (·.1) =
      if (fourBitLine? source).isSome then smallModel? source else none := by
    rw [smallModelLoad?]
    cases fourBitLine? source with
    | none => rfl
    | some line => cases smallModel? source <;> rfl
  rw [named, named, isSome_fourBitLine?_of_perm same, smallModel?_of_perm same]

/-- In whatever order the lines of a source stand, each rule on flags reports the same about it,
once at most, but for the line; the rule on small models reports the same model. -/
theorem flagRules_of_perm_lines (oneLine : ∀ line ∈ lines, '\n' ∉ line)
    (same : lines.Perm others) (file : String) :
    (∀ rule ∈ flagRules, rule.ReportsAlike (sourceOf lines) (sourceOf others) file) ∧
      (smallModelLoad? (sourceOf lines)).map (·.1) =
        (smallModelLoad? (sourceOf others)).map (·.1) := by
  have pieces := perm_splitOn_sourceOf oneLine same
  exact ⟨reportsAlike_of_perm pieces file, map_smallModelLoad?_of_perm pieces⟩

/-- Two models and both flags, one of which stands in front of a comment. -/
def twoModels : List (List Char) :=
  ["m = 'gpt2'".toList, "load_in_8bit=True#".toList, "n = 'Phi-3-mini'".toList,
    "load_in_4bit=True".toList, []]

/-- The model that is further down in the one source is reported, and so it is in the other, where
it stands first. -/
theorem flagRules_of_twoModels :
    (∀ line ∈ twoModels, '\n' ∉ line) ∧ twoModels.Perm twoModels.reverse ∧
      (∀ rule ∈ flagRules, rule.check (sourceOf twoModels) "run.py" ≠ []) ∧
      (∀ rule ∈ flagRules,
        rule.ReportsAlike (sourceOf twoModels) (sourceOf twoModels.reverse) "run.py") ∧
      (smallModelLoad? (sourceOf twoModels.reverse)).map (·.1) = some "Phi-3-mini (3.8B)" := by
  have oneLine : ∀ line ∈ twoModels, '\n' ∉ line := by decide +kernel
  have same : twoModels.Perm twoModels.reverse := (List.reverse_perm _).symm
  obtain ⟨alike, model⟩ := flagRules_of_perm_lines oneLine same "run.py"
  refine ⟨oneLine, same, by decide +kernel, alike, ?_⟩
  rw [← model]
  decide +kernel

end Rule

end EnergyAudit
