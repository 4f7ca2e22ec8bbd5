import EnergyAudit.Rule

/-! # What rules have to say

There are few things that the rules ever say, whatever the source. -/

namespace EnergyAudit.Rule

variable {rule : Rule} {source : List Char} {file : String} {finding : Finding}

/-- All that rules have to say, apart from the place. -/
def advices : List Advice :=
  [defaultInt8Advice, sequentialGenerateAdvice, precisionConflictAdvice, missingDeviceMapAdvice]
    ++ smallModels.map (smallModelAdvice ·.name)
    ++ ["bnb_4bit_compute_dtype", "bnb_4bit_quant_type"].map redundantFourBitAdvice

theorem exists_smallModel_of_load {model : String} {line : Nat}
    (load : smallModelLoad? source = some (model, line)) :
    ∃ row ∈ smallModels, row.name = model := by
  simp only [smallModelLoad?, Option.bind_eq_bind, Option.pure_def, Option.bind_eq_some_iff,
    Option.some.injEq, Prod.mk.injEq] at load
  obtain ⟨_, -, name, found, rfl, -⟩ := load
  obtain ⟨row, listed, rfl⟩ := Option.map_eq_some_iff.mp found
  exact ⟨row, List.mem_of_find?_eq_some listed, rfl⟩

theorem mem_of_mem_redundantParameters {parameter : String}
    (member : parameter ∈ redundantParameters source) :
    parameter ∈ ["bnb_4bit_compute_dtype", "bnb_4bit_quant_type"] := by
  unfold redundantParameters at member
  split at member
  · exact nomatch member
  · obtain ⟨⟨pattern, name⟩, listed, kept⟩ := List.mem_filterMap.mp member
    dsimp only at kept
    split at kept
    · obtain rfl := Option.some.inj kept
      simp only [List.mem_cons, Prod.mk.injEq, List.not_mem_nil, or_false] at listed ⊢
      exact listed.imp (·.2) (·.2)
    · exact nomatch kept

theorem exists_line_of_mem_reportAt {line : Option Nat} {advice : Advice}
    (member : finding ∈ rule.reportAt file line advice) :
    ∃ line, finding = rule.report file line advice := by
  cases line with
  | none => exact nomatch member
  | some line => exact ⟨some line, List.mem_singleton.mp member⟩

/-- All that a rule has to say of a file is said under its own name and that of the file. -/
theorem exists_report_of_mem_check (member : finding ∈ rule.check source file) :
    ∃ line, ∃ advice ∈ advices, finding = rule.report file line advice := by
  have atLine {line : Option Nat} {advice : Advice} (listed : advice ∈ advices)
      (reported : finding ∈ rule.reportAt file line advice) :
      ∃ line, ∃ advice ∈ advices, finding = rule.report file line advice := by
    obtain ⟨line, same⟩ := exists_line_of_mem_reportAt reported
    exact ⟨line, advice, listed, same⟩
  cases rule with
  | defaultInt8 => exact atLine (by simp [advices]) member
  | smallModelNf4 =>
      unfold check at member
      dsimp only at member
      split at member
      case h_1 model line load =>
        obtain ⟨row, listed, rfl⟩ := exists_smallModel_of_load load
        refine atLine ?_ member
        refine List.mem_append_left _ (List.mem_append_right _ ?_)
        exact List.mem_map.mpr ⟨row, listed, rfl⟩
      case h_2 => exact nomatch member
  | sequentialGenerate => exact atLine (by simp [advices]) member
  | precisionConflict => exact atLine (by simp [advices]) member
  | missingDeviceMap => exact atLine (by simp [advices]) member
  | redundantFourBit =>
      obtain ⟨parameter, listed, rfl⟩ := List.mem_map.mp member
      refine ⟨none, _, List.mem_append_right _ ?_, rfl⟩
      exact List.mem_map_of_mem (mem_of_mem_redundantParameters listed)

theorem file_of_mem_check (member : finding ∈ rule.check source file) : finding.file = file := by
  obtain ⟨line, advice, -, rfl⟩ := exists_report_of_mem_check member
  rfl

end EnergyAudit.Rule
