import EnergyAudit.Audit.Markdown
import EnergyAudit.Proofs.Rule.Advice
import EnergyAudit.Proofs.Text.Lines

/-! # The lines about a finding

What a report in Markdown says of a finding takes a block of lines.  If the name of the file is a
single line, the block has no other lines, and none of them is the heading of a severity, since no
rule speaks in the words of one. -/

namespace EnergyAudit.Audit

open Text

/-! ## Headings -/

/-- The line that stands over the findings of a severity. -/
def headingLine : Severity → String
  | .critical => "### 🔴 Critical Issues"
  | .warning => "### 🟡 Warnings"
  | .info => "### 🟠 Info"

def IsHeading (line : String) : Prop := ∃ severity, line = headingLine severity

instance (line : String) : Decidable (IsHeading line) :=
  decidable_of_iff (line ∈ Severity.descending.map headingLine) <| by
    rw [List.mem_map]
    refine exists_congr fun severity => ?_
    have listed : severity ∈ Severity.descending := by cases severity <;> decide
    exact ⟨fun ⟨_, same⟩ => same.symm, fun same => ⟨listed, same.symm⟩⟩

theorem headingLine_injective {severity other : Severity}
    (same : headingLine severity = headingLine other) : severity = other := by
  cases severity <;> cases other <;> simp [headingLine] at same ⊢

theorem isLine_headingLine (severity : Severity) : IsLine (headingLine severity) := by
  cases severity <;> exact lacks_ofList rfl

theorem IsHeading.head?_toList {line : String} (heading : IsHeading line) :
    line.toList.head? = some '#' := by
  obtain ⟨severity, rfl⟩ := heading
  cases severity <;> simp [headingLine]

theorem not_isHeading_of_head? {line : String} (start : line.toList.head? ≠ some '#') :
    ¬ IsHeading line := fun heading => start heading.head?_toList

/-- The signs that headings hold. -/
def marks : List Char := ['🔴', '🟡', '🟠']

theorem IsHeading.exists_mark {line : String} (heading : IsHeading line) :
    ∃ mark ∈ marks, ¬ Lacks mark line := by
  obtain ⟨severity, rfl⟩ := heading
  cases severity with
  | critical => exact ⟨'🔴', by simp [marks], by simp [Lacks, headingLine]⟩
  | warning => exact ⟨'🟡', by simp [marks], by simp [Lacks, headingLine]⟩
  | info => exact ⟨'🟠', by simp [marks], by simp [Lacks, headingLine]⟩

/-! ## Blocks -/

/-- Where a finding is, in words. -/
def placeText (finding : Finding) : String :=
  "`" ++ finding.file ++ "`" ++
    finding.line.elim "" fun line => " (line " ++ toString line.toNat ++ ")"

/-- The lines about a finding.  What it costs and how to mend it is left out of mere hints. -/
def blockLines (finding : Finding) : List String :=
  ["**" ++ finding.title ++ "** — " ++ placeText finding, "> " ++ finding.description, ""] ++
    if finding.severity = .info then []
    else ["**Energy impact:** " ++ finding.energyImpact, ""] ++
      feedLines ("**Fix:** " ++ finding.remediation) ++ [""]

/-- A finding that is told in single lines, apart from how to mend it, and in no words of a
heading. -/
structure IsPlain (finding : Finding) : Prop where
  title : IsLine finding.title
  description : IsLine finding.description
  energyImpact : IsLine finding.energyImpact
  remediation : ∀ mark ∈ marks, Lacks mark finding.remediation
  file : IsLine finding.file

theorem lacks_of_mem_smallModels :
    ∀ row ∈ Rule.smallModels, ∀ c ∈ '\n' :: marks, Lacks c row.name := by
  simp only [Rule.smallModels, marks, List.forall_mem_cons]
  repeat' apply And.intro
  all_goals first | exact List.forall_mem_nil _ | exact lacks_ofList rfl

/-- What is said in single lines, apart from how to mend it, and in no words of a heading. -/
structure SaidPlainly (advice : Rule.Advice) : Prop where
  title : IsLine advice.title
  description : IsLine advice.description
  energyImpact : IsLine advice.energyImpact
  remediation : ∀ mark ∈ marks, Lacks mark advice.remediation

theorem saidPlainly_fixed : ∀ advice ∈ [Rule.defaultInt8Advice, Rule.sequentialGenerateAdvice,
    Rule.precisionConflictAdvice, Rule.missingDeviceMapAdvice], SaidPlainly advice := by
  simp only [List.forall_mem_cons]
  refine ⟨⟨?_, ?_, ?_, ?_⟩, ⟨?_, ?_, ?_, ?_⟩, ⟨?_, ?_, ?_, ?_⟩, ⟨?_, ?_, ?_, ?_⟩, List.forall_mem_nil _⟩
  all_goals
    simp only [marks, List.forall_mem_cons, Rule.defaultInt8Advice, Rule.sequentialGenerateAdvice,
      Rule.precisionConflictAdvice, Rule.missingDeviceMapAdvice, lacks_append]
    repeat' apply And.intro
    all_goals first | exact List.forall_mem_nil _ | exact lacks_ofList rfl

theorem saidPlainly_smallModel {model : String}
    (named : ∀ c ∈ '\n' :: marks, Lacks c model) : SaidPlainly (Rule.smallModelAdvice model) := by
  simp only [marks, List.forall_mem_cons] at named
  obtain ⟨feed, red, yellow, orange, -⟩ := named
  unfold Rule.smallModelAdvice
  constructor
  all_goals
    simp only [marks, List.forall_mem_cons, lacks_append]
    repeat' apply And.intro
    all_goals
      first | with_reducible assumption | exact List.forall_mem_nil _ | exact lacks_ofList rfl

theorem saidPlainly_fourBit {parameter : String}
    (named : ∀ c ∈ '\n' :: marks, Lacks c parameter) :
    SaidPlainly (Rule.redundantFourBitAdvice parameter) := by
  simp only [marks, List.forall_mem_cons] at named
  obtain ⟨feed, red, yellow, orange, -⟩ := named
  unfold Rule.redundantFourBitAdvice
  constructor
  all_goals
    simp only [marks, List.forall_mem_cons, lacks_append]
    repeat' apply And.intro
    all_goals
      first | with_reducible assumption | exact List.forall_mem_nil _ | exact lacks_ofList rfl

theorem saidPlainly_of_mem_advices {advice : Rule.Advice} (listed : advice ∈ Rule.advices) :
    SaidPlainly advice := by
  simp only [Rule.advices, List.mem_append, List.mem_map] at listed
  obtain (fixed | ⟨row, listed, rfl⟩) | ⟨parameter, listed, rfl⟩ := listed
  · exact saidPlainly_fixed advice fixed
  · exact saidPlainly_smallModel (lacks_of_mem_smallModels row listed)
  · refine saidPlainly_fourBit ?_
    simp only [List.mem_cons, List.not_mem_nil, or_false] at listed
    simp only [marks, List.forall_mem_cons]
    rcases listed with rfl | rfl
    · exact ⟨lacks_ofList rfl, lacks_ofList rfl, lacks_ofList rfl, lacks_ofList rfl, List.forall_mem_nil _⟩
    · exact ⟨lacks_ofList rfl, lacks_ofList rfl, lacks_ofList rfl, lacks_ofList rfl, List.forall_mem_nil _⟩

theorem isPlain_report {rule : Rule} {file : String} (single : IsLine file) (line : Option Nat)
    {advice : Rule.Advice} (listed : advice ∈ Rule.advices) :
    IsPlain (rule.report file line advice) :=
  have said := saidPlainly_of_mem_advices listed
  ⟨said.title, said.description, said.energyImpact, said.remediation, single⟩

namespace IsPlain

variable {finding : Finding}

theorem isLine_placeText (plain : IsPlain finding) : IsLine (placeText finding) := by
  refine .append (.append (.append (lacks_ofList rfl) plain.file) (lacks_ofList rfl)) ?_
  cases finding.line with
  | none => exact lacks_ofList rfl
  | some line =>
      exact .append (.append (lacks_ofList rfl) (isLine_toString_nat _)) (lacks_ofList rfl)

/-- What is written about a finding takes the lines of its block. -/
theorem feedLines_findingBlock (plain : IsPlain finding) (rest : String) :
    feedLines (findingBlock finding ++ rest) = blockLines finding ++ feedLines rest := by
  have place : place finding.location = placeText finding := by
    unfold Audit.place placeText Finding.line
    cases finding.location.line with
    | none => exact (String.append_empty ..).symm
    | some line => simp only [Option.elim_some, String.append_assoc]; rfl
  have empty : IsLine "" := lacks_ofList rfl
  have title : IsLine ("**" ++ finding.title ++ "** — " ++ placeText finding) := by
    simp only [lacks_append]
    exact ⟨⟨⟨lacks_ofList rfl, plain.title⟩, lacks_ofList rfl⟩, plain.isLine_placeText⟩
  have description : IsLine ("> " ++ finding.description) :=
    .append (lacks_ofList rfl) plain.description
  have impact : IsLine ("**Energy impact:** " ++ finding.energyImpact) :=
    .append (lacks_ofList rfl) plain.energyImpact
  unfold findingBlock blockLines
  rw [feedLines_unlines_append, place]
  by_cases info : finding.severity = .info
  · simp only [info, beq_self_eq_true, if_true, List.flatMap_cons, List.flatMap_nil,
      feedLines_of_isLine title, feedLines_of_isLine description, feedLines_of_isLine empty,
      List.append_nil]
    rfl
  · simp only [info, beq_iff_eq, if_false, List.flatMap_append, List.flatMap_cons,
      List.flatMap_nil, feedLines_of_isLine title, feedLines_of_isLine description,
      feedLines_of_isLine impact, feedLines_of_isLine empty, List.append_nil, List.append_assoc]
    rfl

theorem not_isHeading (plain : IsPlain finding) :
    ∀ line ∈ blockLines finding, ¬ IsHeading line := by
  have fix : ∀ line ∈ feedLines ("**Fix:** " ++ finding.remediation), ¬ IsHeading line := by
    intro line member heading
    obtain ⟨mark, listed, held⟩ := heading.exists_mark
    have lead : Lacks mark "**Fix:** " := by
      revert mark
      simp [marks, Lacks]
    exact held
      (lacks_of_mem_feedLines (lead.append (plain.remediation mark listed)) member)
  unfold blockLines
  rw [List.forall_mem_append]
  constructor
  · simp only [List.forall_mem_cons]
    exact ⟨not_isHeading_of_head? (by simp), not_isHeading_of_head? (by simp),
      not_isHeading_of_head? (by simp), List.forall_mem_nil _⟩
  · split
    · exact List.forall_mem_nil _
    · rw [List.forall_mem_append, List.forall_mem_append]
      refine ⟨⟨?_, fix⟩, ?_⟩
      · simp only [List.forall_mem_cons]
        exact ⟨not_isHeading_of_head? (by simp), not_isHeading_of_head? (by simp), List.forall_mem_nil _⟩
      · simp only [List.forall_mem_cons]
        exact ⟨not_isHeading_of_head? (by simp), List.forall_mem_nil _⟩

end IsPlain

end EnergyAudit.Audit
