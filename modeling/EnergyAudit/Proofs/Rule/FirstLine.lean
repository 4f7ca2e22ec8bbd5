import Mathlib.Order.Bounds.Basic
import EnergyAudit.Proofs.Audit.LineNumbers

/-! # The first line of its kind

A rule that looks for a line gives the least number of such a line, and none exactly if there is no
such line.  What it reports is one finding at that line. -/

namespace EnergyAudit.Rule

/-- The line is the one of the number, counted from one. -/
def LineAt (lines : List (List Char)) (number : Nat) (line : List Char) : Prop :=
  ∃ index, number = index + 1 ∧ lines[index]? = some line

/-- A line of the number has the property. -/
def HoldsAt (holds : List Char → Prop) (lines : List (List Char)) (number : Nat) : Prop :=
  ∃ line, LineAt lines number line ∧ holds line

/-- The rule reports one finding about the source, at the line of the number, and nothing else. -/
def ReportsAt (rule : Rule) (source : List Char) (file : String) (number : Nat) : Prop :=
  ∃ finding, rule.check source file = [finding] ∧ finding.ruleId = rule.id ∧ finding.file = file ∧
    finding.line = some (UInt64.ofNat number) ∧
      (source.length < UInt64.size → (UInt64.ofNat number).toNat = number)

variable {lines : List (List Char)} {line : List Char} {number : Nat}

theorem lineAt_succ_iff {index : Nat} :
    LineAt lines (index + 1) line ↔ lines[index]? = some line := by
  simp [LineAt]

theorem LineAt.unique {other : List Char} (here : LineAt lines number line)
    (there : LineAt lines number other) : line = other := by
  obtain ⟨index, rfl, atIndex⟩ := here
  rw [lineAt_succ_iff, atIndex] at there
  exact Option.some.inj there

theorem exists_lineAt_iff_mem : (∃ number, LineAt lines number line) ↔ line ∈ lines := by
  simp [LineAt, List.mem_iff_getElem?]

theorem exists_holdsAt_iff {holds : List Char → Prop} :
    (∃ number, HoldsAt holds lines number) ↔ ∃ line ∈ lines, holds line := by
  simp only [HoldsAt, ← exists_lineAt_iff_mem]
  constructor
  · rintro ⟨number, line, atLine, held⟩
    exact ⟨line, ⟨number, atLine⟩, held⟩
  · rintro ⟨line, ⟨number, atLine⟩, held⟩
    exact ⟨number, line, atLine, held⟩

/-- A search that gives least numbers, and none only where there is no number, is right. -/
theorem search_iff {search : Option Nat} {S : Set Nat}
    (found : ∀ number, search = some number → IsLeast S number)
    (missed : search = none → ∀ number, number ∉ S) :
    (∀ number, search = some number ↔ IsLeast S number) ∧
      (search = none ↔ ∀ number, number ∉ S) := by
  constructor
  · refine fun number => ⟨found number, fun least => ?_⟩
    cases outcome : search with
    | none => exact absurd least.1 (missed outcome number)
    | some other => rw [(found other outcome).unique least]
  · refine ⟨missed, fun empty => Option.eq_none_iff_forall_ne_some.mpr fun number outcome => ?_⟩
    exact empty number (found number outcome).1

theorem firstLine?_iff {test : List Char → Bool} {holds : List Char → Prop}
    (tests : ∀ line, test line = true ↔ holds line) (lines : List (List Char)) :
    (∀ number, firstLine? test lines = some number ↔
        IsLeast {number | HoldsAt holds lines number} number) ∧
      (firstLine? test lines = none ↔ ∀ number, ¬ HoldsAt holds lines number) := by
  refine search_iff (fun number first => ?_) (fun missed number => ?_)
  · obtain ⟨index, hit, rfl⟩ := Option.map_eq_some_iff.mp first
    obtain ⟨within, tested, earlier⟩ := List.findIdx?_eq_some_iff_getElem.mp hit
    refine ⟨⟨lines[index], lineAt_succ_iff.mpr (List.getElem?_eq_getElem within),
      (tests _).mp tested⟩, ?_⟩
    rintro _ ⟨other, ⟨place, rfl, atPlace⟩, held⟩
    by_contra above
    obtain ⟨_, rfl⟩ := List.getElem?_eq_some_iff.mp atPlace
    exact earlier place (by omega) ((tests _).mpr held)
  · rintro ⟨line, atLine, held⟩
    have none := List.findIdx?_eq_none_iff.mp (Option.map_eq_none_iff.mp missed) line
      (exists_lineAt_iff_mem.mp ⟨number, atLine⟩)
    rw [(tests line).mpr held] at none
    exact nomatch none

variable {rule : Rule} {source : List Char} {file : String} {found : Option Nat} {advice : Advice}

/-- The number of a line is kept in a finding, unless the source is too long for it. -/
theorem toNat_ofNat_of_isLineOf (within : IsLineOf source (some number))
    (few : source.length < UInt64.size) : (UInt64.ofNat number).toNat = number := by
  have := within number rfl
  have := Text.length_lines_le source
  exact UInt64.toNat_ofNat_of_lt' (by omega)

theorem reportsAt (checks : rule.check source file = rule.reportAt file found advice)
    (within : IsLineOf source found) (first : found = some number) :
    ReportsAt rule source file number := by
  subst first
  exact ⟨rule.report file (some number) advice, checks, rfl, rfl, rfl,
    toNat_ofNat_of_isLineOf within⟩

end EnergyAudit.Rule
