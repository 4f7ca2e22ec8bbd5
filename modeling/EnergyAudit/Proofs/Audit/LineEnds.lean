import Mathlib.Data.List.Find
import EnergyAudit.Audit.Report
import EnergyAudit.Pattern
import EnergyAudit.Proofs.Text.LineEnds

/-! # Audits of texts with other line ends

Most rules look at the lines of a source, which do not hold its line ends.  The names of small
models and the arguments of 4-bit loading are looked for in the source as a whole, where a pattern
may reach over a line end; their patterns ignore carriage returns.  So do the keywords of the
prescan, which hold no line end.

A pattern may go on from one line to the next.  It takes no notice of how the line ends are written
if it never asks for just one of the two characters of a line end, and treats them alike wherever it
passes over any number of characters. -/

namespace EnergyAudit.Pattern

open Text (Returned)

/-- Whether the class holds both characters of a line end or neither. -/
def treatsAlike (accepts : Char → Bool) : Bool :=
  accepts '\r' == accepts '\n'

/-- Whether the pattern takes no notice of carriage returns before line feeds. -/
def ignoresReturns : Pattern → Bool
  | .one accepts => !accepts '\r' && !accepts '\n'
  | .many accepts => treatsAlike accepts
  | .maybe piece => piece.ignoresReturns
  | .seq first second => first.ignoresReturns && second.ignoresReturns
  | .notBefore accepts => treatsAlike accepts
  | .textEnd => true
  | .nothing => true

/-- Whether two tests of a text agree when carriage returns are put before line feeds. -/
abbrev Agree (next next' : List Char → Bool) : Prop :=
  ∀ {s t : List Char}, Returned s t → next' t = next s

/-- A carriage return is one character more to pass over, after which the text goes on at its line
feed. -/
theorem runMany_returned {accepts : Char → Bool} (alike : treatsAlike accepts = true)
    {next next' : List Char → Bool} (agree : Agree next next') {s t : List Char}
    (returned : Returned s t) : runMany accepts next' t = runMany accepts next s := by
  induction returned with
  | nil => exact agree .nil
  | same other rest ih => simp only [runMany, agree (rest.same other), ih]
  | @feed s t rest ih =>
      have atReturn : next' ('\r' :: '\n' :: t) = next ('\n' :: s) := agree rest.feed
      have atFeed : next' ('\n' :: t) = next ('\n' :: s) := agree (rest.same (by decide))
      have alike : accepts '\r' = accepts '\n' := eq_of_beq alike
      -- To stop at the return is to stop at its feed, and where the one is passed over so is the
      -- other: the return only adds a second way to the same end.
      simp only [runMany, atReturn, atFeed, alike, ih]
      cases next ('\n' :: s) <;> cases accepts '\n' <;> rfl

theorem run_returned {p : Pattern} (ignores : p.ignoresReturns = true)
    {next next' : List Char → Bool} (agree : Agree next next') {s t : List Char}
    (returned : Returned s t) : p.run next' t = p.run next s := by
  induction p generalizing next next' s t with
  | one accepts =>
      simp only [ignoresReturns, Bool.and_eq_true, Bool.not_eq_true'] at ignores
      cases returned with
      | nil => rfl
      | same _ rest => simp only [run, agree rest]
      | feed _ => simp only [run, ignores.1, ignores.2, Bool.false_and]
  | many accepts => exact runMany_returned ignores agree returned
  | maybe p ih => simp only [run, ih ignores agree returned, agree returned]
  | seq p q ihp ihq =>
      simp only [ignoresReturns, Bool.and_eq_true] at ignores
      exact ihp ignores.1 (fun rest => ihq ignores.2 agree rest) returned
  | notBefore accepts =>
      have ahead : t.head?.all (fun c => !accepts c) = s.head?.all (fun c => !accepts c) := by
        cases returned with
        | nil => rfl
        | same => rfl
        | feed => simp [eq_of_beq (show (accepts '\r' == accepts '\n') = true from ignores)]
      simp only [run, ahead, agree returned]
  | textEnd =>
      have ends : t.isEmpty = s.isEmpty := by cases returned <;> rfl
      simp only [run, ends, agree returned]
  | nothing => exact agree returned

theorem startsHere_returned {p : Pattern} (ignores : p.ignoresReturns = true) {s t : List Char}
    (returned : Returned s t) : p.startsHere t = p.startsHere s :=
  run_returned ignores (fun _ => rfl) returned

/-- Such a pattern occurs in a text exactly if it does when the line ends are written otherwise. -/
theorem occursIn_returned {p : Pattern} (ignores : p.ignoresReturns = true) {s t : List Char}
    (returned : Returned s t) : p.occursIn t = p.occursIn s := by
  induction returned with
  | nil => rfl
  | same other rest ih => simp only [occursIn, startsHere_returned ignores (rest.same other), ih]
  | @feed s t rest ih =>
      have atReturn := startsHere_returned ignores rest.feed
      have atFeed := startsHere_returned ignores (rest.same (by decide : '\n' ≠ '\r'))
      simp only [occursIn, atReturn, atFeed, ih, ← Bool.or_assoc, Bool.or_self]

end EnergyAudit.Pattern

namespace EnergyAudit

open Text (Returned)

namespace Rule

variable {s t : List Char}

theorem codeLines_returned (returned : Returned s t) : codeLines t = codeLines s := by
  rw [codeLines, codeLines, returned.lines]

theorem smallModels_ignore_returns :
    ∀ model ∈ smallModels, (spellingPattern model.spelling).ignoresReturns = true := by
  decide

theorem smallModel?_returned (returned : Returned s t) : smallModel? t = smallModel? s := by
  have same : smallModels.find? (·.occursIn t) = smallModels.find? (·.occursIn s) :=
    List.find?_congr fun model listed =>
      Pattern.occursIn_returned (smallModels_ignore_returns model listed) returned
  rw [smallModel?, smallModel?, same]

theorem redundantParameters_returned (returned : Returned s t) :
    redundantParameters t = redundantParameters s := by
  have flag : fourBitFlag.occursIn t = fourBitFlag.occursIn s :=
    Pattern.occursIn_returned (by decide) returned
  have dtype : computeDtype.occursIn t = computeDtype.occursIn s :=
    Pattern.occursIn_returned (by decide) returned
  have kind : quantType.occursIn t = quantType.occursIn s :=
    Pattern.occursIn_returned (by decide) returned
  simp only [redundantParameters, flag, List.filterMap_cons, List.filterMap_nil, dtype, kind]

/-- A rule reports the same, at the same line, however the line ends are written. -/
theorem check_returned (rule : Rule) (file : String) (returned : Returned s t) :
    rule.check t file = rule.check s file := by
  have lines := returned.lines
  have codes := codeLines_returned returned
  cases rule with
  | defaultInt8 => simp only [check, defaultInt8Line?, eightBitLine?, codes]
  | smallModelNf4 =>
      simp only [check, smallModelLoad?, fourBitLine?, codes, smallModel?_returned returned]
  | sequentialGenerate => simp only [check, generationLoop?, lines]
  | precisionConflict => simp only [check, precisionConflictLine?, eightBitLine?, codes]
  | missingDeviceMap => simp only [check, unplacedLoad?, lines]
  | redundantFourBit => simp only [check, redundantParameters_returned returned]

end Rule

namespace Audit

theorem keywords_hold_no_lineEnd : ∀ keyword ∈ keywords, '\r' ∉ keyword ∧ '\n' ∉ keyword := by
  decide

theorem needsScan_returned {s t : List Char} (returned : Returned s t) :
    needsScan t = needsScan s := by
  have same : ∀ keyword ∈ keywords,
      Text.contains keyword (Text.lower t) = Text.contains keyword (Text.lower s) := by
    intro keyword listed
    obtain ⟨noReturn, noFeed⟩ := keywords_hold_no_lineEnd keyword listed
    exact returned.lower.contains noReturn noFeed
  rw [Bool.eq_iff_iff]
  simp only [needsScan, List.any_eq_true]
  constructor
  · rintro ⟨keyword, listed, found⟩
    exact ⟨keyword, listed, same keyword listed ▸ found⟩
  · rintro ⟨keyword, listed, found⟩
    exact ⟨keyword, listed, (same keyword listed).symm ▸ found⟩

/-- The audit of a source without carriage returns comes to the same when every line feed gets one:
the prescan decides alike, and every list of rules reports the same findings, line numbers
included. -/
theorem scan_putReturns {source : List Char} (plain : '\r' ∉ source) :
    needsScan (Text.putReturns source) = needsScan source ∧
      ∀ rules file, scan rules (Text.putReturns source) file = scan rules source file := by
  have returned := Text.returned_putReturns plain
  refine ⟨needsScan_returned returned, fun rules file => ?_⟩
  unfold scan
  simp only [Rule.check_returned _ file returned]

/-- A loop that generates answers, with a flag that is written over two lines. -/
def splitFlag : String :=
  "for p in ps:\n    load(bnb_4bit_quant_type, load_in_4bit=\n        True)\n    m.generate(p)\n"

/-- Over the line break the flag is seen, so that only the loop is reported. -/
theorem scan_putReturns_of_splitFlag :
    '\r' ∉ splitFlag.toList ∧ needsScan (Text.putReturns splitFlag.toList) = true ∧
      (scan Rule.all (Text.putReturns splitFlag.toList) "run.py").map
          (fun finding => (finding.ruleId, finding.location.line)) =
        [("sequential-generate", some 1)] := by
  have plain : '\r' ∉ splitFlag.toList := by decide +kernel
  obtain ⟨wanted, found⟩ := scan_putReturns plain
  refine ⟨plain, ?_, ?_⟩
  · rw [wanted]
    decide +kernel
  · rw [found]
    decide +kernel

end Audit

end EnergyAudit
