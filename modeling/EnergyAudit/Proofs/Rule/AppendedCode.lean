import EnergyAudit.Proofs.Rule.GenerationLoop
import EnergyAudit.Proofs.Text.Lines

/-! # Code appended to a source

The first loop that generates answers stays the first one, whatever code is appended.  A loop above
it that is open at the end of the source would hold the call as well and be the first one itself. -/

namespace EnergyAudit

namespace Text

variable {line : List Char}

theorem isBlankLine_append_return : isBlankLine (line ++ ['\r']) = isBlankLine line := by
  have blank : isBlank '\r' = true := by decide
  simp [isBlankLine, blank]

theorem indentation_append_of_not_blank (inked : isBlankLine line = false) (more : List Char) :
    indentation (line ++ more) = indentation line := by
  have short : (line.takeWhile isBlank).length ≠ line.length := by
    intro all
    have whole := (List.takeWhile_prefix isBlank).eq_of_length all
    rw [isBlankLine, List.all_eq_false] at inked
    obtain ⟨c, inside, other⟩ := inked
    exact other (List.mem_takeWhile_imp (whole ▸ inside))
  rw [indentation, List.takeWhile_append, if_neg short, indentation]

theorem contains_append_singleton {word : List Char} {c : Char} (some : word ≠ [])
    (other : c ∉ word) : contains word (line ++ [c]) = contains word line := by
  rw [Bool.eq_iff_iff, contains_iff, contains_iff, List.infix_concat_iff, List.suffix_concat_iff]
  constructor
  · rintro ((rfl | ⟨start, rfl, _⟩) | inside)
    · exact absurd rfl some
    · exact absurd (List.mem_append_right start List.mem_cons_self) other
    · exact inside
  · exact .inr

end Text

namespace Rule

open Text (isBlankLine indentation dropCarriageReturn linesOfPieces)

variable {indent before : Nat} {lines : List (List Char)}

/-! ## A carriage return at the end of the source -/

theorem bodyGenerates_singleton (line : List Char) : bodyGenerates indent [line] =
    (!isBlankLine line && decide (indent < indentation line) &&
      Text.contains generateCall line) := by
  simp only [bodyGenerates]
  split
  · rename_i blank
    simp [blank]
  · rename_i inked
    split
    · rename_i shallow
      simp [Nat.not_lt.mpr shallow]
    · rename_i deeper
      simp [inked, Nat.not_le.mp deeper]

theorem bodyGenerates_singleton_append_return (line : List Char) :
    bodyGenerates indent [line ++ ['\r']] = bodyGenerates indent [line] := by
  rw [bodyGenerates_singleton, bodyGenerates_singleton, Text.isBlankLine_append_return,
    Text.contains_append_singleton (by decide) (by decide)]
  cases inked : isBlankLine line with
  | true => rfl
  | false => rw [Text.indentation_append_of_not_blank inked]

theorem bodyGenerates_linesOfPieces (pieces : List (List Char)) :
    bodyGenerates indent (linesOfPieces pieces) =
      bodyGenerates indent (pieces.map dropCarriageReturn) := by
  fun_induction linesOfPieces pieces with
  | case1 => rfl
  | case2 last empty =>
      rw [List.isEmpty_iff.mp empty]
      rfl
  | case3 last filled =>
      rcases Text.eq_dropCarriageReturn last with same | returned
      · rw [List.map_singleton, ← same]
      · rw [returned, bodyGenerates_singleton_append_return, ← returned, List.map_singleton]
  | case4 piece pieces several ih => simp only [List.map_cons, bodyGenerates, ih]

theorem linesBeforeLoop?_linesOfPieces (pieces : List (List Char)) :
    linesBeforeLoop? (linesOfPieces pieces) =
      linesBeforeLoop? (pieces.map dropCarriageReturn) := by
  fun_induction linesOfPieces pieces with
  | case1 => rfl
  | case2 last empty => simp [linesBeforeLoop?, bodyGenerates]
  | case3 last filled => simp [linesBeforeLoop?, bodyGenerates]
  | case4 piece pieces several ih =>
      simp only [List.map_cons, linesBeforeLoop?, bodyGenerates_linesOfPieces, ih]

/-! ## Loops above the first one that generates answers -/

theorem bodyGenerates_append (generates : bodyGenerates indent lines = true)
    (more : List (List Char)) : bodyGenerates indent (lines ++ more) = true := by
  obtain ⟨inside, deeper, calls⟩ := bodyGenerates_iff.mp generates
  rw [List.append_assoc, List.cons_append]
  exact bodyGenerates_iff.mpr (.intro inside deeper calls)

theorem bodyGenerates_of_deeper {deeper : Nat} (le : indent ≤ deeper)
    (generates : bodyGenerates deeper lines = true) : bodyGenerates indent lines = true := by
  obtain ⟨inside, below, calls⟩ := bodyGenerates_iff.mp generates
  exact bodyGenerates_iff.mpr (.intro
    (fun line member inked => le.trans_lt (inside line member inked)) (le.trans_lt below) calls)

theorem not_blank_of_heads {line : List Char} (heads : HeadsLoop line) :
    isBlankLine line = false := by
  obtain ⟨⟩ := heads
  rw [isBlankLine, List.all_eq_false]
  exact ⟨'f', by simp, by decide⟩

/-- A loop that generates nothing although one below it does is closed above that one. -/
theorem not_bodyGenerates_append (silent : bodyGenerates indent lines = false)
    (found : linesBeforeLoop? lines = some before) (more : List (List Char)) :
    bodyGenerates indent (lines ++ more) = false := by
  induction lines generalizing before with
  | nil => exact nomatch found
  | cons line rest ih =>
      rw [linesBeforeLoop?] at found
      rw [List.cons_append, bodyGenerates]
      rw [bodyGenerates] at silent
      split at found
      · -- A loop within the body would generate the answer for the body as well.
        rename_i loop
        rw [Bool.and_eq_true, occursIn_loopHeader_iff] at loop
        rw [not_blank_of_heads loop.1] at silent ⊢
        by_cases shallow : indentation line ≤ indent
        · simp [shallow]
        · have generates := bodyGenerates_of_deeper (Nat.le_of_not_le shallow) loop.2
          simp [shallow, generates] at silent
      · obtain ⟨later, below, rfl⟩ := Option.map_eq_some_iff.mp found
        split
        · rename_i blank
          rw [if_pos blank] at silent
          exact ih silent below
        · rename_i inked
          rw [if_neg inked] at silent
          split
          · rfl
          · rename_i deeper
            rw [if_neg deeper, Bool.or_eq_false_iff] at silent
            rw [silent.1, ih silent.2 below, Bool.false_or]

theorem linesBeforeLoop?_append (found : linesBeforeLoop? lines = some before)
    (more : List (List Char)) : linesBeforeLoop? (lines ++ more) = some before := by
  induction lines generalizing before with
  | nil => exact nomatch found
  | cons header rest ih =>
      rw [List.cons_append, linesBeforeLoop?]
      rw [linesBeforeLoop?] at found
      split at found
      · rename_i loop
        rw [Bool.and_eq_true] at loop
        rw [loop.1, bodyGenerates_append loop.2, Bool.and_self, if_pos rfl]
        exact found
      · rename_i other
        obtain ⟨later, below, rfl⟩ := Option.map_eq_some_iff.mp found
        have still : (loopHeader.occursIn header &&
            bodyGenerates (indentation header) (rest ++ more)) = false := by
          rw [Bool.not_eq_true, Bool.and_eq_false_iff] at other
          rw [Bool.and_eq_false_iff]
          exact other.imp_right fun silent => not_bodyGenerates_append silent below more
        rw [still, ih below]
        rfl

/-! ## Sources -/

/-- The first loop that generates answers stays the first one when code is appended to the source,
and the rule reports the same. -/
theorem generationLoop?_append {source : List Char} {number : Nat}
    (found : generationLoop? source = some number) (more : List Char) :
    generationLoop? (source ++ '\n' :: more) = some number ∧
      ∀ file, sequentialGenerate.check (source ++ '\n' :: more) file =
        sequentialGenerate.check source file := by
  have same : generationLoop? (source ++ '\n' :: more) = some number := by
    obtain ⟨before, first, rfl⟩ := Option.map_eq_some_iff.mp found
    rw [Text.lines, linesBeforeLoop?_linesOfPieces] at first
    rw [generationLoop?, Text.lines_append_feed, linesBeforeLoop?_append first]
    rfl
  refine ⟨same, fun file => ?_⟩
  rw [check, check, same, found]

/-- A loop that is closed, a loop that generates answers, and a carriage return at the end. -/
def loopAfterLoop : String :=
  "for p in ps:\n    use(p)\nfor q in qs:\n    m.generate(q)\r"

theorem generationLoop?_loopAfterLoop_append :
    generationLoop? loopAfterLoop.toList = some 3 ∧
      generationLoop? (loopAfterLoop.toList ++ '\n' :: "    m.generate(p)\n".toList) = some 3 := by
  have found : generationLoop? loopAfterLoop.toList = some 3 := by decide +kernel
  exact ⟨found, (generationLoop?_append found _).1⟩

end Rule

end EnergyAudit
