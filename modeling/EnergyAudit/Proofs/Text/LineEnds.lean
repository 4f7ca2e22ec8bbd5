import EnergyAudit.Proofs.Text.Lines
import EnergyAudit.Text.Lines
import EnergyAudit.Text.Lowercase
import Mathlib

/-! # Line ends

A line may end with a line feed alone or with a carriage return and a line feed.  `Returned s t`
says that `t` is the text `s`, which has no carriage return, with carriage returns put before some
of its line feeds.  Such texts have the same lines, their small forms are such texts again, and a
word stands in both or in neither. -/

namespace EnergyAudit.Text

/-- The text with a carriage return put before every line feed. -/
def putReturns (s : List Char) : List Char :=
  s.flatMap fun c => if c = '\n' then ['\r', '\n'] else [c]

/-- The second text is the first one with carriage returns before some of its line feeds. -/
inductive Returned : List Char → List Char → Prop where
  | nil : Returned [] []
  /-- A character that both texts have, which may be a line feed. -/
  | same {c : Char} {s t : List Char} : c ≠ '\r' → Returned s t → Returned (c :: s) (c :: t)
  /-- A line feed that has a carriage return before it in the second text. -/
  | feed {s t : List Char} : Returned s t → Returned ('\n' :: s) ('\r' :: '\n' :: t)

theorem returned_putReturns {s : List Char} (plain : '\r' ∉ s) : Returned s (putReturns s) := by
  induction s with
  | nil => exact .nil
  | cons c s ih =>
      simp only [List.mem_cons, not_or] at plain
      have rest : Returned s (putReturns s) := ih plain.2
      by_cases feed : c = '\n'
      · subst feed
        exact .feed rest
      · rw [putReturns, List.flatMap_cons, if_neg feed]
        exact .same (Ne.symm plain.1) rest

/-! ## Lines -/

/-- The lines of a text to which `c` is put in front, where `c` ends no line. -/
def joinFirst (c : Char) : List (List Char) → List (List Char)
  | [] => [[c]]
  | line :: lines => (c :: line) :: lines

theorem lines_feed (s : List Char) : lines ('\n' :: s) = [] :: lines s := by
  unfold lines
  rw [splitOn_cons]
  cases split : splitOn '\n' s with
  | nil => exact absurd split (splitOn_ne_nil '\n' s)
  | cons piece pieces => rfl

theorem lines_return_feed (s : List Char) : lines ('\r' :: '\n' :: s) = [] :: lines s := by
  unfold lines
  rw [splitOn_cons, splitOn_cons]
  cases split : splitOn '\n' s with
  | nil => exact absurd split (splitOn_ne_nil '\n' s)
  | cons piece pieces => rfl

theorem dropCarriageReturn_cons {c : Char} (other : c ≠ '\r') (line : List Char) :
    dropCarriageReturn (c :: line) = c :: dropCarriageReturn line := by
  cases line with
  | nil => simp [dropCarriageReturn, other]
  | cons d line => simp only [dropCarriageReturn, List.getLast?_cons_cons]; split <;> rfl

theorem lines_cons {c : Char} (noFeed : c ≠ '\n') (noReturn : c ≠ '\r') (s : List Char) :
    lines (c :: s) = joinFirst c (lines s) := by
  unfold lines
  rw [splitOn_cons]
  cases split : splitOn '\n' s with
  | nil => exact absurd split (splitOn_ne_nil '\n' s)
  | cons piece pieces =>
      simp only [startPieces, beq_eq_false_iff_ne.mpr noFeed, Bool.false_eq_true, if_false]
      cases pieces with
      | nil => cases piece <;> rfl
      | cons next pieces =>
          simp only [linesOfPieces, joinFirst, dropCarriageReturn_cons noReturn]

namespace Returned

/-- Carriage returns before line feeds are no part of the lines. -/
theorem lines {s t : List Char} (returned : Returned s t) : lines t = lines s := by
  induction returned with
  | nil => rfl
  | @same c s t noReturn _ ih =>
      by_cases feed : c = '\n'
      · subst feed
        rw [lines_feed, lines_feed, ih]
      · rw [lines_cons feed noReturn, lines_cons feed noReturn, ih]
  | feed _ ih => rw [lines_return_feed, lines_feed, ih]

end Returned

/-! ## Small forms -/

theorem ofNat_ne_return {n : Nat} (beyond : '\r'.toNat < n) : Char.ofNat n ≠ '\r' := by
  intro same
  by_cases valid : n.isValidChar
  · have number : (Char.ofNat n).toNat = n := by
      rw [Char.ofNat, dif_pos valid]
      rfl
    rw [same] at number
    exact Nat.ne_of_lt beyond number
  · rw [Char.ofNat, dif_neg valid] at same
    exact absurd same (by decide)

theorem toLower_ne_return {c : Char} (other : c ≠ '\r') : c.toLower ≠ '\r' := by
  delta Char.toLower
  split
  · rename_i capital
    intro same
    have same := congrArg Char.toNat same
    have high : c.toNat ≤ 'Z'.toNat := capital.2
    simp only [Char.toNat, UInt32.toNat_add] at same high
    have : 'Z'.val.toNat = 90 := rfl
    have : ('a'.val - 'A'.val).toNat = 32 := rfl
    have : '\r'.val.toNat = 13 := rfl
    omega
  · exact other

/-- No row of the table leads down to the control characters. -/
theorem caseRows_beyond_return :
    ∀ row ∈ caseRows, ('\r'.toNat : Int) < row.first + row.offset := by
  decide +kernel

/-- No other character has the carriage return for its small form. -/
theorem lowerChar_ne_return {c : Char} (other : c ≠ '\r') : lowerChar c ≠ '\r' := by
  unfold lowerChar
  split
  · exact toLower_ne_return other
  · split
    · rename_i row found
      have beyond := caseRows_beyond_return row (List.mem_of_find?_eq_some found)
      have holds := List.find?_some found
      simp only [CaseRow.holds, Bool.and_eq_true, decide_eq_true_eq] at holds
      exact ofNat_ne_return (by omega)
    · exact other

namespace Returned

theorem nextIsCased {s t : List Char} (returned : Returned s t) :
    nextIsCased t = nextIsCased s := by
  induction returned with
  | nil => rfl
  | same _ _ ih => simp only [Text.nextIsCased, ih]
  | feed => rfl

theorem append {s t : List Char} (returned : Returned s t) {start : List Char}
    (plain : ∀ c ∈ start, c ≠ '\r') : Returned (start ++ s) (start ++ t) := by
  induction start with
  | nil => exact returned
  | cons c start ih =>
      simp only [List.forall_mem_cons] at plain
      exact .same plain.1 (ih plain.2)

theorem lowerAfter {s t : List Char} (returned : Returned s t) (afterCased : Bool) :
    Returned (lowerAfter afterCased s) (lowerAfter afterCased t) := by
  induction returned generalizing afterCased with
  | nil => exact .nil
  | @same c s t noReturn rest ih =>
      -- Which sigma is written depends on the letters around it, and no line end is a letter.
      simp only [Text.lowerAfter, rest.nextIsCased]
      apply (ih _).append
      intro small member
      split at member
      · rw [List.mem_singleton.mp member]
        split <;> decide
      · split at member
        · rcases List.mem_cons.mp member with rfl | member
          · decide
          · rw [List.mem_singleton.mp member]
            decide
        · rw [List.mem_singleton.mp member]
          exact lowerChar_ne_return noReturn
  | feed _ ih => exact .feed (ih false)

theorem lower {s t : List Char} (returned : Returned s t) : Returned (lower s) (lower t) :=
  returned.lowerAfter false

/-! ## Words -/

theorem isPrefixOf {s t word : List Char} (returned : Returned s t)
    (noReturn : '\r' ∉ word) (noFeed : '\n' ∉ word) :
    word.isPrefixOf t = word.isPrefixOf s := by
  induction word generalizing s t with
  | nil => simp
  | cons letter word ih =>
      simp only [List.mem_cons, not_or] at noReturn noFeed
      cases returned with
      | nil => rfl
      | same _ rest => simp only [List.isPrefixOf, ih rest noReturn.2 noFeed.2]
      | feed _ =>
          simp [List.isPrefixOf, beq_eq_false_iff_ne.mpr (Ne.symm noReturn.1),
            beq_eq_false_iff_ne.mpr (Ne.symm noFeed.1)]

theorem contains {s t word : List Char} (returned : Returned s t)
    (noReturn : '\r' ∉ word) (noFeed : '\n' ∉ word) : contains word t = contains word s := by
  induction returned with
  | nil => rfl
  | same other rest ih =>
      simp only [Text.contains, (rest.same other).isPrefixOf noReturn noFeed, ih]
  | feed rest ih =>
      have bare := (rest.same (by decide : '\n' ≠ '\r')).isPrefixOf noReturn noFeed
      have returned := rest.feed.isPrefixOf noReturn noFeed
      simp only [Text.contains, bare, returned, ih, ← Bool.or_assoc, Bool.or_self]

end Returned

/-! ## Empty lines in front of a text

An empty line is a line end with nothing before it.  Put in front of a text it is one more line, the
first one, and no letter: the small form of the text and the words that stand in it stay what they
were. -/

/-- How a line ends. -/
inductive LineEnd where
  | feed
  | returnFeed
deriving DecidableEq, Repr

def LineEnd.text : LineEnd → List Char
  | .feed => ['\n']
  | .returnFeed => ['\r', '\n']

/-- Empty lines, one for each of the line ends. -/
def emptyLines (ends : List LineEnd) : List Char := ends.flatMap LineEnd.text

theorem emptyLines_cons_append (lineEnd : LineEnd) (ends : List LineEnd) (s : List Char) :
    emptyLines (lineEnd :: ends) ++ s = lineEnd.text ++ (emptyLines ends ++ s) := by
  rw [emptyLines, List.flatMap_cons, List.append_assoc, emptyLines]

theorem lines_emptyLine (lineEnd : LineEnd) (s : List Char) :
    lines (lineEnd.text ++ s) = [] :: lines s := by
  cases lineEnd with
  | feed => exact lines_feed s
  | returnFeed => exact lines_return_feed s

theorem lower_emptyLine (lineEnd : LineEnd) (s : List Char) :
    lower (lineEnd.text ++ s) = lineEnd.text ++ lower s := by
  cases lineEnd with
  | feed => rfl
  | returnFeed => rfl

theorem contains_cons_of_not_mem {c : Char} {word : List Char} (other : c ∉ word)
    (s : List Char) : contains word (c :: s) = contains word s := by
  rw [Bool.eq_iff_iff, contains_iff, contains_iff, List.infix_cons_iff]
  constructor
  · rintro (starts | inside)
    · cases word with
      | nil => exact List.nil_infix
      | cons letter word =>
          obtain ⟨rfl, _⟩ := List.cons_prefix_cons.mp starts
          exact absurd List.mem_cons_self other
    · exact inside
  · exact Or.inr

theorem contains_emptyLine {word : List Char} (noReturn : '\r' ∉ word) (noFeed : '\n' ∉ word)
    (lineEnd : LineEnd) (s : List Char) : contains word (lineEnd.text ++ s) = contains word s := by
  cases lineEnd with
  | feed => exact contains_cons_of_not_mem noFeed s
  | returnFeed =>
      exact (contains_cons_of_not_mem noReturn _).trans (contains_cons_of_not_mem noFeed s)

/-! ## How many lines there are -/

theorem length_linesOfPieces_le (pieces : List (List Char)) :
    (linesOfPieces pieces).length ≤ (pieces.map List.length).sum + (pieces.length - 1) := by
  fun_induction linesOfPieces pieces with
  | case1 => exact Nat.zero_le _
  | case2 last empty => exact Nat.zero_le _
  | case3 last filled =>
      have : last.length ≠ 0 := by simpa using filled
      simp only [List.length_singleton, List.map_cons, List.map_nil, List.sum_cons, List.sum_nil]
      omega
  | case4 piece pieces several ih =>
      have : pieces.length ≠ 0 := by simpa using several
      simp only [List.length_cons, List.map_cons, List.sum_cons]
      omega

/-- The pieces of a text and the separators between them make up the text. -/
theorem length_pieces (separator : Char) (s : List Char) :
    ((splitOn separator s).map List.length).sum + ((splitOn separator s).length - 1) =
      s.length := by
  induction s with
  | nil => rfl
  | cons c s ih =>
      rw [splitOn_cons]
      cases split : splitOn separator s with
      | nil => exact absurd split (splitOn_ne_nil separator s)
      | cons piece pieces =>
          rw [split] at ih
          simp only [List.map_cons, List.sum_cons, List.length_cons] at ih
          simp only [startPieces]
          split
          · simp only [List.map_cons, List.sum_cons, List.length_cons, List.length_nil]
            omega
          · simp only [List.map_cons, List.sum_cons, List.length_cons]
            omega

theorem length_lines_le (s : List Char) : (lines s).length ≤ s.length := by
  have pieces := length_linesOfPieces_le (splitOn '\n' s)
  rwa [length_pieces] at pieces

end EnergyAudit.Text
