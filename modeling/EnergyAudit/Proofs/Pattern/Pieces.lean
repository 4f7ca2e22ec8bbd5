import EnergyAudit.Pattern
import EnergyAudit.Proofs.Text.Lines

/-! # The pieces that patterns describe

What each part of a pattern describes is said without the others, so that a pattern made of several
parts describes the pieces that its parts describe, one after the other.

A pattern that is found in a text is found there still when the text goes on, unless the pattern
looks at what follows it.  A character that no piece ends with, and that the pattern does not look
for, may stand at the end of the text without being noticed. -/

namespace EnergyAudit.Pattern

variable {p q : Pattern} {accepts : Char → Bool} {piece rest : List Char}

/-- The text is made of characters of the class, and has at least one. -/
def IsRun (accepts : Char → Bool) (piece : List Char) : Prop :=
  piece ≠ [] ∧ ∀ c ∈ piece, accepts c = true

theorem matches_one_iff :
    (one accepts).Matches piece rest ↔ ∃ c, accepts c = true ∧ piece = [c] := by
  constructor
  · rintro ⟨accepted⟩
    exact ⟨_, accepted, rfl⟩
  · rintro ⟨c, accepted, rfl⟩
    exact .one accepted

theorem matches_many_iff : (many accepts).Matches piece rest ↔ ∀ c ∈ piece, accepts c = true := by
  constructor
  · rintro ⟨all⟩
    assumption
  · exact .many

theorem matches_seq_iff : (seq p q).Matches piece rest ↔
    ∃ left right,
      p.Matches left (right ++ rest) ∧ q.Matches right rest ∧ piece = left ++ right := by
  constructor
  · rintro ⟨⟩
    exact ⟨_, _, by assumption, by assumption, rfl⟩
  · rintro ⟨left, right, first, second, rfl⟩
    exact .seq first second

theorem matches_maybe_iff :
    (maybe p).Matches piece rest ↔ p.Matches piece rest ∨ piece = [] := by
  constructor
  · rintro ⟨⟩
    · exact .inl ‹_›
    · exact .inr rfl
  · rintro (present | rfl)
    · exact .present present
    · exact .absent

theorem matches_notBefore_iff : (notBefore accepts).Matches piece rest ↔
    piece = [] ∧ ∀ c ∈ rest.head?, accepts c = false := by
  constructor
  · rintro ⟨⟩
    exact ⟨rfl, ‹_›⟩
  · rintro ⟨rfl, ahead⟩
    exact .notBefore ahead

theorem matches_textEnd_iff : textEnd.Matches piece rest ↔ piece = [] ∧ rest = [] := by
  constructor
  · rintro ⟨⟩
    exact ⟨rfl, rfl⟩
  · rintro ⟨rfl, rfl⟩
    exact .textEnd

theorem matches_nothing_iff : nothing.Matches piece rest ↔ piece = [] := by
  constructor
  · rintro ⟨⟩
    rfl
  · rintro rfl
    exact .nothing

theorem matches_atLeastOne_iff : (atLeastOne accepts).Matches piece rest ↔ IsRun accepts piece := by
  simp only [atLeastOne, matches_seq_iff, matches_one_iff, matches_many_iff]
  constructor
  · rintro ⟨_, right, ⟨c, accepted, rfl⟩, all, rfl⟩
    exact ⟨by simp, by simpa using ⟨accepted, all⟩⟩
  · rintro ⟨some, all⟩
    cases piece with
    | nil => exact absurd rfl some
    | cons c piece =>
        rw [List.forall_mem_cons] at all
        exact ⟨[c], piece, ⟨c, all.1, rfl⟩, all.2, rfl⟩

theorem matches_letters_iff {letters : List Char} :
    (sequence (letters.map fun letter => .one (· == letter))).Matches piece rest ↔
      piece = letters := by
  induction letters generalizing piece with
  | nil => exact matches_nothing_iff
  | cons letter letters ih =>
      simp only [List.map_cons, sequence, matches_seq_iff, matches_one_iff, beq_iff_eq, ih]
      constructor
      · rintro ⟨_, _, ⟨_, rfl, rfl⟩, rfl, rfl⟩
        rfl
      · rintro rfl
        exact ⟨[letter], letters, ⟨letter, rfl, rfl⟩, rfl, rfl⟩

theorem matches_exactly_iff {text : String} :
    (exactly text).Matches piece rest ↔ piece = text.toList :=
  matches_letters_iff

/-! ## Where patterns start -/

variable {ps : List Pattern} {s : List Char}

theorem occursIn_iff_startsHere :
    p.occursIn s = true ↔ ∃ before rest, s = before ++ rest ∧ p.startsHere rest = true := by
  simp only [occursIn_iff, startsHere, run_iff, and_true]
  constructor
  · rintro ⟨before, piece, rest, rfl, found⟩
    exact ⟨before, piece ++ rest, List.append_assoc .., piece, rest, rfl, found⟩
  · rintro ⟨before, _, rfl, piece, rest, rfl, found⟩
    exact ⟨before, piece, rest, (List.append_assoc ..).symm, found⟩

theorem startsHere_sequence_nil : (sequence []).startsHere s = true := rfl

theorem startsHere_sequence_cons : (sequence (p :: ps)).startsHere s = true ↔
    ∃ piece rest, s = piece ++ rest ∧ p.Matches piece rest ∧
      (sequence ps).startsHere rest = true := by
  rw [startsHere, sequence, run, run_iff]
  rfl

/-! ## What stands behind a pattern -/

/-- Whether the pattern holds on to its pieces when `c` comes to follow them. -/
def bears (c : Char) : Pattern → Bool
  | .one _ => true
  | .many _ => true
  | .maybe p => p.bears c
  | .seq p q => p.bears c && q.bears c
  | .notBefore accepts => !accepts c
  | .textEnd => false
  | .nothing => true

/-- Whether the pattern may describe nothing. -/
def isNullable : Pattern → Bool
  | .one _ => false
  | .many _ => true
  | .maybe _ => true
  | .seq p q => p.isNullable && q.isNullable
  | .notBefore _ => true
  | .textEnd => true
  | .nothing => true

/-- Whether `c` may be the last character of what the pattern describes. -/
def mayEndWith (c : Char) : Pattern → Bool
  | .one accepts => accepts c
  | .many accepts => accepts c
  | .maybe p => p.mayEndWith c
  | .seq p q => q.mayEndWith c || (q.isNullable && p.mayEndWith c)
  | .notBefore _ => false
  | .textEnd => false
  | .nothing => false

/-- Whether `c` is noticed by the pattern neither behind a piece nor at the end of one. -/
def overlooks (c : Char) (p : Pattern) : Bool :=
  p.bears c && !p.isNullable && !p.mayEndWith c

variable {c : Char} {more t : List Char}

theorem isNullable_of_matches_nil (found : p.Matches piece rest) (empty : piece = []) :
    p.isNullable = true := by
  induction found with
  | one => exact nomatch empty
  | many | present | absent | notBefore | textEnd | nothing => rfl
  | seq _ _ ihp ihq =>
      obtain ⟨left, right⟩ := List.append_eq_nil_iff.mp empty
      rw [isNullable, ihp left, ihq right, Bool.and_self]

theorem mayEndWith_of_matches (found : p.Matches piece rest) (last : piece.getLast? = some c) :
    p.mayEndWith c = true := by
  induction found with
  | one accepted =>
      obtain rfl := Option.some.inj last
      exact accepted
  | many all => exact all c (List.mem_of_getLast? last)
  | present _ ih => exact ih last
  | absent | notBefore | textEnd | nothing => exact nomatch last
  | @seq p q left right _ _ second ihp ihq =>
      cases empty : right with
      | nil =>
          rw [empty, List.append_nil] at last
          rw [mayEndWith, isNullable_of_matches_nil second empty, ihp last, Bool.and_self,
            Bool.or_true]
      | cons d right =>
          rw [List.getLast?_append, empty, List.getLast?_cons, Option.some_or] at last
          rw [mayEndWith, ihq (by rw [empty, List.getLast?_cons, last]), Bool.true_or]

/-- A piece stays one when the text goes on with a character that the pattern bears. -/
theorem Matches.append (found : p.Matches piece rest) (bears : p.bears c = true) :
    p.Matches piece (rest ++ c :: more) := by
  induction found with
  | one accepted => exact .one accepted
  | many all => exact .many all
  | present _ ih => exact .present (ih bears)
  | absent => exact .absent
  | seq _ _ ihp ihq =>
      rw [Pattern.bears, Bool.and_eq_true] at bears
      have first := ihp bears.1
      rw [List.append_assoc] at first
      exact .seq first (ihq bears.2)
  | @notBefore accepts rest ahead =>
      refine .notBefore ?_
      cases rest with
      | nil => simpa [Pattern.bears] using bears
      | cons d rest => exact ahead
  | textEnd => exact nomatch bears
  | nothing => exact .nothing

/-- A piece stays one when the end of the text behind it is cut off. -/
theorem Matches.cut (found : p.Matches piece (rest ++ more)) : p.Matches piece rest := by
  generalize whole : rest ++ more = text at found
  induction found generalizing rest with
  | one accepted => exact .one accepted
  | many accepted => exact .many accepted
  | present _ ih => exact .present (ih whole)
  | absent => exact .absent
  | @seq p q left right _ _ _ ihp ihq =>
      exact .seq (ihp (by rw [List.append_assoc, whole])) (ihq whole)
  | notBefore ahead =>
      refine .notBefore fun d first => ahead d ?_
      rw [← whole, List.head?_append, first, Option.some_or]
      rfl
  | textEnd =>
      rw [(List.append_eq_nil_iff.mp whole).1]
      exact .textEnd
  | nothing => exact .nothing

/-- What is found in a text is found in a text around it that goes on with a character that the
pattern bears. -/
theorem occursIn_around (occurs : p.occursIn s = true)
    (bears : ∀ c ∈ more.head?, p.bears c = true) : p.occursIn (t ++ (s ++ more)) = true := by
  obtain ⟨before, piece, rest, rfl, found⟩ := occursIn_iff.mp occurs
  refine occursIn_iff.mpr ⟨t ++ before, piece, rest ++ more, by simp, ?_⟩
  cases more with
  | nil => rwa [List.append_nil]
  | cons c more => exact found.append (bears c rfl)

theorem occursIn_append_singleton (overlooked : p.overlooks c = true) (s : List Char) :
    p.occursIn (s ++ [c]) = p.occursIn s := by
  simp only [overlooks, Bool.and_eq_true, Bool.not_eq_true'] at overlooked
  obtain ⟨⟨bears, filled⟩, otherEnd⟩ := overlooked
  rw [Bool.eq_iff_iff]
  constructor
  · intro occurs
    obtain ⟨before, piece, rest, whole, found⟩ := occursIn_iff.mp occurs
    -- The last character belongs to what follows the piece, since no piece ends with it.
    rcases List.eq_nil_or_concat rest with rfl | ⟨rest, last, rfl⟩
    · have ends := congrArg List.getLast? whole
      rw [List.append_nil, List.getLast?_concat, List.getLast?_append] at ends
      cases last : piece.getLast? with
      | none =>
          have nullable := isNullable_of_matches_nil found (List.getLast?_eq_none_iff.mp last)
          exact absurd (filled.symm.trans nullable) Bool.false_ne_true
      | some d =>
          rw [last, Option.some_or] at ends
          have ends := mayEndWith_of_matches found (last.trans ends.symm)
          exact absurd (otherEnd.symm.trans ends) Bool.false_ne_true
    · rw [List.concat_eq_append] at whole found
      rw [← List.append_assoc] at whole
      obtain ⟨same, -⟩ := List.append_inj' whole rfl
      exact occursIn_iff.mpr ⟨before, piece, rest, same, found.cut⟩
  · intro occurs
    exact occursIn_around (t := []) occurs (by simpa using bears)

/-! ## Patterns between separators

A pattern that describes no piece with a separator in it stays between two of them.  It is found in
a text exactly if it is found in one of the pieces that the text is cut into, so that it does not
matter in what order these stand. -/

open Text (splitOn)

/-- Whether no piece that the pattern describes has `c` in it. -/
def avoids (c : Char) : Pattern → Bool
  | .one accepts => !accepts c
  | .many accepts => !accepts c
  | .maybe p => p.avoids c
  | .seq p q => p.avoids c && q.avoids c
  | .notBefore _ => true
  | .textEnd => true
  | .nothing => true

variable {separator : Char}

theorem not_mem_of_matches (found : p.Matches piece rest) (avoids : p.avoids c = true) :
    c ∉ piece := by
  induction found with
  | one accepted =>
      rw [Pattern.avoids, Bool.not_eq_true'] at avoids
      rw [List.mem_singleton]
      rintro rfl
      exact absurd (avoids.symm.trans accepted) Bool.false_ne_true
  | many all =>
      rw [Pattern.avoids, Bool.not_eq_true'] at avoids
      intro member
      exact absurd (avoids.symm.trans (all c member)) Bool.false_ne_true
  | present _ ih => exact ih avoids
  | seq _ _ ihp ihq =>
      rw [Pattern.avoids, Bool.and_eq_true] at avoids
      rw [List.mem_append, not_or]
      exact ⟨ihp avoids.1, ihq avoids.2⟩
  | absent | notBefore | textEnd | nothing => exact List.not_mem_nil

/-- What such a pattern describes stands in one of the pieces between the separators. -/
theorem exists_occursIn_splitOn (avoids : p.avoids separator = true)
    (occurs : p.occursIn s = true) : ∃ line ∈ splitOn separator s, p.occursIn line = true := by
  obtain ⟨before, piece, rest, rfl, found⟩ := occursIn_iff.mp occurs
  obtain ⟨pieces, last, -, grows⟩ := Text.exists_splitOn_append separator before
  have inside := not_mem_of_matches found avoids
  -- The piece goes to the last line before it, along with what follows it up to a separator.
  have here (front : List Char) (ahead : front <+: rest) :
      p.occursIn (last ++ (piece ++ front)) = true := by
    obtain ⟨back, rfl⟩ := ahead
    exact occursIn_iff.mpr ⟨last, piece, front, (List.append_assoc ..).symm, found.cut⟩
  by_cases cut : separator ∈ rest
  · obtain ⟨front, back, rfl, first⟩ := List.eq_append_cons_of_mem cut
    refine ⟨last ++ (piece ++ front), ?_, here front (List.prefix_append ..)⟩
    have whole : before ++ piece ++ (front ++ separator :: back) =
        (before ++ (piece ++ front)) ++ separator :: back := by simp
    rw [whole, Text.splitOn_append_separator,
      grows (piece ++ front) (by simp [inside, first])]
    simp
  · refine ⟨last ++ (piece ++ rest), ?_, here rest (List.prefix_refl rest)⟩
    rw [List.append_assoc, grows (piece ++ rest) (by simp [inside, cut])]
    simp

theorem occursIn_eq_any_splitOn (avoids : p.avoids separator = true)
    (bears : p.bears separator = true) (s : List Char) :
    p.occursIn s = (splitOn separator s).any p.occursIn := by
  rw [Bool.eq_iff_iff, List.any_eq_true]
  constructor
  · exact exists_occursIn_splitOn avoids
  · rintro ⟨line, listed, occurs⟩
    obtain ⟨before, after, rfl, ends⟩ := (Text.pieces_standIn separator s).2 line listed
    exact occursIn_around occurs fun c first => ends c first ▸ bears

/-- Such a pattern is found in a text whose pieces stand in another order. -/
theorem occursIn_of_perm_splitOn (avoids : p.avoids separator = true)
    (bears : p.bears separator = true)
    (same : (splitOn separator s).Perm (splitOn separator t)) : p.occursIn s = p.occursIn t := by
  rw [occursIn_eq_any_splitOn avoids bears, occursIn_eq_any_splitOn avoids bears, same.any_eq]

end EnergyAudit.Pattern
