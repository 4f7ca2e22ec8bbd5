import Mathlib.Data.List.Forall2
import EnergyAudit.Pattern

/-! # Words that patterns begin with

A pattern that begins with a word leaves a form of the word in every text that it occurs in.  A
character that the word cannot begin with may stand in front of the text without being noticed. -/

namespace EnergyAudit.Pattern

/-- The characters are forms of the letters, one for each. -/
abbrev SameLetters (word piece : List Char) : Prop :=
  List.Forall₂ (fun letter c => sameLetter letter c = true) word piece

theorem matches_sequence_ones {accepts : Char → Char → Bool} {letters piece rest : List Char}
    (found : (sequence (letters.map fun letter => .one (accepts letter))).Matches piece rest) :
    List.Forall₂ (fun letter c => accepts letter c = true) letters piece := by
  induction letters generalizing piece with
  | nil =>
      cases found with
      | nothing => exact .nil
  | cons letter letters ih =>
      cases found with
      | seq first others =>
          cases first with
          | one accepted => exact .cons accepted (ih others)

theorem matches_word {text : String} {piece rest : List Char}
    (found : (word text).Matches piece rest) : SameLetters text.toList piece :=
  matches_sequence_ones found

theorem sequence_ones_matches {accepts : Char → Char → Bool} {letters piece rest : List Char}
    (same : List.Forall₂ (fun letter c => accepts letter c = true) letters piece) :
    (sequence (letters.map fun letter => .one (accepts letter))).Matches piece rest := by
  induction same with
  | nil => exact .nothing
  | cons first _ ih => exact .seq (.one first) ih

theorem matches_word_iff {text : String} {piece rest : List Char} :
    (word text).Matches piece rest ↔ SameLetters text.toList piece :=
  ⟨matches_word, sequence_ones_matches⟩

/-! ## Case left out of account -/

/-- The small letter that a character stands for when case is left out of account. -/
def fold (c : Char) : Char :=
  if c = 'ſ' then 's' else if c = '\u212a' then 'k' else c.toLower

/-- The word is written in small ASCII letters, digits and signs. -/
def isSmall (word : List Char) : Bool :=
  word.all fun letter => letter.toNat < 0x80 && letter.toLower == letter

theorem sameLetter_iff {letter c : Char} (ascii : letter.toNat < 0x80)
    (small : letter.toLower = letter) : sameLetter letter c = true ↔ fold c = letter := by
  have noLong : letter ≠ 'ſ' := by
    rintro rfl
    exact absurd ascii (by decide)
  have noKelvin : letter ≠ '\u212a' := by
    rintro rfl
    exact absurd ascii (by decide)
  have long : 'ſ'.toLower = 'ſ' := by decide
  have kelvin : '\u212a'.toLower = '\u212a' := by decide
  simp only [sameLetter, small, Bool.or_eq_true, Bool.and_eq_true, beq_iff_eq, fold]
  split
  · rename_i isLong
    simp [isLong, long, noLong.symm, eq_comm]
  · rename_i notLong
    split
    · rename_i isKelvin
      simp [isKelvin, kelvin, noKelvin.symm, eq_comm]
    · rename_i notKelvin
      simp [notLong, notKelvin]

/-- Forms of the letters of a small word fold to the word. -/
theorem sameLetters_iff {word piece : List Char} (small : isSmall word = true) :
    SameLetters word piece ↔ piece.map fold = word := by
  induction word generalizing piece with
  | nil => simp [SameLetters]
  | cons letter word ih =>
      simp only [isSmall, List.all_cons, Bool.and_eq_true, decide_eq_true_eq, beq_iff_eq] at small
      obtain ⟨⟨ascii, same⟩, rest⟩ := small
      cases piece with
      | nil => simp [SameLetters]
      | cons c piece =>
          rw [SameLetters, List.forall₂_cons, sameLetter_iff ascii same, List.map_cons,
            List.cons.injEq]
          exact and_congr_right fun _ => ih rest

/-- A pattern that begins with a word occurs only where a form of the word does. -/
theorem word_of_occursIn_sequence {text : String} {ps : List Pattern} {s : List Char}
    (occurs : (sequence (.word text :: ps)).occursIn s = true) :
    ∃ piece, SameLetters text.toList piece ∧ piece <:+: s := by
  obtain ⟨before, _, rest, rfl, found⟩ := occursIn_iff.mp occurs
  cases found with
  | @seq _ _ left right _ first _ =>
      refine ⟨left, matches_word first, before, right ++ rest, ?_⟩
      simp only [List.append_assoc]

theorem word_of_occursIn {text : String} {s : List Char}
    (occurs : (word text).occursIn s = true) :
    ∃ piece, SameLetters text.toList piece ∧ piece <:+: s := by
  obtain ⟨before, piece, rest, rfl, found⟩ := occursIn_iff.mp occurs
  exact ⟨piece, matches_word found, before, rest, rfl⟩

/-- Whether the pattern begins with one character, and with another one than `c`. -/
def refuses (c : Char) : Pattern → Bool
  | .one accepts => !accepts c
  | .seq first _ => first.refuses c
  | _ => false

theorem run_of_refuses {p : Pattern} {c : Char} (refused : p.refuses c = true)
    (next : List Char → Bool) (s : List Char) : p.run next (c :: s) = false := by
  induction p generalizing next with
  | one accepts =>
      rw [refuses, Bool.not_eq_true'] at refused
      rw [run, refused, Bool.false_and]
  | seq first second ihFirst _ => exact ihFirst refused (second.run next)
  | many | maybe | notBefore | textEnd | nothing => contradiction

theorem occursIn_cons_of_refuses {p : Pattern} {c : Char} (refused : p.refuses c = true)
    (s : List Char) : p.occursIn (c :: s) = p.occursIn s := by
  rw [occursIn, startsHere, run_of_refuses refused, Bool.false_or]

end EnergyAudit.Pattern
