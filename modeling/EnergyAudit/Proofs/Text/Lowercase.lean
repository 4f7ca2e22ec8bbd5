import EnergyAudit.Text.Lowercase
import EnergyAudit.Proofs.Pattern.Words

/-! # Small forms of ASCII words

Lowercasing looks at what stands around a capital sigma, and lets a capital I with a dot grow.
Neither touches a word whose letters are ASCII letters in either case: wherever it stands in a text,
its small form stands in the small form of the text.  The one letter that this does not hold of is
s, since the long s counts as a form of it and is a small letter already. -/

namespace EnergyAudit.Text

/-- The small form of a text goes on, after some start, as that of its end does. -/
theorem lowerAfter_append (afterCased : Bool) (before s : List Char) :
    ∃ start cased, lowerAfter afterCased (before ++ s) = start ++ lowerAfter cased s := by
  induction before generalizing afterCased with
  | nil => exact ⟨[], afterCased, rfl⟩
  | cons c before ih =>
      obtain ⟨start, cased, rest⟩ := ih (if isCaseIgnorable c then afterCased else isCased c)
      simp only [List.cons_append, lowerAfter]
      rw [rest, ← List.append_assoc]
      exact ⟨_, cased, rfl⟩

theorem toNat_lt_of_toLower {c letter : Char} (ascii : letter.toNat < 0x80)
    (same : c.toLower = letter.toLower) : c.toNat < 0x80 := by
  have capital : c.toLower.toNat < 0x80 := by
    rw [same]
    delta Char.toLower
    split
    · rename_i bounds
      have high : letter.toNat ≤ 'Z'.toNat := bounds.2
      simp only [Char.toNat, UInt32.toNat_add] at high ⊢
      have := Nat.mod_le (letter.val.toNat + ('a'.val - 'A'.val).toNat) (2 ^ 32)
      have : 'Z'.val.toNat = 90 := rfl
      have : ('a'.val - 'A'.val).toNat = 32 := rfl
      omega
    · exact ascii
  delta Char.toLower at capital
  split at capital
  · rename_i bounds
    have high : c.toNat ≤ 'Z'.toNat := bounds.2
    have : 'Z'.toNat = 90 := rfl
    omega
  · exact capital

/-- A form of an ASCII letter other than s has the small form of the letter. -/
theorem lowerAfter_sameLetter {letter c : Char} (ascii : letter.toNat < 0x80)
    (other : letter.toLower ≠ 's') (same : Pattern.sameLetter letter c = true)
    (afterCased : Bool) (s : List Char) :
    ∃ cased, lowerAfter afterCased (c :: s) = letter.toLower :: lowerAfter cased s := by
  have forms : c.toLower = letter.toLower ∨ c = '\u212a' ∧ letter.toLower = 'k' := by
    simpa [Pattern.sameLetter, other] using same
  have small : lowerChar c = letter.toLower ∧ c ≠ 'Σ' ∧ c ≠ 'İ' := by
    rcases forms with same | ⟨rfl, kelvin⟩
    · have low := toNat_lt_of_toLower ascii same
      refine ⟨by simp [lowerChar, low, same], ?_, ?_⟩
      all_goals
        rintro rfl
        exact absurd low (by decide)
    · exact ⟨kelvin ▸ by decide, by decide, by decide⟩
  obtain ⟨small, noSigma, noDot⟩ := small
  simp only [lowerAfter, beq_eq_false_iff_ne.mpr noSigma, beq_eq_false_iff_ne.mpr noDot, small,
    Bool.false_eq_true, if_false, List.singleton_append]
  exact ⟨_, rfl⟩

/-- Forms of the letters of a word have the small form of the word. -/
theorem lowerAfter_word {word piece : List Char} (ascii : ∀ letter ∈ word, letter.toNat < 0x80)
    (other : ∀ letter ∈ word, letter.toLower ≠ 's')
    (same : Pattern.SameLetters word piece)
    (afterCased : Bool) (s : List Char) :
    ∃ cased, lowerAfter afterCased (piece ++ s) = word.map Char.toLower ++ lowerAfter cased s := by
  induction same generalizing afterCased with
  | nil => exact ⟨afterCased, rfl⟩
  | @cons letter c word piece first _ ih =>
      simp only [List.forall_mem_cons] at ascii other
      obtain ⟨cased, head⟩ := lowerAfter_sameLetter ascii.1 other.1 first afterCased (piece ++ s)
      obtain ⟨cased, tail⟩ := ih ascii.2 other.2 cased
      exact ⟨cased, by simp only [List.cons_append, head, tail, List.map_cons]⟩

/-- Where a text has a word in any mixture of case, its small form has the small form of the
word. -/
theorem word_infix_lower {word piece s : List Char}
    (ascii : ∀ letter ∈ word, letter.toNat < 0x80)
    (other : ∀ letter ∈ word, letter.toLower ≠ 's')
    (same : Pattern.SameLetters word piece)
    (inside : piece <:+: s) : word.map Char.toLower <:+: lower s := by
  obtain ⟨before, after, rfl⟩ := inside
  obtain ⟨start, cased, first⟩ := lowerAfter_append false before (piece ++ after)
  obtain ⟨_, second⟩ := lowerAfter_word ascii other same cased after
  rw [lower, List.append_assoc, first, second, ← List.append_assoc]
  exact ⟨start, _, rfl⟩

end EnergyAudit.Text
