import EnergyAudit.Rule
import EnergyAudit.Proofs.Pattern.Pieces
import EnergyAudit.Proofs.Pattern.Words

/-! # What the patterns of the rules stand for

Each pattern is read as a statement about the parts of the text that it is found in: which word
stands there, what separates it from a sign, and what may follow. -/

namespace EnergyAudit.Rule

open Pattern (fold isSmall)
open Text (isBlank isWord isDecimalDigit)

/-- The word stands in the text in any mixture of case, with nothing but blanks between it and the
sign. -/
inductive Precedes (word sign : String) : List Char → Prop where
  | intro {before name gap after : List Char} (named : name.map fold = word.toList)
      (gapBlank : ∀ c ∈ gap, isBlank c = true) :
      Precedes word sign (before ++ (name ++ (gap ++ (sign.toList ++ after))))

/-- The text gives the argument the value true: the name, an equals sign and the word, both in any
mixture of case, with nothing but blanks between them and no word character behind. -/
inductive Enables (argument : String) : List Char → Prop where
  | intro {before name gap gap' value after : List Char} (named : name.map fold = argument.toList)
      (gapBlank : ∀ c ∈ gap, isBlank c = true) (gapBlank' : ∀ c ∈ gap', isBlank c = true)
      (isTrue : value.map fold = "true".toList) (ends : ∀ c ∈ after.head?, isWord c = false) :
      Enables argument (before ++ (name ++ (gap ++ ("=".toList ++ (gap' ++ (value ++ after))))))

/-- What may stand behind the digit zero without making it another number: nothing, or a point and
any number of zeros. -/
inductive ZeroPlaces : List Char → Prop where
  | none : ZeroPlaces []
  | point {zeros : List Char} (all : ∀ c ∈ zeros, c = '0') : ZeroPlaces ('.' :: zeros)

/-- The text sets the outlier threshold to zero: the name in any mixture of case, an equals sign and
a zero, with nothing but blanks between them and neither a digit nor a point behind. -/
inductive SetsToZero : List Char → Prop where
  | intro {before name gap gap' places after : List Char}
      (named : name.map fold = "llm_int8_threshold".toList)
      (gapBlank : ∀ c ∈ gap, isBlank c = true) (gapBlank' : ∀ c ∈ gap', isBlank c = true)
      (zero : ZeroPlaces places)
      (ends : ∀ c ∈ after.head?, isDecimalDigit c = false ∧ c ≠ '.') :
      SetsToZero (before ++ (name ++ (gap ++ ("=".toList ++ (gap' ++
        ("0".toList ++ (places ++ after)))))))

variable {word sign argument : String} {s : List Char}

theorem occursIn_precedes_iff (small : isSmall word.toList = true) :
    (Pattern.sequence [.word word, .blanks, .exactly sign]).occursIn s = true ↔
      Precedes word sign s := by
  simp only [Pattern.occursIn_iff_startsHere, Pattern.startsHere_sequence_cons,
    Pattern.startsHere_sequence_nil, Pattern.matches_word_iff, Pattern.sameLetters_iff small,
    Pattern.blanks, Pattern.matches_many_iff, Pattern.matches_exactly_iff, and_true]
  constructor
  · rintro ⟨before, _, rfl, name, _, rfl, named, gap, _, rfl, gapBlank, _, after, rfl, rfl⟩
    exact .intro named gapBlank
  · rintro ⟨named, gapBlank⟩
    exact ⟨_, _, rfl, _, _, rfl, named, _, _, rfl, gapBlank, _, _, rfl, rfl⟩

theorem occursIn_enabled_iff (small : isSmall argument.toList = true) :
    (enabled argument).occursIn s = true ↔ Enables argument s := by
  simp only [enabled, Pattern.occursIn_iff_startsHere, Pattern.startsHere_sequence_cons,
    Pattern.startsHere_sequence_nil, Pattern.matches_word_iff, Pattern.sameLetters_iff small,
    Pattern.sameLetters_iff (show isSmall "true".toList = true by decide), Pattern.blanks,
    Pattern.matches_many_iff, Pattern.matches_exactly_iff, Pattern.matches_notBefore_iff, and_true]
  constructor
  · rintro ⟨before, _, rfl, name, _, rfl, named, gap, _, rfl, gapBlank, _, _, rfl, rfl,
      gap', _, rfl, gapBlank', value, _, rfl, isTrue, _, after, rfl, rfl, ends⟩
    exact .intro named gapBlank gapBlank' isTrue ends
  · rintro ⟨named, gapBlank, gapBlank', isTrue, ends⟩
    exact ⟨_, _, rfl, _, _, rfl, named, _, _, rfl, gapBlank, _, _, rfl, rfl, _, _, rfl, gapBlank',
      _, _, rfl, isTrue, [], _, rfl, rfl, ends⟩

theorem matches_zeroPlaces_iff {piece rest : List Char} :
    (Pattern.maybe (.seq (.exactly ".") (.many (· == '0')))).Matches piece rest ↔
      ZeroPlaces piece := by
  simp only [Pattern.matches_maybe_iff, Pattern.matches_seq_iff, Pattern.matches_exactly_iff,
    Pattern.matches_many_iff, beq_iff_eq]
  constructor
  · rintro (⟨_, zeros, rfl, all, rfl⟩ | rfl)
    · exact .point all
    · exact .none
  · rintro (_ | all)
    · exact .inr rfl
    · exact .inl ⟨_, _, rfl, all, rfl⟩

theorem occursIn_zeroThreshold_iff : zeroThreshold.occursIn s = true ↔ SetsToZero s := by
  have small : isSmall "llm_int8_threshold".toList = true := by decide
  simp only [zeroThreshold, Pattern.occursIn_iff_startsHere, Pattern.startsHere_sequence_cons,
    Pattern.startsHere_sequence_nil, Pattern.matches_word_iff, Pattern.sameLetters_iff small,
    Pattern.blanks, Pattern.matches_many_iff, Pattern.matches_exactly_iff,
    Pattern.matches_notBefore_iff, matches_zeroPlaces_iff, Bool.or_eq_false_iff,
    beq_eq_false_iff_ne, and_true]
  constructor
  · rintro ⟨before, _, rfl, name, _, rfl, named, gap, _, rfl, gapBlank, _, _, rfl, rfl,
      gap', _, rfl, gapBlank', _, _, rfl, rfl, places, _, rfl, zero, _, after, rfl, rfl, ends⟩
    exact .intro named gapBlank gapBlank' zero ends
  · rintro ⟨named, gapBlank, gapBlank', zero, ends⟩
    exact ⟨_, _, rfl, _, _, rfl, named, _, _, rfl, gapBlank, _, _, rfl, rfl, _, _, rfl, gapBlank',
      _, _, rfl, rfl, _, _, rfl, zero, [], _, rfl, rfl, ends⟩

theorem occursIn_eightBitFlag_iff :
    eightBitFlag.occursIn s = true ↔ Enables "load_in_8bit" s :=
  occursIn_enabled_iff (by decide)

theorem occursIn_fourBitFlag_iff : fourBitFlag.occursIn s = true ↔ Enables "load_in_4bit" s :=
  occursIn_enabled_iff (by decide)

end EnergyAudit.Rule
