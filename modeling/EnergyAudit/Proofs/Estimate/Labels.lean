import EnergyAudit.Estimate.Quantization
import EnergyAudit.Proofs.Json.Fields
import EnergyAudit.Proofs.Text.Padding
import EnergyAudit.Proofs.Text.SmallForms
import Mathlib.Data.List.Forall2

/-! # Labels of quantization schemes

The normal form of a label is its own normal form, so a scheme is read back from its label.  Labels
that differ in the blanks around them, in the case of ASCII letters, or in hyphens for underscores
have one normal form and name the same scheme.  A scheme keeps its label, or the normal form of a
label that is no name of a scheme with measurements. -/

namespace EnergyAudit.Quantization

open Text

theorem isTrimmed_normalForm (label : List Char) : IsTrimmed (normalForm label) := by
  apply (isTrimmed_trim label).lower.map
  intro c visible
  split
  · decide
  · exact visible

theorem isSettled_of_mem_normalForm {label : List Char} {c : Char}
    (member : c ∈ normalForm label) : IsSettled c := by
  obtain ⟨source, found, rfl⟩ := List.mem_map.mp member
  split
  · exact ⟨by decide, by decide⟩
  · exact isSettled_of_mem_lowerAfter found

theorem normalForm_normalForm (label : List Char) :
    normalForm (normalForm label) = normalForm label := by
  have small : lower (normalForm label) = normalForm label :=
    lowerAfter_of_settled false fun c member => isSettled_of_mem_normalForm member
  rw [normalForm, (isTrimmed_normalForm label).trim_eq, small]
  conv_lhs => rw [normalForm]
  conv_rhs => rw [normalForm]
  rw [List.map_map]
  apply List.map_congr_left
  intro c _
  by_cases hyphen : c = '-'
  · simp [hyphen]
  · simp [hyphen]

/-- A scheme has the normal form for its label, unless that is the short name of a scheme. -/
theorem label_ofNormalForm (form : String) :
    (ofNormalForm form).label = form ∨ form = "int8" := by
  unfold ofNormalForm
  split
  case h_4 => exact .inr rfl
  all_goals exact .inl rfl

/-- A scheme is read back from its label. -/
theorem ofLabel_label_ofLabel (label : String) : ofLabel (ofLabel label).label = ofLabel label := by
  generalize form : String.ofList (normalForm label.toList) = normal
  have again : String.ofList (normalForm normal.toList) = normal := by
    rw [← form, String.toList_ofList, normalForm_normalForm]
  unfold ofLabel
  rw [form]
  rcases label_ofNormalForm normal with same | rfl
  · rw [same, again]
  · decide +kernel

/-! ## Spellings of a character -/

/-- The same character, but for the case of an ASCII letter or a hyphen for an underscore. -/
def Interchangeable (c d : Char) : Prop :=
  c.toLower = d.toLower ∨ c ∈ ['-', '_'] ∧ d ∈ ['-', '_']

instance (c d : Char) : Decidable (Interchangeable c d) := inferInstanceAs (Decidable (_ ∨ _))

/-- An underscore for a hyphen. -/
def underscored (c : Char) : Char := if c == '-' then '_' else c

/-- What the normal form of a label takes from a character, and what it lets the others know. -/
structure ReadAlike (c d : Char) : Prop where
  form : underscored (lowerChar c) = underscored (lowerChar d)
  ignorable : isCaseIgnorable c = isCaseIgnorable d
  cased : isCased c = isCased d
  blank : isBlank c = isBlank d
  sigma : (c == 'Σ') = (d == 'Σ')
  dotted : (c == 'İ') = (d == 'İ')

theorem ReadAlike.refl (c : Char) : ReadAlike c c := ⟨rfl, rfl, rfl, rfl, rfl, rfl⟩

theorem ReadAlike.symm {c d : Char} (alike : ReadAlike c d) : ReadAlike d c :=
  ⟨alike.form.symm, alike.ignorable.symm, alike.cased.symm, alike.blank.symm, alike.sigma.symm,
    alike.dotted.symm⟩

theorem ReadAlike.trans {c d e : Char} (first : ReadAlike c d) (second : ReadAlike d e) :
    ReadAlike c e :=
  ⟨first.form.trans second.form, first.ignorable.trans second.ignorable,
    first.cased.trans second.cased, first.blank.trans second.blank,
    first.sigma.trans second.sigma, first.dotted.trans second.dotted⟩

theorem toLower_ascii : ∀ n < 0x80,
    lowerChar (Char.ofNat n).toLower = lowerChar (Char.ofNat n) ∧
      isCaseIgnorable (Char.ofNat n).toLower = isCaseIgnorable (Char.ofNat n) ∧
      isCased (Char.ofNat n).toLower = isCased (Char.ofNat n) ∧
      isBlank (Char.ofNat n).toLower = isBlank (Char.ofNat n) := by
  decide +kernel

theorem toLower_of_large {c : Char} (large : ¬ c.toNat < 0x80) : c.toLower = c := by
  delta Char.toLower
  split
  · rename_i capital
    have last : c.toNat ≤ 'Z'.toNat := capital.2
    have : 'Z'.toNat = 90 := rfl
    omega
  · rfl

theorem beq_of_ascii {c d : Char} (ascii : c.toNat < 0x80) (large : ¬ d.toNat < 0x80) :
    (c == d) = false := by
  rw [beq_eq_false_iff_ne]
  rintro rfl
  exact large ascii

theorem readAlike_toLower (c : Char) : ReadAlike c.toLower c := by
  by_cases ascii : c.toNat < 0x80
  · have facts := toLower_ascii c.toNat ascii
    have below := (toLower_settled c.toNat ascii).1
    rw [Char.ofNat_toNat] at facts below
    obtain ⟨form, ignorable, cased, blank⟩ := facts
    have sigma : ¬ 'Σ'.toNat < 0x80 := by decide
    have dotted : ¬ 'İ'.toNat < 0x80 := by decide
    exact {
      form := congrArg underscored form
      ignorable
      cased
      blank
      sigma := (beq_of_ascii below sigma).trans (beq_of_ascii ascii sigma).symm
      dotted := (beq_of_ascii below dotted).trans (beq_of_ascii ascii dotted).symm }
  · rw [toLower_of_large ascii]
    exact .refl c

theorem readAlike_dashes : ReadAlike '-' '_' :=
  ⟨by decide, by decide, by decide, by decide, by decide, by decide⟩

theorem Interchangeable.readAlike {c d : Char} (same : Interchangeable c d) : ReadAlike c d := by
  rcases same with small | ⟨first, second⟩
  · have lower := readAlike_toLower c
    rw [small] at lower
    exact lower.symm.trans (readAlike_toLower d)
  · simp only [List.mem_cons, List.not_mem_nil, or_false] at first second
    rcases first with rfl | rfl <;> rcases second with rfl | rfl
    · exact .refl _
    · exact readAlike_dashes
    · exact readAlike_dashes.symm
    · exact .refl _

/-! ## Spellings of a text -/

/-- Texts of characters that are read alike. -/
abbrev TextsAlike (a b : List Char) : Prop := List.Forall₂ ReadAlike a b

variable {a b : List Char}

theorem TextsAlike.trimStart (alike : TextsAlike a b) : TextsAlike (trimStart a) (trimStart b) := by
  induction alike with
  | nil => exact .nil
  | @cons c d a b first others ih =>
      unfold Text.trimStart at ih ⊢
      rw [List.dropWhile_cons, List.dropWhile_cons, first.blank]
      split
      · exact ih
      · exact .cons first others

theorem TextsAlike.trim (alike : TextsAlike a b) : TextsAlike (trim a) (trim b) := by
  have turned := TextsAlike.trimStart (List.forall₂_reverse_iff.mpr alike.trimStart)
  exact List.forall₂_reverse_iff.mpr turned

theorem TextsAlike.nextIsCased (alike : TextsAlike a b) : nextIsCased a = nextIsCased b := by
  induction alike with
  | nil => rfl
  | cons first _ ih => rw [Text.nextIsCased, Text.nextIsCased, first.ignorable, first.cased, ih]

/-- The small forms of texts that are read alike differ in hyphens and underscores at most. -/
theorem TextsAlike.lowerAfter (alike : TextsAlike a b) (afterCased : Bool) :
    (lowerAfter afterCased a).map underscored = (lowerAfter afterCased b).map underscored := by
  induction alike generalizing afterCased with
  | nil => rfl
  | @cons c d a b first others ih =>
      have next : Text.nextIsCased a = Text.nextIsCased b := TextsAlike.nextIsCased others
      simp only [Text.lowerAfter, List.map_append, first.ignorable, first.cased, first.sigma,
        first.dotted, next, ih]
      congr 1
      split
      · rfl
      · split
        · rfl
        · rw [List.map_singleton, List.map_singleton, first.form]

/-! ## Spellings of a label -/

/-- Labels that differ in nothing but blanks around them and interchangeable characters. -/
inductive SpelledAlike : List Char → List Char → Prop
  | intro {a b core other : List Char} (first : Padded core a) (second : Padded other b)
      (same : List.Forall₂ Interchangeable core other) : SpelledAlike a b

theorem SpelledAlike.normalForm_eq (alike : SpelledAlike a b) : normalForm a = normalForm b := by
  obtain ⟨first, second, same⟩ := alike
  have trimmed := TextsAlike.trim (same.imp fun _ _ => Interchangeable.readAlike)
  rw [← first.trim_eq, ← second.trim_eq] at trimmed
  exact trimmed.lowerAfter false

/-- The normal forms of labels that name schemes with measurements. -/
def measuredNames : List String := ["fp16", "nf4", "int8_default", "int8", "int8_pure"]

theorem ofNormalForm_eq_other_iff {form label : String} :
    ofNormalForm form = .other label ↔ form = label ∧ label ∉ measuredNames := by
  unfold ofNormalForm measuredNames
  split
  case h_6 fp16 nf4 int8Default int8 int8Pure =>
    constructor
    · intro same
      obtain rfl := Quantization.other.inj same
      simp only [List.mem_cons, List.not_mem_nil, or_false, true_and]
      rintro (same | same | same | same | same)
      · exact fp16 same
      · exact nf4 same
      · exact int8Default same
      · exact int8 same
      · exact int8Pure same
    · rintro ⟨rfl, -⟩
      rfl
  all_goals
    refine ⟨nofun, ?_⟩
    rintro ⟨rfl, unnamed⟩
    exact absurd (by decide) unnamed

/-- A label is kept exactly if it is its own normal form and no name of a scheme with
measurements. -/
theorem exists_ofLabel_eq_other_iff {kept : String} :
    (∃ label, ofLabel label = .other kept) ↔
      normalForm kept.toList = kept.toList ∧ kept ∉ measuredNames := by
  constructor
  · rintro ⟨label, same⟩
    obtain ⟨rfl, unnamed⟩ := ofNormalForm_eq_other_iff.mp same
    exact ⟨by rw [String.toList_ofList, normalForm_normalForm], unnamed⟩
  · rintro ⟨normal, unnamed⟩
    refine ⟨kept, ofNormalForm_eq_other_iff.mpr ⟨?_, unnamed⟩⟩
    rw [normal, String.ofList_toList]

theorem ofJson?_toJson_ofLabel (label : String) :
    ofJson? (ofLabel label).toJson = some (ofLabel label) :=
  congrArg some (ofLabel_label_ofLabel label)

/-- What is decoded is the scheme of some label. -/
theorem exists_label_of_ofJson? {value : Json} {scheme : Quantization}
    (decoded : ofJson? value = some scheme) : ∃ label, ofLabel label = scheme := by
  obtain ⟨label, -, same⟩ := Option.map_eq_some_iff.mp decoded
  exact ⟨label, same⟩

/-- Labels are brought to their normal form once.  A scheme of any label, from wherever it was read,
is read back from its own label and from its text; the spelling of the label does not matter; and
the labels that are kept are the normal forms without measurements. -/
theorem ofLabel_normalizes :
    (∀ label, ofLabel (ofLabel label).label = ofLabel label ∧
      (Json.parse? (ofLabel label).toJson.render).bind ofJson? = some (ofLabel label)) ∧
    (∀ value scheme, ofJson? value = some scheme →
      (Json.parse? scheme.toJson.render).bind ofJson? = some scheme) ∧
    (∀ a b : String, SpelledAlike a.toList b.toList → ofLabel a = ofLabel b) ∧
    ∀ kept, (∃ label, ofLabel label = .other kept) ↔
      normalForm kept.toList = kept.toList ∧ kept ∉ measuredNames := by
  have readBack (label : String) :
      (Json.parse? (ofLabel label).toJson.render).bind ofJson? = some (ofLabel label) :=
    Json.decode_render trivial (ofJson?_toJson_ofLabel label)
  refine ⟨fun label => ⟨ofLabel_label_ofLabel label, readBack label⟩, ?_, ?_,
    fun kept => exists_ofLabel_eq_other_iff⟩
  · intro value scheme decoded
    obtain ⟨label, rfl⟩ := exists_label_of_ofJson? decoded
    exact readBack label
  · intro a b alike
    rw [ofLabel, ofLabel, alike.normalForm_eq]

/-- A short name in capitals with blanks around it, and a label with a capital sigma at the end of a
word, which has to take its final form. -/
theorem ofLabel_normalizes_of_spellings :
    SpelledAlike " INT8-Pure\t".toList "int8_PURE".toList ∧
      ofLabel " INT8-Pure\t" = ofLabel "int8_PURE" ∧
      (Json.parse? (toJson .int8Pure).render).bind ofJson? = some .int8Pure ∧
      ofLabel (ofLabel "ΟΔΟΣ-Q4").label = ofLabel "ΟΔΟΣ-Q4" := by
  obtain ⟨readBack, decoded, spelled, _⟩ := ofLabel_normalizes
  have alike : SpelledAlike " INT8-Pure\t".toList "int8_PURE".toList := by
    refine @SpelledAlike.intro _ _ "INT8-Pure".toList "int8_PURE".toList ?_ ?_ ?_
    · exact @Padded.intro _ [' '] ['\t'] (List.forall_mem_singleton.mpr rfl)
        (List.forall_mem_singleton.mpr rfl)
    · exact @Padded.intro _ [] [] nofun nofun
    · decide +kernel
  exact ⟨alike, spelled _ _ alike, decoded (.str "int8_pure") .int8Pure (by decide +kernel),
    (readBack "ΟΔΟΣ-Q4").1⟩

end EnergyAudit.Quantization
