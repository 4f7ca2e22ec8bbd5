import EnergyAudit.Proofs.Rule.FirstLine
import EnergyAudit.Proofs.Rule.Flags
import EnergyAudit.Proofs.Text.Lowercase

/-! # Which load is not placed

A loading call is not placed if no line within five lines of it has an argument for the device, and
it is not the call of a tokenizer.  The scan of a source finds the first such call. -/

namespace EnergyAudit.Rule

/-- The line of the number calls for a model to be loaded, in its code, and no line within five
lines of it has an argument for the device, not even in a comment. -/
structure IsUnplaced (lines : List (List Char)) (number : Nat) (line : List Char) : Prop where
  atLine : LineAt lines number line
  loads : Precedes "from_pretrained" "(" (code line)
  placeless : ∀ other near, LineAt lines other near → other ≤ number + 5 → number ≤ other + 5 →
    ¬ Precedes "device_map" "=" near
  noTokenizer : ¬ "tokenizer".toList <:+: Text.lower line

/-- The line of the number is one that loads a model without placing it. -/
def UnplacedAt (lines : List (List Char)) (number : Nat) : Prop :=
  ∃ line, IsUnplaced lines number line

variable {lines : List (List Char)} {line near : List Char} {index number : Nat}

theorem occursIn_loadingCall_iff {s : List Char} :
    loadingCall.occursIn s = true ↔ Precedes "from_pretrained" "(" s :=
  occursIn_precedes_iff (by decide)

theorem occursIn_deviceArgument_iff {s : List Char} :
    deviceArgument.occursIn s = true ↔ Precedes "device_map" "=" s :=
  occursIn_precedes_iff (by decide)

/-! ## The lines within reach -/

/-- The bounds of the lines within reach are in order and do not go beyond the last line. -/
theorem nearby_bounds (within : index < lines.length) :
    index - contextLines ≤ min (index + contextLines + 1) lines.length ∧
      min (index + contextLines + 1) lines.length ≤ lines.length := by
  omega

theorem getElem?_nearbyLines (within : index < lines.length) (place : Nat) :
    (nearbyLines lines index)[place]? =
      if place + (index - 5) ≤ index + 5 then lines[place + (index - 5)]? else none := by
  have five : contextLines = 5 := rfl
  simp only [nearbyLines, List.getElem?_take, List.getElem?_drop, five, Nat.add_comm place]
  by_cases reached : index - 5 + place ≤ index + 5
  · rw [if_pos reached]
    split
    · rfl
    · rw [List.getElem?_eq_none (by omega)]
  · rw [if_neg reached, if_neg (by omega)]

theorem mem_nearbyLines_iff (within : index < lines.length) : near ∈ nearbyLines lines index ↔
    ∃ other, lines[other]? = some near ∧ other ≤ index + 5 ∧ index ≤ other + 5 := by
  simp only [List.mem_iff_getElem?, getElem?_nearbyLines within]
  constructor
  · rintro ⟨place, found⟩
    split at found
    · exact ⟨_, found, by omega, by omega⟩
    · exact nomatch found
  · rintro ⟨other, found, below, above⟩
    refine ⟨other - (index - 5), ?_⟩
    rw [Nat.sub_add_cancel (by omega), if_pos below, found]

/-- The lines out of reach stand above and below those within reach. -/
theorem exists_append_nearbyLines (within : index < lines.length) :
    ∃ above below, lines = above ++ (nearbyLines lines index ++ below) ∧
      above.length = index - 5 ∧ below.length = lines.length - (index + 6) := by
  have five : contextLines = 5 := rfl
  have last : min (index + 6) lines.length =
      index - 5 + (min (index + 5 + 1) lines.length - (index - 5)) := by omega
  refine ⟨lines.take (index - 5), lines.drop (min (index + 6) lines.length), ?_, ?_, ?_⟩
  · have reached := List.take_append_drop (min (index + 5 + 1) lines.length - (index - 5))
      (lines.drop (index - 5))
    rw [List.drop_drop, ← last] at reached
    rw [nearbyLines, five, reached, List.take_append_drop]
  · rw [List.length_take]
    omega
  · rw [List.length_drop]
    omega

/-! ## Tokenizers -/

/-- The word with a capital letter is found in the small form of the line as well. -/
theorem contains_lower_of_capital (capital : Text.contains "Tokenizer".toList line = true) :
    Text.contains "tokenizer".toList (Text.lower line) = true := by
  have plain : "Tokenizer".toList.all
      (fun letter => letter.toNat < 0x80 && letter.toLower != 's') = true := by decide
  have small : "Tokenizer".toList.map Char.toLower = "tokenizer".toList := by decide
  have same : Pattern.SameLetters "Tokenizer".toList "Tokenizer".toList :=
    List.forall₂_same.mpr fun letter _ => by simp [Pattern.sameLetter]
  have letters : ∀ letter ∈ "Tokenizer".toList, letter.toNat < 0x80 ∧ letter.toLower ≠ 's' := by
    intro letter member
    simpa using List.all_eq_true.mp plain letter member
  rw [Text.contains_iff, ← small]
  exact Text.word_infix_lower (fun letter member => (letters letter member).1)
    (fun letter member => (letters letter member).2) same (Text.contains_iff.mp capital)

theorem mentionsTokenizer_eq (line : List Char) :
    mentionsTokenizer line = Text.contains "tokenizer".toList (Text.lower line) := by
  rw [mentionsTokenizer, Bool.or_eq_left_iff_imp]
  exact contains_lower_of_capital

/-! ## The first load that is not placed -/

theorem placeless_iff (within : index < lines.length) :
    (!(nearbyLines lines index).any deviceArgument.occursIn) = true ↔
      ∀ other near, LineAt lines other near → other ≤ index + 1 + 5 → index + 1 ≤ other + 5 →
        ¬ Precedes "device_map" "=" near := by
  simp only [Bool.not_eq_true', List.any_eq_false, mem_nearbyLines_iff within,
    occursIn_deviceArgument_iff]
  constructor
  · rintro placeless _ near ⟨other, rfl, found⟩ below above
    exact placeless near ⟨other, found, by omega, by omega⟩
  · rintro placeless near ⟨other, found, below, above⟩
    exact placeless (other + 1) near (lineAt_succ_iff.mpr found) (by omega) (by omega)

theorem isUnplacedLoad_iff (atIndex : lines[index]? = some line) :
    isUnplacedLoad lines line index = true ↔ IsUnplaced lines (index + 1) line := by
  obtain ⟨within, -⟩ := List.getElem?_eq_some_iff.mp atIndex
  have noTokenizer : (!mentionsTokenizer line) = true ↔
      ¬ "tokenizer".toList <:+: Text.lower line := by
    rw [mentionsTokenizer_eq, Bool.not_eq_true', ← Bool.not_eq_true, Text.contains_iff]
  rw [isUnplacedLoad, Bool.and_eq_true, Bool.and_eq_true, occursIn_loadingCall_iff,
    placeless_iff within, noTokenizer]
  constructor
  · rintro ⟨⟨loads, placeless⟩, noTokenizer⟩
    exact ⟨lineAt_succ_iff.mpr atIndex, loads, placeless, noTokenizer⟩
  · rintro ⟨-, loads, placeless, noTokenizer⟩
    exact ⟨⟨loads, placeless⟩, noTokenizer⟩

theorem unplacedLoad?_iff (source : List Char) :
    (∀ number, unplacedLoad? source = some number ↔
        IsLeast {number | UnplacedAt (Text.lines source) number} number) ∧
      (unplacedLoad? source = none ↔ ∀ number, ¬ UnplacedAt (Text.lines source) number) := by
  refine search_iff (fun number found => ?_) (fun missed number => ?_)
  · obtain ⟨⟨line, index⟩, first, rfl⟩ := Option.map_eq_some_iff.mp found
    obtain ⟨unplaced, place, within, same, earlier⟩ := List.find?_eq_some_iff_getElem.mp first
    rw [List.getElem_zipIdx, Nat.zero_add] at same
    obtain ⟨rfl, rfl⟩ := Prod.mk.inj same
    rw [List.length_zipIdx] at within
    refine ⟨⟨_, (isUnplacedLoad_iff (List.getElem?_eq_getElem within)).mp unplaced⟩, ?_⟩
    rintro _ ⟨line, isUnplaced⟩
    obtain ⟨other, rfl, atOther⟩ := isUnplaced.atLine
    by_contra above
    obtain ⟨otherWithin, rfl⟩ := List.getElem?_eq_some_iff.mp atOther
    have placed := earlier other (by omega)
    simp only [List.getElem_zipIdx, Nat.zero_add, (isUnplacedLoad_iff atOther).mpr isUnplaced,
      Bool.not_true, Bool.false_eq_true] at placed
  · rintro ⟨line, isUnplaced⟩
    obtain ⟨index, rfl, atIndex⟩ := isUnplaced.atLine
    have placed := List.find?_eq_none.mp (Option.map_eq_none_iff.mp missed) (line, index)
      (List.mk_mem_zipIdx_iff_getElem?.mpr atIndex)
    exact placed ((isUnplacedLoad_iff atIndex).mpr isUnplaced)

/-- The scan gives the number of the first line that loads a model without placing it, and none
exactly if no line does; the rule reports that line and nothing else.  The lines searched for a
device are the five on either side, as far as there are such, and the capital letter of a tokenizer
makes no difference. -/
theorem unplacedLoad?_finds_first (source : List Char) :
    (∀ number, unplacedLoad? source = some number ↔
        IsLeast {number | UnplacedAt (Text.lines source) number} number) ∧
      (unplacedLoad? source = none ↔ ∀ number, ¬ UnplacedAt (Text.lines source) number) ∧
      (∀ file,
        (∀ number, IsLeast {number | UnplacedAt (Text.lines source) number} number →
          missingDeviceMap.ReportsAt source file number) ∧
        ((∀ number, ¬ UnplacedAt (Text.lines source) number) →
          missingDeviceMap.check source file = [])) ∧
      (∀ (lines : List (List Char)) (index : Nat), index < lines.length →
        (index - contextLines ≤ min (index + contextLines + 1) lines.length ∧
          min (index + contextLines + 1) lines.length ≤ lines.length) ∧
        ∃ above below, lines = above ++ (nearbyLines lines index ++ below) ∧
          above.length = index - 5 ∧ below.length = lines.length - (index + 6)) ∧
      ∀ line, (Text.contains "tokenizer".toList (Text.lower line) ||
          Text.contains "Tokenizer".toList line) =
        Text.contains "tokenizer".toList (Text.lower line) := by
  obtain ⟨found, missed⟩ := unplacedLoad?_iff source
  refine ⟨found, missed, fun file => ⟨fun number first => ?_, fun placed => ?_⟩,
    fun lines index within => ⟨nearby_bounds within, exists_append_nearbyLines within⟩,
    mentionsTokenizer_eq⟩
  · exact reportsAt rfl (isLineOf_unplacedLoad? source) ((found number).mpr first)
  · rw [check, missed.mpr placed]
    rfl

/-- A tokenizer, a load with a device five lines below it, in a comment, and a load six lines below
that comment. -/
def threeLoads : String :=
  "t = AutoTokenizer.from_pretrained(n)\nm = A.FROM_PRETRAINED (n)\n\n\n\n\n# device_map=0\n\n"
    ++ "\n\n\n\nm = B.from_pretrained(n)\n"

theorem reportsAt_threeLoads :
    IsLeast {number | UnplacedAt (Text.lines threeLoads.toList) number} 13 ∧
      missingDeviceMap.ReportsAt threeLoads.toList "run.py" 13 ∧
      12 < (Text.lines threeLoads.toList).length ∧
      (∃ above below, Text.lines threeLoads.toList =
          above ++ (nearbyLines (Text.lines threeLoads.toList) 12 ++ below) ∧
        above.length = 7 ∧ below.length = 0) ∧
      missingDeviceMap.check "m = from_pretrained(n, device_map=0)".toList "run.py" = [] := by
  have thirteenth : unplacedLoad? threeLoads.toList = some 13 := by decide +kernel
  have thirteen : (Text.lines threeLoads.toList).length = 13 := by decide +kernel
  have within : 12 < (Text.lines threeLoads.toList).length := thirteen ▸ Nat.lt_succ_self 12
  have placed : unplacedLoad? "m = from_pretrained(n, device_map=0)".toList = none := by
    decide +kernel
  obtain ⟨found, -, reports, window, -⟩ := unplacedLoad?_finds_first threeLoads.toList
  obtain ⟨-, missed, silent, -⟩ :=
    unplacedLoad?_finds_first "m = from_pretrained(n, device_map=0)".toList
  have first := (found 13).mp thirteenth
  obtain ⟨above, below, split, before, behind⟩ := (window _ 12 within).2
  rw [thirteen] at behind
  exact ⟨first, (reports "run.py").1 13 first, within, ⟨above, below, split, before, behind⟩,
    (silent "run.py").2 (missed.mp placed)⟩

end EnergyAudit.Rule
