import EnergyAudit.Proofs.Text.Lowercase
import EnergyAudit.Text.Blank

/-! # Small forms stay small

What lowercasing yields it leaves alone: no capital is among the small forms of the table, and none
of the forms that a capital sigma and a capital I with a dot take is one.  Nor is a small form a
blank, unless the character itself is one. -/

namespace EnergyAudit.Text

/-! ## The table -/

def CaseRow.formOf (row : CaseRow) (n : Nat) : Nat := Int.toNat (n + row.offset)

/-- The small forms of the capitals in the row. -/
def CaseRow.forms (row : CaseRow) : List Nat :=
  (List.range ((row.last - row.first) / row.step + 1)).map fun place =>
    row.formOf (row.first + row.step * place)

/-- Whether none of the row's small forms is a capital of the other row.  Most rows lie apart. -/
def CaseRow.isClearOf (row other : CaseRow) : Bool :=
  Nat.blt (row.formOf row.last) other.first || Nat.blt other.last (row.formOf row.first)
    || row.forms.all fun n => !other.holds n

/-- Whether the row's small forms are characters, no blanks, and not the capital I with a dot; and
small letters, where they are ASCII letters. -/
def CaseRow.isPlain (row : CaseRow) : Bool :=
  (Nat.blt (row.formOf row.last) 0xd800
      || Nat.blt 0xdfff (row.formOf row.first) && Nat.blt (row.formOf row.last) 0x110000)
    && (((0x130, 0x130) :: blankRanges).all fun range =>
      Nat.blt (row.formOf row.last) range.1 || Nat.blt range.2 (row.formOf row.first))
    && (Nat.ble 0x80 (row.formOf row.first)
      || row.forms.all fun n => (Char.ofNat n).toLower == Char.ofNat n)

theorem isClearOf_rows : (caseRows.all fun row => caseRows.all row.isClearOf) = true := by
  decide +kernel

theorem isPlain_rows : caseRows.all CaseRow.isPlain = true := by
  decide +kernel

variable {row other : CaseRow} {n : Nat}

theorem CaseRow.holds_iff :
    row.holds n = true ↔ row.first ≤ n ∧ n ≤ row.last ∧ (n - row.first) % row.step = 0 := by
  simp [holds, and_assoc]

theorem CaseRow.formOf_mem_forms (held : row.holds n = true) : row.formOf n ∈ row.forms := by
  obtain ⟨low, high, onStep⟩ := holds_iff.mp held
  have place : row.first + row.step * ((n - row.first) / row.step) = n := by
    rw [Nat.mul_div_cancel' (Nat.dvd_of_mod_eq_zero onStep)]
    omega
  refine List.mem_map.mpr ⟨(n - row.first) / row.step, List.mem_range.mpr ?_, by rw [place]⟩
  exact Nat.lt_succ_of_le (Nat.div_le_div_right (Nat.sub_le_sub_right high row.first))

theorem CaseRow.formOf_bounds (held : row.holds n = true) :
    row.formOf row.first ≤ row.formOf n ∧ row.formOf n ≤ row.formOf row.last := by
  obtain ⟨low, high, _⟩ := holds_iff.mp held
  unfold formOf
  omega

theorem not_holds_formOf (listed : row ∈ caseRows) (held : row.holds n = true)
    (otherListed : other ∈ caseRows) : other.holds (row.formOf n) = false := by
  have clear := List.all_eq_true.mp (List.all_eq_true.mp isClearOf_rows row listed) other
    otherListed
  obtain ⟨low, high⟩ := CaseRow.formOf_bounds held
  simp only [CaseRow.isClearOf, Bool.or_eq_true, Nat.blt_eq] at clear
  cases within : other.holds (row.formOf n) with
  | false => rfl
  | true =>
      obtain ⟨lowOther, highOther, _⟩ := CaseRow.holds_iff.mp within
      rcases clear with (below | above) | apart
      · omega
      · omega
      · have missing := List.all_eq_true.mp apart _ (CaseRow.formOf_mem_forms held)
        rw [within] at missing
        contradiction

/-! ## Characters -/

/-- Whether lowercasing leaves the character alone, wherever it stands. -/
structure IsSettled (c : Char) : Prop where
  small : lowerChar c = c
  noDot : c ≠ 'İ'

theorem IsSettled.noSigma {c : Char} (settled : IsSettled c) : c ≠ 'Σ' := by
  rintro rfl
  exact absurd settled.small (by decide)

/-- What the table says of a form in one of its rows. -/
theorem formOf_facts (listed : row ∈ caseRows) (held : row.holds n = true) :
    (row.formOf n).isValidChar ∧ row.formOf n ≠ 0x130 ∧
      inRanges blankRanges (row.formOf n) = false ∧
        (row.formOf n < 0x80 →
          (Char.ofNat (row.formOf n)).toLower = Char.ofNat (row.formOf n)) := by
  have plain := List.all_eq_true.mp isPlain_rows row listed
  obtain ⟨low, high⟩ := CaseRow.formOf_bounds held
  simp only [CaseRow.isPlain, Bool.and_eq_true, Bool.or_eq_true, Nat.blt_eq, Nat.ble_eq,
    List.all_cons] at plain
  obtain ⟨⟨valid, noDot, noBlank⟩, ascii⟩ := plain
  refine ⟨?_, ?_, ?_, ?_⟩
  · unfold Nat.isValidChar
    omega
  · omega
  · cases blank : inRanges blankRanges (row.formOf n) with
    | false => rfl
    | true =>
        obtain ⟨range, member, lower, upper⟩ := inRanges_iff.mp blank
        have apart := List.all_eq_true.mp noBlank range member
        simp only [Bool.or_eq_true, Nat.blt_eq] at apart
        omega
  · intro small
    rcases ascii with above | listedForms
    · omega
    · have same := List.all_eq_true.mp listedForms _ (CaseRow.formOf_mem_forms held)
      exact beq_iff_eq.mp same

theorem toLower_settled : ∀ n < 0x80,
    (Char.ofNat n).toLower.toNat < 0x80 ∧
      (Char.ofNat n).toLower.toLower = (Char.ofNat n).toLower ∧
      (isBlank (Char.ofNat n) = false → isBlank (Char.ofNat n).toLower = false) := by
  decide +kernel

theorem lowerChar_cases (c : Char) :
    (c.toNat < 0x80 ∧ lowerChar c = c.toLower) ∨
      (∃ row ∈ caseRows, row.holds c.toNat = true ∧
        lowerChar c = Char.ofNat (row.formOf c.toNat)) ∨
      lowerChar c = c := by
  unfold lowerChar
  split
  case isTrue ascii => exact .inl ⟨ascii, rfl⟩
  case isFalse =>
      cases found : caseRows.find? (·.holds c.toNat) with
      | none => exact .inr (.inr rfl)
      | some row =>
          have held := List.find?_some found
          exact .inr (.inl ⟨row, List.mem_of_find?_eq_some found, held, rfl⟩)

theorem lowerChar_of_not_holds {c : Char} (large : ¬ c.toNat < 0x80)
    (missing : ∀ row ∈ caseRows, row.holds c.toNat = false) : lowerChar c = c := by
  have nothing : caseRows.find? (·.holds c.toNat) = none := by
    rw [List.find?_eq_none]
    intro row listed
    rw [missing row listed]
    exact Bool.false_ne_true
  unfold lowerChar
  rw [if_neg large, nothing]

theorem toNat_ofNat_of_isValidChar (valid : n.isValidChar) : (Char.ofNat n).toNat = n := by
  unfold Char.ofNat
  rw [dif_pos valid]
  rfl

theorem isSettled_lowerChar {c : Char} (noDot : c ≠ 'İ') : IsSettled (lowerChar c) := by
  -- The character is an ASCII letter, has a row in the table, or is its own small form.
  rcases lowerChar_cases c with ⟨ascii, form⟩ | ⟨row, listed, held, form⟩ | form
  · obtain ⟨below, again, _⟩ := toLower_settled c.toNat ascii
    rw [Char.ofNat_toNat] at below again
    rw [form]
    constructor
    · unfold lowerChar
      rw [if_pos below, again]
    · intro same
      rw [same] at below
      exact absurd below (by decide)
  · obtain ⟨valid, apart, _, ascii⟩ := formOf_facts listed held
    have code := toNat_ofNat_of_isValidChar valid
    rw [form]
    constructor
    · by_cases small : row.formOf c.toNat < 0x80
      · unfold lowerChar
        rw [code, if_pos small, ascii small]
      · apply lowerChar_of_not_holds
        · rw [code]
          exact small
        · intro other otherListed
          rw [code]
          exact not_holds_formOf listed held otherListed
    · intro same
      rw [same] at code
      exact apart code.symm
  · rw [form]
    exact ⟨form, noDot⟩

theorem isBlank_lowerChar {c : Char} (visible : isBlank c = false) :
    isBlank (lowerChar c) = false := by
  rcases lowerChar_cases c with ⟨ascii, form⟩ | ⟨row, listed, held, form⟩ | form
  · obtain ⟨_, _, kept⟩ := toLower_settled c.toNat ascii
    rw [Char.ofNat_toNat] at kept
    rw [form]
    exact kept visible
  · obtain ⟨valid, _, noBlank, _⟩ := formOf_facts listed held
    rw [form, isBlank, toNat_ofNat_of_isValidChar valid]
    exact noBlank
  · rw [form]
    exact visible

/-! ## Texts -/

variable {s : List Char}

theorem isSettled_sigmas : IsSettled 'ς' ∧ IsSettled 'σ' :=
  ⟨⟨by decide +kernel, by decide⟩, ⟨by decide +kernel, by decide⟩⟩

theorem isSettled_dotted : IsSettled 'i' ∧ IsSettled '\u0307' :=
  ⟨⟨by decide +kernel, by decide⟩, ⟨by decide +kernel, by decide⟩⟩

theorem isBlank_dotted : isBlank 'i' = false ∧ isBlank '\u0307' = false := by
  decide +kernel

/-- The small forms of a text are those of its first character and of the rest. -/
theorem exists_small (afterCased : Bool) (c : Char) (rest : List Char) :
    ∃ small cased, lowerAfter afterCased (c :: rest) = small ++ lowerAfter cased rest ∧
      small ≠ [] ∧ (∀ d ∈ small, IsSettled d) ∧
        (isBlank c = false → ∀ d ∈ small, isBlank d = false) := by
  simp only [lowerAfter]
  refine ⟨_, _, rfl, ?_⟩
  by_cases sigma : c = 'Σ'
  · rw [if_pos (by simpa using sigma)]
    refine ⟨List.cons_ne_nil _ _, ?_, ?_⟩
    · intro d member
      obtain rfl := List.mem_singleton.mp member
      split
      · exact isSettled_sigmas.1
      · exact isSettled_sigmas.2
    · intro _ d member
      obtain rfl := List.mem_singleton.mp member
      split <;> decide
  · by_cases dot : c = 'İ'
    · rw [if_neg (by simpa using sigma), if_pos (by simpa using dot)]
      refine ⟨List.cons_ne_nil _ _, ?_, ?_⟩
      · rw [List.forall_mem_cons, List.forall_mem_cons]
        exact ⟨isSettled_dotted.1, isSettled_dotted.2, List.forall_mem_nil _⟩
      · intro _
        rw [List.forall_mem_cons, List.forall_mem_cons]
        exact ⟨isBlank_dotted.1, isBlank_dotted.2, List.forall_mem_nil _⟩
    · rw [if_neg (by simpa using sigma), if_neg (by simpa using dot)]
      refine ⟨List.cons_ne_nil _ _, ?_, ?_⟩
      · exact fun d member => List.mem_singleton.mp member ▸ isSettled_lowerChar dot
      · exact fun visible d member => List.mem_singleton.mp member ▸ isBlank_lowerChar visible

theorem isSettled_of_mem_lowerAfter {afterCased : Bool} {c : Char}
    (member : c ∈ lowerAfter afterCased s) : IsSettled c := by
  induction s generalizing afterCased with
  | nil => contradiction
  | cons first rest ih =>
      obtain ⟨small, cased, whole, _, settled, _⟩ := exists_small afterCased first rest
      rw [whole] at member
      rcases List.mem_append.mp member with early | late
      · exact settled c early
      · exact ih late

theorem lowerAfter_of_settled (afterCased : Bool) (settled : ∀ c ∈ s, IsSettled c) :
    lowerAfter afterCased s = s := by
  induction s generalizing afterCased with
  | nil => rfl
  | cons c rest ih =>
      obtain ⟨first, others⟩ := List.forall_mem_cons.mp settled
      simp only [lowerAfter]
      rw [if_neg (by simpa using first.noSigma), if_neg (by simpa using first.noDot), first.small,
        ih _ others]
      rfl

/-! ## Trimmed texts -/

/-- Whether the text neither starts nor ends with a blank. -/
structure IsTrimmed (s : List Char) : Prop where
  first : ∀ c, s.head? = some c → isBlank c = false
  last : ∀ c, s.getLast? = some c → isBlank c = false

theorem isBlank_of_head?_trimStart {c : Char} (first : (trimStart s).head? = some c) :
    isBlank c = false := by
  have left := List.head?_dropWhile_not isBlank s
  unfold trimStart at first
  rw [first] at left
  exact left

theorem trimEnd_isPrefix (s : List Char) : trimEnd s <+: s := by
  have back := List.reverse_prefix.mpr (List.dropWhile_suffix (l := s.reverse) isBlank)
  rwa [List.reverse_reverse] at back

theorem isTrimmed_trim (s : List Char) : IsTrimmed (trim s) := by
  constructor
  · intro c first
    obtain ⟨rest, whole⟩ := trimEnd_isPrefix (trimStart s)
    apply isBlank_of_head?_trimStart (s := s)
    rw [← whole, List.head?_append]
    unfold trim at first
    rw [first]
    rfl
  · intro c last
    unfold trim trimEnd at last
    rw [List.getLast?_reverse] at last
    exact isBlank_of_head?_trimStart last

theorem IsTrimmed.trim_eq (trimmed : IsTrimmed s) : trim s = s := by
  have start : trimStart s = s := by
    cases s with
    | nil => rfl
    | cons c rest => exact List.dropWhile_cons_of_neg (by simp [trimmed.first c rfl])
  have stop : trimEnd s = s := by
    unfold trimEnd
    cases back : s.reverse with
    | nil => rw [List.reverse_eq_nil_iff.mp back]; rfl
    | cons c rest =>
        have visible := trimmed.last c (by rw [List.getLast?_eq_head?_reverse, back]; rfl)
        rw [List.dropWhile_cons_of_neg (by simp [visible]), ← back, List.reverse_reverse]
  unfold trim
  rw [start, stop]

theorem IsTrimmed.map {change : Char → Char}
    (visible : ∀ c, isBlank c = false → isBlank (change c) = false) (trimmed : IsTrimmed s) :
    IsTrimmed (s.map change) := by
  constructor
  · intro c first
    rw [List.head?_map] at first
    obtain ⟨source, found, rfl⟩ := Option.map_eq_some_iff.mp first
    exact visible source (trimmed.first source found)
  · intro c last
    rw [List.getLast?_map] at last
    obtain ⟨source, found, rfl⟩ := Option.map_eq_some_iff.mp last
    exact visible source (trimmed.last source found)

theorem IsTrimmed.lower (trimmed : IsTrimmed s) : IsTrimmed (lower s) := by
  constructor
  · intro d first
    cases s with
    | nil => contradiction
    | cons c rest =>
        obtain ⟨small, cased, whole, some, _, visible⟩ := exists_small false c rest
        unfold Text.lower at first
        rw [whole, List.head?_append_of_ne_nil _ some] at first
        exact visible (trimmed.first c rfl) d (List.mem_of_mem_head? first)
  · intro d last
    cases back : s.getLast? with
    | none =>
        rw [List.getLast?_eq_none_iff.mp back] at last
        contradiction
    | some c =>
        obtain ⟨before, rfl⟩ := List.getLast?_eq_some_iff.mp back
        obtain ⟨start, cased, whole⟩ := lowerAfter_append false before [c]
        obtain ⟨small, _, ending, some, _, visible⟩ := exists_small cased c []
        unfold Text.lower at last
        rw [whole, ending, lowerAfter, List.append_nil,
          List.getLast?_append_of_ne_nil _ some] at last
        exact visible (trimmed.last c back) d (List.mem_of_mem_getLast? last)

end EnergyAudit.Text
