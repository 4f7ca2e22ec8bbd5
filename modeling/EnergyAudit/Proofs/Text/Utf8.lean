import EnergyAudit.Text.Utf8

/-! # UTF-8 that is read

What is no text is replaced when bytes are read as text.  The bytes of a text are read as that
text. -/

namespace EnergyAudit.Text

variable {bits n : Nat} {low high : UInt8}

theorem toNat_byte (small : n < 0x100) : (UInt8.ofNat n).toNat = n :=
  UInt8.toNat_ofNat_of_lt' small

/-! ## The first byte of a character -/

theorem openChar_eq (b : UInt8) : openChar b =
    if b.toNat < 0x80 then ([Char.ofNat b.toNat], none)
    else if b.toNat < 0xc2 then ([replacement], none)
    else if b.toNat < 0xe0 then ([], some ⟨1, 0x80, 0xbf, b.toNat % 0x20⟩)
    else if b.toNat = 0xe0 then ([], some ⟨2, 0xa0, 0xbf, 0⟩)
    else if b.toNat = 0xed then ([], some ⟨2, 0x80, 0x9f, 0xd⟩)
    else if b.toNat < 0xf0 then ([], some ⟨2, 0x80, 0xbf, b.toNat % 0x10⟩)
    else if b.toNat = 0xf0 then ([], some ⟨3, 0x90, 0xbf, 0⟩)
    else if b.toNat < 0xf4 then ([], some ⟨3, 0x80, 0xbf, b.toNat % 0x8⟩)
    else if b.toNat = 0xf4 then ([], some ⟨3, 0x80, 0x8f, 4⟩)
    else ([replacement], none) := by
  simp only [openChar, UInt8.lt_iff_toNat_lt, beq_iff_eq, ← UInt8.toNat_inj]
  rfl

theorem openChar_two (least : 2 ≤ n) (small : n < 0x20) :
    openChar (.ofNat (n + 0xc0)) = ([], some ⟨1, 0x80, 0xbf, n⟩) := by
  have bits : (n + 0xc0) % 0x20 = n := by omega
  rw [openChar_eq, toNat_byte (by omega), if_neg (by omega), if_neg (by omega), if_pos (by omega),
    bits]

/-- The first of three bytes says where the second one has to lie: neither so low that two would do,
nor so high that it leads to a surrogate. -/
theorem openChar_three (small : n < 0x10) :
    openChar (.ofNat (n + 0xe0)) =
      ([], some ⟨2, if n = 0 then 0xa0 else 0x80, if n = 0xd then 0x9f else 0xbf, n⟩) := by
  rw [openChar_eq, toNat_byte (by omega), if_neg (by omega), if_neg (by omega), if_neg (by omega)]
  by_cases least : n = 0
  · subst least
    rfl
  by_cases surrogate : n = 0xd
  · subst surrogate
    rfl
  have bits : (n + 0xe0) % 0x10 = n := by omega
  rw [if_neg (by omega), if_neg (by omega), if_pos (by omega), if_neg least, if_neg surrogate, bits]

/-- The first of four bytes says where the second one has to lie: neither so low that three would
do, nor beyond the last character. -/
theorem openChar_four (small : n ≤ 4) :
    openChar (.ofNat (n + 0xf0)) =
      ([], some ⟨3, if n = 0 then 0x90 else 0x80, if n = 4 then 0x8f else 0xbf, n⟩) := by
  rw [openChar_eq, toNat_byte (by omega), if_neg (by omega), if_neg (by omega), if_neg (by omega),
    if_neg (by omega), if_neg (by omega), if_neg (by omega)]
  by_cases least : n = 0
  · subst least
    rfl
  by_cases last : n = 4
  · subst last
    rfl
  have bits : (n + 0xf0) % 0x8 = n := by omega
  rw [if_neg (by omega), if_pos (by omega), if_neg least, if_neg last, bits]

/-! ## The bytes behind it -/

theorem stepChar_fits {missing : Nat} (small : n < 0x40) (least : low.toNat ≤ n + 0x80)
    (most : n + 0x80 ≤ high.toNat) :
    stepChar (some ⟨missing, low, high, bits⟩) (.ofNat (n + 0x80)) =
      if missing ≤ 1 then ([Char.ofNat (bits * 0x40 + n)], none)
      else ([], some ⟨missing - 1, 0x80, 0xbf, bits * 0x40 + n⟩) := by
  have fits : (low ≤ UInt8.ofNat (n + 0x80) && UInt8.ofNat (n + 0x80) ≤ high) = true := by
    rw [Bool.and_eq_true, decide_eq_true_eq, decide_eq_true_eq, UInt8.le_iff_toNat_le,
      UInt8.le_iff_toNat_le, toNat_byte (by omega)]
    exact ⟨least, most⟩
  have own : (UInt8.ofNat (n + 0x80)).toNat % 0x40 = n := by
    rw [toNat_byte (by omega)]
    omega
  simp only [stepChar, fits, own, if_true]

theorem stepChar_last (small : n < 0x40) :
    stepChar (some ⟨1, 0x80, 0xbf, bits⟩) (.ofNat (n + 0x80)) =
      ([Char.ofNat (bits * 0x40 + n)], none) :=
  stepChar_fits small (Nat.le_add_left ..) (Nat.add_le_add_right (Nat.le_of_lt_succ small) _)

theorem stepChar_middle {missing : Nat} (small : n < 0x40) :
    stepChar (some ⟨missing + 2, 0x80, 0xbf, bits⟩) (.ofNat (n + 0x80)) =
      ([], some ⟨missing + 1, 0x80, 0xbf, bits * 0x40 + n⟩) :=
  stepChar_fits small (Nat.le_add_left ..) (Nat.add_le_add_right (Nat.le_of_lt_succ small) _)

/-! ## Characters and texts -/

/-- The bytes of a character are read as the character. -/
theorem foldl_decodeStep_encode (char : Char) (read : List Char) :
    (String.utf8EncodeChar char).foldl decodeStep (read, none) = (char :: read, none) := by
  have whole : Char.ofNat char.val.toNat = char := Char.ofNat_toNat char
  have valid : char.val.toNat < 0xd800 ∨ 0xdfff < char.val.toNat ∧ char.val.toNat < 0x110000 :=
    char.valid
  rw [String.utf8EncodeChar.eq_1]
  generalize char.val.toNat = v at whole valid ⊢
  -- The number of the character decides whether it takes one, two, three or four bytes.
  split
  · have opens : openChar (.ofNat v) = ([char], none) := by
      rw [openChar_eq, toNat_byte (by omega), if_pos (by omega), whole]
    simp [decodeStep, stepChar, opens]
  split
  · have bits : v / 64 % 32 * 0x40 + v % 64 = v := by omega
    simp only [List.foldl_cons, List.foldl_nil, decodeStep, stepChar.eq_1,
      openChar_two (n := v / 64 % 32) (by omega) (by omega),
      stepChar_last (n := v % 64) (by omega), bits, whole]
    rfl
  split
  · have bits : (v / 4096 % 16 * 0x40 + v / 64 % 64) * 0x40 + v % 64 = v := by omega
    have least : (if v / 4096 % 16 = 0 then 0xa0 else 0x80 : UInt8).toNat ≤
        v / 64 % 64 + 0x80 := by
      split <;> simp only [UInt8.toNat_ofNat, Nat.reducePow, Nat.reduceMod] <;> omega
    have most : v / 64 % 64 + 0x80 ≤
        (if v / 4096 % 16 = 0xd then 0x9f else 0xbf : UInt8).toNat := by
      split <;> simp only [UInt8.toNat_ofNat, Nat.reducePow, Nat.reduceMod] <;> omega
    simp only [List.foldl_cons, List.foldl_nil, decodeStep, stepChar.eq_1,
      openChar_three (n := v / 4096 % 16) (by omega),
      stepChar_fits (n := v / 64 % 64) (by omega) least most,
      stepChar_last (n := v % 64) (by omega), bits, whole, Nat.reduceLeDiff, if_false,
      Nat.reduceSub]
    rfl
  · have bits : ((v / 262144 % 8 * 0x40 + v / 4096 % 64) * 0x40 + v / 64 % 64) * 0x40 + v % 64 =
        v := by omega
    have least : (if v / 262144 % 8 = 0 then 0x90 else 0x80 : UInt8).toNat ≤
        v / 4096 % 64 + 0x80 := by
      split <;> simp only [UInt8.toNat_ofNat, Nat.reducePow, Nat.reduceMod] <;> omega
    have most : v / 4096 % 64 + 0x80 ≤
        (if v / 262144 % 8 = 4 then 0x8f else 0xbf : UInt8).toNat := by
      split <;> simp only [UInt8.toNat_ofNat, Nat.reducePow, Nat.reduceMod] <;> omega
    simp only [List.foldl_cons, List.foldl_nil, decodeStep, stepChar.eq_1,
      openChar_four (n := v / 262144 % 8) (by omega),
      stepChar_fits (n := v / 4096 % 64) (by omega) least most,
      stepChar_middle (n := v / 64 % 64) (by omega),
      stepChar_last (n := v % 64) (by omega), bits, whole, Nat.reduceLeDiff, if_false,
      Nat.reduceSub]
    rfl

theorem foldl_decodeStep_flatMap (s read : List Char) :
    (s.flatMap String.utf8EncodeChar).foldl decodeStep (read, none) =
      (s.reverse ++ read, none) := by
  induction s generalizing read with
  | nil => rfl
  | cons c s ih =>
      rw [List.flatMap_cons, List.foldl_append, foldl_decodeStep_encode, ih, List.reverse_cons,
        List.append_assoc]
      rfl

/-- The bytes of a text are read as the text. -/
theorem decodeLossy_encode (s : String) :
    decodeLossy (s.toList.flatMap String.utf8EncodeChar) = s := by
  simp [decodeLossy, foldl_decodeStep_flatMap]

end EnergyAudit.Text
