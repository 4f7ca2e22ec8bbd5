import Mathlib.Tactic.SplitIfs

/-! # The order of texts is the order of their bytes

Texts are compared character by character.  In UTF-8 a greater character has greater bytes, so that
comparing the bytes of two texts comes to the same. -/

namespace EnergyAudit.Text

/-- The bytes of the text in UTF-8. -/
def bytes (text : String) : List UInt8 :=
  text.toList.flatMap String.utf8EncodeChar

/-- A greater character has greater bytes, whatever follows. -/
theorem utf8EncodeChar_lt {c d : Char} (less : c < d) (s t : List UInt8) :
    String.utf8EncodeChar c ++ s < String.utf8EncodeChar d ++ t := by
  have order : c.val.toNat < d.val.toNat := less
  have bound : d.val.toNat < 0x110000 := d.valid.elim (by omega) (·.2)
  unfold String.utf8EncodeChar
  dsimp only
  generalize c.val.toNat = m, d.val.toNat = n at order bound ⊢
  -- One case for each two lengths that the bytes may have.
  split_ifs <;>
    simp (disch := omega) only [List.cons_append, List.nil_append, List.cons_lt_cons_iff,
      UInt8.lt_iff_toNat_lt, ← UInt8.toNat_inj, UInt8.toNat_ofNat', Nat.mod_eq_of_lt] <;> omega

theorem append_lt_append_iff (start s t : List UInt8) : start ++ s < start ++ t ↔ s < t := by
  induction start with
  | nil => rfl
  | cons byte start ih =>
      simp only [List.cons_append, List.cons_lt_cons_iff, UInt8.lt_irrefl, true_and, false_or, ih]

theorem flatMap_lt_iff (s t : List Char) :
    s.flatMap String.utf8EncodeChar < t.flatMap String.utf8EncodeChar ↔ s < t := by
  induction s generalizing t with
  | nil =>
      cases t with
      | nil => simp
      | cons d t =>
          obtain ⟨byte, rest, some⟩ := List.exists_cons_of_ne_nil
            (String.utf8EncodeChar_ne_nil (c := d))
          simp [some]
  | cons c s ih =>
      cases t with
      | nil => simp
      | cons d t =>
          rw [List.flatMap_cons, List.flatMap_cons, List.cons_lt_cons_iff]
          by_cases same : c = d
          · subst same
            rw [append_lt_append_iff, ih]
            simp only [Char.lt_irrefl, true_and, false_or]
          · by_cases less : c < d
            · simp [less, utf8EncodeChar_lt less]
            · have greater : d < c := by
                rw [← Char.not_le]
                exact fun below => same (Char.le_antisymm below (Char.not_lt.mp less))
              have notLess := List.lt_asymm (utf8EncodeChar_lt greater
                (t.flatMap String.utf8EncodeChar) (s.flatMap String.utf8EncodeChar))
              simp [less, same, notLess]

theorem bytes_lt_bytes_iff (s t : String) : bytes s < bytes t ↔ s < t :=
  flatMap_lt_iff s.toList t.toList

theorem bytes_le_bytes_iff (s t : String) : bytes s ≤ bytes t ↔ s ≤ t :=
  not_congr (bytes_lt_bytes_iff t s)

/-! ## Different texts have different bytes -/

/-- The bytes of an array from a place on, behind those that were gone through. -/
theorem toList_loop_eq (bytes : ByteArray) (place : Nat) (passed : List UInt8) :
    ByteArray.toList.loop bytes place passed = passed.reverse ++ bytes.data.toList.drop place := by
  induction place, passed using ByteArray.toList.loop.induct bytes with
  | case1 place passed inside ih =>
      have next : bytes.data.toList.drop place =
          bytes.get! place :: bytes.data.toList.drop (place + 1) := by
        rw [List.drop_eq_getElem_cons (by simpa using inside)]
        simp [ByteArray.get!, inside]
      rw [ByteArray.toList.loop, if_pos inside, ih, next, List.reverse_cons, List.append_assoc,
        List.singleton_append]
  | case2 place passed outside =>
      rw [ByteArray.toList.loop, if_neg outside,
        List.drop_of_length_le (by simpa using outside), List.append_nil]

/-- Different texts are different bytes. -/
theorem toList_toUTF8_inj {s t : String} : s.toUTF8.toList = t.toUTF8.toList ↔ s = t := by
  constructor
  · intro same
    rw [ByteArray.toList, ByteArray.toList, toList_loop_eq, toList_loop_eq] at same
    exact String.toByteArray_inj.mp (ByteArray.ext (Array.toList_inj.mp same))
  · rintro rfl
    rfl

end EnergyAudit.Text
