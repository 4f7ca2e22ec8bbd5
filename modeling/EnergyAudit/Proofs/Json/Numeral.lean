import EnergyAudit.Decimal.Layout
import EnergyAudit.Proofs.Json.Number
import EnergyAudit.Text.Blank
import Mathlib

/-! # Numbers with a point or an exponent

A decimal is printed with a point, or with an exponent where it is very large or very small.  Its
text is read as a number of the same digits, as long as they fit the significand. -/

namespace EnergyAudit.Json

open Decimal

/-! ## Digits -/

theorem natOfDigits_append (digits later : List Char) :
    natOfDigits (digits ++ later) =
      later.foldl (fun n c => 10 * n + (c.toNat - '0'.toNat)) (natOfDigits digits) :=
  List.foldl_append

theorem natOfDigits_zeros (count : Nat) (digits : List Char) :
    natOfDigits (List.replicate count '0' ++ digits) = natOfDigits digits := by
  have zeros : natOfDigits (List.replicate count '0') = 0 := by
    induction count with
    | zero => rfl
    | succ count ih => exact ih
  rw [natOfDigits_append, zeros]
  rfl

theorem natOfDigits_append_zeros (digits : List Char) (count : Nat) :
    natOfDigits (digits ++ List.replicate count '0') = natOfDigits digits * 10 ^ count := by
  induction count with
  | zero => simp
  | succ count ih =>
      rw [List.replicate_succ', ← List.append_assoc, natOfDigits_append, ih, List.foldl_cons,
        List.foldl_nil, Nat.pow_succ]
      simp [Nat.mul_comm, Nat.mul_assoc]

theorem toNat_of_isDigit {c : Char} (digit : c.isDigit = true) : 48 ≤ c.toNat ∧ c.toNat ≤ 57 := by
  simp only [Char.isDigit, Bool.and_eq_true, decide_eq_true_eq] at digit
  exact ⟨UInt32.le_iff_toNat_le.mp digit.1, UInt32.le_iff_toNat_le.mp digit.2⟩

theorem isBlank_of_isDigit {c : Char} (digit : c.isDigit = true) : Text.isBlank c = false := by
  obtain ⟨low, high⟩ := toNat_of_isDigit digit
  rw [Text.isBlank, ← Bool.not_eq_true, Text.inRanges_iff]
  rintro ⟨range, member, lower, upper⟩
  have apart : ∀ range ∈ Text.blankRanges, range.2 < 48 ∨ 57 < range.1 := by decide
  have := apart range member
  omega

/-- Only zeros denote zero, however many there are. -/
theorem natOfDigits_eq_zero_iff {digits : List Char} (all : ∀ c ∈ digits, c.isDigit = true) :
    natOfDigits digits = 0 ↔ ∀ c ∈ digits, c = '0' := by
  induction digits using List.reverseRecOn with
  | nil => simp [natOfDigits]
  | append_singleton digits c ih =>
      have last : c.toNat - '0'.toNat = 0 ↔ c = '0' := by
        obtain ⟨low, -⟩ := toNat_of_isDigit (all c (by simp))
        have zero : '0'.toNat = 48 := by decide
        rw [← Char.toNat_inj, zero]
        omega
      have earlier := ih fun d member => all d (List.mem_append_left [c] member)
      rw [natOfDigits_append, List.foldl_cons, List.foldl_nil, Nat.add_eq_zero_iff, last,
        Nat.mul_eq_zero, or_iff_right (by decide), earlier, List.forall_mem_append,
        List.forall_mem_singleton]

/-- What may stand before the point of a number: digits, the first of which is no zero unless it
stands alone. -/
structure IsWhole (whole : List Char) : Prop where
  digits : ∀ c ∈ whole, c.isDigit = true
  nonempty : whole ≠ []
  lead : whole.head? = some '0' → whole.length = 1

/-- A fraction behind its point, if there is any. -/
def point (fraction : List Char) : List Char :=
  if fraction.isEmpty then [] else '.' :: fraction

/-! ## Reading the parts of a number -/

/-- Whether the text goes on with neither a digit nor a point. -/
def EndsDigits : List Char → Prop
  | [] => True
  | c :: _ => c.isDigit = false ∧ c ≠ '.'

variable {whole fraction rest after : List Char}

theorem span_digits (digits : ∀ c ∈ whole, c.isDigit = true)
    (ends : rest.head?.all (!·.isDigit) = true) :
    (whole ++ rest).takeWhile Char.isDigit = whole ∧
      (whole ++ rest).dropWhile Char.isDigit = rest := by
  rw [List.takeWhile_append_of_pos digits, List.dropWhile_append_of_pos digits]
  cases rest with
  | nil => simp
  | cons c rest =>
      have notDigit : c.isDigit = false := by simpa using ends
      simp [notDigit]

theorem EndsDigits.head?_all (ends : EndsDigits rest) : rest.head?.all (!·.isDigit) = true := by
  cases rest with
  | nil => rfl
  | cons c rest => simp [ends.1]

theorem head?_all_point (fraction : List Char) (ends : EndsDigits rest) :
    (point fraction ++ rest).head?.all (!·.isDigit) = true := by
  cases fraction with
  | nil => exact ends.head?_all
  | cons c fraction => rfl

theorem lexFraction?_point (digits : ∀ c ∈ fraction, c.isDigit = true) (ends : EndsDigits rest) :
    lexFraction? (point fraction ++ rest) =
      some (if fraction.isEmpty then none else some fraction, rest) := by
  cases fraction with
  | nil =>
      cases rest with
      | nil => rfl
      | cons c rest => simp [point, lexFraction?, ends.2]
  | cons c fraction =>
      obtain ⟨taken, dropped⟩ := span_digits digits ends.head?_all
      simp only [point, List.isEmpty_cons, Bool.false_eq_true, if_false, List.cons_append,
        lexFraction?] at taken dropped ⊢
      rw [taken, dropped]
      rfl

/-- A number that has a fraction or an exponent is read as its digits scaled. -/
theorem lexUnsigned?_parts (negative : Bool) {power : Option Int} (first : IsWhole whole)
    (digits : ∀ c ∈ fraction, c.isDigit = true) (ends : EndsDigits rest)
    (exponent : lexPower? rest = some (power, after)) (scaled : fraction ≠ [] ∨ power ≠ none) :
    lexUnsigned? negative (whole ++ (point fraction ++ rest)) =
      some (scaledToken negative (.ofDigits whole fraction (power.getD 0)), after) := by
  obtain ⟨taken, dropped⟩ := span_digits first.digits (head?_all_point fraction ends)
  have proper : (whole.isEmpty || (whole.head? == some '0' && whole.length != 1)) = false := by
    have nonempty := first.nonempty
    have lead := first.lead
    grind
  simp only [lexUnsigned?, taken, dropped, proper, Bool.false_eq_true, if_false,
    lexFraction?_point digits ends, exponent]
  cases fraction with
  | nil =>
      cases power with
      | none => simp at scaled
      | some power => rfl
  | cons c fraction => cases power <;> rfl

/-! ## Printing the parts of a number -/

theorem isWhole_toDigits {n : Nat} (positive : 0 < n) : IsWhole (Nat.toDigits 10 n) where
  digits := all_isDigit_toDigits n
  nonempty := Nat.toDigits_ne_nil
  lead := fun zero => absurd zero (head?_toDigits_ne positive)

/-- A number with a point is printed as its whole part and its fraction. -/
theorem exists_parts_of_withPoint {n : Nat} (positive : 0 < n) (places : Nat) :
    ∃ whole fraction, (withPoint (toString n) places).toList = whole ++ point fraction ∧
      IsWhole whole ∧ (∀ c ∈ fraction, c.isDigit = true) ∧ fraction.length = places ∧
        natOfDigits (whole ++ fraction) = n := by
  have digits : (toString n).toList = Nat.toDigits 10 n := Nat.toList_repr
  have value : natOfDigits (List.replicate (places + 1 - (Nat.toDigits 10 n).length) '0' ++
      Nat.toDigits 10 n) = n := by rw [natOfDigits_zeros, natOfDigits_toDigits]
  have all : ∀ c ∈ List.replicate (places + 1 - (Nat.toDigits 10 n).length) '0' ++
      Nat.toDigits 10 n, c.isDigit = true := by
    intro c member
    rcases List.mem_append.mp member with zero | digit
    · rw [List.eq_of_mem_replicate zero]
      rfl
    · exact all_isDigit_toDigits n c digit
  have length : (List.replicate (places + 1 - (Nat.toDigits 10 n).length) '0' ++
      Nat.toDigits 10 n).length = max (places + 1) (Nat.toDigits 10 n).length := by
    rw [List.length_append, List.length_replicate]
    omega
  -- Either there is one zero before the point, or the digits start there.
  have lead : (Nat.toDigits 10 n).length ≤ places ∨
      (List.replicate (places + 1 - (Nat.toDigits 10 n).length) '0' ++
        Nat.toDigits 10 n).head? ≠ some '0' := by
    by_cases short : (Nat.toDigits 10 n).length ≤ places
    · exact .inl short
    · rw [show places + 1 - (Nat.toDigits 10 n).length = 0 by omega]
      exact .inr (head?_toDigits_ne positive)
  unfold withPoint
  simp only [digits]
  generalize List.replicate (places + 1 - (Nat.toDigits 10 n).length) '0' ++
    Nat.toDigits 10 n = padded at *
  refine ⟨padded.take (padded.length - places), padded.drop (padded.length - places), ?_, ⟨?_, ?_,
    ?_⟩, ?_, ?_, ?_⟩
  · unfold point
    split <;> simp_all
  · exact fun c member => all c (List.mem_of_mem_take member)
  · rw [ne_eq, ← List.length_eq_zero_iff, List.length_take]
    omega
  · intro zero
    rw [List.head?_take, if_neg (by omega)] at zero
    rw [List.length_take]
    have short := lead.resolve_right fun other => other zero
    omega
  · exact fun c member => all c (List.mem_of_mem_drop member)
  · rw [List.length_drop]
    omega
  · rw [List.take_append_drop, value]

theorem lexPower?_toDigits (power : Int) :
    lexPower? ('e' :: (if power < 0 then '-' else '+') :: Nat.toDigits 10 power.natAbs) =
      some (some power, []) := by
  have taken :
      (Nat.toDigits 10 power.natAbs).takeWhile Char.isDigit = Nat.toDigits 10 power.natAbs ∧
        (Nat.toDigits 10 power.natAbs).dropWhile Char.isDigit = [] := by
    simpa using @span_digits _ [] (all_isDigit_toDigits power.natAbs) rfl
  have nonempty : (Nat.toDigits 10 power.natAbs).isEmpty = false := by simp
  split
  case isTrue negative =>
      have value : -(power.natAbs : Int) = power := by omega
      simp only [lexPower?, takeSign, taken, nonempty, natOfDigits_toDigits, value, if_true,
        beq_self_eq_true, Bool.true_or, Bool.false_eq_true, if_false]
  case isFalse positive =>
      have value : (power.natAbs : Int) = power := by omega
      simp only [lexPower?, takeSign, taken, nonempty, natOfDigits_toDigits, value, if_true,
        beq_self_eq_true, Bool.true_or, Bool.false_eq_true, if_false]

theorem isWhole_toDigits_append_zeros {n : Nat} (positive : 0 < n) (zeros : Nat) :
    IsWhole (Nat.toDigits 10 n ++ List.replicate zeros '0') := by
  have start := isWhole_toDigits positive
  constructor
  · intro c member
    rcases List.mem_append.mp member with digit | zero
    · exact start.digits c digit
    · rw [List.eq_of_mem_replicate zero]
      rfl
  · simp [start.nonempty]
  · intro zero
    rw [List.head?_append, Option.or_of_isSome (by simp)] at zero
    exact absurd zero (head?_toDigits_ne positive)

/-- Whole numbers of up to sixteen digits are printed with a zero behind the point. -/
theorem lexUnsigned?_whole {n zeros : Nat} (positive : 0 < n)
    (few : (Nat.toDigits 10 n).length + zeros ≤ 16) (negative : Bool) :
    lexUnsigned? negative (Nat.toDigits 10 n ++ List.replicate zeros '0' ++ ".0".toList) =
      some (scaledToken negative ⟨n * 10 ^ zeros * 10, -1⟩, []) := by
  have value : natOfDigits (Nat.toDigits 10 n ++ List.replicate zeros '0' ++ ['0']) =
      n * 10 ^ zeros * 10 := by
    have zero : natOfDigits (Nat.toDigits 10 n ++ List.replicate zeros '0' ++ ['0']) = _ :=
      natOfDigits_append_zeros (Nat.toDigits 10 n ++ List.replicate zeros '0') 1
    rwa [natOfDigits_append_zeros, natOfDigits_toDigits, Nat.pow_one] at zero
  have fits : n * 10 ^ zeros * 10 < significandBound := by
    have less : n < 10 ^ (Nat.toDigits 10 n).length :=
      (Nat.length_toDigits_le_iff (by decide) Nat.length_toDigits_pos).mp (Nat.le_refl _)
    calc n * 10 ^ zeros * 10 < 10 ^ (Nat.toDigits 10 n).length * 10 ^ zeros * 10 := by
          exact Nat.mul_lt_mul_of_pos_right
            (Nat.mul_lt_mul_of_pos_right less (Nat.pow_pos (by decide))) (by decide)
      _ = 10 ^ ((Nat.toDigits 10 n).length + zeros) * 10 := by rw [Nat.pow_add]
      _ ≤ 10 ^ 16 * 10 := Nat.mul_le_mul_right _ (Nat.pow_le_pow_right (by decide) few)
      _ < significandBound := by decide
  have read := lexUnsigned?_parts negative (isWhole_toDigits_append_zeros positive zeros)
    (List.forall_mem_singleton.mpr rfl : ∀ c ∈ ['0'], c.isDigit = true)
    (show EndsDigits [] from trivial) rfl (.inl (by simp))
  rwa [ScaledNumber.ofDigits_of_lt (value ▸ fits), value] at read

/-- The text of a decimal is read as the decimal, or else as one with a power of ten below zero. -/
theorem exists_scaled_of_json {d : Expansion} (positive : 0 < d.digits)
    (fits : d.digits < significandBound) (negative : Bool) :
    ∃ n : ScaledNumber, lexUnsigned? negative d.json.toList = some (scaledToken negative n, []) ∧
      (n = ⟨d.digits, d.exponent⟩ ∨ n.power < 0) := by
  have digits : (toString d.digits).toList = Nat.toDigits 10 d.digits := Nat.toList_repr
  have length : (toString d.digits).length = (Nat.toDigits 10 d.digits).length := by
    rw [← digits, String.length_toList]
  have some_digit : 0 < (Nat.toDigits 10 d.digits).length := Nat.length_toDigits_pos
  unfold Expansion.json
  simp only [length]
  split
  case isTrue plain =>
      simp only [Bool.and_eq_true, decide_eq_true_eq] at plain
      cases exponent : d.exponent with
      | ofNat zeros =>
          rw [exponent] at plain
          refine ⟨⟨d.digits * 10 ^ zeros * 10, -1⟩, ?_, .inr (show (-1 : Int) < 0 by decide)⟩
          dsimp only
          rw [String.toList_append, String.toList_append, digits, String.toList_ofList]
          have few : (zeros : Int) + ((Nat.toDigits 10 d.digits).length - 1 : Nat) ≤ 15 := plain.2
          exact lexUnsigned?_whole positive (by omega) negative
      | negSucc e =>
          obtain ⟨whole, fraction, text, first, others, count, value⟩ :=
            exists_parts_of_withPoint positive (e + 1)
          have nonempty : fraction ≠ [] := by
            rintro rfl
            exact absurd count (Nat.succ_ne_zero e).symm
          have read := lexUnsigned?_parts negative first others (show EndsDigits [] from trivial)
            rfl (.inl nonempty)
          rw [ScaledNumber.ofDigits_of_lt (value ▸ fits), value, count, List.append_nil] at read
          refine ⟨⟨d.digits, 0 - (e + 1 : Nat)⟩, ?_, .inr (by dsimp only; omega)⟩
          dsimp only
          rw [text]
          exact read
  case isFalse =>
      obtain ⟨whole, fraction, text, first, others, count, value⟩ :=
        exists_parts_of_withPoint positive ((Nat.toDigits 10 d.digits).length - 1)
      generalize scale : d.exponent + ((Nat.toDigits 10 d.digits).length - 1 : Nat) = leading
      have exponent := lexPower?_toDigits leading
      have ends (tail : List Char) : EndsDigits ('e' :: tail) := ⟨rfl, by decide⟩
      have read := lexUnsigned?_parts negative first others (ends _) exponent (.inr nofun)
      rw [ScaledNumber.ofDigits_of_lt (value ▸ fits), value, count] at read
      refine ⟨_, ?_, .inl rfl⟩
      -- The places behind the point are taken off the exponent again.
      have power : leading - ((Nat.toDigits 10 d.digits).length - 1 : Nat) = d.exponent := by omega
      rw [Option.getD_some, power] at read
      rw [← read, String.toList_append, String.toList_append, text]
      have figures : (toString leading.natAbs).toList = Nat.toDigits 10 leading.natAbs :=
        Nat.toList_repr
      rw [figures]
      congr 1
      split <;> simp

end EnergyAudit.Json
