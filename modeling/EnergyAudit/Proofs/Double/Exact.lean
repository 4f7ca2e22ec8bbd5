import EnergyAudit.Decimal.Reading
import EnergyAudit.Proofs.Double.Parts
import EnergyAudit.Proofs.Double.Rounding

/-! # Numbers that are not rounded

Whole numbers of 53 bits are doubles, and so are their sums, as long as these have no more bits, and
their halves.  What is shifted out of a mantissa on the way to such a result is zeros. -/

namespace EnergyAudit.Double

open Float.Model UnpackedFloat

/-- A shift that drops nothing but zeros leaves nothing to be rounded. -/
theorem shiftRight_mul_pow (mantissa places : Nat) :
    (ExtendedMantissa.ofMantissaAndAccuracy (mantissa * 2 ^ places) .exact >>> places) =
      ⟨mantissa, false, false⟩ := by
  change Nat.repeat ExtendedMantissa.shiftRightOne places _ = _
  induction places generalizing mantissa with
  | zero => simp [Nat.repeat, ExtendedMantissa.ofMantissaAndAccuracy]
  | succ places ih =>
      have twice : mantissa * 2 ^ (places + 1) = mantissa * 2 * 2 ^ places := by
        rw [Nat.pow_succ']
        ring
      rw [Nat.repeat, twice, ih]
      simp [ExtendedMantissa.shiftRightOne]

theorem log2_mul_pow {n : Nat} (positive : 0 < n) (places : Nat) :
    (n * 2 ^ places).log2 = n.log2 + places := by
  obtain ⟨least, greatest⟩ := (Nat.log2_eq_iff (Nat.ne_of_gt positive)).mp rfl
  rw [Nat.log2_eq_iff (Nat.mul_pos positive (Nat.two_pow_pos places)).ne', Nat.pow_add,
    Nat.add_right_comm, Nat.pow_add]
  exact ⟨Nat.mul_le_mul_right _ least, Nat.mul_lt_mul_of_pos_right greatest (Nat.two_pow_pos _)⟩

theorem shiftToTargetExponent_mul_pow {mantissa places : Nat} {exponent : Int}
    (normal : mantissa.log2 = 52) (above : 0 < mantissa) (low : -1074 ≤ exponent) :
    shiftToTargetExponent Format.binary64 (mantissa * 2 ^ places) exponent .exact =
      (⟨mantissa, false, false⟩, exponent + places) := by
  have bits : (mantissa * 2 ^ places).log2 = 52 + places := by
    rw [log2_mul_pow above, normal]
  have shift : (max (((mantissa * 2 ^ places).log2 : Int) + 1 + exponent - 53) (-1074)
      - exponent).toNat = places := by
    omega
  simp only [shiftToTargetExponent, shiftToExponent, targetExponent_binary64, totalExponent]
  rw [shift, shiftRight_mul_pow]

/-- A mantissa of 53 bits with zeros behind it is not rounded. -/
theorem roundWithAccuracy_mul_pow {mantissa places : Nat} {exponent : Int} (sign : Sign)
    (normal : mantissa.log2 = 52) (above : 0 < mantissa) (low : -1074 ≤ exponent) :
    roundWithAccuracy Format.binary64 sign (mantissa * 2 ^ places) exponent .exact =
      .finite sign mantissa (exponent + places) above := by
  have rounded : (⟨mantissa, false, false⟩ : ExtendedMantissa).roundedMantissa = mantissa := rfl
  have again := @shiftToTargetExponent_mul_pow mantissa 0 (exponent + places) normal above
    (by omega)
  rw [Nat.pow_zero, Nat.mul_one, Nat.cast_zero, add_zero] at again
  simp only [roundWithAccuracy, shiftToTargetExponent_mul_pow normal above low, rounded, again]
  exact dif_neg (Nat.ne_of_gt above)

/-- Whether the number is exactly `q`, with a power of two that whole numbers of 53 bits or their
halves have. -/
inductive Exactly (q : ℚ) : UnpackedFloat → Prop
  | zero (nothing : q = 0) : Exactly q (.zero .positive)
  | finite {mantissa : Nat} {exponent : Int} {above : 0 < mantissa}
      (normal : mantissa.log2 = 52) (low : -53 ≤ exponent) (high : exponent ≤ 0)
      (same : (mantissa : ℚ) * 2 ^ exponent = q) :
      Exactly q (.finite .positive mantissa exponent above)

theorem exactly_pack {q : ℚ} {number : UnpackedFloat} (exact : Exactly q number) :
    Exactly q (Float.Model.pack number).unpack := by
  cases exact with
  | zero nothing =>
      rw [unpack_zero]
      exact .zero nothing
  | finite normal low high same =>
      rw [unpack_pack normal (by omega) (by omega)]
      exact .finite normal low high same

theorem value_of_exactly {q : ℚ} {x : Float} (exact : Exactly q x.toModel.unpack) :
    value x = q := by
  rw [value, parts_eq]
  generalize x.toModel.unpack = number at exact ⊢
  cases exact with
  | zero nothing => simp [unpackedParts, nothing]
  | finite normal low high same => simp [unpackedParts, isMinus, same]

/-- The mantissa of a whole number is the number with zeros behind it. -/
theorem exists_places {n mantissa : Nat} {exponent : Int} (normal : mantissa.log2 = 52)
    (above : 0 < mantissa) (high : exponent ≤ 0) (same : (mantissa : ℚ) * 2 ^ exponent = n) :
    ∃ places : Nat, places ≤ 52 ∧ mantissa = n * 2 ^ places ∧ exponent = -(places : Int) := by
  obtain ⟨places, rfl⟩ : ∃ places : Nat, exponent = -(places : Int) :=
    ⟨exponent.natAbs, by omega⟩
  rw [zpow_neg, zpow_natCast, ← div_eq_mul_inv, div_eq_iff (by positivity)] at same
  have whole : mantissa = n * 2 ^ places := by exact_mod_cast same
  have positive : 0 < n := Nat.pos_of_mul_pos_right (whole ▸ above)
  refine ⟨places, ?_, whole, rfl⟩
  rw [whole, log2_mul_pow positive] at normal
  omega

/-- A whole number of 53 bits is not rounded, whatever zeros stand behind it. -/
theorem exactly_round {n : Nat} (positive : 0 < n) (fits : n < 2 ^ 53) (places : Nat)
    (few : places ≤ 1000) :
    Exactly n (UnpackedFloat.round Format.binary64 .positive (n * 2 ^ places) (-places)) := by
  have bits : n.log2 < 53 := log2_lt_of_lt (by decide) fits
  have normal : (n * 2 ^ (52 - n.log2)).log2 = 52 := by
    rw [log2_mul_pow positive]
    omega
  have target : Format.binary64.targetExponent (totalExponent (n * 2 ^ places) (-places)) =
      (n.log2 : Int) - 52 := by
    rw [targetExponent_binary64, totalExponent, log2_mul_pow positive]
    omega
  obtain ⟨more, zeros⟩ : ∃ more, places + (-(places : Int) - (n.log2 - 52)).toNat =
      52 - n.log2 + more := ⟨places + (-(places : Int) - (n.log2 - 52)).toNat - (52 - n.log2),
    by omega⟩
  -- However the number is shifted first, it is one of 53 bits with zeros behind it.
  simp only [UnpackedFloat.round, decreaseExponent, target, Nat.shiftLeft_eq]
  rw [Nat.mul_assoc, ← Nat.pow_add, zeros, Nat.pow_add, ← Nat.mul_assoc,
    roundWithAccuracy_mul_pow .positive normal (Nat.mul_pos positive (Nat.two_pow_pos _))
      (by omega)]
  refine .finite normal (by omega) (by omega) ?_
  have exponent : -(places : Int) - ((-(places : Int) - (n.log2 - 52)).toNat : Int) + more =
      -((52 - n.log2 : Nat) : Int) := by omega
  rw [exponent, zpow_neg, zpow_natCast]
  push_cast
  exact mul_inv_cancel_right₀ (by positivity) _

theorem exactly_normalize {n : Nat} (fits : n < 2 ^ 53) {places : Nat} (few : places ≤ 1000) :
    Exactly n (UnpackedFloat.normalize Format.binary64 (n * 2 ^ places : Nat) (-places)
      .positive) := by
  rcases Nat.eq_zero_or_pos n with rfl | positive
  · rw [Nat.zero_mul]
    exact .zero Nat.cast_zero
  · have above : (0 : Int) < (n * 2 ^ places : Nat) := by
      exact_mod_cast Nat.mul_pos positive (Nat.two_pow_pos places)
    simp only [UnpackedFloat.normalize, compare_gt_iff_gt.mpr above, Int.toNat_natCast]
    exact exactly_round positive fits places few

theorem exactly_ofNat {n : Nat} (fits : n < 2 ^ 53) :
    Exactly n (UnpackedFloat.ofNat Format.binary64 n) := by
  have whole := exactly_normalize fits (Nat.zero_le 1000)
  rwa [Nat.pow_zero, Nat.mul_one] at whole

/-- More zeros behind a number that has some. -/
theorem mul_pow_mul_pow (n : Nat) {few many : Nat} (le : few ≤ many) :
    n * 2 ^ few * 2 ^ (many - few) = n * 2 ^ many := by
  rw [Nat.mul_assoc, ← Nat.pow_add, Nat.add_sub_cancel' le]

theorem exactly_add {a b : Nat} {x y : UnpackedFloat} (first : Exactly a x)
    (second : Exactly b y) (fits : a + b < 2 ^ 53) :
    Exactly (a + b : Nat) (UnpackedFloat.add Format.binary64 x y) := by
  cases first with
  | zero nothing =>
      rw [Nat.cast_eq_zero.mp nothing, Nat.zero_add]
      cases second with
      | zero nothing => exact .zero nothing
      | finite normal low high same => exact .finite normal low high same
  | @finite m e above normal low high same =>
      cases second with
      | zero nothing =>
          rw [Nat.cast_eq_zero.mp nothing, Nat.add_zero]
          exact .finite normal low high same
      | @finite n f above' normal' low' high' same' =>
          obtain ⟨j, fewJ, rfl, rfl⟩ := exists_places normal above high same
          obtain ⟨k, fewK, rfl, rfl⟩ := exists_places normal' above' high' same'
          have least : min (-(j : Int)) (-(k : Int)) = -((max j k : Nat) : Int) := by omega
          have shiftJ : (-(j : Int) - -((max j k : Nat) : Int)).toNat = max j k - j := by omega
          have shiftK : (-(k : Int) - -((max j k : Nat) : Int)).toNat = max j k - k := by omega
          simp only [UnpackedFloat.add, decreaseExponent, least, shiftJ, shiftK, Nat.shiftLeft_eq,
            Sign.apply]
          rw [mul_pow_mul_pow a (Nat.le_max_left j k), mul_pow_mul_pow b (Nat.le_max_right j k),
            ← Int.natCast_add, ← Nat.add_mul]
          exact exactly_normalize fits (by omega)

theorem exactly_half {n : Nat} {x : UnpackedFloat} (whole : Exactly n x) :
    Exactly (n / 2) (UnpackedFloat.div Format.binary64 x (2.0 : Float).toModel.unpack) := by
  have two : (2.0 : Float).toModel.unpack = .finite .positive (2 ^ 52) (-51) (by decide) := rfl
  rw [two]
  cases whole with
  | zero nothing => exact .zero (by simp [nothing])
  | @finite m e above normal low high same =>
      obtain ⟨places, few, -, rfl⟩ := exists_places normal above high same
      have target : min (-(places : Int) - -51) (Format.binary64.targetExponent
          (totalExponent m (-(places : Int)) - totalExponent (2 ^ 52) (-51))) =
            -(places : Int) - 2 := by
        rw [targetExponent_binary64, totalExponent, totalExponent, normal, Nat.log2_two_pow]
        omega
      have shift : (-(places : Int) - -51 - (-(places : Int) - 2)).toNat = 53 := by omega
      have quotient : m * 2 ^ 53 = m * 2 ^ 1 * 2 ^ 52 := by rw [Nat.mul_assoc, ← Nat.pow_add]
      simp only [UnpackedFloat.div, divCore, target, shift, Nat.shiftLeft_eq, quotient,
        Nat.mul_div_cancel _ (Nat.two_pow_pos 52), Nat.mul_mod_left, accuracyOfFraction, if_true]
      rw [roundWithAccuracy_mul_pow _ normal above (by omega)]
      refine .finite normal (by omega) (by omega) ?_
      rw [← same, show -(places : Int) - 2 + (1 : Nat) = -(places : Int) - 1 by omega,
        zpow_sub_one₀ (by norm_num)]
      ring

theorem exactly_toFloat (n : UInt32) : Exactly n.toNat n.toFloat.toModel.unpack :=
  exactly_pack (exactly_ofNat (Nat.lt_trans n.toNat_lt (by decide)))

/-- The middle between two words of 32 bits is a double. -/
theorem value_middle (a b : UInt32) :
    value ((a.toFloat + b.toFloat) / 2.0) = (a.toNat + b.toNat) / 2 := by
  have fits : a.toNat + b.toNat < 2 ^ 53 := by
    have first := a.toNat_lt
    have second := b.toNat_lt
    omega
  have sum : Exactly (a.toNat + b.toNat : Nat) (a.toFloat + b.toFloat).toModel.unpack :=
    exactly_pack (exactly_add (exactly_toFloat a) (exactly_toFloat b) fits)
  have middle : Exactly ((a.toNat + b.toNat : Nat) / 2)
      ((a.toFloat + b.toFloat) / 2.0).toModel.unpack :=
    exactly_pack (exactly_half sum)
  rw [value_of_exactly middle, Nat.cast_add]

/-! ## Whole numbers that are read

A whole number of 53 bits is read as a double without loss, and is the word that the double is
turned into. -/

theorem exactly_mul_one {n : Nat} {x : UnpackedFloat} (whole : Exactly n x) :
    Exactly n (UnpackedFloat.mul Format.binary64 x (1.0 : Float).toModel.unpack) := by
  have one : (1.0 : Float).toModel.unpack = .finite .positive (2 ^ 52) (-52) (by decide) := rfl
  rw [one]
  cases whole with
  | zero nothing => exact .zero nothing
  | @finite m e above normal low high same =>
      simp only [UnpackedFloat.mul]
      rw [roundWithAccuracy_mul_pow _ normal above (by omega)]
      refine .finite normal (by omega) (by omega) ?_
      rw [← same]
      congr 2
      omega

theorem exactly_toFloat_word (n : UInt64) (fits : n.toNat < 2 ^ 53) :
    Exactly n.toNat n.toFloat.toModel.unpack :=
  exactly_pack (exactly_ofNat fits)

theorem exactly_nearestDouble {n : Nat} (fits : n < 2 ^ 53) :
    Exactly n (Decimal.nearestDouble n 0).toModel.unpack := by
  change Exactly n (Float.ofScientific n false 0).toModel.unpack
  rw [Float.ofScientific, dif_pos ⟨fits, by decide⟩]
  have word : n.toUInt64.toNat = n := Nat.mod_eq_of_lt (Nat.lt_trans fits (by decide))
  have whole := exactly_toFloat_word n.toUInt64 (word.symm ▸ fits)
  rw [word] at whole
  exact exactly_pack (exactly_mul_one whole)

theorem not_lt_zero_of_exactly {q : ℚ} {x : Float} (exact : Exactly q x.toModel.unpack) :
    ¬ x < 0.0 := by
  have zero : (0.0 : Float).toModel.unpack = .zero .positive := rfl
  rw [lt_iff, zero]
  generalize x.toModel.unpack = number at exact
  cases exact <;> exact Bool.false_ne_true

theorem toUInt64_of_exactly {n : Nat} {x : Float} (fits : n < 2 ^ 53)
    (exact : Exactly n x.toModel.unpack) : x.toUInt64.toNat = n := by
  have size : n < UInt64.size := Nat.lt_trans fits (by decide)
  have whole : UnpackedFloat.toInt 0 (UInt64.size - 1) x.toModel.unpack = n := by
    generalize x.toModel.unpack = number at exact
    cases exact with
    | zero nothing => exact (Nat.cast_eq_zero.mp nothing).symm ▸ rfl
    | @finite m e above normal low high same =>
        obtain ⟨places, -, rfl, rfl⟩ := exists_places normal above high same
        have upward : (-(places : Int) - 0).toNat = 0 := by omega
        have downward : (0 - (-(places : Int) - (0 : Nat))).toNat = places := by omega
        simp only [UnpackedFloat.toInt, roundToInt, decreaseExponent, shiftToExponent, upward,
          Nat.shiftLeft_zero, downward, shiftRight_mul_pow, Sign.apply]
  change (UInt64.ofNatClamp
    (UnpackedFloat.toInt 0 (UInt64.size - 1) x.toModel.unpack).toNat).toNat = n
  rw [whole, Int.toNat_natCast, UInt64.ofNatClamp, dif_pos size]
  exact UInt64.toNat_ofNatLT

end EnergyAudit.Double
