import EnergyAudit.Json.Number
import EnergyAudit.Proofs.Double.Range
import Mathlib

/-! # Rounding raises a number by little

A mantissa of 53 bits is rounded up by one at most, so that a number grows by one part in `2 ^ 52`
for each operation.  A product of numbers that were rounded stays finite as long as there is room
for that below the first number that is beyond the range. -/

namespace EnergyAudit.Double

open Float.Model UnpackedFloat

/-- What rounding may multiply a number by. -/
def growth : ℚ := 1 + 1 / 2 ^ 52

/-- Whether the number has a mantissa of 53 bits, the first of which is set, and a power of two that
is at least the `low`-th one, and is no greater than `bound`. -/
inductive NormalUpTo (low : Int) (bound : ℚ) : UnpackedFloat → Prop
  | finite {sign : Sign} {mantissa : Nat} {exponent : Int} {above : 0 < mantissa}
      (normal : mantissa.log2 = 52) (scale : low ≤ exponent)
      (most : (mantissa : ℚ) * 2 ^ exponent ≤ bound) :
      NormalUpTo low bound (.finite sign mantissa exponent above)

def UpTo (low : Int) (bound : ℚ) (x : Float) : Prop := NormalUpTo low bound x.toModel.unpack

variable {low : Int} {bound : ℚ} {number : UnpackedFloat}

theorem NormalUpTo.mono {low' : Int} {bound' : ℚ} (upTo : NormalUpTo low bound number)
    (lower : low' ≤ low) (higher : bound ≤ bound') : NormalUpTo low' bound' number := by
  cases upTo with
  | finite normal scale most => exact .finite normal (lower.trans scale) (most.trans higher)

theorem NormalUpTo.isFinite (upTo : NormalUpTo low bound number) : number.isFinite = true := by
  cases upTo with
  | finite normal scale most => rfl

/-! ## Shifts -/

theorem exists_shift (mantissa : Nat) (exponent : Int) (accuracy : Accuracy) :
    ∃ places : Nat,
      (shiftToTargetExponent Format.binary64 mantissa exponent accuracy).1.mantissa =
        mantissa / 2 ^ places ∧
      (shiftToTargetExponent Format.binary64 mantissa exponent accuracy).2 = exponent + places := by
  refine ⟨(Format.binary64.targetExponent (totalExponent mantissa exponent) - exponent).toNat, ?_,
    rfl⟩
  simp only [shiftToTargetExponent, shiftToExponent, mantissa_shiftRight,
    mantissa_ofMantissaAndAccuracy]

theorem div_mul_zpow_le (mantissa places : Nat) (exponent : Int) :
    ((mantissa / 2 ^ places : Nat) : ℚ) * 2 ^ (exponent + places) ≤ mantissa * 2 ^ exponent := by
  have whole : ((mantissa / 2 ^ places : Nat) : ℚ) * 2 ^ places ≤ mantissa := by
    exact_mod_cast Nat.div_mul_le_self mantissa (2 ^ places)
  rw [zpow_add₀ (by norm_num), zpow_natCast, mul_comm (2 ^ exponent : ℚ), ← mul_assoc]
  exact mul_le_mul_of_nonneg_right whole (by positivity)

/-- A mantissa that is rounded up is raised by no more than what is left of its first bit. -/
theorem rounded_mul_zpow_le {mantissa places rounded : Nat} (exponent : Int)
    (large : 2 ^ 52 ≤ mantissa / 2 ^ places) (raised : rounded ≤ mantissa / 2 ^ places + 1) :
    (rounded : ℚ) * 2 ^ (exponent + places) ≤ mantissa * 2 ^ exponent * growth := by
  have power : (0 : ℚ) < 2 ^ (exponent + places) := by positivity
  have unit : 2 ^ 52 * (2 : ℚ) ^ (exponent + places) ≤ mantissa * 2 ^ exponent := by
    refine (mul_le_mul_of_nonneg_right ?_ power.le).trans (div_mul_zpow_le mantissa places exponent)
    exact_mod_cast large
  have most : (rounded : ℚ) ≤ ((mantissa / 2 ^ places : Nat) : ℚ) + 1 := by exact_mod_cast raised
  calc (rounded : ℚ) * 2 ^ (exponent + places)
      ≤ ((mantissa / 2 ^ places : Nat) + 1) * 2 ^ (exponent + places) :=
        mul_le_mul_of_nonneg_right most power.le
    _ = (mantissa / 2 ^ places : Nat) * 2 ^ (exponent + places) + 2 ^ (exponent + places) := by
        rw [add_mul, one_mul]
    _ ≤ mantissa * 2 ^ exponent + mantissa * 2 ^ exponent * (1 / 2 ^ 52) :=
        add_le_add (div_mul_zpow_le mantissa places exponent) (by linarith)
    _ = mantissa * 2 ^ exponent * growth := by
        rw [growth]
        ring

theorem normalUpTo_round {mantissa : Nat} {exponent : Int} (sign : Sign) (accuracy : Accuracy)
    (large : 2 ^ 52 ≤ mantissa) (scale : low ≤ exponent) (normal : -1074 ≤ low)
    (most : (mantissa : ℚ) * 2 ^ exponent ≤ bound) :
    NormalUpTo low (bound * growth)
      (roundWithAccuracy Format.binary64 sign mantissa exponent accuracy) := by
  have kept := le_shiftToTargetExponent_mantissa accuracy large (normal.trans scale)
  obtain ⟨places, shifted, raised⟩ := exists_shift mantissa exponent accuracy
  simp only [roundWithAccuracy]
  generalize shiftToTargetExponent Format.binary64 mantissa exponent accuracy = first at *
  -- The rounded mantissa may have one bit more, which the second shift takes away again.
  have rounded := kept.trans (le_roundedMantissa first.1)
  have again : 2 ^ 52 ≤ (shiftToTargetExponent Format.binary64 first.1.roundedMantissa first.2
      .exact).1.mantissa :=
    le_shiftToTargetExponent_mantissa .exact rounded (by omega)
  have small := shiftToTargetExponent_mantissa_lt first.1.roundedMantissa first.2 .exact
  obtain ⟨carry, shifted', raised'⟩ := exists_shift first.1.roundedMantissa first.2 .exact
  generalize shiftToTargetExponent Format.binary64 first.1.roundedMantissa first.2 .exact = second
    at *
  split
  · omega
  · rename_i nonzero
    refine .finite ((Nat.log2_eq_iff nonzero).mpr ⟨again, small⟩) (by omega) ?_
    rw [shifted', raised']
    apply (div_mul_zpow_le _ _ _).trans
    rw [raised]
    have atMost := roundedMantissa_le first.1
    rw [shifted] at kept atMost
    apply (rounded_mul_zpow_le exponent kept atMost).trans
    exact mul_le_mul_of_nonneg_right most (by norm_num [growth])

/-! ## Packing -/

theorem exponent_le_of_lt {mantissa : Nat} {exponent : Int} (normal : mantissa.log2 = 52)
    (above : 0 < mantissa) (inRange : (mantissa : ℚ) * 2 ^ exponent < 2 ^ 1024) :
    exponent ≤ 971 := by
  have large : 2 ^ 52 ≤ mantissa := normal ▸ Nat.log2_self_le (Nat.ne_of_gt above)
  have power : (2 : ℚ) ^ (52 + exponent) < 2 ^ (1024 : Int) := by
    rw [zpow_add₀ (by norm_num)]
    refine (mul_le_mul_of_nonneg_right ?_ (by positivity)).trans_lt inRange
    exact_mod_cast large
  have less := (zpow_lt_zpow_iff_right₀ (by norm_num)).mp power
  omega

/-- A mantissa without its first bit, and with the first bit again. -/
theorem toNat_append_mantissa {mantissa : Nat} (normal : mantissa.log2 = 52)
    (above : 0 < mantissa) :
    (1#1 ++ BitVec.ofNat 52 mantissa).toNat = mantissa := by
  obtain ⟨least, greatest⟩ := (Nat.log2_eq_iff (Nat.ne_of_gt above)).mp normal
  rw [toNat_leading_append, BitVec.toNat_ofNat]
  change 2 ^ 52 + mantissa % 2 ^ 52 = mantissa
  omega

theorem unpackSign_packComponents {spec : Format} {sign : Sign}
    {exponent : BitVec spec.exponentBits} {mantissa : BitVec spec.mantissaBitsWithoutImplicit} :
    unpackSign (packComponents spec sign exponent mantissa) = sign.toBitVec := by
  ext i hi
  obtain rfl := Nat.lt_one_iff.mp hi
  simp [unpackSign, packComponents, BitVec.getLsbD_append, BitVec.getLsbD_eq_getElem,
    BitVec.getElem_append]

theorem ofBitVec_toBitVec (sign : Sign) : Sign.ofBitVec sign.toBitVec = sign := by
  cases sign <;> rfl

theorem unpack_pack {sign : Sign} {mantissa : Nat} {exponent : Int} {above : 0 < mantissa}
    (normal : mantissa.log2 = 52) (low : -1074 ≤ exponent) (high : exponent ≤ 971) :
    (Float.Model.pack (.finite sign mantissa exponent above)).unpack =
      .finite sign mantissa exponent above := by
  have field : ¬ 2 ^ Format.binary64.exponentBits ≤
      (exponent + Format.binary64.exponentBias +
        Format.binary64.mantissaBitsWithoutImplicit).toNat + 1 := by
    change ¬ 2048 ≤ (exponent + (1023 : Nat) + (52 : Nat)).toNat + 1
    omega
  have bits : mantissa.log2 + 1 = Format.binary64.mantissaBits := by
    rw [normal]
    rfl
  have biased : (BitVec.ofNat 11 (exponent + (1023 : Nat) + (52 : Nat)).toNat).toNat =
      (exponent + 1075).toNat := by
    rw [BitVec.toNat_ofNat, Nat.mod_eq_of_lt (by omega)]
    omega
  change UnpackedFloat.unpack Format.binary64
    (UnpackedFloat.pack Format.binary64 (.finite sign mantissa exponent above)) = _
  simp only [UnpackedFloat.pack]
  rw [if_neg field, if_pos bits]
  have bias : Format.binary64.exponentBias = 1023 := rfl
  simp only [UnpackedFloat.unpack, unpackExponent_packComponents, unpackMantissa_packComponents,
    unpackSign_packComponents, ofBitVec_toBitVec, bias]
  -- The first and the last exponent mark numbers of another form.
  have notGreatest : BitVec.ofNat 11 (exponent + (1023 : Nat) + (52 : Nat)).toNat ≠ -1#11 := by
    intro greatest
    rw [greatest] at biased
    change 2047 = _ at biased
    omega
  have notLeast : BitVec.ofNat 11 (exponent + (1023 : Nat) + (52 : Nat)).toNat ≠ 0#11 := by
    intro least
    rw [least] at biased
    change 0 = _ at biased
    omega
  rw [if_neg notGreatest, if_neg notLeast]
  simp only [UnpackedFloat.finite.injEq]
  refine ⟨trivial, toNat_append_mantissa normal above, ?_⟩
  rw [biased]
  omega

theorem upTo_pack (upTo : NormalUpTo low bound number) (normal : -1074 ≤ low)
    (inRange : bound < 2 ^ 1024) : UpTo low bound (.ofModel (.pack number)) := by
  cases upTo with
  | @finite sign mantissa exponent above first scale most =>
      have high := exponent_le_of_lt first above (most.trans_lt inRange)
      change NormalUpTo low bound (Float.Model.pack _).unpack
      rw [unpack_pack first (normal.trans scale) high]
      exact .finite first scale most

/-! ## Products -/

theorem normalUpTo_mul {low' : Int} {bound' : ℚ} {x y : UnpackedFloat}
    (first : NormalUpTo low bound x) (second : NormalUpTo low' bound' y)
    (normal : -1074 ≤ low + low') :
    NormalUpTo (low + low') (bound * bound' * growth) (UnpackedFloat.mul Format.binary64 x y) := by
  cases first with
  | @finite s m e positive normalX scaleX mostX =>
      cases second with
      | @finite t n f positive' normalY scaleY mostY =>
          have large : 2 ^ 52 ≤ m := normalX ▸ Nat.log2_self_le (Nat.ne_of_gt positive)
          refine normalUpTo_round (s * t) .exact (large.trans (Nat.le_mul_of_pos_right m positive'))
            (add_le_add scaleX scaleY) normal ?_
          have product : ((m * n : Nat) : ℚ) * 2 ^ (e + f) = m * 2 ^ e * (n * 2 ^ f) := by
            rw [zpow_add₀ (by norm_num)]
            push_cast
            ring
          rw [product]
          exact mul_le_mul mostX mostY (by positivity) ((by positivity : (0 : ℚ) ≤ _).trans mostX)

theorem upTo_mul {low' : Int} {bound' : ℚ} {x y : Float} (first : UpTo low bound x)
    (second : UpTo low' bound' y) (normal : -1074 ≤ low + low')
    (inRange : bound * bound' * growth < 2 ^ 1024) :
    UpTo (low + low') (bound * bound' * growth) (x * y) :=
  upTo_pack (normalUpTo_mul first second normal) normal inRange

/-! ## Numbers of a text -/

theorem normalUpTo_ofScientific {n power : Nat} (positive : 0 < n) (fits : power ≤ 2048) :
    NormalUpTo (-53) (n * 10 ^ power * growth)
      (UnpackedFloat.ofScientific Format.binary64 n power) := by
  have large : 2 ^ 52 ≤ n <<< 53 * 10 ^ power := by
    have one : 1 ≤ n * 10 ^ power := Nat.mul_pos positive (Nat.pow_pos (by decide))
    calc 2 ^ 52 ≤ 1 * 2 ^ 53 := by decide
      _ ≤ n * 10 ^ power * 2 ^ 53 := Nat.mul_le_mul_right _ one
      _ = n <<< 53 * 10 ^ power := by rw [Nat.shiftLeft_eq, Nat.mul_right_comm]
  have value : ((n <<< 53 * 10 ^ power : Nat) : ℚ) * 2 ^ (-53 : Int) = n * 10 ^ power := by
    rw [Nat.shiftLeft_eq]
    push_cast
    norm_num
    ring
  rw [ofScientific_natural (Nat.ne_of_gt positive) fits]
  exact normalUpTo_round .positive .exact large (Int.le_refl _) (by decide) value.le

theorem normalUpTo_round_natural {n : Nat} (sign : Sign) (positive : 0 < n) (fits : n < 2 ^ 53) :
    NormalUpTo (-52) (n * growth) (UnpackedFloat.round Format.binary64 sign n 0) := by
  have nonzero := Nat.ne_of_gt positive
  have few : n.log2 < 53 := log2_lt_of_lt (by decide) fits
  have places : (0 - Format.binary64.targetExponent (totalExponent n 0)).toNat = 52 - n.log2 := by
    rw [targetExponent_binary64, totalExponent]
    omega
  have large : 2 ^ 52 ≤ n <<< (52 - n.log2) := by
    rw [Nat.shiftLeft_eq]
    calc 2 ^ 52 = 2 ^ n.log2 * 2 ^ (52 - n.log2) := by
          rw [← Nat.pow_add]
          congr 1
          omega
      _ ≤ n * 2 ^ (52 - n.log2) := Nat.mul_le_mul_right _ (Nat.log2_self_le nonzero)
  have value : ((n <<< (52 - n.log2) : Nat) : ℚ) * 2 ^ (0 - (52 - n.log2 : Nat) : Int) = n := by
    rw [Nat.shiftLeft_eq, zero_sub, zpow_neg, zpow_natCast]
    push_cast
    exact mul_inv_cancel_right₀ (by positivity) _
  simp only [UnpackedFloat.round, decreaseExponent, places]
  exact normalUpTo_round sign .exact large (by omega) (by decide) value.le

theorem growth_pos : 0 < growth := by norm_num [growth]

theorem growth_le : growth ≤ 3 / 2 := by norm_num [growth]

/-- Whole numbers of 64 bits are far from the bound of doubles. -/
theorem mul_growth_sq_lt {n : Nat} (bound : n < 2 ^ 65) : n * growth ^ 2 < 2 ^ 1024 := by
  have less : (n : ℚ) ≤ 2 ^ 65 := by exact_mod_cast bound.le
  calc n * growth ^ 2 ≤ 2 ^ 65 * (3 / 2) ^ 2 :=
        mul_le_mul less (pow_le_pow_left₀ growth_pos.le growth_le 2) (by positivity) (by positivity)
    _ ≤ 2 ^ 67 := by norm_num
    _ < 2 ^ 1024 := pow_lt_pow_right₀ (by norm_num) (by norm_num)

theorem mul_growth_le (n : Nat) : n * growth ≤ n * growth ^ 2 := by
  rw [sq, ← mul_assoc]
  exact le_mul_of_one_le_right (mul_nonneg (Nat.cast_nonneg n) growth_pos.le) (by norm_num [growth])

theorem upTo_toFloat {n : Nat} (positive : 0 < n) (fits : n < 2 ^ 53) :
    UpTo (-52) (n * growth) n.toUInt64.toFloat := by
  have word : n.toUInt64.toNat = n := Nat.mod_eq_of_lt (Nat.lt_trans fits (by decide))
  have order : compare (n : Int) 0 = .gt := compare_gt_iff_gt.mpr (by omega)
  have inRange := (mul_growth_le n).trans_lt (mul_growth_sq_lt (Nat.lt_trans fits (by decide)))
  apply upTo_pack _ (by decide) inRange
  simp only [UnpackedFloat.ofUInt64, UnpackedFloat.ofNat, UnpackedFloat.ofInt,
    UnpackedFloat.normalize, word, order, Int.toNat_natCast]
  exact normalUpTo_round_natural .positive positive fits

theorem upTo_one : UpTo (-52) 1 1.0 := by
  have form : (1.0 : Float).toModel.unpack = .finite .positive (2 ^ 52) (-52) (by decide) := rfl
  rw [UpTo, form]
  exact .finite (by decide) (by decide) (by norm_num)

/-- The double of a whole number is greater than the number by little. -/
theorem upTo_nearestDouble {n : Nat} (positive : 0 < n) (bound : n < 2 ^ 65) :
    UpTo (-104) (n * growth ^ 2) (Decimal.nearestDouble n 0) := by
  have inRange := mul_growth_sq_lt bound
  change UpTo _ _ (Float.ofScientific n false 0)
  unfold Float.ofScientific
  split
  case isTrue small =>
      have same : n * growth * 1 * growth = n * growth ^ 2 := by ring
      have product := upTo_mul (upTo_toFloat positive small.1) upTo_one (by decide)
        (same.trans_lt inRange)
      rw [same] at product
      exact product
  case isFalse large =>
      have scaled := normalUpTo_ofScientific positive (show 0 ≤ 2048 by decide)
      rw [pow_zero, mul_one] at scaled
      exact upTo_pack (scaled.mono (by decide) (mul_growth_le n)) (by decide) inRange

/-- Whether the number is the whole number `n`, with a mantissa of 53 bits. -/
def IsWhole (n : Nat) : UnpackedFloat → Prop
  | .finite _ mantissa exponent _ =>
      mantissa.log2 = 52 ∧ -53 ≤ exponent ∧ mantissa * 2 ^ (exponent + 53).toNat = n * 2 ^ 53
  | .zero _ | .infinity _ | .notANumber => False

instance (n : Nat) (number : UnpackedFloat) : Decidable (IsWhole n number) :=
  match number with
  | .finite _ mantissa exponent _ =>
      inferInstanceAs (Decidable (mantissa.log2 = 52 ∧ -53 ≤ exponent ∧
        mantissa * 2 ^ (exponent + 53).toNat = n * 2 ^ 53))
  | .zero _ | .infinity _ | .notANumber => .isFalse id

theorem normalUpTo_of_isWhole {n : Nat} (whole : IsWhole n number) :
    NormalUpTo (-53) n number := by
  cases number with
  | finite sign mantissa exponent above =>
      obtain ⟨normal, scale, value⟩ := whole
      have places : exponent = ((exponent + 53).toNat : Int) - 53 := by omega
      refine .finite normal scale (le_of_eq ?_)
      rw [places, zpow_sub₀ (by norm_num), zpow_natCast, ← mul_div_assoc,
        div_eq_iff (by positivity)]
      exact_mod_cast value
  | zero sign | infinity sign | notANumber => exact whole.elim

/-- The powers of ten that are looked up are exact. -/
theorem isWhole_tenToThe : ∀ power ≤ 22,
    IsWhole (10 ^ power) (Json.tenToThe power).toModel.unpack := by
  decide +kernel

/-- The double of a power of ten is greater than the power by little. -/
theorem upTo_tenToThe {power : Nat} (fits : power ≤ 308) :
    UpTo (-53) (10 ^ power * growth) (Json.tenToThe power) := by
  by_cases listed : power ≤ 22
  · have whole := normalUpTo_of_isWhole (isWhole_tenToThe power listed)
    refine whole.mono (Int.le_refl _) ?_
    push_cast
    exact le_mul_of_one_le_right (by positivity) (by norm_num [growth])
  · have scaled := normalUpTo_ofScientific (show 0 < 1 by decide) (show power ≤ 2048 by omega)
    rw [Nat.cast_one, one_mul] at scaled
    change UpTo _ _ (Float.ofScientific 1 false power)
    unfold Float.ofScientific
    rw [dif_neg fun small => listed small.2]
    refine upTo_pack scaled (by decide) ?_
    have most : (10 : ℚ) ^ power * growth ≤ 10 ^ 308 * (3 / 2) :=
      mul_le_mul (pow_le_pow_right₀ (by norm_num) fits) growth_le growth_pos.le (by positivity)
    have bound : 10 ^ 308 * 3 < 2 ^ 1024 * 2 := by decide +kernel
    refine most.trans_lt ?_
    rw [← mul_div_assoc, div_lt_iff₀ (by norm_num)]
    exact_mod_cast bound

/-- A whole number times a power of ten is finite if there is room for rounding. -/
theorem isFinite_mul_tenToThe {n power : Nat} (positive : 0 < n) (bound : n < 2 ^ 65)
    (fits : power ≤ 308) (room : (n : ℚ) * 10 ^ power * growth ^ 4 < 2 ^ 1024) :
    (Decimal.nearestDouble n 0 * Json.tenToThe power).isFinite = true := by
  have same : n * growth ^ 2 * (10 ^ power * growth) * growth = n * 10 ^ power * growth ^ 4 := by
    ring
  have product := upTo_mul (upTo_nearestDouble positive bound) (upTo_tenToThe fits) (by decide)
    (same.trans_lt room)
  exact NormalUpTo.isFinite product

end EnergyAudit.Double
