import EnergyAudit.Json.Record
import EnergyAudit.Proofs.Double
import Mathlib

/-! # Doubles in range

A double is finite when the power of two that it is scaled by is at most the 971st one.  Rounding
raises that power by one at most, so that what is read of a number stays finite: whole numbers of 64
bits are far below the bound, numbers are only made smaller by powers of ten, and what is made
greater is looked at before it is taken. -/

namespace EnergyAudit.Double

open Float.Model UnpackedFloat

/-- Whether the number is zero, or a whole number times a power of two that is at most the
`bound`-th one. -/
inductive ScaledWithin (bound : Int) : UnpackedFloat → Prop
  | zero (sign : Sign) : ScaledWithin bound (.zero sign)
  | finite {sign : Sign} {mantissa : Nat} {exponent : Int} {above : 0 < mantissa}
      (scale : exponent ≤ bound) : ScaledWithin bound (.finite sign mantissa exponent above)

def Within (bound : Int) (x : Float) : Prop := ScaledWithin bound x.toModel.unpack

theorem isFinite_of_scaledWithin {bound : Int} {number : UnpackedFloat}
    (scaled : ScaledWithin bound number) : number.isFinite = true := by
  cases scaled with
  | zero sign => rfl
  | finite scale => rfl

theorem isFinite_of_within {bound : Int} {x : Float} (within : Within bound x) :
    x.isFinite = true := isFinite_of_scaledWithin within

/-- Bits whose exponent is not the greatest one are those of a finite number. -/
theorem scaledWithin_unpack {bits : BitVec Format.binary64.numBits} {bound : Int}
    (ordinary : (unpackExponent bits).toNat ≠ 2047)
    (scaled : ((unpackExponent bits).toNat : Int) - 1075 ≤ bound) (low : -1074 ≤ bound) :
    ScaledWithin bound (UnpackedFloat.unpack Format.binary64 bits) := by
  have notGreatest : unpackExponent bits ≠ -1#_ := by
    intro greatest
    exact ordinary (congrArg BitVec.toNat greatest)
  simp only [UnpackedFloat.unpack]
  rw [if_neg notGreatest]
  by_cases small : unpackExponent bits = 0#_
  · rw [if_pos small]
    by_cases nothing : unpackMantissa bits = 0#_
    · rw [dif_pos nothing]
      exact .zero _
    · rw [dif_neg nothing, small]
      exact .finite low
  · rw [if_neg small]
    exact .finite scaled

theorem mantissa_lt {bits : BitVec Format.binary64.numBits} {sign : Sign} {mantissa : Nat}
    {exponent : Int} {above : 0 < mantissa}
    (form : UnpackedFloat.unpack Format.binary64 bits = .finite sign mantissa exponent above) :
    mantissa < 2 ^ 53 := by
  simp only [UnpackedFloat.unpack] at form
  split at form
  · split at form <;> contradiction
  · split at form
    · split at form
      · contradiction
      · have bound := (unpackMantissa bits).isLt
        simp only [UnpackedFloat.finite.injEq] at form
        obtain ⟨_, rfl, rfl⟩ := form
        exact Nat.lt_trans bound (by decide)
    · simp only [UnpackedFloat.finite.injEq] at form
      obtain ⟨_, rfl, rfl⟩ := form
      exact BitVec.isLt _

theorem within_of_isFinite {x : Float} (finite : x.isFinite = true) : Within 971 x := by
  have ordinary : (@unpackExponent Format.binary64 x.toModel.toBits.toBitVec).toNat ≠ 2047 := by
    intro greatest
    change (UnpackedFloat.unpack Format.binary64 _).isFinite = true at finite
    simp only [UnpackedFloat.unpack] at finite
    rw [if_pos (BitVec.eq_of_toNat_eq greatest)] at finite
    split at finite <;> contradiction
  have field := (@unpackExponent Format.binary64 x.toModel.toBits.toBitVec).isLt
  have bits : (2 : Nat) ^ Format.binary64.exponentBits = 2048 := rfl
  apply scaledWithin_unpack ordinary
  · omega
  · decide

theorem within_pack {bound : Int} {number : UnpackedFloat} (scaled : ScaledWithin bound number)
    (low : -1074 ≤ bound) (high : bound ≤ 971) : Within bound (.ofModel (.pack number)) := by
  cases scaled with
  | zero sign =>
      change ScaledWithin bound (Float.Model.pack (.zero sign)).unpack
      rw [unpack_zero]
      exact .zero sign
  | @finite sign mantissa exponent above scale =>
      change ScaledWithin bound (UnpackedFloat.unpack Format.binary64
        (UnpackedFloat.pack Format.binary64 (.finite sign mantissa exponent above)))
      have field : ¬ 2 ^ Format.binary64.exponentBits ≤
          (exponent + Format.binary64.exponentBias +
            Format.binary64.mantissaBitsWithoutImplicit).toNat + 1 := by
        change ¬ 2048 ≤ (exponent + (1023 : Nat) + (52 : Nat)).toNat + 1
        omega
      simp only [UnpackedFloat.pack]
      rw [if_neg field]
      by_cases normal : mantissa.log2 + 1 = Format.binary64.mantissaBits
      · rw [if_pos normal]
        apply scaledWithin_unpack
        · rw [unpackExponent_packComponents, BitVec.toNat_ofNat]
          change (exponent + (1023 : Nat) + (52 : Nat)).toNat % 2048 ≠ 2047
          omega
        · rw [unpackExponent_packComponents, BitVec.toNat_ofNat]
          change (((exponent + (1023 : Nat) + (52 : Nat)).toNat % 2048 : Nat) : Int) - 1075 ≤ bound
          omega
        · exact low
      · -- A mantissa of fewer bits is packed with the least exponent.
        rw [if_neg normal]
        apply scaledWithin_unpack
        · rw [unpackExponent_packComponents]
          decide
        · rw [unpackExponent_packComponents]
          change (0 : Int) - 1075 ≤ bound
          omega
        · exact low

theorem exponent_le {bound : Int} {x : Float} {sign : Sign} {mantissa : Nat} {exponent : Int}
    {above : 0 < mantissa} (within : Within bound x)
    (form : x.toModel.unpack = .finite sign mantissa exponent above) : exponent ≤ bound := by
  unfold Within at within
  rw [form] at within
  cases within with
  | finite scale => exact scale

theorem isFinite_neg {x : Float} (finite : x.isFinite = true) : (-x).isFinite = true := by
  have within : Within 971 (-x) := by
    apply within_pack _ (by decide) (by decide)
    rcases unpack_cases finite with ⟨sign, form⟩ | ⟨sign, mantissa, exponent, above, form⟩
    · rw [form]
      exact .zero _
    · rw [form]
      exact .finite (exponent_le (within_of_isFinite finite) form)
  exact isFinite_of_within within

/-! ## Rounding -/

theorem mantissa_shiftRight (extended : ExtendedMantissa) (places : Nat) :
    (extended >>> places).mantissa = extended.mantissa / 2 ^ places := by
  change (Nat.repeat ExtendedMantissa.shiftRightOne places extended).mantissa = _
  induction places with
  | zero => simp [Nat.repeat]
  | succ places ih =>
      rw [Nat.repeat, ExtendedMantissa.shiftRightOne, ih, Nat.div_div_eq_div_mul, Nat.pow_succ]

theorem mantissa_ofMantissaAndAccuracy (mantissa : Nat) (accuracy : Accuracy) :
    (ExtendedMantissa.ofMantissaAndAccuracy mantissa accuracy).mantissa = mantissa := by
  cases accuracy with
  | exact => rfl
  | inexact order => cases order <;> rfl

theorem roundedMantissa_le (extended : ExtendedMantissa) :
    extended.roundedMantissa ≤ extended.mantissa + 1 := by
  simp only [ExtendedMantissa.roundedMantissa, Accuracy.roundToNearestEven]
  split <;> omega

theorem log2_lt_of_lt {n bits : Nat} (positive : 0 < bits) (bound : n < 2 ^ bits) :
    n.log2 < bits := by
  rcases Nat.eq_zero_or_pos n with rfl | above
  · simpa using positive
  · exact (Nat.log2_lt (Nat.ne_of_gt above)).mpr bound

theorem targetExponent_binary64 (total : Int) :
    Format.binary64.targetExponent total = max (total - 53) (-1074) := rfl

theorem shiftToTargetExponent_exponent_le {bound exponent : Int} {mantissa : Nat}
    (accuracy : Accuracy) (scale : exponent ≤ bound)
    (size : totalExponent mantissa exponent ≤ bound + 53) (low : -1074 ≤ bound) :
    (shiftToTargetExponent Format.binary64 mantissa exponent accuracy).2 ≤ bound := by
  simp only [shiftToTargetExponent, shiftToExponent, targetExponent_binary64]
  omega

/-- What is left of a mantissa has 53 bits. -/
theorem shiftToTargetExponent_mantissa_lt (mantissa : Nat) (exponent : Int)
    (accuracy : Accuracy) :
    (shiftToTargetExponent Format.binary64 mantissa exponent accuracy).1.mantissa < 2 ^ 53 := by
  simp only [shiftToTargetExponent, shiftToExponent, targetExponent_binary64, totalExponent,
    mantissa_shiftRight, mantissa_ofMantissaAndAccuracy]
  rw [Nat.div_lt_iff_lt_mul (Nat.two_pow_pos _), ← Nat.pow_add]
  apply Nat.lt_of_lt_of_le Nat.lt_log2_self
  exact Nat.pow_le_pow_right (by decide) (by omega)

/-- Rounding raises the power of two by one at most. -/
theorem scaledWithin_roundWithAccuracy {bound exponent : Int} {mantissa : Nat} (sign : Sign)
    (accuracy : Accuracy) (scale : exponent < bound)
    (size : totalExponent mantissa exponent < bound + 53) (low : -1074 < bound) :
    ScaledWithin bound (roundWithAccuracy Format.binary64 sign mantissa exponent accuracy) := by
  have shifted : (shiftToTargetExponent Format.binary64 mantissa exponent accuracy).2 ≤
      bound - 1 :=
    shiftToTargetExponent_exponent_le accuracy (by omega) (by omega) (by omega)
  have left := shiftToTargetExponent_mantissa_lt mantissa exponent accuracy
  simp only [roundWithAccuracy]
  generalize shiftToTargetExponent Format.binary64 mantissa exponent accuracy = first at *
  -- Rounding up may carry into one bit more, and then the mantissa is shifted once again.
  have rounded : first.1.roundedMantissa.log2 ≤ 53 := by
    have atMost := roundedMantissa_le first.1
    exact Nat.lt_succ_iff.mp (log2_lt_of_lt (by decide) (by omega))
  have width : totalExponent first.1.roundedMantissa first.2 ≤ bound + 53 := by
    unfold totalExponent
    omega
  have again : (shiftToTargetExponent Format.binary64 first.1.roundedMantissa first.2 .exact).2 ≤
      bound :=
    shiftToTargetExponent_exponent_le .exact (by omega) width (by omega)
  split
  · exact .zero sign
  · exact .finite again

/-! ## Products -/

theorem within_mul {a b bound : Int} {x y : Float} (first : Within a x) (second : Within b y)
    (scale : a + b + 53 < bound) (low : -1074 < bound) (high : bound ≤ 971) :
    Within bound (x * y) := by
  apply within_pack _ (by omega) high
  rcases unpack_cases (isFinite_of_within first) with ⟨s, formX⟩ | ⟨s, m, e, above, formX⟩
  · rcases unpack_cases (isFinite_of_within second) with ⟨t, formY⟩ | ⟨t, n, f, positive, formY⟩
    · rw [formX, formY]
      exact .zero _
    · rw [formX, formY]
      exact .zero _
  · rcases unpack_cases (isFinite_of_within second) with ⟨t, formY⟩ | ⟨t, n, f, positive, formY⟩
    · rw [formX, formY]
      exact .zero _
    · have scaleX := exponent_le first formX
      have scaleY := exponent_le second formY
      have product : m * n < 2 ^ 53 * 2 ^ 53 :=
        Nat.mul_lt_mul'' (mantissa_lt formX) (mantissa_lt formY)
      rw [← Nat.pow_add] at product
      have bits := log2_lt_of_lt (by decide) product
      have size : totalExponent (m * n) (e + f) < bound + 53 := by
        unfold totalExponent
        omega
      rw [formX, formY]
      exact scaledWithin_roundWithAccuracy (s * t) .exact (by omega) size low

/-! ## Quotients by eight and more -/

/-- Whether the number is a whole number of 53 bits, the first of which is set, times a power of two
that makes it eight at least. -/
def AtLeastEight : UnpackedFloat → Prop
  | .finite _ mantissa exponent _ => 2 ^ 52 ≤ mantissa ∧ -49 ≤ exponent
  | .zero _ | .infinity _ | .notANumber => False

instance (number : UnpackedFloat) : Decidable (AtLeastEight number) :=
  match number with
  | .finite _ mantissa exponent _ =>
      inferInstanceAs (Decidable (2 ^ 52 ≤ mantissa ∧ -49 ≤ exponent))
  | .zero _ | .infinity _ | .notANumber => .isFalse id

theorem le_shiftToTargetExponent_exponent (mantissa : Nat) (exponent : Int)
    (accuracy : Accuracy) :
    totalExponent mantissa exponent - 53 ≤
      (shiftToTargetExponent Format.binary64 mantissa exponent accuracy).2 := by
  simp only [shiftToTargetExponent, shiftToExponent, targetExponent_binary64]
  omega

theorem le_shiftToTargetExponent_mantissa {mantissa : Nat} {exponent : Int} (accuracy : Accuracy)
    (large : 2 ^ 52 ≤ mantissa) (normal : -1074 ≤ exponent) :
    2 ^ 52 ≤ (shiftToTargetExponent Format.binary64 mantissa exponent accuracy).1.mantissa := by
  have nonzero : mantissa ≠ 0 := by omega
  have bits := (Nat.le_log2 nonzero).mpr large
  have places : (max (mantissa.log2 + 1 + exponent - 53) (-1074) - exponent).toNat =
      mantissa.log2 - 52 := by omega
  simp only [shiftToTargetExponent, shiftToExponent, targetExponent_binary64, totalExponent,
    mantissa_shiftRight, mantissa_ofMantissaAndAccuracy]
  rw [places, Nat.le_div_iff_mul_le (Nat.two_pow_pos _), ← Nat.pow_add,
    show 52 + (mantissa.log2 - 52) = mantissa.log2 by omega]
  exact Nat.log2_self_le nonzero

theorem le_roundedMantissa (extended : ExtendedMantissa) :
    extended.mantissa ≤ extended.roundedMantissa := by
  simp only [ExtendedMantissa.roundedMantissa, Accuracy.roundToNearestEven]
  split <;> omega

theorem atLeastEight_unpack {bits : BitVec Format.binary64.numBits}
    (low : 1026 ≤ (unpackExponent bits).toNat) (high : (unpackExponent bits).toNat ≤ 2046) :
    AtLeastEight (UnpackedFloat.unpack Format.binary64 bits) := by
  have notGreatest : unpackExponent bits ≠ -1#_ := by
    intro greatest
    have same : (unpackExponent bits).toNat = 2047 := congrArg BitVec.toNat greatest
    omega
  have notLeast : unpackExponent bits ≠ 0#_ := by
    intro least
    have same : (unpackExponent bits).toNat = 0 := congrArg BitVec.toNat least
    omega
  simp only [UnpackedFloat.unpack]
  rw [if_neg notGreatest, if_neg notLeast]
  constructor
  · rw [BitVec.toNat_append]
    exact Nat.left_le_or
  · change -49 ≤ ((unpackExponent bits).toNat : Int) - 1075
    omega

theorem atLeastEight_pack {sign : Sign} {mantissa : Nat} {exponent : Int} {above : 0 < mantissa}
    (normal : mantissa.log2 = 52) (low : -49 ≤ exponent) (high : exponent ≤ 971) :
    AtLeastEight (Float.Model.pack (.finite sign mantissa exponent above)).unpack := by
  have field : ¬ 2 ^ Format.binary64.exponentBits ≤
      (exponent + Format.binary64.exponentBias +
        Format.binary64.mantissaBitsWithoutImplicit).toNat + 1 := by
    change ¬ 2048 ≤ (exponent + (1023 : Nat) + (52 : Nat)).toNat + 1
    omega
  change AtLeastEight (UnpackedFloat.unpack Format.binary64
    (UnpackedFloat.pack Format.binary64 (.finite sign mantissa exponent above)))
  simp only [UnpackedFloat.pack]
  rw [if_neg field, if_pos (show mantissa.log2 + 1 = Format.binary64.mantissaBits by
    rw [normal]
    rfl)]
  have biased : (BitVec.ofNat 11 (exponent + (1023 : Nat) + (52 : Nat)).toNat).toNat =
      (exponent + 1075).toNat := by
    rw [BitVec.toNat_ofNat, Nat.mod_eq_of_lt (by omega)]
    omega
  apply atLeastEight_unpack
  · rw [unpackExponent_packComponents]
    change 1026 ≤ (BitVec.ofNat 11 (exponent + (1023 : Nat) + (52 : Nat)).toNat).toNat
    omega
  · rw [unpackExponent_packComponents]
    change (BitVec.ofNat 11 (exponent + (1023 : Nat) + (52 : Nat)).toNat).toNat ≤ 2046
    omega

theorem atLeastEight_round {exponent : Int} {mantissa : Nat} (sign : Sign)
    (accuracy : Accuracy) (large : 2 ^ 52 ≤ mantissa) (low : -1074 ≤ exponent)
    (scale : exponent < 971) (eight : 4 ≤ totalExponent mantissa exponent)
    (size : totalExponent mantissa exponent < 971 + 53) :
    AtLeastEight (Float.Model.pack
      (roundWithAccuracy Format.binary64 sign mantissa exponent accuracy)).unpack := by
  have within := scaledWithin_roundWithAccuracy sign accuracy scale size (by decide)
  have shifted := le_shiftToTargetExponent_exponent mantissa exponent accuracy
  have left := le_shiftToTargetExponent_mantissa accuracy large low
  simp only [roundWithAccuracy] at within ⊢
  generalize shiftToTargetExponent Format.binary64 mantissa exponent accuracy = first at *
  have rounded := Nat.le_trans left (le_roundedMantissa first.1)
  have again := le_shiftToTargetExponent_exponent first.1.roundedMantissa first.2 .exact
  have kept : 2 ^ 52 ≤ (shiftToTargetExponent Format.binary64 first.1.roundedMantissa first.2
      .exact).1.mantissa :=
    le_shiftToTargetExponent_mantissa .exact rounded (by omega)
  have small := shiftToTargetExponent_mantissa_lt first.1.roundedMantissa first.2 .exact
  have bits := (Nat.le_log2 (by omega)).mpr rounded
  unfold totalExponent at again
  generalize shiftToTargetExponent Format.binary64 first.1.roundedMantissa first.2 .exact = second
    at *
  split
  · omega
  · rename_i nonzero
    rw [dif_neg nonzero] at within
    have normal : second.1.mantissa.log2 = 52 := (Nat.log2_eq_iff nonzero).mpr ⟨kept, small⟩
    cases within with
    | finite scale => exact atLeastEight_pack normal (by omega) scale

theorem quotient_log2_le {m n places : Nat} (small : m < 2 ^ 53) (large : 2 ^ 52 ≤ n) :
    (m <<< places / n).log2 ≤ places := by
  have quotient : m <<< places / n < 2 ^ (places + 1) := by
    rw [Nat.shiftLeft_eq, Nat.div_lt_iff_lt_mul (by omega)]
    calc m * 2 ^ places < 2 ^ 53 * 2 ^ places := by
          exact Nat.mul_lt_mul_of_pos_right small (Nat.two_pow_pos places)
      _ = 2 ^ (places + 1) * 2 ^ 52 := by
          rw [← Nat.pow_add, ← Nat.pow_add]
          congr 1
          omega
      _ ≤ 2 ^ (places + 1) * n := Nat.mul_le_mul_left _ large
  exact Nat.lt_succ_iff.mp (log2_lt_of_lt (by omega) quotient)

theorem within_div {x y : Float} (finite : x.isFinite = true)
    (divisor : AtLeastEight y.toModel.unpack) : Within 969 (x / y) := by
  apply within_pack _ (by decide) (by decide)
  cases formY : y.toModel.unpack with
  | notANumber =>
      rw [formY] at divisor
      exact divisor.elim
  | infinity sign =>
      rw [formY] at divisor
      exact divisor.elim
  | zero sign =>
      rw [formY] at divisor
      exact divisor.elim
  | finite t n power positive =>
      rw [formY] at divisor
      obtain ⟨large, scaleY⟩ := divisor
      rcases unpack_cases finite with ⟨s, formX⟩ | ⟨s, m, exponent, above, formX⟩
      · rw [formX]
        exact .zero _
      · have scaleX := exponent_le (within_of_isFinite finite) formX
        have small := mantissa_lt formX
        have target : Format.binary64.targetExponent
            (totalExponent m exponent - totalExponent n power) ≤ 968 := by
          have bitsX := log2_lt_of_lt (by decide) small
          have bitsY := (Nat.le_log2 (by omega)).mpr large
          simp only [targetExponent_binary64, totalExponent]
          omega
        rw [formX]
        simp only [UnpackedFloat.div, divCore]
        generalize scale : min (exponent - power) _ = e
        have bits : (m <<< (exponent - power - e).toNat / n).log2 ≤ (exponent - power - e).toNat :=
          quotient_log2_le small large
        have size : totalExponent (m <<< (exponent - power - e).toNat / n) e < 969 + 53 := by
          unfold totalExponent
          omega
        exact scaledWithin_roundWithAccuracy (s / t) _ (by omega) size (by decide)

/-! ## Numbers of a text -/

theorem totalExponent_shifted_lt {n bits : Nat} (places : Nat) (bound : n < 2 ^ bits) :
    totalExponent (n <<< places) (-places) < bits + 2 := by
  have shifted : n <<< places < 2 ^ (bits + places + 1) := by
    rw [Nat.shiftLeft_eq, Nat.add_right_comm, Nat.pow_add]
    apply Nat.mul_lt_mul_of_pos_right _ (Nat.two_pow_pos places)
    exact Nat.lt_of_lt_of_le bound (Nat.pow_le_pow_right (by decide) (by omega))
  have width := log2_lt_of_lt (by omega) shifted
  unfold totalExponent
  omega

theorem scaledWithin_round {n : Nat} (sign : Sign) (bound : n < 2 ^ 53) :
    ScaledWithin 2 (UnpackedFloat.round Format.binary64 sign n 0) := by
  simp only [UnpackedFloat.round, decreaseExponent, Int.zero_sub]
  apply scaledWithin_roundWithAccuracy
  · omega
  · exact totalExponent_shifted_lt _ bound
  · decide

theorem within_toFloat {n : Nat} (bound : n < 2 ^ 53) : Within 2 n.toUInt64.toFloat := by
  apply within_pack _ (by decide) (by decide)
  have word : n.toUInt64.toNat = n := Nat.mod_eq_of_lt (Nat.lt_trans bound (by decide))
  simp only [UnpackedFloat.ofUInt64, UnpackedFloat.ofNat, UnpackedFloat.ofInt,
    UnpackedFloat.normalize, word]
  split
  · exact scaledWithin_round .negative (by omega)
  · exact .zero _
  · exact scaledWithin_round .positive bound

theorem within_one : Within (-52) 1.0 := .finite (Int.le_refl (-52))

theorem ofScientific_natural {n power : Nat} (nonzero : n ≠ 0) (fits : power ≤ 2048) :
    UnpackedFloat.ofScientific Format.binary64 n power =
      roundWithAccuracy Format.binary64 .positive (n <<< 53 * 10 ^ power) (-53) .exact := by
  have notHuge : ¬ (power : Int) > 2 ^ Format.binary64.exponentBits := by
    change ¬ (power : Int) > (2048 : Int)
    omega
  have notTiny : ¬ (power : Int) < -(2 ^ Format.binary64.exponentBits + (n.log2 : Int)) := by
    change ¬ (power : Int) < -(2048 + (n.log2 : Int))
    omega
  unfold UnpackedFloat.ofScientific
  rw [dif_neg nonzero, if_neg notHuge, if_neg notTiny, if_pos (Int.natCast_nonneg power)]
  rfl

theorem isFinite_nearestDouble {n : Nat} (bound : n < 2 ^ 65) :
    (Decimal.nearestDouble n 0).isFinite = true := by
  change (Float.ofScientific n false 0).isFinite = true
  unfold Float.ofScientific
  split
  case isTrue small =>
      have product : Within 4 _ :=
        within_mul (within_toFloat small.1) within_one (by decide) (by decide) (by decide)
      exact isFinite_of_within product
  case isFalse large =>
      have nonzero : n ≠ 0 := by omega
      have width : totalExponent (n <<< 53) (-53) < 14 + 53 :=
        totalExponent_shifted_lt 53 bound
      change Float.isFinite
        (.ofModel (.pack (UnpackedFloat.ofScientific Format.binary64 n (0 : Nat)))) = _
      rw [ofScientific_natural nonzero (by decide), Nat.pow_zero, Nat.mul_one]
      have scaled := scaledWithin_roundWithAccuracy .positive .exact (by decide) width (by decide)
      exact isFinite_of_within (within_pack scaled (by decide) (by decide))

/-- The powers that are looked up, and the greatest one, which rounding might raise too far. -/
theorem atLeastEight_table : ∀ power ≤ 308, power ≤ 22 ∨ power = 308 → 0 < power →
    AtLeastEight (Json.tenToThe power).toModel.unpack := by
  decide +kernel

theorem log2_shifted_power {power : Nat} (fits : power ≤ 307) (positive : 0 < power) :
    56 ≤ (1 <<< 53 * 10 ^ power).log2 ∧ (1 <<< 53 * 10 ^ power).log2 < 1075 := by
  have above : 0 < 1 <<< 53 * 10 ^ power := Nat.mul_pos (by decide) (Nat.pow_pos (by decide))
  constructor
  · rw [Nat.le_log2 (Nat.ne_of_gt above)]
    calc 2 ^ 56 ≤ 1 <<< 53 * 10 ^ 1 := by decide
      _ ≤ 1 <<< 53 * 10 ^ power :=
        Nat.mul_le_mul_left _ (Nat.pow_le_pow_right (by decide) positive)
  · apply log2_lt_of_lt (by decide)
    calc 1 <<< 53 * 10 ^ power ≤ 1 <<< 53 * 10 ^ 307 :=
          Nat.mul_le_mul_left _ (Nat.pow_le_pow_right (by decide) fits)
      _ < 2 ^ 1075 := by decide +kernel

theorem atLeastEight_tenToThe {power : Nat} (fits : power ≤ 308) (positive : 0 < power) :
    AtLeastEight (Json.tenToThe power).toModel.unpack := by
  by_cases listed : power ≤ 22 ∨ power = 308
  · exact atLeastEight_table power fits listed positive
  · -- All other powers are rounded from a whole number of more than 53 bits.
    have notExact : ¬ (1 < 2 ^ 53 ∧ power ≤ 22) := fun small => listed (.inl small.2)
    have bits := log2_shifted_power (by omega) positive
    change AtLeastEight (Float.ofScientific 1 false power).toModel.unpack
    unfold Float.ofScientific
    rw [dif_neg notExact]
    change AtLeastEight
      (Float.Model.pack (UnpackedFloat.ofScientific Format.binary64 1 power)).unpack
    rw [ofScientific_natural (by decide) (by omega)]
    apply atLeastEight_round
    · calc 2 ^ 52 ≤ 1 <<< 53 * 1 := by decide
        _ ≤ 1 <<< 53 * 10 ^ power := Nat.mul_le_mul_left _ (Nat.pow_pos (by decide))
    · decide
    · decide
    · unfold totalExponent
      omega
    · unfold totalExponent
      omega

theorem isFinite_div_tenToThe {x : Float} {power : Nat} (finite : x.isFinite = true)
    (fits : power ≤ 308) (positive : 0 < power) : (x / Json.tenToThe power).isFinite = true :=
  isFinite_of_within (within_div finite (atLeastEight_tenToThe fits positive))

theorem isFinite_shrink {x : Float} {power : Nat} (finite : x.isFinite = true)
    (positive : 0 < power) : (Json.shrink x power).isFinite = true := by
  induction x, power using Json.shrink.induct with
  | case1 x power fits =>
      rw [Json.shrink, if_pos fits]
      exact isFinite_div_tenToThe finite fits positive
  | case2 x power large nothing =>
      rw [Json.shrink, if_neg large, if_pos nothing]
      exact finite
  | case3 x power large nonzero ih =>
      rw [Json.shrink, if_neg large, if_neg nonzero]
      have rest : 0 < power - Json.greatestPower := Nat.sub_pos_of_lt (Nat.lt_of_not_le large)
      exact ih (isFinite_div_tenToThe finite (Nat.le_refl _) (by decide)) rest

theorem isFinite_grow? {x y : Float} {power : Nat} (finite : x.isFinite = true)
    (grown : Json.grow? x power = some y) : y.isFinite = true := by
  unfold Json.grow? at grown
  split at grown
  · split at grown
    · rename_i parts
      obtain rfl := Option.some.inj grown
      exact isFinite_of_parts parts
    · contradiction
  · split at grown
    · obtain rfl := Option.some.inj grown
      exact finite
    · contradiction

theorem isFinite_doubleOfInt {n : Int} (bound : n.natAbs < 2 ^ 65) :
    (Json.doubleOfInt n).isFinite = true := by
  cases n with
  | ofNat n => exact isFinite_nearestDouble bound
  | negSucc n => exact isFinite_neg (isFinite_nearestDouble bound)

end EnergyAudit.Double
