import EnergyAudit.Decimal.Binary64
import Mathlib.Data.Rat.Cast.Order
import Mathlib.Tactic.Positivity
import Mathlib.Algebra.Order.Field.Power

/-! # What doubles stand for

The sign, the mantissa and the exponent that are read off the bits of a double are those that it is
unpacked into.  A finite double stands for a rational number. -/

namespace EnergyAudit.Double

open Decimal Float.Model UnpackedFloat

def isMinus : Sign → Bool
  | .negative => true
  | .positive => false

/-- The parts of an unpacked double. -/
def unpackedParts : UnpackedFloat → Parts
  | .notANumber => .nan
  | .infinity sign => .infinite (isMinus sign)
  | .zero sign => .finite (isMinus sign) 0 (-1074)
  | .finite sign mantissa exponent _ => .finite (isMinus sign) mantissa exponent

theorem unpackedParts_notANumber : unpackedParts .notANumber = .nan := rfl

theorem unpackedParts_infinity (sign : UnpackedFloat.Sign) :
    unpackedParts (.infinity sign) = .infinite (isMinus sign) := rfl

theorem unpackedParts_zero (sign : UnpackedFloat.Sign) :
    unpackedParts (.zero sign) = .finite (isMinus sign) 0 (-1074) := rfl

theorem unpackedParts_finite (sign : UnpackedFloat.Sign) (mantissa : Nat) (exponent : Int)
    (above : 0 < mantissa) :
    unpackedParts (.finite sign mantissa exponent above) =
      .finite (isMinus sign) mantissa exponent := rfl

theorem isMinus_ofBitVec : ∀ bit : BitVec 1, isMinus (.ofBitVec bit) = (bit.toNat == 1) := by
  decide

/-- The bit in front of a mantissa of 52 bits. -/
theorem toNat_leading_append (mantissa : BitVec 52) :
    (1#1 ++ mantissa).toNat = leadingBit + mantissa.toNat := by
  rw [BitVec.toNat_append, Nat.shiftLeft_eq, Nat.mul_comm,
    ← Nat.two_pow_add_eq_or_of_lt mantissa.isLt]
  rfl

/-- The bits of a double that hold its exponent, its mantissa and its sign. -/
theorem toNat_fields (x : Float) :
    (@unpackExponent Format.binary64 x.toModel.toBits.toBitVec).toNat =
        (x.toBits.toNat >>> 52) % 2048 ∧
      (@unpackMantissa Format.binary64 x.toModel.toBits.toBitVec).toNat =
        x.toBits.toNat % leadingBit ∧
      (@unpackSign Format.binary64 x.toModel.toBits.toBitVec).toNat = x.toBits.toNat >>> 63 := by
  have bits : x.toModel.toBits.toBitVec.toNat = x.toBits.toNat := rfl
  refine ⟨?_, ?_, ?_⟩
  · simp only [unpackExponent, BitVec.toNat_cast, BitVec.extractLsb_toNat, bits]
  · simp only [unpackMantissa, BitVec.toNat_cast, BitVec.extractLsb_toNat, bits]
    rfl
  · delta unpackSign
    simp only [BitVec.toNat_cast, BitVec.extractLsb_toNat, bits]
    apply Nat.mod_eq_of_lt
    have word := x.toBits.toNat_lt
    rw [Nat.shiftRight_eq_div_pow]
    change _ / 2 ^ 63 < 2 ^ (63 - 63 + 1)
    omega

/-- The parts of a double are those that it is unpacked into. -/
theorem parts_eq (x : Float) : parts x = unpackedParts x.toModel.unpack := by
  obtain ⟨biased, fraction, negative⟩ := toNat_fields x
  have minus := isMinus_ofBitVec (@unpackSign Format.binary64 x.toModel.toBits.toBitVec)
  have greatest : (@unpackExponent Format.binary64 x.toModel.toBits.toBitVec = -1#_) ↔
      (x.toBits.toNat >>> 52) % 2048 = 2047 := by
    rw [← biased, ← BitVec.toNat_inj]
    rfl
  have least : (@unpackExponent Format.binary64 x.toModel.toBits.toBitVec = 0#_) ↔
      (x.toBits.toNat >>> 52) % 2048 = 0 := by
    rw [← biased, ← BitVec.toNat_inj]
    rfl
  have nothing : (@unpackMantissa Format.binary64 x.toModel.toBits.toBitVec = 0#_) ↔
      x.toBits.toNat % leadingBit = 0 := by
    rw [← fraction, ← BitVec.toNat_inj]
    rfl
  rw [negative] at minus
  simp only [parts, beq_iff_eq]
  change _ = unpackedParts (UnpackedFloat.unpack Format.binary64 x.toModel.toBits.toBitVec)
  delta UnpackedFloat.unpack
  dsimp only
  by_cases top : (x.toBits.toNat >>> 52) % 2048 = 2047
  · rw [if_pos top, if_pos (greatest.mpr top)]
    by_cases zero : x.toBits.toNat % leadingBit = 0
    · rw [if_pos zero, if_pos (nothing.mpr zero), ← minus]
      rfl
    · rw [if_neg zero, if_neg (mt nothing.mp zero)]
      rfl
  · rw [if_neg top, if_neg (mt greatest.mp top)]
    by_cases small : (x.toBits.toNat >>> 52) % 2048 = 0
    · rw [if_pos small, if_pos (least.mpr small)]
      by_cases zero : x.toBits.toNat % leadingBit = 0
      · rw [dif_pos (nothing.mpr zero), unpackedParts_zero, minus, zero]
      · rw [dif_neg (mt nothing.mp zero), unpackedParts_finite, minus, fraction, biased, small]
        rfl
    · rw [if_neg small, if_neg (mt least.mp small), unpackedParts_finite, minus, biased,
        ← fraction]
      congr 1
      · exact (toNat_leading_append _).symm

/-- The mantissa has 53 bits, fewer only where the exponent is the least one. -/
theorem mantissa_bounds {x : Float} {negative : Bool} {mantissa : Nat} {exponent : Int}
    (finite : parts x = .finite negative mantissa exponent) :
    mantissa < 2 ^ 53 ∧ (-1074 < exponent → 2 ^ 52 ≤ mantissa) := by
  have fraction : x.toBits.toNat % leadingBit < 2 ^ 52 := Nat.mod_lt _ (by decide)
  have first : leadingBit = 2 ^ 52 := rfl
  simp only [parts] at finite
  split at finite
  · split at finite <;> contradiction
  · split at finite
    · obtain ⟨-, rfl, rfl⟩ := Parts.finite.inj finite
      omega
    · obtain ⟨-, rfl, rfl⟩ := Parts.finite.inj finite
      omega

/-- The number that a double stands for, zero unless it is finite. -/
def value (x : Float) : ℚ :=
  match parts x with
  | .finite negative mantissa exponent =>
      (if negative then -1 else 1) * (mantissa * 2 ^ exponent)
  | _ => 0

theorem ratio_unit_pos (mantissa : Nat) (exponent : Int) : 0 < (ratio mantissa exponent).2 := by
  cases exponent with
  | ofNat e => exact Nat.one_pos
  | negSucc e => simp [ratio, Nat.shiftLeft_eq]

theorem ratio_eq (mantissa : Nat) (exponent : Int) :
    ((ratio mantissa exponent).1 : ℚ) / (ratio mantissa exponent).2 = mantissa * 2 ^ exponent := by
  cases exponent with
  | ofNat e => simp [ratio, Nat.shiftLeft_eq]
  | negSucc e => simp [ratio, Nat.shiftLeft_eq, div_eq_mul_inv]

end EnergyAudit.Double
