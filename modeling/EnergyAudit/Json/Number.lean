import EnergyAudit.Decimal.Binary64
import EnergyAudit.Decimal.Reading

/-! # Numbers in JSON

The digits of a number make up a significand of at most 64 bits.  Digits of the whole part that it
has no room for only raise the power of ten, and those of the fraction are left out.  The
significand is rounded to a double first and scaled by the power of ten after that, in steps that a
double can take, so that the value may lie beside the double that is nearest to the decimal. -/

namespace EnergyAudit.Json

/-- A significand and the power of ten that it is scaled by. -/
structure ScaledNumber where
  significand : Nat
  power : Int
deriving Repr, DecidableEq

def significandBound : Nat := UInt64.size

/-- Appends the digits of a whole part as far as there is room, and counts the others. -/
def appendWhole (significand : Nat) : List Char → Nat × Nat
  | [] => (significand, 0)
  | c :: digits =>
      let next := 10 * significand + (c.toNat - '0'.toNat)
      if next < significandBound then appendWhole next digits else (significand, digits.length + 1)

/-- Appends the digits of a fraction as far as there is room, and counts those. -/
def appendFraction (significand : Nat) : List Char → Nat × Nat
  | [] => (significand, 0)
  | c :: digits =>
      let next := 10 * significand + (c.toNat - '0'.toNat)
      if next < significandBound then
        let (significand, places) := appendFraction next digits
        (significand, places + 1)
      else (significand, 0)

def ScaledNumber.ofDigits (whole fraction : List Char) (power : Int) : ScaledNumber :=
  let (significand, beyond) := appendWhole 0 whole
  let (significand, places) := appendFraction significand fraction
  ⟨significand, power + beyond - places⟩

/-- Digits make a number no smaller. -/
theorem le_foldl_digits (digits : List Char) (n : Nat) :
    n ≤ digits.foldl (fun n c => 10 * n + (c.toNat - '0'.toNat)) n := by
  induction digits generalizing n with
  | nil => exact Nat.le_refl n
  | cons c digits ih =>
      have rest := ih (10 * n + (c.toNat - '0'.toNat))
      rw [List.foldl_cons]
      omega

/-- Digits that fit are those of the number. -/
theorem appendWhole_of_lt {significand : Nat} {digits : List Char}
    (h : digits.foldl (fun n c => 10 * n + (c.toNat - '0'.toNat)) significand < significandBound) :
    appendWhole significand digits =
      (digits.foldl (fun n c => 10 * n + (c.toNat - '0'.toNat)) significand, 0) := by
  induction digits generalizing significand with
  | nil => rfl
  | cons c digits ih =>
      simp only [List.foldl_cons] at h ⊢
      have grows := le_foldl_digits digits (10 * significand + (c.toNat - '0'.toNat))
      simp only [appendWhole]
      rw [if_pos (by omega), ih h]

theorem appendFraction_of_lt {significand : Nat} {digits : List Char}
    (h : digits.foldl (fun n c => 10 * n + (c.toNat - '0'.toNat)) significand < significandBound) :
    appendFraction significand digits =
      (digits.foldl (fun n c => 10 * n + (c.toNat - '0'.toNat)) significand, digits.length) := by
  induction digits generalizing significand with
  | nil => rfl
  | cons c digits ih =>
      simp only [List.foldl_cons] at h ⊢
      have grows := le_foldl_digits digits (10 * significand + (c.toNat - '0'.toNat))
      simp only [appendFraction]
      rw [if_pos (by omega), ih h, List.length_cons]

/-- A number whose digits fit has no others. -/
theorem ScaledNumber.ofDigits_of_lt {whole fraction : List Char}
    (fits : Decimal.natOfDigits (whole ++ fraction) < significandBound) (power : Int) :
    ofDigits whole fraction power =
      ⟨Decimal.natOfDigits (whole ++ fraction), power - fraction.length⟩ := by
  have all : Decimal.natOfDigits (whole ++ fraction) = _ := List.foldl_append
  rw [all] at fits ⊢
  have first := Nat.lt_of_le_of_lt (le_foldl_digits fraction _) fits
  simp only [ofDigits, appendWhole_of_lt first, appendFraction_of_lt fits, Int.natCast_zero,
    Int.add_zero]

/-- The largest power of ten below the bound of doubles. -/
def greatestPower : Nat := 308

def tenToThe (power : Nat) : Float := Decimal.nearestDouble 1 power

/-- Divides by a power of ten, in steps of the largest one. -/
def shrink (x : Float) (power : Nat) : Float :=
  if power ≤ greatestPower then x / tenToThe power
  else if x == 0.0 then x
  else shrink (x / tenToThe greatestPower) (power - greatestPower)
termination_by power
decreasing_by simp only [greatestPower] at *; omega

/-- Multiplies by a power of ten, unless that leads beyond the range of doubles. -/
def grow? (x : Float) (power : Nat) : Option Float :=
  if power ≤ greatestPower then
    match Decimal.parts (x * tenToThe power) with
    | .finite .. => some (x * tenToThe power)
    | _ => none
  else if x == 0.0 then some x
  else none

/-- The double that the number is read as, unless it is beyond the range. -/
def ScaledNumber.toDouble? (n : ScaledNumber) : Option Float :=
  let x := Decimal.nearestDouble n.significand 0
  match n.power with
  | .ofNat power => grow? x power
  | .negSucc power => some (shrink x (power + 1))

end EnergyAudit.Json
