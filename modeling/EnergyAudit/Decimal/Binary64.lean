/-! # Doubles as exact numbers

A finite double is a whole number times a power of two.  `Float.parts` reads both off its bits. -/

namespace EnergyAudit.Decimal

/-- What a double stands for. -/
inductive Parts where
  | nan
  | infinite (negative : Bool)
  /-- The number `mantissa * 2 ^ exponent`, with a sign that zero has as well. -/
  | finite (negative : Bool) (mantissa : Nat) (exponent : Int)
deriving Repr, DecidableEq

/-- The first bit of the mantissa of a double that is not too small for it. -/
def leadingBit : Nat := 1 <<< 52

/-- The sign, the biased exponent and the fraction that the bits hold. -/
def parts (x : Float) : Parts :=
  let bits : Nat := x.toBits.toNat
  let negative := bits >>> 63 == 1
  let biased : Nat := (bits >>> 52) % 2048
  let fraction : Nat := bits % leadingBit
  if biased == 2047 then
    if fraction == 0 then .infinite negative else .nan
  else if biased == 0 then
    .finite negative fraction (-1074)
  else
    .finite negative (leadingBit + fraction) ((biased : Int) - 1075)

/-- The absolute value of the finite double `mantissa * 2 ^ exponent` as a fraction. -/
def ratio (mantissa : Nat) (exponent : Int) : Nat × Nat :=
  match exponent with
  | .ofNat e => (mantissa <<< e, 1)
  | .negSucc e => (mantissa, 1 <<< (e + 1))

/-- Nearest whole number to `num / den`; a half goes to the even neighbour. -/
def roundHalfEven (num den : Nat) : Nat :=
  let floor := num / den
  let rest := num % den
  if 2 * rest < den then floor
  else if den < 2 * rest then floor + 1
  else if floor % 2 == 0 then floor else floor + 1

end EnergyAudit.Decimal
