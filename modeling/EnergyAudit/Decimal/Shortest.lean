import EnergyAudit.Decimal.Binary64

/-! # Shortest decimals

The decimals that read back as a given double fill an interval around it: up to half way to either
neighbour, ends included when the mantissa is even.  Among them `shortest?` picks one with the
fewest digits, and of those the nearest to the double.  With a given number of digits only the two
decimals next to the double need a look, since the interval holds the double itself. -/

namespace EnergyAudit.Decimal

/-- The number `digits * 10 ^ exponent`. -/
structure Expansion where
  digits : Nat
  exponent : Int
deriving Repr, DecidableEq

/-- Which of two equally near decimals is taken. -/
inductive Tie where
  | toEven
  | up
deriving Repr, DecidableEq

/-- Number of decimal digits of `n`; one for zero. -/
def digitCount (n : Nat) : Nat :=
  (Nat.toDigits 10 n).length

/-- A positive number `value / unit` between two bounds over the same unit. -/
structure Interval where
  low : Nat
  value : Nat
  high : Nat
  unit : Nat
  /-- Whether the bounds belong to the interval. -/
  closed : Bool

/-- The reals that round to the double `mantissa * 2 ^ exponent`.  Below a power of two the
neighbour is only half as far away, unless it is the smallest normal number. -/
def interval (mantissa : Nat) (exponent : Int) : Interval :=
  let quarters := ratio 1 exponent
  let below := if mantissa == leadingBit && exponent != -1074 then 1 else 2
  { low := (4 * mantissa - below) * quarters.1
    value := 4 * mantissa * quarters.1
    high := (4 * mantissa + 2) * quarters.1
    unit := 4 * quarters.2
    closed := mantissa % 2 == 0 }

/-- Exponent of the first digit of `num / den`. -/
def leadingExponent (num den : Nat) : Int :=
  if den ≤ num then (digitCount (num / den) : Int) - 1
  else -(digitCount ((den + num - 1) / num - 1) : Int)

def Interval.scale (i : Interval) (exponent : Int) : Interval :=
  match exponent with
  | .ofNat e => { i with unit := i.unit * Nat.pow 10 e }
  | .negSucc e =>
      let factor := Nat.pow 10 (e + 1)
      { i with low := i.low * factor, value := i.value * factor, high := i.high * factor }

/-- Whether the whole number lies in the interval. -/
def Interval.contains (i : Interval) (n : Nat) : Bool :=
  if i.closed then i.low ≤ n * i.unit && n * i.unit ≤ i.high
  else i.low < n * i.unit && n * i.unit < i.high

/-- The whole number in the interval that is next to its value, if there is one. -/
def Interval.nearest? (i : Interval) (tie : Tie) : Option Nat :=
  let floor := i.value / i.unit
  let rest := i.value % i.unit
  match i.contains floor, i.contains (floor + 1) with
  | false, false => none
  | true, false => some floor
  | false, true => some (floor + 1)
  | true, true =>
      if 2 * rest < i.unit then some floor
      else if i.unit < 2 * rest then some (floor + 1)
      else match tie with
        | .toEven => some (if floor % 2 == 0 then floor else floor + 1)
        | .up => some (floor + 1)

/-- Takes one zero off the end of the digits as long as there is one; `fuel` bounds how many. -/
def Expansion.strip : Nat → Expansion → Expansion
  | 0, d => d
  | fuel + 1, d =>
      if d.digits % 10 == 0 && d.digits != 0 then strip fuel ⟨d.digits / 10, d.exponent + 1⟩ else d

/-- Shortest decimal that rounds to the positive double `mantissa * 2 ^ exponent`.  Seventeen
digits always suffice. -/
def shortest? (tie : Tie) (mantissa : Nat) (exponent : Int) : Option Expansion :=
  let i := interval mantissa exponent
  let leading := leadingExponent i.value i.unit
  (List.range 17).findSome? fun (more : Nat) =>
    let last := leading - (more : Int)
    ((i.scale last).nearest? tie).map fun n => (Expansion.mk n last).strip 20

end EnergyAudit.Decimal
