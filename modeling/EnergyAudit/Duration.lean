import EnergyAudit.Decimal.Layout

/-! # Durations

A duration is a whole number of nanoseconds.  Durations that are settings have to fit 64 bits of
whole seconds. -/

namespace EnergyAudit

/-- A span of time. -/
structure Duration where
  nanoseconds : Nat
deriving DecidableEq, Repr

namespace Duration

def perSecond : Nat := 1000000000

def perMillisecond : Nat := 1000000

def ofMilliseconds (n : UInt64) : Duration := ⟨n.toNat * perMillisecond⟩

def seconds (d : Duration) : Nat := d.nanoseconds / perSecond

/-- The nanoseconds beyond the whole seconds. -/
def subsecond (d : Duration) : Nat := d.nanoseconds % perSecond

/-- So many nanoseconds, unless the seconds do not fit 64 bits. -/
def bounded (nanoseconds : Nat) : Option Duration :=
  if nanoseconds < UInt64.size * perSecond then some ⟨nanoseconds⟩ else none

/-- So many seconds, to the nearest nanosecond and with a half to the even one.  What is less than
nothing, or not a number, counts as nothing; what does not fit is no duration. -/
def ofSeconds? (x : Float) : Option Duration :=
  match Decimal.parts x with
  | .nan => some ⟨0⟩
  | .infinite negative => if negative then some ⟨0⟩ else none
  | .finite negative mantissa exponent =>
      if negative then some ⟨0⟩
      else
        let exact := Decimal.ratio mantissa exponent
        bounded (Decimal.roundHalfEven (exact.1 * perSecond) exact.2)

def toSeconds (d : Duration) : Float :=
  Float.ofNat d.seconds + Float.ofNat d.subsecond / 1e9

/-- The digits without the zeros at their end. -/
def dropZeros (digits : List Char) : List Char :=
  (digits.reverse.dropWhile (· == '0')).reverse

/-- A whole number of units and the part of `unit` beyond it, as a decimal. -/
def decimalText (whole part unit : Nat) : String :=
  let width := (toString unit).length - 1
  let digits := (toString part).toList
  let fraction := dropZeros (List.replicate (width - digits.length) '0' ++ digits)
  if fraction.isEmpty then toString whole
  else toString whole ++ "." ++ String.ofList fraction

/-- The duration in the largest unit of which it holds at least one. -/
def display (d : Duration) : String :=
  let n := d.nanoseconds
  if perSecond ≤ n then decimalText d.seconds d.subsecond perSecond ++ "s"
  else if perMillisecond ≤ n then
    decimalText (n / perMillisecond) (n % perMillisecond) perMillisecond ++ "ms"
  else if 1000 ≤ n then decimalText (n / 1000) (n % 1000) 1000 ++ "µs"
  else toString n ++ "ns"

end Duration

end EnergyAudit
