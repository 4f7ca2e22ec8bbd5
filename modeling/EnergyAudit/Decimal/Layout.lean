import EnergyAudit.Decimal.Shortest

/-! # Decimal layouts

The three ways in which numbers are written: with a fixed count of places, in plain positional
form with the fewest digits, and in the form of JSON numbers, which turns to an exponent for very
large and very small numbers. -/

namespace EnergyAudit.Decimal

/-- The digits with a point before the last `places` of them. -/
def withPoint (digits : String) (places : Nat) : String :=
  let cs := digits.toList
  let padded := List.replicate (places + 1 - cs.length) '0' ++ cs
  let whole := padded.take (padded.length - places)
  let fraction := padded.drop (padded.length - places)
  if fraction.isEmpty then String.ofList whole else String.ofList (whole ++ '.' :: fraction)

/-- The minus sign of a negative number. -/
def minus (negative : Bool) : String :=
  if negative then "-" else ""

/-- The number with `places` digits after the point, rounded from its exact value; a half goes to
the even neighbour. -/
def fixed (places : Nat) (x : Float) : String :=
  match parts x with
  | .nan => "NaN"
  | .infinite negative => minus negative ++ "inf"
  | .finite negative mantissa exponent =>
      let exact := ratio mantissa exponent
      let units := roundHalfEven (exact.1 * Nat.pow 10 places) exact.2
      minus negative ++ withPoint (toString units) places

/-- Like `fixed`, with a plus sign on every number that has no minus sign. -/
def fixedSigned (places : Nat) (x : Float) : String :=
  match parts x with
  | .nan => "NaN"
  | .infinite negative => (if negative then "-" else "+") ++ "inf"
  | .finite negative .. => (if negative then "" else "+") ++ fixed places x

/-- Positional form of a decimal, without a point when it is whole. -/
def Expansion.plain (d : Expansion) : String :=
  match d.exponent with
  | .ofNat e => toString d.digits ++ String.ofList (List.replicate e '0')
  | .negSucc e => withPoint (toString d.digits) (e + 1)

/-- The number in positional form with the fewest digits that read back as it. -/
def plain (x : Float) : String :=
  match parts x with
  | .nan => "NaN"
  | .infinite negative => minus negative ++ "inf"
  | .finite negative mantissa exponent =>
      if mantissa == 0 then minus negative ++ "0"
      else
        match shortest? .up mantissa exponent with
        | some d => minus negative ++ d.plain
        | none => "NaN"

/-- Form of a JSON number: positional, with a point, when the exponent of the first digit is
between -5 and 15, and otherwise one digit before the point and a signed exponent. -/
def Expansion.json (d : Expansion) : String :=
  let digits := toString d.digits
  let leading := d.exponent + (digits.length - 1 : Nat)
  if -5 ≤ leading && leading ≤ 15 then
    match d.exponent with
    | .ofNat e => digits ++ String.ofList (List.replicate e '0') ++ ".0"
    | .negSucc e => withPoint digits (e + 1)
  else
    let power := if leading < 0 then "e-" else "e+"
    withPoint digits (digits.length - 1) ++ power ++ toString leading.natAbs

/-- The text of the double as a JSON number; `none` for infinities and NaN, which have none. -/
def json? (x : Float) : Option String :=
  match parts x with
  | .nan => none
  | .infinite _ => none
  | .finite negative mantissa exponent =>
      if mantissa == 0 then some (minus negative ++ "0.0")
      else (shortest? .toEven mantissa exponent).map fun d => minus negative ++ d.json

end EnergyAudit.Decimal
