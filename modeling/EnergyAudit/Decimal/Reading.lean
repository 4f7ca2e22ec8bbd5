/-! # Reading decimal numbers

A number is an optional sign followed by digits with an optional point and an optional exponent, or
by one of the words for infinity and NaN.  At least one digit stands before or after the point.
The value is the double nearest to the decimal. -/

namespace EnergyAudit.Decimal

/-- The number that the decimal digits denote. -/
def natOfDigits (digits : List Char) : Nat :=
  digits.foldl (fun n c => 10 * n + (c.toNat - '0'.toNat)) 0

def nearestDouble (digits : Nat) (exponent : Int) : Float :=
  match exponent with
  | .ofNat e => Float.ofScientific digits false e
  | .negSucc e => Float.ofScientific digits true (e + 1)

/-- A sign in front of the text, and the rest of it. -/
def takeSign : List Char → Bool × List Char
  | '-' :: rest => (true, rest)
  | '+' :: rest => (false, rest)
  | rest => (false, rest)

/-- The whole number that a non-empty run of digits with an optional sign denotes. -/
def readInt? (s : List Char) : Option Int :=
  let (negative, digits) := takeSign s
  if digits.isEmpty || !digits.all Char.isDigit then none
  else some (if negative then -natOfDigits digits else natOfDigits digits)

/-- The natural number that a non-empty run of digits denotes; a plus sign may precede it. -/
def readNat? (s : List Char) : Option Nat :=
  let digits := match s with
    | '+' :: rest => rest
    | rest => rest
  if digits.isEmpty || !digits.all Char.isDigit then none else some (natOfDigits digits)

/-- What follows the digits of a number: nothing, or the letter e and a whole number. -/
def readExponent? : List Char → Option Int
  | [] => some 0
  | c :: rest => if c == 'e' || c == 'E' then readInt? rest else none

/-- The value of an unsigned number in digits. -/
def readUnsigned? (s : List Char) : Option Float :=
  let whole := s.takeWhile Char.isDigit
  let afterWhole := s.dropWhile Char.isDigit
  let (fraction, rest) := match afterWhole with
    | '.' :: tail => (tail.takeWhile Char.isDigit, tail.dropWhile Char.isDigit)
    | tail => ([], tail)
  if whole.isEmpty && fraction.isEmpty then none
  else (readExponent? rest).map fun exponent =>
    nearestDouble (natOfDigits (whole ++ fraction)) (exponent - fraction.length)

/-- The double that the text denotes, if it is a number. -/
def read? (s : List Char) : Option Float :=
  let (negative, rest) := takeSign s
  let magnitude := match String.ofList (rest.map Char.toLower) with
    | "inf" => some (1.0 / 0.0)
    | "infinity" => some (1.0 / 0.0)
    | "nan" => some (0.0 / 0.0)
    | _ => readUnsigned? rest
  magnitude.map fun x => if negative then -x else x

end EnergyAudit.Decimal
