import EnergyAudit.Decimal.Reading
import EnergyAudit.Json.Token
import EnergyAudit.Settings.Value
import EnergyAudit.Text.Lines
import EnergyAudit.Toml.Moment

/-! # Numbers, truth values and moments in TOML

A word without quotes is a truth value, a whole number of 64 bits in base ten, sixteen, eight or
two, a double, or a moment.  Single underscores may stand between digits.  A moment is kept as a
table whose first key is reserved for that; such tables are resolved once the document is complete,
however they came about. -/

namespace EnergyAudit.Toml

/-- The digits of a run in which single underscores may stand between digits. -/
def ungrouped? (isDigit : Char → Bool) (s : List Char) : Option (List Char) :=
  let groups := Text.splitOn '_' s
  if groups.all fun group => !group.isEmpty && group.all isDigit then some groups.flatten else none

/-- The digits of a decimal number, which does not start with a zero unless it is zero. -/
def decimalDigits? (s : List Char) : Option (List Char) :=
  (ungrouped? Char.isDigit s).filter fun digits => digits.length == 1 || digits.head? != some '0'

def digitsInBase? (base : Nat) (s : List Char) : Option (List Nat) :=
  (ungrouped? (fun c => (Json.hexDigit? c).any (· < base)) s).map (·.filterMap Json.hexDigit?)

/-- A whole number, if it is one of the configuration. -/
def fitting? (n : Int) : Option Int :=
  if ConfigValue.fits n then some n else none

/-- The whole number in a base other than ten. -/
def based? (base : Nat) (s : List Char) : Option Int :=
  (digitsInBase? base s).bind fun digits =>
    fitting? (digits.foldl (fun n digit => base * n + digit) 0 : Nat)

/-- The whole number that the word is. -/
def int? (s : List Char) : Option Int :=
  match s with
  | '0' :: 'x' :: rest => based? 16 rest
  | '0' :: 'o' :: rest => based? 8 rest
  | '0' :: 'b' :: rest => based? 2 rest
  | s =>
      let (negative, rest) := Decimal.takeSign s
      (decimalDigits? rest).bind fun digits =>
        let n : Int := Decimal.natOfDigits digits
        fitting? (if negative then -n else n)

/-- The exponent of a double, with the letter in front of it; nothing stands for zero. -/
def exponent? : List Char → Option Int
  | [] => some 0
  | c :: rest =>
      if c == 'e' || c == 'E' then
        let (negative, digits) := Decimal.takeSign rest
        (ungrouped? Char.isDigit digits).map fun digits =>
          let n : Int := Decimal.natOfDigits digits
          if negative then -n else n
      else none

/-- The digits behind the point of a double, and the rest of it. -/
def fraction? : List Char → Option (List Char × List Char)
  | '.' :: rest =>
      let inFraction (c : Char) : Bool := c.isDigit || c == '_'
      (ungrouped? Char.isDigit (rest.takeWhile inFraction)).map (·, rest.dropWhile inFraction)
  | rest => some ([], rest)

/-- The double that the word is, which has a point or an exponent.  A positive number beyond the
range of doubles is refused. -/
def float? (s : List Char) : Option Float := do
  let (negative, rest) := Decimal.takeSign s
  let value ← match rest with
    | ['i', 'n', 'f'] => some (1.0 / 0.0)
    | ['n', 'a', 'n'] => some (0.0 / 0.0)
    | rest => do
        let inWhole (c : Char) : Bool := c.isDigit || c == '_'
        let whole ← decimalDigits? (rest.takeWhile inWhole)
        guard (!rest.all inWhole)
        let (fraction, rest) ← fraction? (rest.dropWhile inWhole)
        let exponent ← exponent? rest
        let value := Decimal.nearestDouble (Decimal.natOfDigits (whole ++ fraction))
          (exponent - fraction.length)
        if value.isFinite || negative then some value else none
  return if negative then -value else value

/-- The first key of a table that stands for a moment. -/
def momentKey : String := "$__toml_private_datetime"

def momentTable (text : List Char) : ConfigValue :=
  .table [(momentKey, .str (String.ofList text))]

mutual

/-- The value in which every moment has become its text.  A table with the reserved key in front has
to hold a moment in a string, and nothing else in it counts. -/
def resolve? : ConfigValue → Option ConfigValue
  | .table [] => some (.table [])
  | .table ((key, value) :: members) =>
      if key == momentKey then
        match value with
        | .str text =>
            (moment? .wide text.toList).map fun text => ConfigValue.str (String.ofList text)
        | _ => none
      else do
        let value ← resolve? value
        let members ← resolveMembers? members
        return .table ((key, value) :: members)
  | .list items => (resolveItems? items).map .list
  | .null => some .null
  | .bool value => some (.bool value)
  | .int value => some (.int value)
  | .float value => some (.float value)
  | .str value => some (.str value)

def resolveMembers? :
    List (String × ConfigValue) → Option (List (String × ConfigValue))
  | [] => some []
  | (key, value) :: members => do
      let value ← resolve? value
      let members ← resolveMembers? members
      return (key, value) :: members

def resolveItems? : List ConfigValue → Option (List ConfigValue)
  | [] => some []
  | item :: items => do
      let item ← resolve? item
      let items ← resolveItems? items
      return item :: items

end

def scalar? (s : List Char) : Option ConfigValue :=
  match s with
  | ['t', 'r', 'u', 'e'] => some (.bool true)
  | ['f', 'a', 'l', 's', 'e'] => some (.bool false)
  | s =>
      ((moment? .strict s).map momentTable).or
        (((int? s).map ConfigValue.int).or ((float? s).map ConfigValue.float))

/-- Whether `c` may stand in a word without quotes. -/
def isWordChar (c : Char) : Bool :=
  c.isAlphanum || c == '+' || c == '-' || c == '_' || c == '.' || c == ':'

/-- A word without quotes.  A date and a time with a space between them are one word. -/
def word (s : List Char) : List Char × List Char :=
  let first := s.takeWhile isWordChar
  let rest := s.dropWhile isWordChar
  match date? first, rest with
  | some (_, []), ' ' :: after =>
      let second := after.takeWhile isWordChar
      if (timeWithOffset? .strict second).isSome then
        (first ++ ' ' :: second, after.dropWhile isWordChar)
      else (first, rest)
  | _, _ => (first, rest)

end EnergyAudit.Toml
