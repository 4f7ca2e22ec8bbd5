import EnergyAudit.Decimal.Reading

/-! # Dates and times in TOML

A moment is a date, a time of day, or both, with or without an offset from universal time.  Its text
is kept in one form: a capital T between date and time, nine places of a second at most and no zeros
at their end, and a capital Z.  How far hours and offsets may go depends on where the moment
stands. -/

namespace EnergyAudit.Toml

/-- How far the parts of a moment may go. -/
structure MomentBounds where
  hour : Nat
  offsetHour : Nat
  offsetMinute : Nat
  /-- The greatest offset, in minutes. -/
  offset : Nat
deriving DecidableEq, Repr

/-- The bounds of a moment that stands in a document for itself. -/
def MomentBounds.strict : MomentBounds := ⟨23, 23, 59, 1439⟩

def MomentBounds.wide : MomentBounds := ⟨24, 99, 99, 1440⟩

/-- The number that exactly `width` digits at the start of the text denote. -/
def digits? (width : Nat) (s : List Char) : Option (Nat × List Char) :=
  let digits := s.take width
  if digits.length == width && digits.all Char.isDigit then
    some (Decimal.natOfDigits digits, s.drop width)
  else none

/-- Like `digits?`, for a number between two bounds. -/
def digitsWithin? (width low high : Nat) (s : List Char) : Option (Nat × List Char) :=
  (digits? width s).filter fun (n, _) => low ≤ n && n ≤ high

/-- The text behind a character that it has to start with. -/
def behind? (c : Char) : List Char → Option (List Char)
  | d :: rest => if d == c then some rest else none
  | [] => none

/-- The number with at least `width` digits. -/
def padTo (width n : Nat) : List Char :=
  let digits := (toString n).toList
  List.replicate (width - digits.length) '0' ++ digits

/-- Whether the year has a 29th of February. -/
def isLeapYear (year : Nat) : Bool :=
  year % 4 == 0 && (year % 100 != 0 || year % 400 == 0)

def daysIn (year month : Nat) : Nat :=
  if month == 2 then (if isLeapYear year then 29 else 28)
  else if [4, 6, 9, 11].contains month then 30
  else 31

/-- A date, as year, month and day. -/
def date? (s : List Char) : Option (List Char × List Char) := do
  let (year, rest) ← digits? 4 s
  let rest ← behind? '-' rest
  let (month, rest) ← digitsWithin? 2 1 12 rest
  let rest ← behind? '-' rest
  let (day, rest) ← digitsWithin? 2 1 (daysIn year month) rest
  return (padTo 4 year ++ '-' :: padTo 2 month ++ '-' :: padTo 2 day, rest)

def secondPlaces? : List Char → Option (List Char × List Char)
  | '.' :: rest =>
      let digits := rest.takeWhile Char.isDigit
      let kept := ((digits.take 9).reverse.dropWhile (· == '0')).reverse
      if digits.isEmpty then none
      else some (if kept.isEmpty then [] else '.' :: kept, rest.dropWhile Char.isDigit)
  | rest => some ([], rest)

def time? (bounds : MomentBounds) (s : List Char) : Option (List Char × List Char) := do
  let (hour, rest) ← digitsWithin? 2 0 bounds.hour s
  let rest ← behind? ':' rest
  let (minute, rest) ← digitsWithin? 2 0 59 rest
  let rest ← behind? ':' rest
  let (second, rest) ← digitsWithin? 2 0 60 rest
  let (places, rest) ← secondPlaces? rest
  return (padTo 2 hour ++ ':' :: padTo 2 minute ++ ':' :: padTo 2 second ++ places, rest)

/-- An offset in hours and minutes; the sign of a zero is a plus. -/
def signedOffset? (bounds : MomentBounds) (negative : Bool) (s : List Char) :
    Option (List Char) := do
  let (hour, rest) ← digitsWithin? 2 0 bounds.offsetHour s
  let rest ← behind? ':' rest
  let (minute, rest) ← digitsWithin? 2 0 bounds.offsetMinute rest
  let offset := 60 * hour + minute
  let sign := if negative && offset != 0 then '-' else '+'
  if rest.isEmpty && offset ≤ bounds.offset then
    some (sign :: padTo 2 (offset / 60) ++ ':' :: padTo 2 (offset % 60))
  else none

/-- The offset that makes up the whole text, or nothing. -/
def offset? (bounds : MomentBounds) : List Char → Option (List Char)
  | [] => some []
  | ['Z'] => some ['Z']
  | ['z'] => some ['Z']
  | '+' :: rest => signedOffset? bounds false rest
  | '-' :: rest => signedOffset? bounds true rest
  | _ => none

/-- A time of day and an offset that make up the whole text. -/
def timeWithOffset? (bounds : MomentBounds) (s : List Char) : Option (List Char) := do
  let (time, rest) ← time? bounds s
  let offset ← offset? bounds rest
  return time ++ offset

/-- The moment that makes up the whole text, in its one form. -/
def moment? (bounds : MomentBounds) (s : List Char) : Option (List Char) :=
  match date? s with
  | some (date, []) => some date
  | some (date, c :: rest) =>
      if c == 'T' || c == 't' || c == ' ' then
        (timeWithOffset? bounds rest).map fun time => date ++ 'T' :: time
      else none
  | none =>
      match time? bounds s with
      | some (time, []) => some time
      | _ => none

end EnergyAudit.Toml
