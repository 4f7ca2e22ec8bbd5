/-! # Timestamps

A timestamp is a date and a time of day in universal time, to the second: `2025-01-31T12:00:00Z`.
The date comes from counting whole cycles of 400, 100, 4 and 1 years that begin in March, so that
the leap day is the last day of its year. -/

namespace EnergyAudit.Timestamp

def cycleDays : Nat := 146097

/-- Days from the first of March of the year 0 to the first of January 1970. -/
def epochDays : Nat := 719468

/-- A day of the calendar. -/
structure Date where
  year : Nat
  month : Nat
  day : Nat
deriving DecidableEq, Repr

def yearOfCycle (day : Nat) : Nat :=
  (day - day / 1460 + day / 36524 - day / 146096) / 365

/-- The date so many days after the first of January 1970. -/
def Date.ofDays (days : Nat) : Date :=
  let shifted := days + epochDays
  let dayOfCycle := shifted % cycleDays
  let year := yearOfCycle dayOfCycle
  let dayOfYear := dayOfCycle - (365 * year + year / 4 - year / 100)
  let march := (5 * dayOfYear + 2) / 153
  let month := if march < 10 then march + 3 else march - 9
  { year := year + 400 * (shifted / cycleDays) + (if month ≤ 2 then 1 else 0)
    month
    day := dayOfYear - (153 * march + 2) / 5 + 1 }

/-- The number with zeros in front, at least `width` digits long. -/
def padded (width n : Nat) : String :=
  let digits := toString n
  String.ofList (List.replicate (width - digits.length) '0') ++ digits

/-- The timestamp so many seconds after the start of 1970. -/
def ofSeconds (seconds : Nat) : String :=
  let date := Date.ofDays (seconds / 86400)
  padded 4 date.year ++ "-" ++ padded 2 date.month ++ "-" ++ padded 2 date.day ++ "T"
    ++ padded 2 (seconds / 3600 % 24) ++ ":" ++ padded 2 (seconds / 60 % 60) ++ ":"
    ++ padded 2 (seconds % 60) ++ "Z"

example : ofSeconds 1738324800 = "2025-01-31T12:00:00Z" := by decide +kernel

end EnergyAudit.Timestamp
