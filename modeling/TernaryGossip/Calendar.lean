/-!
# Dates and times of day

    A moment is a number of milliseconds since the beginning of 1970.  Its
    text is the date, the time of day and the distance of the time zone from
    Greenwich, which is none.  The fraction of the second is left out when it
    is zero.

    Years begin with March in between, so that the day that a leap year adds
    is the last one of its year, and 400 years have 146097 days.
-/

namespace TernaryGossip.Calendar

/-- A day of a year. -/
structure Date where
  /-- The year. -/
  year : Int
  /-- The month, from 1 on. -/
  month : Nat
  /-- The day of the month, from 1 on. -/
  day : Nat
  deriving DecidableEq, Repr

namespace Date

/-- The days from the first of March of the year 0 to the beginning of 1970. -/
def epochDays : Int := 719468

/-- The days of 400 years. -/
def cycleDays : Nat := 146097

/-- The year of a day within 400 years that begin with March. -/
def yearOfCycle (day : Nat) : Nat := (day - day / 1460 + day / 36524 - day / 146096) / 365

/-- The first day of a year within 400 years that begin with March. -/
def firstDayOfYear (year : Nat) : Nat := 365 * year + year / 4 - year / 100

/-- The date of a day, counted from the beginning of 1970. -/
def ofDays (days : Int) : Date :=
  let shifted := days + epochDays
  let day := (shifted % (cycleDays : Int)).toNat
  let year := yearOfCycle day
  let dayOfYear := day - firstDayOfYear year
  let monthFromMarch := (5 * dayOfYear + 2) / 153
  let month := if monthFromMarch < 10 then monthFromMarch + 3 else monthFromMarch - 9
  { year := shifted / (cycleDays : Int) * 400 + year + (if month ≤ 2 then 1 else 0)
    month
    day := dayOfYear - (153 * monthFromMarch + 2) / 5 + 1 }

end Date

/-- A number with at least `width` digits. -/
def padded (width n : Nat) : String :=
  let digits := Nat.toDigits 10 n
  String.ofList (List.replicate (width - digits.length) '0' ++ digits)

/-- The text of a year. -/
def yearText (year : Int) : String :=
  if 0 ≤ year ∧ year ≤ 9999 then padded 4 year.toNat
  else (if year < 0 then "-" else "+") ++ padded 4 year.natAbs

/-- The text of a date. -/
def dateText (d : Date) : String := yearText d.year ++ "-" ++ padded 2 d.month ++ "-" ++ padded 2 d.day

/-- The text of a time of day in milliseconds. -/
def timeText (millis : Nat) : String :=
  let seconds := millis / 1000
  let fraction := millis % 1000
  padded 2 (seconds / 3600) ++ ":" ++ padded 2 (seconds / 60 % 60) ++ ":" ++ padded 2 (seconds % 60) ++
    (if fraction = 0 then "" else "." ++ padded 3 fraction)

/-- The milliseconds of a day. -/
def dayMillis : Int := 86400000

/-- The text of a moment. -/
def text (millis : Int) : String :=
  dateText (.ofDays (millis / dayMillis)) ++ "T" ++ timeText (millis % dayMillis).toNat ++ "+00:00"

example : text 0 = "1970-01-01T00:00:00+00:00" := by decide +kernel

example : text 951827696789 = "2000-02-29T12:34:56.789+00:00" := by decide +kernel

example : text (-1) = "1969-12-31T23:59:59.999+00:00" := by decide +kernel

end TernaryGossip.Calendar
