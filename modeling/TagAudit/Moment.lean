import TagAudit.Number.Numeral
import TagAudit.Number.Binary

namespace TagAudit

/-- A point in time, in the zone of the reference meridian. -/
structure Moment where
  year : Nat
  month : Nat
  day : Nat
  hour : Nat
  minute : Nat
  second : Nat
  micros : Nat
  deriving DecidableEq

namespace Moment

/-- The days from 1970-01-01 to a date. Years are taken to begin in March, so that a leap day is the
last day of a year. -/
def daysOfDate (year month day : Nat) : Int :=
  let y : Int := if month ≤ 2 then (year : Int) - 1 else year
  let m : Int := ((month + 9) % 12 : Nat)
  y * 365 + y / 4 - y / 100 + y / 400 + (153 * m + 2) / 5 + (day : Int) - 1 - 719468

/-- The seconds from the start of 1970. -/
def seconds (m : Moment) : Int :=
  daysOfDate m.year m.month m.day * 86400 + m.hour * 3600 + m.minute * 60 + m.second

/-- The date that lies so many days after 1970-01-01. -/
def dateOfDays (days : Int) : Nat × Nat × Nat :=
  let shifted := days + 719468
  let era := shifted / 146097
  let dayOfEra := shifted % 146097
  let yearOfEra := (dayOfEra - dayOfEra / 1460 + dayOfEra / 36524 - dayOfEra / 146096) / 365
  let dayOfYear := dayOfEra - (365 * yearOfEra + yearOfEra / 4 - yearOfEra / 100)
  let shiftedMonth := (5 * dayOfYear + 2) / 153
  let day := dayOfYear - (153 * shiftedMonth + 2) / 5 + 1
  let month := if shiftedMonth < 10 then shiftedMonth + 3 else shiftedMonth - 9
  let year := yearOfEra + era * 400 + (if month ≤ 2 then 1 else 0)
  (year.toNat, month.toNat, day.toNat)

def ofSeconds (seconds : Int) (micros : Nat) : Moment :=
  let (year, month, day) := dateOfDays (seconds / 86400)
  let rest := (seconds % 86400).toNat
  ⟨year, month, day, rest / 3600, rest / 60 % 60, rest % 60, micros⟩

/-- The milliseconds from the start of 1970, rounded toward it. The time is taken in seconds first. -/
def millis (m : Moment) : Int :=
  (Binary.ofFloat ((Float.ofInt m.seconds + m.micros.toFloat / 1000000.0) * 1000.0)).truncate

def date (m : Moment) : String :=
  Numeral.ofInt m.year ++ "-" ++ Numeral.padded 2 m.month ++ "-" ++ Numeral.padded 2 m.day

def clockTime (m : Moment) : String := Numeral.padded 2 m.hour ++ ":" ++ Numeral.padded 2 m.minute

/-- Date, hours and minutes. -/
def toMinutes (m : Moment) : String := m.date ++ " " ++ m.clockTime

/-- Date and time of day. -/
def toSeconds (m : Moment) : String := m.toMinutes ++ ":" ++ Numeral.padded 2 m.second

end Moment

end TagAudit
