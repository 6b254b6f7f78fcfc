import AdmissionGate.Decimal.Double

/-!
Points in time in the calendar, and their written form in UTC. The fraction of a second has three,
six or nine digits, or none; a year outside of four digits carries its sign.
-/

namespace AdmissionGate

/-- Seconds and nanoseconds since the epoch. From 1000000000 nanoseconds on, the second is a leap
second. -/
structure Timestamp where
  secs : Int
  nanos : Nat
  deriving DecidableEq, Repr

structure Date where
  year : Int
  month : Nat
  day : Nat
  deriving DecidableEq, Repr

namespace Date

/-- The day a number of days after the epoch. Years are taken from March on, so that a leap day is
the last of its year, in cycles of 400 years or 146097 days. -/
def ofDays (days : Int) : Date :=
  let z := days + 719468
  let era := z.fdiv 146097
  let dayOfEra := (z - era * 146097).toNat
  let yearOfEra := (dayOfEra - dayOfEra / 1460 + dayOfEra / 36524 - dayOfEra / 146096) / 365
  let dayOfYear := dayOfEra - (365 * yearOfEra + yearOfEra / 4 - yearOfEra / 100)
  let shifted := (5 * dayOfYear + 2) / 153
  let day := dayOfYear - (153 * shifted + 2) / 5 + 1
  let month := if shifted < 10 then shifted + 3 else shifted - 9
  let year := (yearOfEra : Int) + era * 400
  ⟨if month ≤ 2 then year + 1 else year, month, day⟩

/-- The first and the last year of the calendar. -/
def firstYear : Int := -262143
def lastYear : Int := 262142

def renderYear (year : Int) : String :=
  if 0 ≤ year ∧ year ≤ 9999 then Decimal.padded 4 year.natAbs
  else (if year < 0 then "-" else "+") ++ Decimal.padded 4 year.natAbs

end Date

namespace Timestamp

/-- The number of seconds in a day. -/
def secondsPerDay : Int := 86400

/-- The day of a point in time. -/
def date (t : Timestamp) : Date := .ofDays (t.secs.fdiv secondsPerDay)

def secondOfDay (t : Timestamp) : Nat := (t.secs - t.secs.fdiv secondsPerDay * secondsPerDay).toNat

/-- Whether the calendar has such a point in time. -/
def isValid (t : Timestamp) : Bool :=
  Date.firstYear ≤ t.date.year && t.date.year ≤ Date.lastYear
    && (t.nanos < 1000000000 || (t.nanos < 2000000000 && t.secondOfDay % 60 == 59))

def renderFraction (nanos : Nat) : String :=
  if nanos = 0 then ""
  else if nanos % 1000000 = 0 then "." ++ Decimal.padded 3 (nanos / 1000000)
  else if nanos % 1000 = 0 then "." ++ Decimal.padded 6 (nanos / 1000)
  else "." ++ Decimal.padded 9 nanos

def render (t : Timestamp) : String :=
  let d := t.date
  let s := t.secondOfDay
  let second := s % 60 + (if 1000000000 ≤ t.nanos then 1 else 0)
  Date.renderYear d.year ++ "-" ++ Decimal.padded 2 d.month ++ "-" ++ Decimal.padded 2 d.day
    ++ "T" ++ Decimal.padded 2 (s / 3600) ++ ":" ++ Decimal.padded 2 (s / 60 % 60)
    ++ ":" ++ Decimal.padded 2 second ++ renderFraction (t.nanos % 1000000000) ++ "Z"

end Timestamp

end AdmissionGate
