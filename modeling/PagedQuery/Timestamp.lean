/-! Instants of time with nanoseconds, the civil calendar, and the microseconds of the database. -/

namespace PagedQuery

/-- An instant: whole seconds since the start of 1970 in UTC and the nanoseconds after them. A leap
second is its predecessor with a thousand million nanoseconds more. -/
structure Timestamp where
  seconds : Int
  nanos : Nat
deriving DecidableEq, Repr, Inhabited

/-- A day of the civil (proleptic Gregorian) calendar. -/
structure CivilDate where
  year : Int
  month : Nat
  day : Nat
deriving DecidableEq, Repr

namespace CivilDate

def isLeapYear (year : Int) : Bool := year % 4 = 0 && (year % 100 ≠ 0 || year % 400 = 0)

def monthLength (year : Int) (month : Nat) : Nat :=
  if month = 2 then (if isLeapYear year then 29 else 28)
  else if month = 4 || month = 6 || month = 9 || month = 11 then 30
  else 31

def isValid (d : CivilDate) : Bool :=
  1 ≤ d.month && d.month ≤ 12 && 1 ≤ d.day && d.day ≤ monthLength d.year d.month

/-- Days since the start of 1970. Years are counted from March, so that the leap day comes last;
`719468` days lie between March of year 0 and January of 1970. -/
def toDays (d : CivilDate) : Int :=
  let year := if d.month ≤ 2 then d.year - 1 else d.year
  let era := year / 400
  let yearOfEra := year % 400
  let monthFromMarch : Int := if d.month ≤ 2 then d.month + 9 else d.month - 3
  let dayOfYear := (153 * monthFromMarch + 2) / 5 + d.day - 1
  let dayOfEra := yearOfEra * 365 + yearOfEra / 4 - yearOfEra / 100 + dayOfYear
  era * 146097 + dayOfEra - 719468

/-- The day that lies `days` after the start of 1970. -/
def ofDays (days : Int) : CivilDate :=
  let shifted := days + 719468
  let era := shifted / 146097
  let dayOfEra := shifted % 146097
  let yearOfEra := (dayOfEra - dayOfEra / 1460 + dayOfEra / 36524 - dayOfEra / 146096) / 365
  let dayOfYear := dayOfEra - (365 * yearOfEra + yearOfEra / 4 - yearOfEra / 100)
  let monthFromMarch := (5 * dayOfYear + 2) / 153
  let day := dayOfYear - (153 * monthFromMarch + 2) / 5 + 1
  let month := if monthFromMarch < 10 then monthFromMarch + 3 else monthFromMarch - 9
  let year := yearOfEra + era * 400 + if month ≤ 2 then 1 else 0
  ⟨year, month.toNat, day.toNat⟩

end CivilDate

namespace Timestamp

/-- The start of 2000 in UTC, from which the database counts microseconds. -/
def databaseEpoch : Int := 946684800

/-- The instant in whole microseconds, dropping the rest toward the start of 2000: what a query
argument carries. -/
def toMicros (t : Timestamp) : Timestamp :=
  let nanosFromEpoch := (t.seconds - databaseEpoch) * 1000000000 + t.nanos
  let micros := nanosFromEpoch.tdiv 1000
  ⟨micros / 1000000 + databaseEpoch, (micros % 1000000).toNat * 1000⟩

/-- The instant without what is less than a microsecond: what a cell of a row carries. -/
def cutToMicros (t : Timestamp) : Timestamp := ⟨t.seconds, t.nanos - t.nanos % 1000⟩

end Timestamp

end PagedQuery
