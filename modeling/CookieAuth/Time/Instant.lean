/-!
# Points in time

A point in time counts nanoseconds since the start of 1970.  Its text is a calendar date, a time of
day and the offset of universal time.

## Main definitions

* `Date`: a date of the calendar, with `Date.ofDays` and `Date.toDays` counting days from the start
  of 1970;
* `Instant`: a point in time;
* `Instant.text`: its text, with as many groups of three fraction digits as it needs;
* `Instant.addMinutes`: a later or earlier point in time, within the range of the calendar.
-/

namespace CookieAuth.Time

/-! ### Dates -/

/-- A date of the calendar. -/
structure Date where
  /-- The year, negative before the year 0. -/
  year : Int
  /-- The month, from 1 to 12. -/
  month : Int
  /-- The day of the month, from 1. -/
  day : Int
  deriving DecidableEq, Repr

/-- The date that lies `n` days after the first of January 1970.  Years are counted from March on,
in eras of 400 years, so that a leap day is the last day of its year. -/
def Date.ofDays (n : Int) : Date :=
  let z := n + 719468
  let era := z / 146097
  let dayOfEra := z % 146097
  let yearOfEra := (dayOfEra - dayOfEra / 1460 + dayOfEra / 36524 - dayOfEra / 146096) / 365
  let dayOfYear := dayOfEra - (365 * yearOfEra + yearOfEra / 4 - yearOfEra / 100)
  let shifted := (5 * dayOfYear + 2) / 153
  let month := if shifted < 10 then shifted + 3 else shifted - 9
  { year := yearOfEra + era * 400 + (if month ≤ 2 then 1 else 0)
    month := month
    day := dayOfYear - (153 * shifted + 2) / 5 + 1 }

/-- How many days after the first of January 1970 a date lies. -/
def Date.toDays (d : Date) : Int :=
  let year := if d.month ≤ 2 then d.year - 1 else d.year
  let era := year / 400
  let yearOfEra := year % 400
  let shifted := if 2 < d.month then d.month - 3 else d.month + 9
  let dayOfYear := (153 * shifted + 2) / 5 + d.day - 1
  era * 146097 + (yearOfEra * 365 + yearOfEra / 4 - yearOfEra / 100 + dayOfYear) - 719468

/-! ### Texts -/

/-- A number in at least `width` digits. -/
def padded (width n : Nat) : String :=
  let digits := (Nat.repr n).toList
  String.ofList (List.replicate (width - digits.length) '0' ++ digits)

/-- A year in four digits; a year outside of the four digits is written with its sign. -/
def yearText (y : Int) : String :=
  if 0 ≤ y && y ≤ 9999 then padded 4 y.toNat
  else (if y < 0 then "-" else "+") ++ padded 4 y.natAbs

/-- The text of a date. -/
def Date.text (d : Date) : String :=
  yearText d.year ++ "-" ++ padded 2 d.month.toNat ++ "-" ++ padded 2 d.day.toNat

/-- The text of a time of day, given in seconds. -/
def clockText (seconds : Nat) : String :=
  padded 2 (seconds / 3600) ++ ":" ++ padded 2 (seconds / 60 % 60) ++ ":" ++ padded 2 (seconds % 60)

/-- The fraction of a second, in groups of three digits: none, milliseconds, microseconds or
nanoseconds. -/
def fractionText (nanos : Nat) : String :=
  if nanos = 0 then ""
  else if nanos % 1000000 = 0 then "." ++ padded 3 (nanos / 1000000)
  else if nanos % 1000 = 0 then "." ++ padded 6 (nanos / 1000)
  else "." ++ padded 9 nanos

/-! ### Instants -/

/-- A point in time. -/
structure Instant where
  /-- Nanoseconds since the start of 1970. -/
  nanos : Int
  deriving DecidableEq, Repr

namespace Instant

instance : LT Instant := ⟨fun a b => a.nanos < b.nanos⟩

instance : LE Instant := ⟨fun a b => a.nanos ≤ b.nanos⟩

instance (a b : Instant) : Decidable (a < b) :=
  inferInstanceAs (Decidable (a.nanos < b.nanos))

instance (a b : Instant) : Decidable (a ≤ b) :=
  inferInstanceAs (Decidable (a.nanos ≤ b.nanos))

theorem le_refl (a : Instant) : a ≤ a := Int.le_refl _

theorem le_trans {a b c : Instant} (hab : a ≤ b) (hbc : b ≤ c) : a ≤ c := Int.le_trans hab hbc

theorem lt_of_le_of_lt {a b c : Instant} (hab : a ≤ b) (hbc : b < c) : a < c :=
  Int.lt_of_le_of_lt hab hbc

/-- Nanoseconds in a second. -/
def nanosPerSecond : Int := 1000000000

/-- Nanoseconds in a day. -/
def nanosPerDay : Int := 86400 * nanosPerSecond

/-- The start of a date. -/
def ofDate (d : Date) : Instant :=
  ⟨d.toDays * nanosPerDay⟩

/-- The date of a point in time. -/
def date (t : Instant) : Date :=
  .ofDays (t.nanos / nanosPerDay)

/-- The time of day in nanoseconds. -/
def nanosOfDay (t : Instant) : Nat :=
  (t.nanos % nanosPerDay).toNat

/-- The text of a point in time. -/
def text (t : Instant) : String :=
  t.date.text ++ "T" ++ clockText (t.nanosOfDay / 1000000000)
    ++ fractionText (t.nanosOfDay % 1000000000) ++ "+00:00"

/-- The point in time that lies `seconds` later. -/
def addSeconds (t : Instant) (seconds : Int) : Instant :=
  ⟨t.nanos + seconds * nanosPerSecond⟩

end Instant

/-! ### The range of the calendar -/

/-- Why a point in time cannot be computed. -/
inductive Overflow where
  /-- The distance is too long to be expressed. -/
  | distance
  /-- The result lies outside of the calendar. -/
  | result
  deriving DecidableEq, Repr

/-- The text of an overflow. -/
def Overflow.message : Overflow → String
  | .distance => "TimeDelta::minutes out of bounds"
  | .result => "`DateTime + TimeDelta` overflowed"

/-- The longest distance in minutes. -/
def longestMinutes : Int := 153722867280912

/-- The first point in time of the calendar. -/
def calendarStart : Instant :=
  .ofDate ⟨-262143, 1, 1⟩

/-- The first point in time after the calendar. -/
def calendarEnd : Instant :=
  .ofDate ⟨262143, 1, 1⟩

/-- The point in time that lies `minutes` later. -/
def Instant.addMinutes (t : Instant) (minutes : Int) : Except Overflow Instant :=
  if longestMinutes < minutes || minutes < -longestMinutes then .error .distance
  else
    let result := t.addSeconds (60 * minutes)
    if result < calendarStart || calendarEnd ≤ result then .error .result else .ok result

end CookieAuth.Time
