/-!
Points in time and the proleptic Gregorian calendar, both in UTC.
-/
namespace GuildAccess

/-- A point in time: seconds since the Unix epoch and nanoseconds into the second. A leap second is
the second before it with nanoseconds from 10^9 on. -/
structure Instant where
  seconds : Int
  nanos : Nat
deriving DecidableEq

namespace Instant

instance : LT Instant :=
  ⟨fun a b => a.seconds < b.seconds ∨ (a.seconds = b.seconds ∧ a.nanos < b.nanos)⟩
instance (a b : Instant) : Decidable (a < b) :=
  inferInstanceAs (Decidable (a.seconds < b.seconds ∨ (a.seconds = b.seconds ∧ a.nanos < b.nanos)))

def ofMillis (ms : Int) : Instant := ⟨ms / 1000, (ms % 1000).toNat * 1000000⟩

end Instant

/-- A day of the calendar. -/
structure Day where
  year : Int
  month : Nat
  day : Nat
deriving DecidableEq

namespace Day

def isLeap (year : Int) : Bool := year % 4 = 0 ∧ (year % 100 ≠ 0 ∨ year % 400 = 0)

def monthLength (year : Int) (month : Nat) : Nat :=
  if month = 2 then (if isLeap year then 29 else 28)
  else if month = 4 ∨ month = 6 ∨ month = 9 ∨ month = 11 then 30
  else 31

/-- First and last year that the calendar covers. -/
def years : Int × Int := (-262143, 262142)

def isValid (d : Day) : Bool :=
  years.1 ≤ d.year ∧ d.year ≤ years.2 ∧ 1 ≤ d.month ∧ d.month ≤ 12 ∧
    1 ≤ d.day ∧ d.day ≤ monthLength d.year d.month

/-- Days since 1970-01-01. Years are counted from March, so that a leap day ends its year. -/
def toNumber (d : Day) : Int :=
  let year := if d.month ≤ 2 then d.year - 1 else d.year
  let month : Int := if d.month ≤ 2 then d.month + 9 else d.month - 3
  let century := year / 400
  let inCentury := year % 400
  let inYear := (153 * month + 2) / 5 + d.day - 1
  century * 146097 + inCentury * 365 + inCentury / 4 - inCentury / 100 + inYear - 719468

/-- The day that many days after 1970-01-01. -/
def ofNumber (n : Int) : Day :=
  let shifted := n + 719468
  let century := shifted / 146097
  let inCentury := shifted % 146097
  let yearInCentury :=
    (inCentury - inCentury / 1460 + inCentury / 36524 - inCentury / 146096) / 365
  let inYear := inCentury - (365 * yearInCentury + yearInCentury / 4 - yearInCentury / 100)
  let month := (5 * inYear + 2) / 153
  let day := inYear - (153 * month + 2) / 5 + 1
  let year := yearInCentury + century * 400
  if month < 10 then ⟨year, (month + 3).toNat, day.toNat⟩
  else ⟨year + 1, (month - 9).toNat, day.toNat⟩

end Day
end GuildAccess
