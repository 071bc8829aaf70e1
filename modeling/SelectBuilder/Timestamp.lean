import SelectBuilder.Number.Decimal

namespace SelectBuilder

/-!
# Instants and their text

An instant is a count of seconds since the start of 1970 in UTC.  It is
written as a date of the Gregorian calendar, carried on without end in both
directions, and a time of day; the zone mark is up to the writer.
-/

/-- An instant.  A leap second is the second counted before it, gone on into
a second thousand million nanoseconds; it can only follow a fifty-ninth one. -/
structure Timestamp where
  seconds : Int
  nanoseconds : Nat
  nanoseconds_lt : nanoseconds < 2000000000
  leap : 1000000000 ≤ nanoseconds -> seconds % 60 = 59
deriving DecidableEq, Repr

/-- A day of the Gregorian calendar. -/
structure CalendarDate where
  year : Int
  month : Nat
  day : Nat
deriving DecidableEq, Repr

namespace CalendarDate

/-- The date of a day counted from 1 January 1970.  The reckoning goes by years
that begin in March, so that a leap day is the last of its year, and by eras of 400
years, which all have 146097 days. -/
def ofDay (day : Int) : CalendarDate :=
  let shifted := day + 719468
  let era := shifted / 146097
  let dayOfEra := (shifted % 146097).toNat
  let yearOfEra :=
    (dayOfEra - dayOfEra / 1460 + dayOfEra / 36524 - dayOfEra / 146096) / 365
  let dayOfYear := dayOfEra - (365 * yearOfEra + yearOfEra / 4 - yearOfEra / 100)
  let marchMonth := (5 * dayOfYear + 2) / 153
  let dayOfMonth := dayOfYear - (153 * marchMonth + 2) / 5 + 1
  let month := if marchMonth < 10 then marchMonth + 3 else marchMonth - 9
  let year := (yearOfEra : Int) + era * 400
  ⟨if month ≤ 2 then year + 1 else year, month, dayOfMonth⟩

/-- Years of four digits stand alone; all others have a sign, and four digits
at least. -/
def yearText (year : Int) : String :=
  if 0 ≤ year ∧ year ≤ 9999 then paddedText 4 year.natAbs
  else (if year < 0 then "-" else "+") ++ paddedText 4 year.natAbs

def text (date : CalendarDate) : String :=
  yearText date.year ++ "-" ++ paddedText 2 date.month ++ "-" ++ paddedText 2 date.day

end CalendarDate

namespace Timestamp

/-- The instant so many seconds and nanoseconds after the start of 1970. -/
def ofUnix? (seconds : Int) (nanoseconds : Nat) : Option Timestamp :=
  if inRange : nanoseconds < 2000000000 ∧
      (1000000000 ≤ nanoseconds -> seconds % 60 = 59) then
    some ⟨seconds, nanoseconds, inRange.1, inRange.2⟩
  else none

/-- No fraction, or three, six or nine digits of one: the fewest that are exact. -/
def fractionText (nanoseconds : Nat) : String :=
  if nanoseconds = 0 then ""
  else if nanoseconds % 1000000 = 0 then "." ++ paddedText 3 (nanoseconds / 1000000)
  else if nanoseconds % 1000 = 0 then "." ++ paddedText 6 (nanoseconds / 1000)
  else "." ++ paddedText 9 nanoseconds

/-- The time of day; a leap second is second 60. -/
def timeText (instant : Timestamp) : String :=
  let secondOfDay := (instant.seconds % 86400).toNat
  let second := secondOfDay % 60 + instant.nanoseconds / 1000000000
  paddedText 2 (secondOfDay / 3600) ++ ":" ++ paddedText 2 (secondOfDay / 60 % 60) ++ ":"
    ++ paddedText 2 second ++ fractionText (instant.nanoseconds % 1000000000)

/-- Date and time in the form of RFC 3339, with the given mark for UTC. -/
def text (zone : String) (instant : Timestamp) : String :=
  (CalendarDate.ofDay (instant.seconds / 86400)).text ++ "T" ++ instant.timeText ++ zone

end Timestamp
end SelectBuilder
