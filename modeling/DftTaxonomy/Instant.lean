/-!
# Instants in UTC and their text

An `Instant` is a count of whole seconds from the Unix epoch with the
nanoseconds into that second; nanoseconds from `10 ^ 9` on mark a leap second,
which is written as second `60`.

* `CivilDate.ofDays` turns a day count from the epoch into a proleptic
  Gregorian date, by the usual era arithmetic (eras of 400 years, years that
  start in March).
* `Instant.plain` is the text a lenient sanitizer gives an instant: a space
  between date and time, microseconds only when there are any.
* `Instant.rfc3339` and `Instant.zulu` write RFC 3339 text with three, six or
  nine fraction digits, the fewest that keep every nanosecond, and the offset
  as `+00:00` or `Z`.

A year outside `0 ..= 9999` is written with its sign and at least four digits.
-/

namespace DftTaxonomy

/-- A day of the proleptic Gregorian calendar. -/
structure CivilDate where
  year : Int
  month : Nat
  day : Nat
  deriving DecidableEq, Repr

namespace CivilDate

/-- The date `days` days after 1970-01-01 (before it, for a negative count).
Days are counted in 400-year eras of 146097 days from 0000-03-01, so that the
leap day closes each year. -/
def ofDays (days : Int) : CivilDate :=
  let z := days + 719468
  let era := z / 146097
  let dayOfEra := (z - era * 146097).toNat
  let yearOfEra :=
    (dayOfEra - dayOfEra / 1460 + dayOfEra / 36524 - dayOfEra / 146096) / 365
  let dayOfYear := dayOfEra - (365 * yearOfEra + yearOfEra / 4 - yearOfEra / 100)
  let shifted := (5 * dayOfYear + 2) / 153
  let day := dayOfYear - (153 * shifted + 2) / 5 + 1
  let month := if shifted < 10 then shifted + 3 else shifted - 9
  let year := (yearOfEra : Int) + era * 400 + (if month ≤ 2 then 1 else 0)
  ⟨year, month, day⟩

end CivilDate

/-- `n` written in decimal with zeros in front up to `width` digits. -/
def padded (width n : Nat) : String :=
  let digits := Nat.repr n
  String.ofList (List.replicate (width - digits.length) '0') ++ digits

/-- A year as calendars write it: four digits within `0 ..= 9999`, else a sign
and at least four digits. -/
def yearText (year : Int) : String :=
  if 0 ≤ year ∧ year ≤ 9999 then padded 4 year.toNat
  else (if year < 0 then "-" else "+") ++ padded 4 year.natAbs

/-- A moment in UTC. -/
structure Instant where
  /-- Whole seconds since 1970-01-01T00:00:00. -/
  seconds : Int
  /-- Nanoseconds into the second; from `10 ^ 9` on, a leap second. -/
  nanos : Nat
  deriving DecidableEq, Repr

namespace Instant

/-- Nanoseconds in a second. -/
def nanosPerSecond : Nat := 1000000000

/-- The calendar day of the instant. -/
def date (t : Instant) : CivilDate := CivilDate.ofDays (t.seconds / 86400)

/-- Seconds since midnight, leap second not counted. -/
def secondOfDay (t : Instant) : Nat := (t.seconds % 86400).toNat

/-- The second as written: `60` during a leap second. -/
def second (t : Instant) : Nat := t.secondOfDay % 60 + t.nanos / nanosPerSecond

/-- Nanoseconds into the written second. -/
def fraction (t : Instant) : Nat := t.nanos % nanosPerSecond

/-- `YYYY-MM-DD`. -/
def dateText (t : Instant) : String :=
  let d := t.date
  yearText d.year ++ "-" ++ padded 2 d.month ++ "-" ++ padded 2 d.day

/-- `HH:MM:SS`. -/
def clockText (t : Instant) : String :=
  padded 2 (t.secondOfDay / 3600) ++ ":" ++ padded 2 (t.secondOfDay / 60 % 60) ++ ":" ++
    padded 2 t.second

/-- The fraction of a second in the fewest of three, six or nine digits that
keep it exactly; nothing for a whole second. -/
def fractionText (t : Instant) : String :=
  let f := t.fraction
  if f = 0 then ""
  else if f % 1000000 = 0 then "." ++ padded 3 (f / 1000000)
  else if f % 1000 = 0 then "." ++ padded 6 (f / 1000)
  else "." ++ padded 9 f

/-- RFC 3339 text with the offset written `+00:00`. -/
def rfc3339 (t : Instant) : String :=
  t.dateText ++ "T" ++ t.clockText ++ t.fractionText ++ "+00:00"

/-- RFC 3339 text with the offset written `Z`. -/
def zulu (t : Instant) : String :=
  t.dateText ++ "T" ++ t.clockText ++ t.fractionText ++ "Z"

/-- Date and time apart by a space, with six fraction digits when the instant
has whole microseconds past the second (a leap second counts as a million of
them), and the offset `+00:00`. -/
def plain (t : Instant) : String :=
  let micros := if t.nanos / 1000 = 0 then "" else "." ++ padded 6 (t.fraction / 1000)
  t.dateText ++ " " ++ t.clockText ++ micros ++ "+00:00"

end Instant

end DftTaxonomy
