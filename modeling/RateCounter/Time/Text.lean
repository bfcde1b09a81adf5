/-
  RateCounter.Time.Text — how instants and lengths of time are written.

  An instant is a calendar date of the proleptic Gregorian calendar and a time of day in
  UTC; its fraction has no digits, three, six or nine, the fewest that are exact. A year
  outside 0 … 9999 carries a sign. A length of time is written in ISO 8601 seconds
  (`isoSeconds`) or in the largest unit that leaves a whole part (`inLargestUnit`).
-/

import RateCounter.Time
import RateCounter.Text.Digits

namespace RateCounter

/-! ## Calendar -/

structure Date where
  year : Int
  month : Nat
  day : Nat
  deriving DecidableEq, Repr

namespace Date

/-- The date `days` after 1970-01-01. Years start in March, so the leap day comes last;
    400 years have 146097 days. -/
def ofDays (days : Int) : Date :=
  let shifted := days + 719468
  let era := shifted.fdiv 146097
  let dayOfEra := (shifted - era * 146097).toNat
  let yearOfEra := (dayOfEra - dayOfEra / 1460 + dayOfEra / 36524 - dayOfEra / 146096) / 365
  let dayOfYear := dayOfEra - (365 * yearOfEra + yearOfEra / 4 - yearOfEra / 100)
  let marchMonth := (5 * dayOfYear + 2) / 153
  let day := dayOfYear - (153 * marchMonth + 2) / 5 + 1
  let month := if marchMonth < 10 then marchMonth + 3 else marchMonth - 9
  let year := era * 400 + yearOfEra
  ⟨if month ≤ 2 then year + 1 else year, month, day⟩

def yearText (year : Int) : String :=
  if 0 ≤ year ∧ year ≤ 9999 then Text.padded 4 year.toNat
  else (if year < 0 then "-" else "+") ++ Text.padded 4 year.natAbs

def text (d : Date) : String :=
  yearText d.year ++ "-" ++ Text.padded 2 d.month ++ "-" ++ Text.padded 2 d.day

end Date

/-! ## Instants -/

namespace Instant

/-- Nanoseconds of a second as a fraction of three, six or nine digits, or nothing. -/
def fractionText (nanos : Nat) : String :=
  if nanos = 0 then ""
  else if nanos % 1000000 = 0 then "." ++ Text.padded 3 (nanos / 1000000)
  else if nanos % 1000 = 0 then "." ++ Text.padded 6 (nanos / 1000)
  else "." ++ Text.padded 9 nanos

def dateText (t : Instant) : String := (Date.ofDays (t.fdiv (86400 * nanosPerSecond))).text

def timeOfDayText (t : Instant) : String :=
  let nanos := (t.fmod (86400 * nanosPerSecond)).toNat
  let secs := nanos / nanosPerSecond
  Text.padded 2 (secs / 3600) ++ ":" ++ Text.padded 2 (secs / 60 % 60) ++ ":" ++
    Text.padded 2 (secs % 60) ++ fractionText (nanos % nanosPerSecond)

/-- As in `2024-01-01T00:00:00.050Z`. -/
def rfc3339 (t : Instant) : String := t.dateText ++ "T" ++ t.timeOfDayText ++ "Z"

/-- As in `2024-01-01 00:00:00.050 UTC`. -/
def plainText (t : Instant) : String := t.dateText ++ " " ++ t.timeOfDayText ++ " UTC"

end Instant

/-! ## Lengths of time -/

namespace Span

/-- As in `PT61S`, `PT0.98S`, `-PT0.5S`; zero is `P0D`. -/
def isoSeconds (ns : Int) : String :=
  if ns = 0 then "P0D"
  else
    let size := ns.natAbs
    (if ns < 0 then "-" else "") ++ "PT" ++ toString (size / nanosPerSecond) ++
      Text.fraction 9 (size % nanosPerSecond) ++ "S"

/-- As in `1.5s`, `100ms`, `2µs`, `7ns`. -/
def inLargestUnit (ns : Nat) : String :=
  if nanosPerSecond ≤ ns then
    toString (ns / nanosPerSecond) ++ Text.fraction 9 (ns % nanosPerSecond) ++ "s"
  else if nanosPerMilli ≤ ns then
    toString (ns / nanosPerMilli) ++ Text.fraction 6 (ns % nanosPerMilli) ++ "ms"
  else if 1000 ≤ ns then
    toString (ns / 1000) ++ Text.fraction 3 (ns % 1000) ++ "µs"
  else
    toString ns ++ "ns"

end Span

end RateCounter
