import CycledWorkflow.Text.Blank
import CycledWorkflow.Text.Numeral
import CycledWorkflow.Time.Span
/-!
# Moments

A moment is a date and time of day, to the second, on the proleptic Gregorian calendar with
no time zone. It is held as a count of seconds from 1970-01-01T00:00:00; the calendar fields
come from the day count by the usual era arithmetic (eras of 400 years, 146097 days, with
years starting in March so that the leap day falls last).

Moments range from -262143-01-01T00:00:00 to +262142-12-31T23:59:59; a sum that leaves the
range has no moment.

A moment is written in three forms: `2021-12-20T18:00:00` (ISO), `2021122018` (date and
hour) and `202112201800` (date, hour and minute). Years outside 0 to 9999 carry a sign and
at least four digits (`+10000`, `-0001`). A timestamp is read from ten or twelve ASCII digits
after trimming: a date from 0000-01-01 to 9999-12-31, an hour below 24 and optional minutes
below 60.
-/

namespace CycledWorkflow

/-- Whether a year of the proleptic Gregorian calendar is a leap year. -/
def isLeapYear (y : Int) : Bool := y % 4 == 0 && (y % 100 != 0 || y % 400 == 0)

/-- The number of days of a month (`1` to `12`) in a year. -/
def daysInMonth (y : Int) (m : Nat) : Nat :=
  match m with
  | 2 => if isLeapYear y then 29 else 28
  | 4 | 6 | 9 | 11 => 30
  | _ => 31

/-- The day count from 1970-01-01 of a civil date. -/
def daysFromCivil (y : Int) (m d : Nat) : Int :=
  let y := if m ≤ 2 then y - 1 else y
  let era := y / 400
  let yoe := y - era * 400
  let mp : Int := if 2 < m then (m : Int) - 3 else (m : Int) + 9
  let doy := (153 * mp + 2) / 5 + d - 1
  let doe := yoe * 365 + yoe / 4 - yoe / 100 + doy
  era * 146097 + doe - 719468

/-- The civil date (year, month, day) of a day count from 1970-01-01. -/
def civilFromDays (z : Int) : Int × Nat × Nat :=
  let z := z + 719468
  let era := z / 146097
  let doe := z - era * 146097
  let yoe := (doe - doe / 1460 + doe / 36524 - doe / 146096) / 365
  let y := yoe + era * 400
  let doy := doe - (365 * yoe + yoe / 4 - yoe / 100)
  let mp := (5 * doy + 2) / 153
  let d := doy - (153 * mp + 2) / 5 + 1
  let m := if mp < 10 then mp + 3 else mp - 9
  (if m ≤ 2 then y + 1 else y, m.toNat, d.toNat)

/-- A date and time of day to the second, as seconds from 1970-01-01T00:00:00. -/
structure Moment where
  /-- Seconds from 1970-01-01T00:00:00. -/
  seconds : Int
  deriving DecidableEq, Repr

namespace Moment

instance : LE Moment := ⟨fun a b => a.seconds ≤ b.seconds⟩
instance : LT Moment := ⟨fun a b => a.seconds < b.seconds⟩
instance (a b : Moment) : Decidable (a ≤ b) := inferInstanceAs (Decidable (a.seconds ≤ b.seconds))
instance (a b : Moment) : Decidable (a < b) := inferInstanceAs (Decidable (a.seconds < b.seconds))

/-- The moment of a civil date and time of day. -/
def ofCivil (y : Int) (m d hour minute second : Nat) : Moment :=
  ⟨daysFromCivil y m d * 86400 + hour * 3600 + minute * 60 + second⟩

/-- The first moment of the range. -/
def first : Moment := ofCivil (-262143) 1 1 0 0 0

/-- The last moment of the range. -/
def last : Moment := ofCivil 262142 12 31 23 59 59

/-- Whether a moment lies in the range. -/
def inRange (t : Moment) : Bool := decide (first ≤ t ∧ t ≤ last)

/-- The moment a span after another, when it lies in the range. -/
def addSpan? (t : Moment) (d : Span) : Option Moment :=
  let u : Moment := ⟨t.seconds + d.seconds⟩
  if u.inRange then some u else none

/-- The span from `b` to `a`, in seconds. -/
def diffSeconds (a b : Moment) : Int := a.seconds - b.seconds

/-- The day count from 1970-01-01. -/
def dayNumber (t : Moment) : Int := t.seconds / 86400

/-- The seconds since midnight. -/
def secondOfDay (t : Moment) : Nat := (t.seconds % 86400).toNat

/-- The civil date of a moment. -/
def date (t : Moment) : Int × Nat × Nat := civilFromDays t.dayNumber

/-- The hour of a moment. -/
def hour (t : Moment) : Nat := t.secondOfDay / 3600

/-- The minute of a moment. -/
def minute (t : Moment) : Nat := t.secondOfDay % 3600 / 60

/-- The second of a moment. -/
def second (t : Moment) : Nat := t.secondOfDay % 60

/-- The same day at a whole hour. -/
def atHour (t : Moment) (h : Nat) : Moment := ⟨t.dayNumber * 86400 + h * 3600⟩

/-- The same moment with its seconds set to zero. -/
def truncateSeconds (t : Moment) : Moment := ⟨t.seconds - t.second⟩

/-- The written year: four digits from 0 to 9999, otherwise a sign and at least four
digits. -/
def yearText (y : Int) : String :=
  if 0 ≤ y ∧ y ≤ 9999 then Text.padded 4 y
  else (if y < 0 then "-" else "+") ++ Text.padded 4 y.natAbs

/-- Two digits of a field. -/
def two (n : Nat) : String := Text.padded 2 n

/-- The ISO form `YYYY-MM-DDTHH:MM:SS`. -/
def iso (t : Moment) : String :=
  let (y, m, d) := t.date
  yearText y ++ "-" ++ two m ++ "-" ++ two d ++ "T" ++ two t.hour ++ ":" ++ two t.minute ++
    ":" ++ two t.second

/-- The form `YYYYMMDDHH`. -/
def ymdh (t : Moment) : String :=
  let (y, m, d) := t.date
  yearText y ++ two m ++ two d ++ two t.hour

/-- The form `YYYYMMDDHHMM`. -/
def stamp (t : Moment) : String := t.ymdh ++ two t.minute

/-- The value of a run of ASCII digits. -/
def digitsValue (cs : List Char) : Nat :=
  cs.foldl (fun a c => a * 10 + (c.toNat - '0'.toNat)) 0

/-- Reading a timestamp `YYYYMMDDHH` or `YYYYMMDDHHMM` after trimming. -/
def parseStamp (text : String) : Option Moment :=
  let cs := Text.trimChars text.toList
  if (cs.length = 10 ∨ cs.length = 12) ∧ cs.all Char.isDigit then
    let y := digitsValue (cs.take 4)
    let m := digitsValue ((cs.drop 4).take 2)
    let d := digitsValue ((cs.drop 6).take 2)
    let h := digitsValue ((cs.drop 8).take 2)
    let mi := digitsValue ((cs.drop 10).take 2)
    if 1 ≤ m ∧ m ≤ 12 ∧ 1 ≤ d ∧ d ≤ daysInMonth y m ∧ h < 24 ∧ mi < 60 then
      some (ofCivil y m d h mi 0)
    else none
  else none

end Moment

end CycledWorkflow
