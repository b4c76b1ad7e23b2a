/-
Points in time as people write them.

A timestamp is a wall-clock reading in years 1 to 9999, to the microsecond, with or
without the offset of the clock from universal time.  The reading is kept as a count
of microseconds from 0001-01-01T00:00:00, so `instant` is a subtraction: a reading
without an offset is taken to be universal time already.  `toUniversal?` fails only
when the instant lies outside years 1 to 9999.

`isoText` is the form in which a timestamp is shown; `canonicalText` is the fixed-width
form of a universal time that is stored, always with six digits of fraction.
-/
import UsageLedger.Calendar.Date
import UsageLedger.Text.Integer

namespace UsageLedger

/-- Microseconds in a day. -/
def microsPerDay : Nat := 86400000000

/-- Microseconds in years 1 to 9999. -/
def microsInRange : Nat := CivilDate.dayCount * microsPerDay

/-- A wall-clock reading, with the offset of the clock when it is known. -/
structure Timestamp where
  /-- Microseconds from 0001-01-01T00:00:00 on the clock. -/
  wall : Nat
  /-- Microseconds by which the clock is ahead of universal time. -/
  offset : Option Int
  wall_lt : wall < microsInRange
  offset_lt : ∀ o ∈ offset, -(microsPerDay : Int) < o ∧ o < microsPerDay
  deriving DecidableEq, Repr

/-- The hands of a clock. -/
structure ClockTime where
  hour : Nat
  minute : Nat
  second : Nat
  microsecond : Nat
  deriving DecidableEq, Repr, Inhabited

namespace ClockTime

/-- A time of a day of 24 hours without leap seconds. -/
def isValid (t : ClockTime) : Bool :=
  t.hour < 24 && t.minute < 60 && t.second < 60 && t.microsecond < 1000000

/-- Microseconds since midnight. -/
def micros (t : ClockTime) : Nat :=
  ((t.hour * 60 + t.minute) * 60 + t.second) * 1000000 + t.microsecond

/-- The hands at a number of microseconds since midnight. -/
def ofMicros (n : Nat) : ClockTime :=
  ⟨n / 3600000000, n / 60000000 % 60, n / 1000000 % 60, n % 1000000⟩

end ClockTime

namespace Timestamp

/-- A count of microseconds as a universal time, if it lies in years 1 to 9999. -/
def ofInstant? (instant : Int) : Option Timestamp :=
  if h : 0 ≤ instant ∧ instant < microsInRange then
    some ⟨instant.toNat, some 0, by omega, by
      intro o ho
      obtain rfl : 0 = o := by simpa using ho
      decide⟩
  else none

/-- The beginning of year 1 in universal time. -/
def first : Timestamp :=
  ⟨0, some 0, by decide, by
    intro o ho
    obtain rfl : 0 = o := by simpa using ho
    decide⟩

instance : Inhabited Timestamp := ⟨first⟩

/-- A date, a time and an offset as a timestamp, if all three are in range. -/
def make? (date : CivilDate) (time : ClockTime) (offset : Option Int) : Option Timestamp :=
  let wall := date.dayNumber * microsPerDay + time.micros
  if h : wall < microsInRange ∧ ∀ o ∈ offset, -(microsPerDay : Int) < o ∧ o < microsPerDay then
    if date.isValid && time.isValid then some ⟨wall, offset, h.1, h.2⟩ else none
  else none

/-- The date on the clock. -/
def date (t : Timestamp) : CivilDate := CivilDate.ofDayNumber (t.wall / microsPerDay)

/-- The time on the clock. -/
def time (t : Timestamp) : ClockTime := ClockTime.ofMicros (t.wall % microsPerDay)

/-- Microseconds of universal time from 0001-01-01T00:00:00.  Without an offset the clock is taken
to show universal time. -/
def instant (t : Timestamp) : Int := (t.wall : Int) - t.offset.getD 0

/-- The same instant on a clock that shows universal time. -/
def toUniversal? (t : Timestamp) : Option Timestamp := ofInstant? t.instant

/-- The same reading of a clock whose offset is not known. -/
def withoutOffset (t : Timestamp) : Timestamp := ⟨t.wall, none, t.wall_lt, by simp⟩

/-! ### Texts -/

/-- The date with hyphens. -/
def dateText (d : CivilDate) : List Char :=
  Text.fourDigits d.year ++ '-' :: Text.twoDigits d.month ++ '-' :: Text.twoDigits d.day

/-- Hours, minutes and seconds with colons. -/
def clockText (t : ClockTime) : List Char :=
  Text.twoDigits t.hour ++ ':' :: Text.twoDigits t.minute ++ ':' :: Text.twoDigits t.second

/-- A point and six digits of fraction. -/
def fractionText (microsecond : Nat) : List Char := '.' :: Text.sixDigits microsecond

/-- The fraction, left out when it is zero. -/
def shortFractionText (microsecond : Nat) : List Char :=
  if microsecond = 0 then [] else fractionText microsecond

/-- An offset with its sign; seconds and their fraction are left out when they are zero. -/
def offsetText (offset : Int) : List Char :=
  let t := ClockTime.ofMicros offset.natAbs
  let sign := if offset < 0 then '-' else '+'
  let hourMinute := sign :: Text.twoDigits t.hour ++ ':' :: Text.twoDigits t.minute
  if t.second = 0 ∧ t.microsecond = 0 then hourMinute
  else hourMinute ++ ':' :: Text.twoDigits t.second ++ shortFractionText t.microsecond

/-- Date, `T`, time, the fraction when it is not zero, and the offset when there is one. -/
def isoText (t : Timestamp) : String :=
  String.ofList (dateText t.date ++ 'T' :: clockText t.time ++
    shortFractionText t.time.microsecond ++
    (match t.offset with | some o => offsetText o | none => []))

/-- Date, `T`, time, six digits of fraction, and the offset when there is one. -/
def canonicalText (t : Timestamp) : String :=
  String.ofList (dateText t.date ++ 'T' :: clockText t.time ++ fractionText t.time.microsecond ++
    (match t.offset with | some o => offsetText o | none => []))

/-- Date, a space, time and six digits of fraction: a clock reading without its offset. -/
def columnText (t : Timestamp) : String :=
  String.ofList (dateText t.date ++ ' ' :: clockText t.time ++ fractionText t.time.microsecond)

/-- The form of answers: as `isoText`, but universal time ends in `Z`. -/
def answerText (t : Timestamp) : String :=
  match t.offset with
  | some 0 => t.withoutOffset.isoText ++ "Z"
  | _ => t.isoText

end Timestamp

end UsageLedger
