/-
A strict reader of timestamps and Unix times.

A text is tried as a date with a time in the manner of RFC 3339, then as a Unix time,
then as a date alone; when none fits, the refusal says what is wrong with it as a date.
Unix times are seconds, or milliseconds when their magnitude exceeds twenty thousand
million, and are rounded to the microsecond; one that is written as a whole number is
exact.  Year 0 can be written but is no year of a timestamp, so it has a refusal of its own.
-/
import UsageLedger.Calendar.Iso
import UsageLedger.Number.Binary64

namespace UsageLedger.Calendar

/-- What is wrong with a text as a date. -/
inductive DateDefect
  | tooShort
  | yearCharacter
  | separator
  | monthCharacter
  | dayCharacter
  | monthRange
  | dayRange
  | trailing
  /-- A Unix time beyond the last year. -/
  | tooLate
  /-- A Unix time before the first year. -/
  | tooEarly
  deriving DecidableEq, Repr

/-- Why something is no timestamp. -/
inductive TimestampDefect
  | undefinedNumber
  | afterYear9999
  | beforeYear0
  | yearZero
  | date (defect : DateDefect)
  deriving DecidableEq, Repr

/-! ### Unix times -/

/-- Microseconds from 0001-01-01 to the beginning of Unix time. -/
def unixEpoch : Int := 62135596800000000

/-- Microseconds from the beginning of year 0 to that of year 1. -/
def microsInYearZero : Int := 366 * microsPerDay

/-- Magnitudes above this are milliseconds. -/
def secondsLimit : Int := 20000000000

/-- The instant a number of microseconds after the beginning of Unix time. -/
def ofUnixMicros (micros : Int) : Except TimestampDefect Timestamp :=
  let micros := micros + unixEpoch
  if (microsInRange : Int) ≤ micros then .error .afterYear9999
  else if micros < -microsInYearZero then .error .beforeYear0
  else match Timestamp.ofInstant? micros with
    | some t => .ok t
    | none => .error .yearZero

/-- The microseconds in one of the units of a Unix time. -/
def microsPerUnit (value : Rat) : Int :=
  if value ≤ secondsLimit ∧ -(secondsLimit : Rat) ≤ value then 1000000 else 1000

/-- A Unix time given as a whole number. -/
def ofUnixTime (value : Int) : Except TimestampDefect Timestamp :=
  ofUnixMicros (value * microsPerUnit value)

/-- The microseconds of a Unix time.  What it exceeds a whole number of units by is rounded to a
double, and so is this in microseconds. -/
def unixMicros (value : Rat) : Int :=
  let rest := Binary64.roundRat (value - value.floor)
  value.floor * microsPerUnit value +
    (Binary64.roundRat (rest * microsPerUnit value) + 1 / 2).floor

/-- A Unix time given as a double. -/
def ofUnixFloat : Binary64 → Except TimestampDefect Timestamp
  | .nan => .error .undefinedNumber
  | .infinity negative => .error (if negative then .beforeYear0 else .afterYear9999)
  | .finite negative mantissa exponent =>
    ofUnixMicros (unixMicros (scaleTwo (Text.signed negative mantissa) exponent))

/-- A whole number that fits into 64 bits. -/
def fits64 (n : Int) : Bool := -9223372036854775808 ≤ n && n ≤ 9223372036854775807

/-- A Unix time that is written out as a whole number.  Outside the years it is wrong as a date. -/
def writtenUnixTime (value : Int) : Except TimestampDefect Timestamp :=
  match ofUnixTime value with
  | .error .afterYear9999 => .error (.date .tooLate)
  | .error .beforeYear0 => .error (.date .tooEarly)
  | result => result

/-- Reads a Unix time: an optional sign and digits with at most one point.  A whole number of
more than 64 bits and a fraction outside the years are no Unix times. -/
def readUnixTime? (text : List Char) : Option (Except TimestampDefect Timestamp) :=
  let (negative, rest) := Text.splitSign text
  let (whole, rest) := Decimal.leadingDigits rest
  match rest with
  | [] =>
    let value := Text.signed negative (Text.ofDigits 10 whole)
    if whole.isEmpty || !fits64 value then none else some (writtenUnixTime value)
  | '.' :: more =>
    match Decimal.leadingDigits more with
    | (fraction, []) =>
      if whole.isEmpty && fraction.isEmpty then none
      else
        match ofUnixFloat (Binary64.ofDecimal
          (.finite negative (Text.ofDigits 10 (whole ++ fraction)) (-(fraction.length : Int)))) with
        | .error .afterYear9999 | .error .beforeYear0 => none
        | result => some result
    | _ => none
  | _ => none

/-! ### Dates and times -/

/-- The date in the first ten bytes, or what is wrong with it.  Year 0 is let through. -/
def readPlainDate (b : List UInt8) : Except DateDefect CivilDate :=
  if b.length < 10 then .error .tooShort
  else match numberAt? b 0 4 with
  | none => .error .yearCharacter
  | some year =>
    if !isByte (byteAt b 4) '-' then .error .separator
    else match numberAt? b 5 2 with
    | none => .error .monthCharacter
    | some month =>
      if !isByte (byteAt b 7) '-' then .error .separator
      else match numberAt? b 8 2 with
      | none => .error .dayCharacter
      | some day =>
        if month < 1 ∨ 12 < month then .error .monthRange
        else if (CivilDate.mk year month day).monthHasDay then .ok ⟨year, month, day⟩
        else .error .dayRange

/-- The fraction of a second after a point or comma, cut to six digits, and what follows. -/
def readShortFraction? (b : List UInt8) : Option (Nat × List UInt8) :=
  match b with
  | mark :: digits =>
    if isByte mark '.' || isByte mark ',' then
      let count := digitSpan digits
      if count = 0 then none
      else do
        let kept := min 6 count
        let value ← numberAt? digits 0 kept
        return (value * Nat.pow 10 (6 - kept), digits.drop count)
    else some (0, b)
  | [] => some (0, b)

/-- The time of day at the front of a byte string, and what follows it. -/
def readPlainTime? (b : List UInt8) : Option (ClockTime × List UInt8) := do
  let hour ← numberAt? b 0 2
  if !isByte (byteAt b 2) ':' then none
  let minute ← numberAt? b 3 2
  let (second, micros, rest) ← (
    if isByte (byteAt b 5) ':' then do
      let second ← numberAt? b 6 2
      let (micros, rest) ← readShortFraction? (b.drop 8)
      return (second, micros, rest)
    else some (0, 0, b.drop 5) : Option (Nat × Nat × List UInt8))
  let time : ClockTime := ⟨hour, minute, second, micros⟩
  if time.isValid then some (time, rest) else none

/-- The sign of an offset, which may be a typographic minus, and what follows it. -/
def readOffsetSign? : List UInt8 → Option (Bool × List UInt8)
  | 0xE2 :: 0x88 :: 0x92 :: rest => some (true, rest)
  | x :: rest =>
    if isByte x '+' then some (false, rest) else if isByte x '-' then some (true, rest) else none
  | [] => none

/-- An offset that makes up the whole byte string; no bytes mean that none is given. -/
def readPlainOffset? (b : List UInt8) : Option (Option Int) :=
  match b with
  | [] => some none
  | [x] => if isByte x 'Z' || isByte x 'z' then some (some 0) else none
  | _ => do
    let (negative, rest) ← readOffsetSign? b
    let hour ← numberAt? rest 0 2
    let rest := rest.drop 2
    let rest := if isByte (byteAt rest 0) ':' then rest.drop 1 else rest
    let minute ← numberAt? rest 0 2
    if rest.length = 2 ∧ hour < 24 ∧ minute < 60 then
      some (some (Text.signed negative ((hour * 60 + minute) * 60000000)))
    else none

/-- A date, a separator, a time and perhaps an offset, with nothing left over. -/
def readDateTime? (b : List UInt8) : Option (CivilDate × ClockTime × Option Int) :=
  match readPlainDate b with
  | .error _ => none
  | .ok date =>
    let mark := byteAt b 10
    if isByte mark 'T' || isByte mark 't' || isByte mark ' ' || isByte mark '_' then do
      let (time, rest) ← readPlainTime? (b.drop 11)
      let offset ← readPlainOffset? rest
      return (date, time, offset)
    else none

/-- A reading as a timestamp; the only reading that is none has year 0. -/
def atClock (date : CivilDate) (time : ClockTime) (offset : Option Int) :
    Except TimestampDefect Timestamp :=
  match Timestamp.make? date time offset with
  | some t => .ok t
  | none => .error .yearZero

/-- Reads the bytes of a date with a time, a Unix time, or a date alone. -/
def readRfc3339Bytes (b : List UInt8) : Except TimestampDefect Timestamp :=
  match readDateTime? b with
  | some (date, time, offset) => atClock date time offset
  | none =>
    match readUnixTime? (b.map fun x => Char.ofNat x.toNat) with
    | some result => result
    | none =>
      match readPlainDate b with
      | .error defect => .error (.date defect)
      | .ok date =>
        if 10 < b.length then .error (.date .trailing) else atClock date ⟨0, 0, 0, 0⟩ none

/-- Reads a date with a time, a Unix time, or a date alone. -/
def readRfc3339 (text : String) : Except TimestampDefect Timestamp :=
  readRfc3339Bytes text.toUTF8.toList

end UsageLedger.Calendar
