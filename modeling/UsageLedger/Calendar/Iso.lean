/-
A lenient reader of ISO 8601 timestamps.

It takes calendar dates and week dates, with and without hyphens, any one character
between date and time, times with and without colons, a fraction of any length after
the last part given, and offsets down to fractions of a second.  Reading is by
position over the bytes of the text; past the end every byte is zero.  What counts as
the date part depends only on the first ten bytes (`separatorPosition?`), and what is
left over before the separator is not looked at.

A text that is no run of characters has no bytes, yet half of a pair is taken for the
separator where one can stand (`mendSeparator?`).
-/
import UsageLedger.Calendar.Timestamp
import UsageLedger.Text.Quoted

namespace UsageLedger.Calendar

/-- The byte at a position; zero past the end. -/
def byteAt (b : List UInt8) (i : Nat) : UInt8 := (b[i]?).getD 0

/-- A byte given by its character. -/
def isByte (x : UInt8) (c : Char) : Bool := x.toNat == c.toNat

/-- The ASCII digit at a position. -/
def digitAt? (b : List UInt8) (i : Nat) : Option Nat :=
  let x := (byteAt b i).toNat
  if 48 ≤ x ∧ x ≤ 57 then some (x - 48) else none

/-- The number made of exactly `count` digits from a position on. -/
def numberAt? (b : List UInt8) (i : Nat) : Nat → Option Nat
  | 0 => some 0
  | count + 1 => do
    let high ← numberAt? b i count
    let d ← digitAt? b (i + count)
    return high * 10 + d

/-- The number of consecutive digits at the front of a byte string. -/
def digitSpan : List UInt8 → Nat
  | [] => 0
  | x :: rest => if 48 ≤ x.toNat ∧ x.toNat ≤ 57 then digitSpan rest + 1 else 0

/-- Where the date ends and the separator stands. -/
def separatorPosition? (b : List UInt8) : Option Nat :=
  let n := b.length
  if n < 7 then none
  else if n = 7 then some 7
  else if isByte (byteAt b 4) '-' then
    if isByte (byteAt b 5) 'W' then
      if 8 < n ∧ isByte (byteAt b 8) '-' then
        if n = 9 then none
        else if 10 < n ∧ (digitAt? b 10).isSome then some 8 else some 10
      else some 8
    else some 10
  else if isByte (byteAt b 4) 'W' then
    let i := 7 + digitSpan (b.drop 7)
    if i < 9 then some i else if i % 2 = 0 then some 7 else some 8
  else some 8

/-- The day of a week date, which is the Monday when the date part ends before it. -/
def weekDay? (b : List UInt8) (dashed : Bool) (p stop : Nat) : Option Nat :=
  if p < stop then
    if dashed then (if isByte (byteAt b p) '-' then digitAt? b (p + 1) else none)
    else digitAt? b p
  else some 1

/-- The date in the first `stop` bytes. -/
def readDate? (b : List UInt8) (stop : Nat) : Option CivilDate := do
  let year ← numberAt? b 0 4
  let dashed := isByte (byteAt b 4) '-'
  let p := if dashed then 5 else 4
  if isByte (byteAt b p) 'W' then
    let week ← numberAt? b (p + 1) 2
    let day ← weekDay? b dashed (p + 3) stop
    CivilDate.ofWeek? year week day
  else
    let month ← numberAt? b p 2
    if dashed then
      if isByte (byteAt b 7) '-' then return ⟨year, month, ← numberAt? b 8 2⟩ else none
    else return ⟨year, month, ← numberAt? b 6 2⟩

/-- How the parts of a time ended: at the end of the time, or where its fraction begins. -/
inductive ClockEnd
  /-- The parts reach the end; `junk` tells whether a character stands there. -/
  | complete (junk : Bool)
  | fractionAt (position : Nat)

/-- Reads up to `parts` two-digit parts from `p`; the character after the first part decides whether
all parts are separated by colons. -/
def readParts? (b : List UInt8) (stop : Nat) :
    (parts : Nat) → (p : Nat) → (colons : Option Bool) → Option (List Nat × ClockEnd)
  | 0, p, _ => some ([], .fractionAt p)
  | parts + 1, p, colons => do
    let value ← numberAt? b p 2
    let next := byteAt b (p + 2)
    let colons := colons.getD (isByte next ':')
    if stop ≤ p + 3 then return ([value], .complete (next != 0))
    else if colons && isByte next ':' then
      let (values, ending) ← readParts? b stop parts (p + 3) (some colons)
      return (value :: values, ending)
    else if isByte next '.' || isByte next ',' then return ([value], .fractionAt (p + 3))
    else if colons then none
    else
      let (values, ending) ← readParts? b stop parts (p + 2) (some colons)
      return (value :: values, ending)

/-- Reads a fraction in front of `stop`: at most six digits count, further digits are skipped. -/
def readFraction? (b : List UInt8) (p stop : Nat) : Option (Nat × Bool) := do
  let count := min 6 (stop - p)
  let digits ← numberAt? b p count
  let after := p + count + digitSpan (b.drop (p + count))
  return (digits * Nat.pow 10 (6 - count), byteAt b after != 0)

/-- Reads a time from `p` in front of `stop`; the flag tells whether a character follows it. -/
def readClock? (b : List UInt8) (p stop : Nat) : Option (ClockTime × Bool) := do
  let (values, ending) ← readParts? b stop 3 p none
  let time (micros : Nat) : ClockTime :=
    ⟨values.getD 0 0, values.getD 1 0, values.getD 2 0, micros⟩
  match ending with
  | .complete junk => return (time 0, junk)
  | .fractionAt q =>
    let (micros, junk) ← readFraction? b q stop
    return (time micros, junk)

/-- The length in bytes of the character that begins with a byte. -/
def characterLength (first : UInt8) : Nat :=
  if first < 0x80 then 1 else if first < 0xE0 then 2 else if first < 0xF0 then 3 else 4

/-- The position of the sign that begins the offset, or the end. -/
def offsetPosition (b : List UInt8) (start : Nat) : Nat :=
  start + ((b.drop start).takeWhile fun x => !(isByte x '+' || isByte x '-')).length

/-- Reads the offset whose sign stands at a position, up to the end of the text.  An offset shorter
than a second is universal time. -/
def readOffset? (b : List UInt8) (p : Nat) : Option Int := do
  let (time, junk) ← readClock? b (p + 1) b.length
  if junk then none
  else if microsPerDay ≤ time.micros then none
  else if time.micros < 1000000 then return 0
  else return if isByte (byteAt b p) '-' then -(time.micros : Int) else time.micros

/-- Reads the bytes of a timestamp. -/
def readIsoBytes? (b : List UInt8) : Option Timestamp := do
  let separator ← separatorPosition? b
  let date ← readDate? b separator
  if separator < b.length then
    let start := separator + characterLength (byteAt b separator)
    let sign := offsetPosition b start
    let (time, junk) ← readClock? b start sign
    if sign < b.length then
      Timestamp.make? date time (some (← readOffset? b sign))
    else if junk then none
    else Timestamp.make? date time none
  else Timestamp.make? date ⟨0, 0, 0, 0⟩ none

/-- Reads a timestamp in any of the supported ISO 8601 forms. -/
def readIso? (text : String) : Option Timestamp := readIsoBytes? text.toUTF8.toList

/-- The positions where a separator can stand. -/
def separatorPlaces : List Nat := [7, 8, 10]

/-- The text of code points in which the first half of a pair that stands for a separator has become
a `T`, if no other half is left. -/
def mendSeparator? (codes : List Nat) : Option String :=
  let mended := match separatorPlaces.find? fun i => (codes[i]?).any Text.isHalfUnit with
    | some i => codes.set i 'T'.toNat
    | none => codes
  if mended.any Text.isHalfUnit then none else some (String.ofList (mended.map Char.ofNat))

/-- Reads the code points of a timestamp, of which one may be half of a pair. -/
def readIsoCodes? (codes : List Nat) : Option Timestamp := (mendSeparator? codes).bind readIso?

end UsageLedger.Calendar
