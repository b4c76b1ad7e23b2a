/-
How much is logged.

A level is named in any case, and two levels have a second name.  Setting up the log
attaches a handler the first time and only changes the level after that; an unknown name
changes nothing.
-/
import UsageLedger.Text.Uppercase
import UsageLedger.Value.Shape

namespace UsageLedger

/-- From where on something is logged. -/
inductive LogLevel
  | critical
  | error
  | warning
  | info
  | debug
  /-- No level of its own. -/
  | notSet
  deriving DecidableEq, Repr

namespace LogLevel

/-- The name of a level. -/
def name : LogLevel → String
  | critical => "CRITICAL"
  | error => "ERROR"
  | warning => "WARNING"
  | info => "INFO"
  | debug => "DEBUG"
  | notSet => "NOTSET"

/-- All levels, from the highest on. -/
def all : List LogLevel := [critical, error, warning, info, debug, notSet]

/-- The names that levels have besides their own. -/
def otherNames : List (String × LogLevel) := [("FATAL", critical), ("WARN", warning)]

/-- The level with a name. -/
def ofName? (name : String) : Option LogLevel :=
  (all.find? (·.name = name)).or (otherNames.lookup name)

end LogLevel

/-- The log of a process. -/
structure Log where
  level : LogLevel
  /-- A handler is attached. -/
  attached : Bool
  deriving DecidableEq, Repr

namespace Log

/-- The form of a line. -/
def lineFormat : String := "%(asctime)s %(levelname)s [%(name)s] %(message)s"

/-- A log that was never set up. -/
def fresh : Log := ⟨.notSet, false⟩

/-- An ASCII letter as a capital, any other byte as it is. -/
def upperByte (b : UInt8) : UInt8 := if 0x61 ≤ b ∧ b ≤ 0x7A then b - 0x20 else b

/-- A code point as capitals; half of a pair has none. -/
def upperCode (n : Nat) : List Nat :=
  if Text.isHalfUnit n then [n]
  else (Text.upper (String.singleton (Char.ofNat n))).toList.map Char.toNat

/-- Sets up the log with the level of a name.  Bytes have capitals as texts do, but are no name. -/
def configure (_ : Log) (level : Value) : Except Fault Log := do
  if let .bytes b := level then
    throw (.badType ("Level not an integer or a valid string: " ++
      Text.quotedBytes (b.map upperByte)))
  if let .brokenText t := level then
    throw (.badValue ("Unknown level: " ++ Text.quotedCodes (t.codes.flatMap upperCode)))
  let name := Text.upper (← level.asText "upper")
  match LogLevel.ofName? name with
  | some level => return ⟨level, true⟩
  | none => throw (.badValue ("Unknown level: " ++ Text.quoted name))

end Log

end UsageLedger
