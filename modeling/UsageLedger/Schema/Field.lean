/-
Reading the fields of submitted records.

A field has a name and another name on the wire, and may be given under either; when both
are given the one on the wire counts and the other is a field that nobody asked for.  A
violation names the spelling that was found, and a missing field is named as on the wire.

The readers below turn one value into a whole number, a text, a choice or a timestamp.
Byte strings count as the texts they encode.
-/
import UsageLedger.Schema.Numeral
import UsageLedger.Schema.Validated
import UsageLedger.Text.Utf8

namespace UsageLedger.Schema

/-- The name of a field and the one under which it travels. -/
structure FieldName where
  name : String
  wire : String
  deriving DecidableEq, Repr

/-- The spelling under which a field is given, and its value. -/
def FieldName.find? (field : FieldName) (r : Record) : Option (String × Value) :=
  match r.get? field.wire with
  | some v => some (field.wire, v)
  | none => (r.get? field.name).map fun v => (field.name, v)

/-- A single violation. -/
def violation (defect : SchemaDefect) (path : List PathStep) (input : Value) : List Violation :=
  [⟨defect, path, input⟩]

/-- A check of one value, as a field of a record. -/
def atField {α : Type} (spelling : String) (read : Value → Except SchemaDefect α) (v : Value) :
    Validated α :=
  match read v with
  | .ok a => .valid a
  | .error defect => .invalid (violation defect [.field spelling] v)

/-- A field that has to be there. -/
def required {α : Type} (field : FieldName) (read : Value → Except SchemaDefect α) (r : Record) :
    Validated α :=
  match field.find? r with
  | some (spelling, v) => atField spelling read v
  | none => .invalid (violation .missing [.field field.wire] (.record r))

/-- A field that has to be there and is checked by a schema of its own. -/
def requiredShape {α : Type} (field : FieldName) (check : Value → Validated α) (r : Record) :
    Validated α :=
  match field.find? r with
  | some (spelling, v) => (check v).under [.field spelling]
  | none => .invalid (violation .missing [.field field.wire] (.record r))

/-- A field that has a default. -/
def defaulted {α : Type} (field : FieldName) (default : α) (read : Value → Except SchemaDefect α)
    (r : Record) : Validated α :=
  match field.find? r with
  | some (spelling, v) => atField spelling read v
  | none => .valid default

/-- The spellings under which fields are given. -/
def spellings (fields : List FieldName) (r : Record) : List String :=
  fields.filterMap fun field => (field.find? r).map (·.1)

/-- One violation for each field that nobody asked for, in the order given. -/
def unknownFields (fields : List FieldName) (r : Record) : List Violation :=
  (r.filter fun given => !(spellings fields r).contains given.1).map fun given =>
    ⟨.unknownField, [.field given.1], given.2⟩

/-- A record of a named shape without unknown fields. -/
def shape {α : Type} (name : String) (fields : List FieldName) (build : Record → Validated α) :
    Value → Validated α
  | .record r => (build r).also (unknownFields fields r)
  | v => .invalid (violation (.notShape name) [] v)

/-! ### Readers -/

/-- Reads a double as a whole number. -/
def readIntegerFloat (x : Binary64) : Except SchemaDefect Int :=
  match x.toRat? with
  | none => .error .infiniteNumber
  | some r =>
    if r.den ≠ 1 then .error .fractionalNumber
    else if -9223372036854775808 < r.num ∧ r.num < 9223372036854775808 then .ok r.num
    else .error .hugeInteger

/-- Reads an exact decimal as a whole number. -/
def readIntegerDecimal (d : Decimal) : Except SchemaDefect Int :=
  if !d.isFinite then .error .infiniteNumber
  else match d.toInt? with
    | some n => .ok n
    | none => .error .fractionalNumber

/-- Reads a whole number.  Truth values are not numbers here. -/
def readInteger : Value → Except SchemaDefect Int
  | .bool _ => .error (.refused "boolean is not a valid amount")
  | .int n => .ok n
  | .float x => readIntegerFloat x
  | .decimal d => readIntegerDecimal d
  | .text s => readIntegerText s
  | .bytes b =>
    match Text.readUtf8? b with
    | some s => readIntegerText s
    | none => .error .unreadableInteger
  | .brokenText _ => .error .notUnicode
  | _ => .error .notInteger

/-- Reads a text, which need be no run of characters. -/
def readText : Value → Except SchemaDefect AnyText
  | .text s => .ok s
  | .brokenText t => .ok (.broken t)
  | .bytes b =>
    match Text.readUtf8? b with
    | some s => .ok s
    | none => .error .notUnicode
  | _ => .error .notText

/-- Reads a run of characters. -/
def readCharacters (v : Value) : Except SchemaDefect String := do
  match ← readText v with
  | .whole s => return s
  | .broken _ => throw .notUnicode

/-- Reads a run of characters with limits on their number. -/
def readTextWithin (least most : Nat) (v : Value) : Except SchemaDefect String := do
  let s ← readCharacters v
  if s.length < least then .error (.tooShort least)
  else if most < s.length then .error (.tooLong most)
  else return s

/-- Reads one of several texts that stand for something. -/
def readChoice {α : Type} (choices : List (String × α)) (wording : String) (v : Value) :
    Except SchemaDefect α :=
  match readCharacters v with
  | .ok s =>
    match choices.lookup s with
    | some a => .ok a
    | none => .error (.notChoice wording)
  | .error _ => .error (.notChoice wording)

/-- A reading of a timestamp, as the reading of a field. -/
def timestampReading : Except Calendar.TimestampDefect Timestamp → Except SchemaDefect Timestamp :=
  Except.mapError .badTimestamp

/-- Reads a timestamp: as it is, from a text, or from a Unix time.  A number that no double is
near to is no Unix time, nor is an undefined one that signals. -/
def readTimestamp : Value → Except SchemaDefect Timestamp
  | .timestamp t => .ok t
  | .text s => timestampReading (Calendar.readRfc3339 s)
  | .bytes b => timestampReading (Calendar.readRfc3339Bytes b)
  | .int n =>
    if (Binary64.ofInt? n).isSome then timestampReading (Calendar.ofUnixTime n)
    else .error .notTimestamp
  | .float x => timestampReading (Calendar.ofUnixFloat x)
  | .decimal (.nan _ true _) => .error .notTimestamp
  | .decimal d => timestampReading (Calendar.ofUnixFloat (Binary64.ofDecimal d))
  | .brokenText _ => .error .notUnicode
  | _ => .error .notTimestamp

/-- Reads a null. -/
def readNull : Value → Except SchemaDefect Unit
  | .null => .ok ()
  | _ => .error .notNull

end UsageLedger.Schema
