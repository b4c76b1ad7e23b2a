/-
Checks on the fields of submitted records.

These checks stand between a record and the store: whom it is about, which key it was
reported with, when it happened, and whether its numbers fit the columns.  Each refuses
with a `Failure` of its own.  `parseTimestamp` has one outcome besides: a time whose
instant falls outside years 1 to 9999 is a fault of the calendar and no refusal.
-/
import UsageLedger.Calendar.Iso
import UsageLedger.Failure
import UsageLedger.Schema.Validated

namespace UsageLedger.Intake

/-- The name of the field that identifies the user of a record. -/
def userKey : String := "userId"

/-- The name of the field that tells when a record was reported. -/
def timestampKey : String := "reported_timestamp"

/-- The name of the field that holds the payload of a record. -/
def dataKey : String := "data"

/-- The value is null, or a text of blanks only. -/
def saysNothing : Value → Bool
  | .null => true
  | .text s => Text.allBlank s
  | _ => false

/-- The user of a record. -/
def requireUser (scheme : IdScheme) (record : Record) (label : String) : Except Failure UserId :=
  let raw := record.get userKey
  if saysNothing raw then .error (.missingUser label)
  else (UserId.parse scheme raw).mapError fun defect => .invalidUser label defect

/-- The scheme that a value names among those that are looked up. -/
def schemeNamed (configured : IdScheme) (name : Value) : Except Fault IdScheme := do
  if name.isPresent then Fault.checkKey name
  (IdScheme.ofValue configured name).mapError fun defect => .badValue defect.message

/-- Reads the identifier of a user in the scheme that a value names. -/
def parseUser (configured : IdScheme) (schemeName value : Value) : Except Fault UserId := do
  let scheme ← schemeNamed configured schemeName
  (UserId.parse scheme value).mapError fun defect => .badValue defect.message

/-- The identifier of a user, or nothing when the value or the name of the scheme is a bad one. -/
def parseUser? (configured : IdScheme) (schemeName value : Value) :
    Except Fault (Option UserId) :=
  match parseUser configured schemeName value with
  | .ok user => .ok (some user)
  | .error (.badValue _) => .ok none
  | .error fault => .error fault

/-! ### Numbers -/

/-- The least number of a 64-bit column. -/
def int64Min : Int := -9223372036854775808

/-- The greatest number of a 64-bit column. -/
def int64Max : Int := 9223372036854775807

/-- The number fits a 64-bit column. -/
def fitsInt64 (n : Int) : Bool := int64Min ≤ n && n ≤ int64Max

/-- The number lies between the bounds of a 64-bit column, compared exactly.  An undefined double
lies nowhere, while an undefined decimal and anything that is no number cannot be compared. -/
def withinInt64 (v : Value) : Except Fault Bool :=
  match v with
  | .bool _ => .ok true
  | .int n => .ok (fitsInt64 n)
  | .float x => .ok (x.isGe int64Min && x.isLe int64Max)
  | .decimal d =>
    match d.compare? (.ofInt int64Min), d.compare? (.ofInt int64Max) with
    | some low, some high => .ok (low.isGE && high.isLE)
    | _, _ => .error .undefinedOrder
  | v => .error (.badType ("'<=' not supported between instances of 'int' and '" ++
      v.qualifiedKindName ++ "'"))

/-- Refuses a number that a 64-bit column cannot hold. -/
def requireInt64 (value : Value) (field label : String) : Except Raised Unit := do
  if ← (withinInt64 value).mapError .fault then return ()
  (Fault.checkLength value).mapError .fault
  Raised.refuse (.outOfRange field label value)

/-! ### Keys -/

/-- The key that a value names; null stands for none. -/
def readApiKeyId : Value → Except Failure (Option Uuid)
  | .null => .ok none
  | .uuid u => .ok (some u)
  | v =>
    match Uuid.read? v.plain with
    | some u => .ok (some u)
    | none => .error (.invalidApiKeyId v)

/-- The key that a record was reported with.  The refusal shows the value that names none, and only
what is not nested too deeply can be shown. -/
def parseApiKeyId (depth : Nat) (v : Value) : Except Raised (Option Uuid) :=
  (readApiKeyId v).mapError (Failure.told depth)

/-! ### Timestamps -/

/-- A text with every `Z` replaced by the offset it stands for. -/
def spellOutZulu (text : List Char) : List Char :=
  text.flatMap fun c => if c = 'Z' then ['+', '0', '0', ':', '0', '0'] else [c]

/-- The text of a timestamp as the reader takes it: without blanks around it, and with `Z` spelt
out. -/
def timestampText (s : String) : String :=
  String.ofList (spellOutZulu (Text.trim Text.isBlank s.toList))

/-- The code point is blank. -/
def isBlankCode (n : Nat) : Bool := !Text.isHalfUnit n && Text.isBlank (Char.ofNat n)

/-- The code points of a timestamp that is no run of characters, as the reader takes them. -/
def timestampCodes (t : BrokenText) : List Nat :=
  (Text.trim isBlankCode t.codes).flatMap fun n =>
    if n = 'Z'.toNat then "+00:00".toList.map Char.toNat else [n]

/-- A timestamp in universal time. -/
def normalize (t : Timestamp) : Except Raised Timestamp :=
  match t.toUniversal? with
  | some u => .ok u
  | none => .error (.fault (.overflow "date value out of range"))

/-- Reads the time of a record as universal time. -/
def parseTimestamp : Value → Except Raised Timestamp
  | .text s =>
    if Text.allBlank s then Raised.refuse .emptyTimestamp
    else match Calendar.readIso? (timestampText s) with
      | some t => normalize t
      | none => Raised.refuse (.unreadableTimestamp s)
  | .brokenText t =>
    match Calendar.readIsoCodes? (timestampCodes t) with
    | some u => normalize u
    | none => Raised.refuse (.unreadableTimestamp (.broken t))
  | .timestamp t => normalize t
  | v => Raised.refuse (.notTimestamp v.kindName)

/-- The time of a record in the form in which it is stored. -/
def canonicalTimestamp (v : Value) : Except Raised String :=
  (parseTimestamp v).map Timestamp.canonicalText

/-! ### Payloads -/

/-- The payload of a record, read by its schema. -/
def parsePayload {α : Type} (check : Value → Validated α) (record : Record) (label : String) :
    Except Failure α :=
  let data := record.get dataKey
  if data.isNull then .error (.missingData label)
  else (check data).toExcept.mapError fun violations => .malformedData label violations

end UsageLedger.Intake
