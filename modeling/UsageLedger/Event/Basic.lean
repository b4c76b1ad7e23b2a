/-
Events.

An event has a kind, a time and what its kind carries.  `Event.ofValue` reads one from a
submitted record, collecting every violation, and `Event.envelope` writes one as the
record that the ledger takes, wrapped under the key of the store it is meant for.
Reading back what was written gives the same event.
-/
import UsageLedger.Event.Kind
import UsageLedger.Event.Payload

namespace UsageLedger

/-- What an event of each kind carries. -/
inductive EventBody
  | sdkCall (user : UserId) (data : SdkCallData)
  | payment (user : UserId) (data : PaymentData)
  | tokenUsage (user : UserId) (data : TokenUsageData)
  | addKey (data : KeyGrantData)
  | requestSdkCall (user : UserId)
  | requestTokenUsage (user : UserId)
  | requestPayment (user : UserId)
  deriving DecidableEq, Repr

/-- Something that happened, or a question about what is owed. -/
structure Event where
  reportedAt : Timestamp
  body : EventBody
  deriving DecidableEq, Repr

namespace EventBody

/-- The kind of an event. -/
def kind : EventBody → EventKind
  | sdkCall .. => .sdkCall
  | payment .. => .payment
  | tokenUsage .. => .tokenUsage
  | addKey _ => .addKey
  | requestSdkCall _ => .requestSdkCall
  | requestTokenUsage _ => .requestTokenUsage
  | requestPayment _ => .requestPayment

/-- The user an event names. -/
def user? : EventBody → Option UserId
  | sdkCall user _ | payment user _ | tokenUsage user _ => some user
  | requestSdkCall user | requestTokenUsage user | requestPayment user => some user
  | addKey _ => none

/-- The payload an event carries. -/
def payload? : EventBody → Option Payload
  | sdkCall _ data => some (.sdkCall data)
  | payment _ data => some (.payment data)
  | tokenUsage _ data => some (.tokenUsage data)
  | addKey data => some (.keyGrant data)
  | _ => none

end EventBody

namespace Event

/-- The key under which the record of an event is wrapped. -/
def envelopeKey : String := "SQL"

def typeKey : String := "type"
def timestampField : Schema.FieldName := ⟨"reported_timestamp", "reported_timestamp"⟩
def dataField : Schema.FieldName := ⟨"data", "data"⟩
def userField : Schema.FieldName := ⟨"user_id", "userId"⟩

/-- The kind of an event. -/
def kind (e : Event) : EventKind := e.body.kind

/-- The record of an event. -/
def record (e : Event) : Record :=
  [(typeKey, .text e.kind.name), (timestampField.wire, .timestamp e.reportedAt),
    (dataField.wire, match e.body.payload? with | some p => .record p.wire | none => .null)] ++
  (match e.body.user? with | some user => [(userField.wire, user.toValue)] | none => [])

/-- A record wrapped under the key of its store. -/
def wrap (r : Record) : Value := .record [(envelopeKey, .record r)]

/-- The record of an event, wrapped. -/
def envelope (e : Event) : Value := wrap e.record

/-- An event as a value.  Its class shows its fields in the order of their declaration. -/
def toValue (e : Event) : Value :=
  let data := match e.body.payload? with | some p => p.literal | none => Value.null.literal
  .object e.kind.className (e.body.payload?.map Payload.className)
    ([(typeKey, Text.quoted e.kind.name),
      (timestampField.name, Value.timestampLiteral e.reportedAt), (dataField.name, data)] ++
      (match e.body.user? with
        | some user => [(userField.name, user.toValue.literal)]
        | none => []))
    e.record

/-! ### Reading -/

open Schema

/-- Reads the user of an event. -/
def readUser (scheme : IdScheme) (v : Value) : Except SchemaDefect UserId :=
  (UserId.parse scheme v).mapError fun defect => .refused defect.message

/-- Reads an event with a payload and a user. -/
def readReport {α : Type} (scheme : IdScheme) (now : Timestamp) (check : Value → Validated α)
    (make : UserId → α → EventBody) (r : Record) : Validated Event :=
  (fun t data user => ⟨t, make user data⟩) <$> defaulted timestampField now readTimestamp r
    <*> requiredShape dataField check r <*> required userField (readUser scheme) r

/-- Reads an event with a user and nothing else. -/
def readRequest (scheme : IdScheme) (now : Timestamp) (make : UserId → EventBody) (r : Record) :
    Validated Event :=
  (fun t _ user => ⟨t, make user⟩) <$> defaulted timestampField now readTimestamp r
    <*> defaulted dataField () readNull r <*> required userField (readUser scheme) r

/-- Reads a key grant. -/
def readGrant (now : Timestamp) (r : Record) : Validated Event :=
  (fun t data => ⟨t, .addKey data⟩) <$> defaulted timestampField now readTimestamp r
    <*> requiredShape dataField KeyGrantData.ofValue r

/-- Reads an event of a known kind.  An event without a time was reported just now. -/
def ofRecord (scheme : IdScheme) (now : Timestamp) (kind : EventKind) (r : Record) :
    Validated Event :=
  match kind with
  | .sdkCall => readReport scheme now SdkCallData.ofValue .sdkCall r
  | .payment => readReport scheme now PaymentData.ofValue .payment r
  | .tokenUsage => readReport scheme now TokenUsageData.ofValue .tokenUsage r
  | .addKey => readGrant now r
  | .requestSdkCall => readRequest scheme now .requestSdkCall r
  | .requestTokenUsage => readRequest scheme now .requestTokenUsage r
  | .requestPayment => readRequest scheme now .requestPayment r

/-- The kind that a value names. -/
def kindOf? : Value → Option EventKind
  | .text s => EventKind.ofName? s
  | _ => none

/-- Reads an event.  Every violation of an event of a known kind is told under the name of the
kind.  An event that was built before is read as the record that it is written as. -/
def ofValue (scheme : IdScheme) (now : Timestamp) (payload : Value) : Validated Event :=
  match payload with
  | .record r =>
    match Record.get? r typeKey with
    | none => .invalid (violation .kindMissing [] payload)
    | some given =>
      match kindOf? given with
      | none => .invalid (violation (.kindUnknown given) [] payload)
      | some kind => (ofRecord scheme now kind r).under [.field kind.name]
  | .object _ _ _ wire =>
    match (Record.get? wire typeKey).bind kindOf? with
    | some kind => (ofRecord scheme now kind wire).under [.field kind.name]
    | none => .invalid (violation .kindMissing [] payload)
  | .decimal _ | .uuid _ => .invalid (violation .kindMissing [] payload)
  | _ => .invalid (violation .notObject [] payload)

end Event

end UsageLedger
