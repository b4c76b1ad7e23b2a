/-
Refusals of the ledger.

Every refusal is one of the cases of `Failure`, which says what was wrong and holds
what is needed to word it.  Refusals fall into sixteen kinds; callers decide by the
kind, which also fixes the status of an answer and the wording around the particular
subject.  A refusal that was brought about by something else names it as its cause.
-/
import UsageLedger.Event.Kind
import UsageLedger.Fault

namespace UsageLedger

/-- The kinds of refusals. -/
inductive FailureKind
  | connectionFailed
  | transactionFailed
  | insertFailed
  | queryFailed
  | constraintViolation
  | dataNotFound
  | invalidData
  | serializationFailed
  | unknownEventType
  | missingApiKeyId
  | invalidTimestamp
  | userInsertFailed
  | eventInsertFailed
  | priceCalculationFailed
  | emptyResult
  | unknown
  deriving DecidableEq, Repr

namespace FailureKind

/-- All kinds, in the order of their declaration. -/
def all : List FailureKind :=
  [connectionFailed, transactionFailed, insertFailed, queryFailed, constraintViolation,
    dataNotFound, invalidData, serializationFailed, unknownEventType, missingApiKeyId,
    invalidTimestamp, userInsertFailed, eventInsertFailed, priceCalculationFailed, emptyResult,
    unknown]

/-- The name of a kind. -/
def name : FailureKind → String
  | connectionFailed => "CONNECTION_FAILED"
  | transactionFailed => "TRANSACTION_FAILED"
  | insertFailed => "INSERT_FAILED"
  | queryFailed => "QUERY_FAILED"
  | constraintViolation => "CONSTRAINT_VIOLATION"
  | dataNotFound => "DATA_NOT_FOUND"
  | invalidData => "INVALID_DATA"
  | serializationFailed => "SERIALIZATION_FAILED"
  | unknownEventType => "UNKNOWN_EVENT_TYPE"
  | missingApiKeyId => "MISSING_API_KEY_ID"
  | invalidTimestamp => "INVALID_TIMESTAMP"
  | userInsertFailed => "USER_INSERT_FAILED"
  | eventInsertFailed => "EVENT_INSERT_FAILED"
  | priceCalculationFailed => "PRICE_CALCULATION_FAILED"
  | emptyResult => "EMPTY_RESULT"
  | unknown => "UNKNOWN"

/-- The status of an answer that tells a refusal: the caller's mistakes are in the four hundreds. -/
def status : FailureKind → Nat
  | invalidData | invalidTimestamp | unknownEventType | missingApiKeyId => 400
  | constraintViolation => 409
  | dataNotFound | emptyResult => 404
  | _ => 500

/-- The wording of a refusal with and without a subject. -/
def message (kind : FailureKind) (subject : Option String) : String :=
  match kind, subject with
  | connectionFailed, none => "Storage connection failed"
  | connectionFailed, some s => "Storage connection failed: " ++ s
  | transactionFailed, none => "Storage transaction failed"
  | transactionFailed, some s => "Storage transaction failed: " ++ s
  | insertFailed, none => "Failed to insert data into storage"
  | insertFailed, some s => "Failed to insert data into storage: " ++ s
  | queryFailed, none => "Storage query failed"
  | queryFailed, some s => "Storage query failed: " ++ s
  | constraintViolation, none => "Database constraint violation"
  | constraintViolation, some s => "Database constraint violation: " ++ s
  | dataNotFound, none => "Data not found in storage"
  | dataNotFound, some s => s ++ " not found in storage"
  | invalidData, none => "Invalid data for storage operation"
  | invalidData, some s => "Invalid data for storage operation: " ++ s
  | serializationFailed, none => "Failed to serialize data for storage"
  | serializationFailed, some s => "Failed to serialize data for storage: " ++ s
  | unknownEventType, s => "No storage logic implemented for event type: " ++ s.getD ""
  | missingApiKeyId, _ => "API key ID is required for event storage"
  | invalidTimestamp, none => "Invalid or missing timestamp"
  | invalidTimestamp, some s => "Invalid timestamp: " ++ s
  | userInsertFailed, none => "Failed to insert user"
  | userInsertFailed, some s => "Failed to insert user with ID: " ++ s
  | eventInsertFailed, none => "Failed to insert event"
  | eventInsertFailed, some s => "Failed to insert event: " ++ s
  | priceCalculationFailed, none => "Failed to calculate price"
  | priceCalculationFailed, some s => "Failed to calculate price for user: " ++ s
  | emptyResult, none => "Query returned empty result"
  | emptyResult, some s => "Query returned empty result for: " ++ s
  | unknown, _ => "An unknown storage error occurred"

end FailureKind

/-- A refusal.  Labels are names of event kinds as the caller gives them. -/
inductive Failure
  /-- A refusal made elsewhere; a subject that says nothing is left out of the wording. -/
  | reported (kind : FailureKind) (subject : Value) (cause : Option Fault)
  /- The envelope and its record -/
  | notEnvelope (valueKind : String)
  | missingRecord
  | notMapping (valueKind : String)
  | unflattenable (kind : AnyText) (cause : Fault)
  | unknownEventType (kind : Value) (cause : Option Fault)
  | missingApiKey
  | notBatchable (kind : EventKind)
  /- The fields of a record -/
  | missingUser (label : String)
  | invalidUser (label : String) (defect : UserIdDefect)
  | invalidApiKeyId (value : Value)
  | missingData (label : String)
  | malformedData (label : String) (violations : List Violation)
  | malformedUsage (user : UserId) (violations : List Violation)
  | outOfRange (field label : String) (value : Value)
  | creditNotNumber (valueKind : String)
  | creditNotFinite (value : Value)
  | creditNotPositive (value : Value)
  | negativeCounter (field : String) (user : UserId) (value : Int)
  | blankKeyName
  | blankKeyDigest
  /- Timestamps -/
  | emptyTimestamp
  | unreadableTimestamp (text : AnyText)
  | notTimestamp (valueKind : String)
  /- Writing -/
  | userInsert (users : List Value) (cause : Fault)
  | eventRejected (report : DriverReport)
  | eventInsert (rows : Nat) (cause : Fault)
  | eventWithoutId
  | idCountMismatch (expected found : Nat)
  | detailRejected (table : String) (report : DriverReport)
  | detailInsert (rows : Nat) (table : String) (cause : Fault)
  | keyRejected (name : Value) (report : DriverReport)
  | keyInsert (name : Value) (cause : Fault)
  | keyWithoutId
  | transaction (description : String) (cause : Fault)
  /- Pricing -/
  | query (label : String) (user : UserId) (cause : Fault)
  /-- The user is told unless it says nothing. -/
  | price (user : Value) (cause : Fault)
  deriving Repr

namespace Failure

/-- The kind of a refusal. -/
def kind : Failure → FailureKind
  | reported kind .. => kind
  | notEnvelope _ | missingRecord | notMapping _ | unflattenable .. => .serializationFailed
  | unknownEventType .. => .unknownEventType
  | missingApiKey => .missingApiKeyId
  | notBatchable _ | missingUser _ | invalidUser .. | invalidApiKeyId _ | missingData _
  | malformedData .. | malformedUsage .. | outOfRange .. | creditNotNumber _ | creditNotFinite _
  | creditNotPositive _ | negativeCounter .. | blankKeyName | blankKeyDigest => .invalidData
  | emptyTimestamp | unreadableTimestamp _ | notTimestamp _ => .invalidTimestamp
  | userInsert .. => .userInsertFailed
  | eventRejected _ | detailRejected .. | keyRejected .. => .constraintViolation
  | eventInsert .. => .eventInsertFailed
  | eventWithoutId | keyWithoutId => .emptyResult
  | idCountMismatch .. | detailInsert .. | keyInsert .. => .insertFailed
  | transaction .. => .transactionFailed
  | query .. => .queryFailed
  | price .. => .priceCalculationFailed

/-- What brought a refusal about, when something other than the input did or when a reader of the
input says more. -/
def cause? : Failure → Option Fault
  | reported _ _ cause => cause
  | unflattenable _ cause => some cause
  | unknownEventType _ cause => cause
  | invalidUser _ defect => some (.badValue defect.message)
  | invalidApiKeyId _ => some (.badValue "badly formed hexadecimal UUID string")
  | malformedData _ violations | malformedUsage _ violations => some (.invalid violations)
  | unreadableTimestamp text => some (.badValue ("Invalid isoformat string: " ++ text.quoted))
  | userInsert _ cause | eventInsert _ cause | detailInsert _ _ cause | keyInsert _ cause
  | transaction _ cause | query _ _ cause | price _ cause => some cause
  | eventRejected report | detailRejected _ report | keyRejected _ report =>
    some (.database (.integrity report))
  | _ => none

/-- A number of things, and whether it is one or more is left open. -/
def countOf (n : Nat) (things : String) : String := Text.integer n ++ " " ++ things

/-- A value as a subject, unless it says nothing. -/
def tellingSubject (v : Value) : Option String := if v.isPresent then some v.plain else none

/-- The subject of a refusal. -/
def subject : Failure → Option String
  | reported .unknownEventType subject _ => some subject.plain
  | reported _ subject _ => tellingSubject subject
  | notEnvelope valueKind => some ("Expected a serialized event envelope, got " ++ valueKind)
  | missingRecord => some "Event serialization returned null or undefined"
  | notMapping valueKind => some ("SQL record must be a mapping, got " ++ valueKind)
  | unflattenable kind _ => some ("Could not flatten " ++ kind.plain ++ " event")
  | unknownEventType kind _ => some kind.plain
  | missingApiKey => none
  | notBatchable kind => some ("Only AI_TOKEN_USAGE events can be batched, got " ++ kind.name)
  | missingUser label => some ("Missing userId in " ++ label ++ " event")
  | invalidUser label defect => some ("Invalid userId in " ++ label ++ " event: " ++ defect.message)
  | invalidApiKeyId value => some ("Invalid apiKeyId: " ++ value.literal)
  | missingData label => some ("Missing data field in " ++ label ++ " event")
  | malformedData label _ => some ("Malformed " ++ label ++ " data: <validation errors>")
  | malformedUsage user _ => some ("Malformed AI_TOKEN_USAGE data for user " ++ user.text)
  | outOfRange field label value =>
    some (field ++ " out of 64-bit range in " ++ label ++ " event: " ++ value.plain)
  | creditNotNumber valueKind => some ("Invalid creditAmount: expected a number, got " ++ valueKind)
  | creditNotFinite value => some ("Invalid creditAmount: must be finite, got " ++ value.plain)
  | creditNotPositive value => some ("Invalid creditAmount: must be positive, got " ++ value.plain)
  | negativeCounter field user value =>
    some ("Negative " ++ field ++ " not allowed for AI token usage for user " ++ user.text ++
      ": " ++ Text.integer value)
  | blankKeyName => some "API key name cannot be empty"
  | blankKeyDigest => some "API key cannot be empty"
  | emptyTimestamp => some "Timestamp is empty"
  | unreadableTimestamp text => some ("Failed to parse reported_timestamp " ++ text.quoted)
  | notTimestamp valueKind => some ("Expected an ISO-8601 string or datetime, got " ++ valueKind)
  | userInsert users _ => tellingSubject (.text (Value.joinWith ", " (users.map Value.plain)))
  | eventRejected report => some ("event insert rejected: " ++ report.text)
  | eventInsert rows _ => some ("Failed to insert " ++ countOf rows "event row(s)")
  | eventWithoutId => some "Event insert returned no ID"
  | idCountMismatch expected found =>
    some ("Expected " ++ countOf expected "event IDs but got " ++ Text.integer found)
  | detailRejected table report => some (table ++ " insert rejected: " ++ report.text)
  | detailInsert rows table _ => some ("Failed to insert " ++ countOf rows (table ++ " row(s)"))
  | keyRejected name _ =>
    some ("API key with name '" ++ name.plain ++ "' or key value already exists")
  | keyInsert name _ => some ("Failed to insert API key '" ++ name.plain ++ "'")
  | keyWithoutId => some "API key insert returned no record"
  | transaction description _ => some ("Transaction failed while storing " ++ description)
  | query label user _ => some ("Failed to query " ++ label ++ " events for user " ++ user.text)
  | price user _ => tellingSubject user

/-- The name of the report of a kind. -/
def reportName (kind : FailureKind) : String :=
  "StorageError." ++ String.ofList (kind.name.toList.map Char.toLower) ++ "()"

/-- A refusal made elsewhere, from its kind, the details it is told with and its cause.  Refusals
of two kinds have no details: what stands in their place counts as the cause, and then there may
be no other cause, nor may it be anything but an error. -/
def report (kind : FailureKind) (details : Option Value) (cause : Option Fault) :
    Except Fault Failure :=
  match kind, details with
  | .missingApiKeyId, some v | .unknown, some v =>
    if cause.isSome then
      .error (.badType (reportName kind ++ " got multiple values for argument 'original_error'"))
    else if v.isNull then .ok (.reported kind .null none)
    else .error (.badType "exception cause must be None or derive from BaseException")
  | .unknownEventType, none =>
    .error (.badType
      (reportName kind ++ " missing 1 required positional argument: 'event_type'"))
  | _, _ => .ok (.reported kind (details.getD .null) cause)

/-- The wording of a refusal. -/
def message (f : Failure) : String := f.kind.message f.subject

/-- The status of an answer that tells a refusal. -/
def status (f : Failure) : Nat := f.kind.status

/-- A refusal as it is shown in a log. -/
def display (f : Failure) : String :=
  "StorageError(" ++ f.kind.name ++ ", " ++ Text.quoted f.message ++ ")"

/-- The kind of event that was not known, when that is the refusal. -/
def eventType? : Failure → Option Value
  | reported .unknownEventType subject _ => some subject
  | unknownEventType kind _ => some kind
  | _ => none

/-- What keeps a refusal from being worded: it shows a value that was submitted, and this can be too
long or nested too deeply to be written. -/
def unwritten? (depth : Nat) : Failure → Option Fault
  | unknownEventType v _ | invalidApiKeyId v => v.unwritten? depth
  | _ => none

end Failure

/-- What an operation ends with when it does not succeed. -/
inductive Raised
  | failure (f : Failure)
  | fault (f : Fault)
  deriving Repr

/-- A refusal once it is worded, or what is met instead. -/
def Failure.told (depth : Nat) (f : Failure) : Raised :=
  match f.unwritten? depth with
  | none => .failure f
  | some fault => .fault fault

namespace Raised

/-- A refusal as the outcome of an operation. -/
def refuse {α : Type} (f : Failure) : Except Raised α := .error (.failure f)

/-- A refusal or a value as the outcome of an operation. -/
def ofFailure {α : Type} : Except Failure α → Except Raised α :=
  Except.mapError .failure

end Raised

end UsageLedger
