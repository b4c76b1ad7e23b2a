/-
What requests carry.

The body of a request and its query are compared with a schema before anything is done.
`buildEvent` reads a reported event; it tells an unknown kind of event as the ledger does,
and refuses to grant keys, which have a route of their own.
-/
import UsageLedger.Event.Basic
import UsageLedger.Http.Problem
import UsageLedger.Http.Target

namespace UsageLedger.Http

open Schema

/-! ### Bodies -/

/-- Violations of the body's schema. -/
def inBody {α : Type} (checked : Validated α) : Except Problem α :=
  ((checked.under [.field "body"]).toExcept).mapError .invalidRequest

/-- A body that has to be there. -/
def requireBody (body : Option Value) : Except Problem Value :=
  match body with
  | some v => .ok v
  | none => inBody (.invalid (violation .missing [] .null))

/-- A value that has to be a record. -/
def asRecord : Value → Validated Record
  | .record r => .valid r
  | v => .invalid (violation .notRecord [] v)

/-- Items that have to be records, counted from a number on. -/
def asRecords (start : Nat) : List Value → Validated (List Record)
  | [] => .valid []
  | v :: rest => List.cons <$> (asRecord v).under [.index start] <*> asRecords (start + 1) rest

/-- A value that has to be a list of records. -/
def asRecordList : Value → Validated (List Record)
  | .list vs => asRecords 0 vs
  | v => .invalid (violation .notList [] v)

/-- The key that is asked for. -/
structure KeyRequest where
  name : String
  expiresAt : Timestamp
  deriving DecidableEq, Repr

/-- Reads what key is asked for. -/
def KeyRequest.ofValue : Value → Validated KeyRequest
  | .record r =>
    KeyRequest.mk <$> required ⟨"name", "name"⟩ (readTextWithin 1 255) r
      <*> required ⟨"expires_at", "expires_at"⟩ readTimestamp r
  | v => .invalid (violation .notObject [] v)

/-! ### Queries -/

/-- What part of a user's debt is asked for. -/
inductive PriceKind
  | sdkCall
  | tokenUsage
  | total
  deriving DecidableEq, Repr

namespace PriceKind

/-- The name of a part. -/
def name : PriceKind → String
  | sdkCall => "sdk_call"
  | tokenUsage => "ai_token_usage"
  | total => "total"

/-- The names, as an unknown one is told them. -/
def known : String := "'sdk_call', 'ai_token_usage' or 'total'"

/-- The event that asks for a part. -/
def event (kind : PriceKind) (user : UserId) : EventBody :=
  match kind with
  | sdkCall => .requestSdkCall user
  | tokenUsage => .requestTokenUsage user
  | total => .requestPayment user

/-- Reads the part from a query; everything is asked for unless a part is named. -/
def ofTarget (target : Target) : Except Problem PriceKind :=
  match target.lastValue? "kind" with
  | none => .ok total
  | some given =>
    match [sdkCall, tokenUsage, total].find? (·.name = given) with
    | some kind => .ok kind
    | none => .error (.invalidRequest
        (violation (.notChoice known) [.field "query", .field "kind"] (.text given)))

end PriceKind

/-! ### Events -/

/-- What is answered to a kind of event that is not known.  One that is no run of characters cannot
be told, nor can one that is nested too deeply. -/
def unknownKind (depth : Nat) : Value → Problem
  | .brokenText _ => .crashed
  | given => .ofRaised ((Failure.unknownEventType given none).told depth)

/-- Reads an event that is reported.  Keys are not granted by reporting it. -/
def buildEvent (scheme : IdScheme) (depth : Nat) (now : Timestamp) (payload : Value) :
    Except Problem Event :=
  match payload with
  | .record r =>
    let given := Record.get r Event.typeKey
    match Event.kindOf? given with
    | none => .error (unknownKind depth given)
    | some .addKey => .error .keyGrantElsewhere
    | some _ => ((Event.ofValue scheme now payload).toExcept).mapError .invalidEvent
  | _ => .error .notEvent

end UsageLedger.Http
