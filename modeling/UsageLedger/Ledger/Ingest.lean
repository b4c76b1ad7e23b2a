/-
Writing events.

Each mutating kind has one handler, and all have the same shape: check the record, then
open one transaction, make sure that the user exists, bring the time into its stored
form, add the event, and add its particulars under the same identifier.  Nothing is
written unless all of it is.  A fault inside the transaction becomes a failure that names
it as its cause.
-/
import UsageLedger.Intake.Envelope
import UsageLedger.Intake.Usage
import UsageLedger.Store.Repository

namespace UsageLedger.Ingest

open Txn Repository Intake

/-- Tells the fault of a transaction as a failure. -/
def explain (description : String) : Raised → Raised
  | .fault fault => .failure (.transaction description fault)
  | e => e

/-- Runs a transaction whose faults are told as failures. -/
def writeTransaction {α : Type} (c : Conditions) (description : String) (body : Txn α)
    (t : Tables) : Except Raised α × Tables :=
  let (outcome, t) := Txn.run c body t
  (outcome.mapError (explain description), t)

/-- An outcome before any transaction, with the tables as they are. -/
def checked {α β : Type} (check : Except Raised α) (t : Tables)
    (next : α → Except Raised β × Tables) : Except Raised β × Tables :=
  match check with
  | .ok a => next a
  | .error e => (.error e, t)

/-! ### One event -/

/-- The transaction that stores one event with its particulars. -/
def storeEvent (c : Conditions) (user : UserId) (record : Record) (key : Option Uuid)
    (table : Table) (values : Record) : Txn Uuid := do
  ensureUser c user.toValue
  let reportedTimestamp ← Txn.ofExcept (canonicalTimestamp (record.get timestampKey))
  let id ← insertEvent c (userEventRow reportedTimestamp user key)
  insertDetail c table (.uuid id) values
  return id

/-- Stores one event that was checked. -/
def storeSingle (c : Conditions) (kind : EventKind) (user : UserId) (record : Record)
    (apiKey : Value) (table : Table) (values : Record) (t : Tables) :
    Except Raised Uuid × Tables :=
  checked (parseApiKeyId c.depth apiKey) t fun key =>
    writeTransaction c (kind.name ++ " event") (storeEvent c user record key table values) t

/-! ### SDK calls -/

/-- The row of an SDK call. -/
def sdkCallValues (data : SdkCallData) : Record :=
  [("type", .text data.callType.name), ("debit_amount", .int data.debitAmount)]

/-- Checks the record of an SDK call. -/
def checkSdkCall (scheme : IdScheme) (record : Record) : Except Raised (UserId × SdkCallData) := do
  let user ← Raised.ofFailure (requireUser scheme record EventKind.sdkCall.name)
  let data ← Raised.ofFailure (parsePayload SdkCallData.ofValue record EventKind.sdkCall.name)
  requireInt64 (.int data.debitAmount) "debitAmount" EventKind.sdkCall.name
  return (user, data)

/-- Stores an SDK call. -/
def addSdkCall (c : Conditions) (record : Record) (apiKey : Value) (t : Tables) :
    Except Raised Uuid × Tables :=
  checked (checkSdkCall c.scheme record) t fun (user, data) =>
    storeSingle c .sdkCall user record apiKey .sdkCalls (sdkCallValues data) t

/-! ### Payments -/

/-- The row of a payment. -/
def paymentValues (data : PaymentData) : Record := [("credit_amount", .int data.creditAmount)]

/-- The amount of a payment as it is submitted. -/
def submittedCredit (record : Record) : Value :=
  match record.get dataKey with
  | .record r => Record.get r "creditAmount"
  | _ => .null

/-- A number that no double comes near has no place among the amounts. -/
def checkCreditSize (amount : Value) : Except Raised Unit :=
  match amount with
  | .int n =>
    match Binary64.ofInt? n with
    | some _ => .ok ()
    | none => .error (.fault (.overflow "int too large to convert to float"))
  | .float x => if x.isFinite then .ok () else Raised.refuse (.creditNotFinite amount)
  | v => Raised.refuse (.creditNotNumber v.kindName)

/-- The amount is above zero. -/
def isPositive : Value → Bool
  | .int n => 0 < n
  | .float x => x.isGe 0 && !x.isZero
  | _ => false

/-- Checks the amount of a payment as it is submitted: a finite number above zero that fits its
column. -/
def checkCredit (record : Record) : Except Raised Unit := do
  let amount := submittedCredit record
  checkCreditSize amount
  if !isPositive amount then Raised.refuse (.creditNotPositive amount)
  requireInt64 amount "creditAmount" EventKind.payment.name

/-- Checks the record of a payment. -/
def checkPayment (scheme : IdScheme) (record : Record) : Except Raised (UserId × PaymentData) := do
  let user ← Raised.ofFailure (requireUser scheme record EventKind.payment.name)
  checkCredit record
  let data ← Raised.ofFailure (parsePayload PaymentData.ofValue record EventKind.payment.name)
  return (user, data)

/-- Stores a payment. -/
def addPayment (c : Conditions) (record : Record) (apiKey : Value) (t : Tables) :
    Except Raised Uuid × Tables :=
  checked (checkPayment c.scheme record) t fun (user, data) =>
    storeSingle c .payment user record apiKey .payments (paymentValues data) t

/-! ### Token usage -/

/-- The row of a group of token usage under the identifier of its event. -/
def usageValues (id : Uuid) (g : UsageGroup) : Record :=
  [("id", .uuid id), ("model", .text g.model), ("input_tokens", .int g.inputTokens),
    ("output_tokens", .int g.outputTokens), ("input_debit_amount", .int g.inputDebitAmount),
    ("output_debit_amount", .int g.outputDebitAmount)]

/-- The transaction that stores a batch; it tells the identifier of the first group. -/
def storeUsage (c : Conditions) (records : List UsageRecord) (key : Option Uuid) : Txn Uuid := do
  let groups ← Txn.ofExcept (UsageGroup.aggregate records)
  ensureUsers c (groups.map (·.user.toValue))
  let ids ← insertEvents c (groups.map fun g => userEventRow g.reportedAt.canonicalText g.user key)
  insertDetails c .tokenUsages (List.zipWith usageValues ids groups)
  match ids with
  | id :: _ => return id
  | [] => throw (.failure .eventWithoutId)

/-- Stores a batch of token usage; an empty one is nothing to do. -/
def addUsage (c : Conditions) (records : List Record) (apiKey : Value) (t : Tables) :
    Except Raised (Option Uuid) × Tables :=
  if records.isEmpty then (.ok none, t)
  else
    checked (UsageRecord.ofRecords c.scheme records) t fun usage =>
      checked (parseApiKeyId c.depth apiKey) t fun key =>
        let description := Text.integer records.length ++ " AI_TOKEN_USAGE event(s)"
        let (outcome, t) := writeTransaction c description (storeUsage c usage key) t
        (outcome.map some, t)

/-! ### Keys -/

/-- Checks the record of a key grant. -/
def checkKeyGrant (record : Record) : Except Failure KeyGrantData := do
  let data ← parsePayload KeyGrantData.ofValue record EventKind.addKey.name
  if data.name.isBlank then .error .blankKeyName
  else if data.key.isBlank then .error .blankKeyDigest
  else return data

/-- The transaction that stores a key.  The record has to have a time, which is not kept. -/
def storeKey (c : Conditions) (record : Record) (data : KeyGrantData) : Txn Uuid := do
  let _ ← Txn.ofExcept (canonicalTimestamp (record.get timestampKey))
  let expiresAt ← Txn.ofExcept (parseTimestamp (.timestamp data.expiresAt))
  insertApiKey c [("name", .ofText data.name), ("key", .ofText data.key),
    ("expires_at", .timestamp expiresAt)]

/-- Stores a key. -/
def addKey (c : Conditions) (record : Record) (t : Tables) : Except Raised Uuid × Tables :=
  checked (Raised.ofFailure (checkKeyGrant record)) t fun data =>
    writeTransaction c "ADD_KEY event" (storeKey c record data) t

end UsageLedger.Ingest
