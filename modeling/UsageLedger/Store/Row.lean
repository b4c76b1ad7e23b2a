/-
From named values to the rows of a table.

A statement carries rows as named values, of which those count that have a column and
are not null.  Before a row is stored its values are bound to their columns, in the order
of the columns; some columns have a default, and a column that needs a value has to be
given one, or a constraint is broken.
-/
import UsageLedger.Store.Column
import UsageLedger.Store.Tables

namespace UsageLedger.Store

/-- A broken constraint as a fault. -/
def broken (report : DriverReport) : Fault := .database (.integrity report)

/-- A column that needs a value. -/
def needed {α : Type} (table column : String) : Option α → Except Fault α
  | some a => .ok a
  | none => .error (broken (Constraint.notNull table column))

/-- A value of a row, or a default when the column is not mentioned. -/
def withDefault (row : Record) (column : String) (default : Value) : Value :=
  (row.get? column).getD default

/-- All that a row mentions is of a type that its column takes. -/
def checkRow (scheme : IdScheme) (table : Table) (row : Record) : Except Fault Unit :=
  table.columns.forM fun (column, kind) =>
    match row.get? column with
    | some v => if kind.accepts scheme v then .ok () else .error (unbound column)
    | none => .ok ()

/-- Binds a row of the table of keys. -/
def apiKeyRow (row : Record) : Except Fault ApiKeyRow := do
  let id ← bindIdentifier (row.get "id")
  let name ← bindText (row.get "name")
  let key ← bindText (row.get "key")
  let expiresAt ← bindTime "expires_at" (row.get "expires_at")
  let revoked ← bindTruth "revoked" (withDefault row "revoked" (.bool false))
  let id ← needed "api_keys" "id" id
  let name ← needed "api_keys" "name" name
  let key ← needed "api_keys" "key" key
  let expiresAt ← needed "api_keys" "expires_at" expiresAt
  let revoked ← needed "api_keys" "revoked" revoked
  return ⟨id, name, key, expiresAt, revoked⟩

/-- Binds a row of the table of events. -/
def eventRow (scheme : IdScheme) (row : Record) : Except Fault EventRow := do
  let id ← bindIdentifier (row.get "id")
  let reportedTimestamp ← bindText (row.get "reported_timestamp")
  let user ← bindUser scheme (row.get "user_id")
  let apiKey ← bindIdentifier (row.get "api_key_id")
  let id ← needed "events" "id" id
  let reportedTimestamp ← needed "events" "reported_timestamp" reportedTimestamp
  return ⟨id, reportedTimestamp, user, apiKey⟩

/-- Binds a row of the table of SDK calls. -/
def sdkCallRow (row : Record) : Except Fault SdkCallRow := do
  let id ← bindIdentifier (row.get "id")
  let callType ← bindText (row.get "type")
  let debitAmount ← bindNumber (row.get "debit_amount")
  let id ← needed "sdk_call_events" "id" id
  let callType ← needed "sdk_call_events" "type" callType
  let debitAmount ← needed "sdk_call_events" "debit_amount" debitAmount
  return ⟨id, callType, debitAmount⟩

/-- Binds a row of the table of payments. -/
def paymentRow (row : Record) : Except Fault PaymentRow := do
  let id ← bindIdentifier (row.get "id")
  let creditAmount ← bindNumber (row.get "credit_amount")
  let id ← needed "payment_events" "id" id
  let creditAmount ← needed "payment_events" "credit_amount" creditAmount
  return ⟨id, creditAmount⟩

/-- Binds a row of the table of token usage, whose counters are zero unless they are given. -/
def tokenUsageRow (row : Record) : Except Fault TokenUsageRow := do
  let counter (column : String) : Except Fault (Option Cell) :=
    bindNumber (withDefault row column (.int 0))
  let id ← bindIdentifier (row.get "id")
  let model ← bindText (row.get "model")
  let inputTokens ← counter "input_tokens"
  let outputTokens ← counter "output_tokens"
  let inputDebitAmount ← counter "input_debit_amount"
  let outputDebitAmount ← counter "output_debit_amount"
  let id ← needed "ai_token_usage_events" "id" id
  let model ← needed "ai_token_usage_events" "model" model
  let inputTokens ← needed "ai_token_usage_events" "input_tokens" inputTokens
  let outputTokens ← needed "ai_token_usage_events" "output_tokens" outputTokens
  let inputDebitAmount ← needed "ai_token_usage_events" "input_debit_amount" inputDebitAmount
  let outputDebitAmount ← needed "ai_token_usage_events" "output_debit_amount" outputDebitAmount
  return ⟨id, model, inputTokens, outputTokens, inputDebitAmount, outputDebitAmount⟩

end UsageLedger.Store
