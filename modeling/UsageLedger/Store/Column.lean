/-
The columns of the tables, and the values that they take.

A value is looked at twice.  Before a statement runs, `ColumnKind.accepts` tells whether
the values are of a type that their columns know what to do with.  When a row is bound,
each value becomes a cell; what the driver has no cell for is an error of its own, and so
are a whole number beyond 64 bits and a text that has no encoding.  An undefined double is
bound as null.
-/
import UsageLedger.Store.Cell

namespace UsageLedger

/-- What a column is made for. -/
inductive ColumnKind
  | identifier
  | user
  | text
  | number
  | time
  | truth
  deriving DecidableEq, Repr

/-- The tables. -/
inductive Table
  | users
  | apiKeys
  | events
  | sdkCalls
  | payments
  | tokenUsages
  deriving DecidableEq, Repr

namespace Table

/-- The name of a table. -/
def name : Table → String
  | users => "users"
  | apiKeys => "api_keys"
  | events => "events"
  | sdkCalls => "sdk_call_events"
  | payments => "payment_events"
  | tokenUsages => "ai_token_usage_events"

/-- The table with a name. -/
def ofName? (name : String) : Option Table :=
  [users, apiKeys, events, sdkCalls, payments, tokenUsages].find? (·.name = name)

/-- The columns of a table in their order. -/
def columns : Table → List (String × ColumnKind)
  | users => [("id", .user)]
  | apiKeys => [("id", .identifier), ("name", .text), ("key", .text), ("created_at", .time),
      ("expires_at", .time), ("revoked", .truth), ("revoked_at", .time)]
  | events => [("id", .identifier), ("reported_timestamp", .text), ("user_id", .user),
      ("api_key_id", .identifier)]
  | sdkCalls => [("id", .identifier), ("type", .text), ("debit_amount", .number)]
  | payments => [("id", .identifier), ("credit_amount", .number)]
  | tokenUsages => [("id", .identifier), ("model", .text), ("input_tokens", .number),
      ("output_tokens", .number), ("input_debit_amount", .number),
      ("output_debit_amount", .number)]

/-- What a row says to the columns of a table, in their order; null says nothing. -/
def mentioned (table : Table) (row : Record) : Record :=
  table.columns.filterMap fun column =>
    match row.get column.1 with
    | .null => none
    | v => some (column.1, v)

end Table

/-- A value that is asked for its hexadecimal form has an answer.  Doubles and bytes have one as
well as identifiers, though none that can be stored. -/
def Value.hasHexForm : Value → Bool
  | .uuid _ | .float _ | .bytes _ => true
  | _ => false

/-- The truth that a value stands for: numbers of every kind count when they are one or zero. -/
def Value.truth? (v : Value) : Option Bool :=
  if v.sameKey (.bool true) then some true
  else if v.sameKey (.bool false) then some false
  else none

/-- A column can make something of a value. -/
def ColumnKind.accepts (scheme : IdScheme) (kind : ColumnKind) (v : Value) : Bool :=
  match kind with
  | .identifier => v.hasHexForm
  | .user => scheme ≠ .uuid || v.hasHexForm
  | .text | .number => true
  | .time => match v with
    | .timestamp _ => true
    | _ => false
  | .truth => v.truth?.isSome

namespace Store

/-- A value that its column cannot take. -/
def unbound (column : String) : Fault :=
  .database (.unbound ("value of column " ++ column ++ " cannot be bound"))

/-- A value that the driver has no cell for. -/
def unsupported (v : Value) : Fault :=
  .database (.programming ("type '" ++ v.kindName ++ "' is not supported"))

/-- Binds a value to a cell. -/
def bindCell : Value → Except Fault (Option Cell)
  | .null => .ok none
  | .bool b => .ok (some (.whole (if b then 1 else 0)))
  | .int n =>
    if Intake.fitsInt64 n then .ok (some (.whole n))
    else .error (.overflow "Python int too large to convert to SQLite INTEGER")
  | .float .nan => .ok none
  | .float x => .ok (some (.real x))
  | .text s => .ok (some (.text s))
  | .brokenText t => .error (.unencodable t)
  | .bytes b => .ok (some (.blob b))
  | .timestamp t => .ok (some (.text (Value.timestamp t).plain))
  | v => .error (unsupported v)

/-- Binds a value to a column of texts. -/
def bindText (v : Value) : Except Fault (Option Cell) := do return (← bindCell v).map Cell.asText

/-- Binds a value to a column of numbers. -/
def bindNumber (v : Value) : Except Fault (Option Cell) := do
  return (← bindCell v).map Cell.asNumber

/-- Binds a value to a column of identifiers. -/
def bindIdentifier : Value → Except Fault (Option Uuid)
  | .null => .ok none
  | .uuid u => .ok (some u)
  | v => .error (unsupported v)

/-- Binds a value to a column of users. -/
def bindUser (scheme : IdScheme) (v : Value) : Except Fault (Option Cell) :=
  match scheme with
  | .uuid => do return (← bindIdentifier v).map Cell.uuid
  | .bigint | .int => bindNumber v

/-- Binds a value to a column of times, which keeps the reading of the clock and no offset. -/
def bindTime (column : String) : Value → Except Fault (Option Timestamp)
  | .null => .ok none
  | .timestamp t => .ok (some t.withoutOffset)
  | _ => .error (unbound column)

/-- Binds a value to a column of truth values. -/
def bindTruth (column : String) (v : Value) : Except Fault (Option Bool) :=
  if v.isNull then .ok none
  else match v.truth? with
    | some b => .ok (some b)
    | none => .error (unbound column)

end Store

end UsageLedger
