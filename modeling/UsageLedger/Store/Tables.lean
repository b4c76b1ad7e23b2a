/-
The tables of a ledger.

Users, API keys and events have a table each, and every kind of event that is written
keeps its particulars in a table of its own, under the identifier of the event.  Rows are
kept in the order in which they were added.  The `add` functions are what the database
enforces: identifiers are unique, so are the names and digests of keys, and what a row
refers to has to be there.  Columns of texts and numbers hold cells, because a table keeps
also what it was not made for.
-/
import UsageLedger.Store.Cell

namespace UsageLedger

/-- A key, by its digest. -/
structure ApiKeyRow where
  id : Uuid
  name : Cell
  key : Cell
  /-- Universal time; the column keeps no offset. -/
  expiresAt : Timestamp
  revoked : Bool
  deriving DecidableEq, Repr

/-- An event or a group of them. -/
structure EventRow where
  id : Uuid
  reportedTimestamp : Cell
  user : Option Cell
  apiKey : Option Uuid
  deriving DecidableEq, Repr

/-- The particulars of an SDK call. -/
structure SdkCallRow where
  id : Uuid
  callType : Cell
  debitAmount : Cell
  deriving DecidableEq, Repr

/-- The particulars of a payment. -/
structure PaymentRow where
  id : Uuid
  creditAmount : Cell
  deriving DecidableEq, Repr

/-- The particulars of a group of token usage. -/
structure TokenUsageRow where
  id : Uuid
  model : Cell
  inputTokens : Cell
  outputTokens : Cell
  inputDebitAmount : Cell
  outputDebitAmount : Cell
  deriving DecidableEq, Repr

/-- All that is stored. -/
structure Tables where
  users : List Cell
  apiKeys : List ApiKeyRow
  events : List EventRow
  sdkCalls : List SdkCallRow
  payments : List PaymentRow
  tokenUsages : List TokenUsageRow
  deriving DecidableEq, Repr

/-- Adds an item to a list unless it is there. -/
def addNew {α : Type} [DecidableEq α] (items : List α) (x : α) : List α :=
  if x ∈ items then items else items ++ [x]

namespace Constraint

/-- The report of a broken constraint with the code of its sort. -/
def report (text : String) (code : Nat) : DriverReport :=
  ⟨[.text text], none, none, some code⟩

/-- A column that needs a value was given none. -/
def notNull (table column : String) : DriverReport :=
  report ("NOT NULL constraint failed: " ++ table ++ "." ++ column) 1299

/-- The identifier of a row is taken. -/
def primaryKey (table : String) : DriverReport :=
  report ("UNIQUE constraint failed: " ++ table ++ ".id") 1555

/-- A value that has to be unique is taken. -/
def unique (table column : String) : DriverReport :=
  report ("UNIQUE constraint failed: " ++ table ++ "." ++ column) 2067

/-- A row that is referred to is not there. -/
def foreignKey : DriverReport := report "FOREIGN KEY constraint failed" 787

/-- The number of a row was given as something else. -/
def mismatch : DriverReport := report "datatype mismatch" 20

end Constraint

namespace Tables

/-- Nothing stored. -/
def empty : Tables := ⟨[], [], [], [], [], []⟩

instance : Inhabited Tables := ⟨empty⟩

/-- The number of rows of each table. -/
def counts (t : Tables) : List Nat :=
  [t.users.length, t.apiKeys.length, t.events.length, t.sdkCalls.length, t.payments.length,
    t.tokenUsages.length]

/-- An event has the identifier. -/
def hasEvent (t : Tables) (id : Uuid) : Bool := t.events.any (·.id = id)

/-! ### Users -/

/-- The number that a row of users gets of itself: the one after the greatest. -/
def nextNumber (t : Tables) : Int :=
  let numbers := t.users.filterMap fun cell =>
    match cell with
    | .whole n => some n
    | _ => none
  (numbers.max?.map (· + 1)).getD 1

/-- The identifier under which a user is stored.  In the scheme of 32 bits it is the number of the
row: a user without one gets the next number, and one that is no whole number is refused. -/
def userIdentifier (t : Tables) (scheme : IdScheme) : Option Cell → Except DriverReport Cell
  | none =>
    if scheme = .int then .ok (.whole t.nextNumber) else .error (Constraint.notNull "users" "id")
  | some (.whole n) => .ok (.whole n)
  | some cell => if scheme = .int then .error Constraint.mismatch else .ok cell

/-- Adds a user unless it is there. -/
def ensureUser (t : Tables) (scheme : IdScheme) (user : Option Cell) :
    Except DriverReport Tables := do
  let id ← t.userIdentifier scheme user
  return { t with users := addNew t.users id }

/-- Adds a user that is not there. -/
def addUser (t : Tables) (scheme : IdScheme) (user : Option Cell) :
    Except DriverReport Tables := do
  let id ← t.userIdentifier scheme user
  if id ∈ t.users then .error (Constraint.primaryKey "users")
  else return { t with users := t.users ++ [id] }

/-! ### Rows -/

/-- Adds a key.  Of several values that are taken the digest is told before the name, and the name
before the identifier. -/
def addApiKey (t : Tables) (row : ApiKeyRow) : Except DriverReport Tables :=
  if t.apiKeys.any (·.key = row.key) then .error (Constraint.unique "api_keys" "key")
  else if t.apiKeys.any (·.name = row.name) then .error (Constraint.unique "api_keys" "name")
  else if t.apiKeys.any (·.id = row.id) then .error (Constraint.primaryKey "api_keys")
  else .ok { t with apiKeys := t.apiKeys ++ [row] }

/-- Adds an event. -/
def addEvent (t : Tables) (row : EventRow) : Except DriverReport Tables :=
  if t.hasEvent row.id then .error (Constraint.primaryKey "events")
  else if row.user.any (fun user => user ∉ t.users) then .error Constraint.foreignKey
  else if row.apiKey.any (fun key => !t.apiKeys.any (·.id = key)) then .error Constraint.foreignKey
  else .ok { t with events := t.events ++ [row] }

/-- Adds the particulars of an SDK call. -/
def addSdkCall (t : Tables) (row : SdkCallRow) : Except DriverReport Tables :=
  if t.sdkCalls.any (·.id = row.id) then .error (Constraint.primaryKey "sdk_call_events")
  else if !t.hasEvent row.id then .error Constraint.foreignKey
  else .ok { t with sdkCalls := t.sdkCalls ++ [row] }

/-- Adds the particulars of a payment. -/
def addPayment (t : Tables) (row : PaymentRow) : Except DriverReport Tables :=
  if t.payments.any (·.id = row.id) then .error (Constraint.primaryKey "payment_events")
  else if !t.hasEvent row.id then .error Constraint.foreignKey
  else .ok { t with payments := t.payments ++ [row] }

/-- Adds the particulars of a group of token usage. -/
def addTokenUsage (t : Tables) (row : TokenUsageRow) : Except DriverReport Tables :=
  if t.tokenUsages.any (·.id = row.id) then .error (Constraint.primaryKey "ai_token_usage_events")
  else if !t.hasEvent row.id then .error Constraint.foreignKey
  else .ok { t with tokenUsages := t.tokenUsages ++ [row] }

/-- Revokes the key with a name. -/
def revoke (t : Tables) (name : Cell) : Tables :=
  { t with apiKeys := t.apiKeys.map fun row =>
      if row.name = name.asText then { row with revoked := true } else row }

end Tables

end UsageLedger
