/-
The steps of a transaction.

Each step is one statement: making sure that users exist, adding events, adding their
particulars, adding a key.  A step without rows executes nothing.  Whatever the database
raises becomes a failure of the step; a report that a user is there already is no
failure at all.  New identifiers are either handed back by the statement or drawn before
it, depending on the dialect, and come in the order of the rows.
-/
import UsageLedger.Store.Transaction

namespace UsageLedger.Repository

open Txn

/-- The error of a broken constraint is told apart from all others. -/
def reject {α : Type} (onBroken : DriverReport → Failure) (onOther : Fault → Failure)
    (e : DatabaseError) : Txn α :=
  match e with
  | .integrity report => throw (.failure (onBroken report))
  | e => throw (.failure (onOther (.database e)))

/-! ### Users -/

/-- Makes sure that users exist, with one statement that names each once. -/
def ensureUsers (c : Conditions) (users : List Value) : Txn Unit := do
  meet (c.broken .ensureUsers)
  Txn.ofExcept ((users.forM Fault.checkKey).mapError .fault)
  let users := Value.distinctKeys users
  if !users.isEmpty then
    classify (do let _ ← execute c (.ensureUsers users)) fun e =>
      match e with
      | .integrity report =>
        match c.dialect.isDuplicate report.error with
        | .ok true => pure ()
        | .ok false => throw (.failure (.userInsert users (.database e)))
        | .error fault => throw (.fault fault)
      | e => throw (.failure (.userInsert users (.database e)))

/-- Makes sure that a user exists. -/
def ensureUser (c : Conditions) (user : Value) : Txn Unit := do
  meet (c.broken .ensureUser)
  ensureUsers c [user]

/-! ### Identifiers of new rows -/

/-- The row with an identifier of its own. -/
def withId (row : Record) (id : Uuid) : Record := row.set "id" (.uuid id)

/-- Adds rows and tells their identifiers. -/
def insertWithIds (c : Conditions) (table : Table) (rows : List Record) :
    Txn (List (Option Uuid)) := do
  meet (c.broken .insertWithIds)
  if c.dialect.returning then execute c (.insert table rows true)
  else
    let ids ← drawFor c rows
    let _ ← execute c (.insert table (List.zipWith withId rows ids) false)
    return ids.map some

/-! ### Events -/

/-- The row of an event. -/
def eventRow (reportedTimestamp user apiKey : Value) : Record :=
  [("reported_timestamp", reportedTimestamp), ("user_id", user), ("api_key_id", apiKey)]

/-- The row of an event of a user. -/
def userEventRow (reportedTimestamp : String) (user : UserId) (apiKey : Option Uuid) : Record :=
  eventRow (.text reportedTimestamp) user.toValue
    (match apiKey with | some key => .uuid key | none => .null)

/-- All the identifiers, if none is missing. -/
def allIds? (ids : List (Option Uuid)) : Option (List Uuid) := ids.mapM id

/-- Adds events; their identifiers come in the order of the rows. -/
def insertEvents (c : Conditions) (rows : List Record) : Txn (List Uuid) := do
  meet (c.broken .insertEvents)
  if rows = [] then return []
  else
    let handed ← classify (insertWithIds c .events rows)
      (reject .eventRejected (.eventInsert rows.length))
    match allIds? handed with
    | none | some [] => throw (.failure .eventWithoutId)
    | some ids =>
      if ids.length = rows.length then return ids
      else throw (.failure (.idCountMismatch rows.length ids.length))

/-- Adds one event. -/
def insertEvent (c : Conditions) (row : Record) : Txn Uuid := do
  meet (c.broken .insertEvent)
  match ← insertEvents c [row] with
  | id :: _ => return id
  | [] => throw (.failure .eventWithoutId)

/-! ### Particulars -/

/-- Adds the particulars of events. -/
def insertDetails (c : Conditions) (table : Table) (rows : List Record) : Txn Unit := do
  meet (c.broken .insertDetails)
  if rows ≠ [] then
    classify (do let _ ← execute c (.insert table rows false))
      (reject (.detailRejected table.name) (.detailInsert rows.length table.name))

/-- The particulars of one event under its identifier, unless they bring one of their own. -/
def detailRow (event : Value) (values : Record) : Record :=
  values.foldl (fun row field => row.set field.1 field.2) [("id", event)]

/-- Adds the particulars of one event. -/
def insertDetail (c : Conditions) (table : Table) (event : Value) (values : Record) : Txn Unit := do
  meet (c.broken .insertDetail)
  insertDetails c table [detailRow event values]

/-! ### Keys -/

/-- Adds a key. -/
def insertApiKey (c : Conditions) (values : Record) : Txn Uuid := do
  meet (c.broken .insertApiKey)
  let name := values.get "name"
  let handed ← classify (insertWithIds c .apiKeys [values])
    (reject (.keyRejected name) (.keyInsert name))
  match handed with
  | some id :: _ => return id
  | _ => throw (.failure .keyWithoutId)

end UsageLedger.Repository
