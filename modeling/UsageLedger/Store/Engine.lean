/-
Statements, and what a database makes of them.

A statement either makes sure that users exist or adds rows to a table.  An engine is
what executes statements: it may raise anything, and otherwise hands back the tables
after the statement and the identifiers it has to tell.  `Engine.relational` is a
database that keeps its constraints; `Engine.scripted` follows a script and stores
nothing; `Engine.interrupted` puts faults in the way of another engine.
-/
import UsageLedger.Store.Row

namespace UsageLedger

/-- A statement that changes tables. -/
inductive Statement
  /-- Adds the users that are not there yet. -/
  | ensureUsers (users : List Value)
  /-- Adds rows, and asks for their identifiers when `returning` is set. -/
  | insert (table : Table) (rows : List Record) (returning : Bool)
  deriving Repr

/-- What executes the statements of a transaction: the number of statements before this one, the
statement and the tables make either an error or the tables after it and identifiers. -/
abbrev Engine := Nat → Statement → Tables → Except Raised (Tables × List (Option Uuid))

namespace Engine

open Store

/-- The most values that one statement can carry. -/
def maxValues : Nat := 32766

/-- Adds a row of named values to a table. -/
def addRow (scheme : IdScheme) (table : Table) (t : Tables) (row : Record) :
    Except Fault Tables := do
  match table with
  | .users => (t.addUser scheme (← bindUser scheme (row.get "id"))).mapError broken
  | .apiKeys => (t.addApiKey (← apiKeyRow row)).mapError broken
  | .events => (t.addEvent (← eventRow scheme row)).mapError broken
  | .sdkCalls => (t.addSdkCall (← sdkCallRow row)).mapError broken
  | .payments => (t.addPayment (← paymentRow row)).mapError broken
  | .tokenUsages => (t.addTokenUsage (← tokenUsageRow row)).mapError broken

/-- Adds rows that mention the same columns.  All of them are looked at before one is stored. -/
def addAlike (scheme : IdScheme) (table : Table) (t : Tables) (rows : List Record) :
    Except Fault Tables := do
  rows.forM (checkRow scheme table)
  rows.foldlM (addRow scheme table) t

/-- The two rows mention the same columns. -/
def alike (a b : Record) : Bool := a.map (·.1) == b.map (·.1)

/-- Adds rows to a table, as many at a time as mention the same columns. -/
def addRows (scheme : IdScheme) (table : Table) (t : Tables) (rows : List Record) :
    Except Fault Tables :=
  ((rows.map table.mentioned).splitBy alike).foldlM (addAlike scheme table) t

/-- The identifier of a row, as it is handed back. -/
def rowId (row : Record) : Option Uuid :=
  match row.get "id" with
  | .uuid u => some u
  | _ => none

/-- A statement carries more values than the database takes. -/
def tooManyValues : Fault :=
  .database (.operational ⟨[.text "too many SQL variables"], none, none, none⟩)

/-- Makes sure that users exist.  All of them are looked at and bound before one is stored. -/
def ensureUsers (scheme : IdScheme) (t : Tables) (users : List Value) : Except Fault Tables := do
  users.forM fun user =>
    if user.isNull || ColumnKind.user.accepts scheme user then .ok () else .error (unbound "id")
  if maxValues < users.length then .error tooManyValues
  let bound ← users.mapM (bindUser scheme)
  (bound.foldlM (Tables.ensureUser · scheme) t).mapError broken

/-- A database that keeps the constraints of its tables, for users of one scheme. -/
def relational (scheme : IdScheme) : Engine := fun _ statement t =>
  match statement with
  | .ensureUsers users => ((ensureUsers scheme t users).map (·, [])).mapError .fault
  | .insert table rows returning =>
    ((addRows scheme table t rows).map fun t =>
      (t, if returning then rows.map rowId else [])).mapError .fault

/-- One answer of a script: an error, or the identifiers handed back. -/
inductive Response
  | raises (error : Raised)
  | hands (ids : List (Option Uuid))
  deriving Repr

/-- A database that answers by a script and stores nothing; past the end every statement
succeeds. -/
def scripted (script : List Response) : Engine := fun n _ t =>
  match script[n]? with
  | some (.raises e) => .error e
  | some (.hands ids) => .ok (t, ids)
  | none => .ok (t, [])

/-- An engine with faults in its way: a statement for which the plan names an error raises it. -/
def interrupted (plan : Nat → Option Raised) (engine : Engine) : Engine := fun n statement t =>
  match plan n with
  | some e => .error e
  | none => engine n statement t

end Engine

end UsageLedger
