/-
Transactions.

A transaction works on its own copy of the tables, and only a commit puts the copy in
the place of what was stored: whatever is raised before, the tables stay as they were
(`run_error`).  `Conditions` are the circumstances of one call: the dialect, the engine,
the room that there is for messages, the identifiers that will be drawn, and the faults that
opening, committing and the single steps will meet.
-/
import UsageLedger.Failure
import UsageLedger.Store.Dialect
import UsageLedger.Store.Engine

namespace UsageLedger

/-- The steps that a transaction is made of. -/
inductive Step
  | ensureUser
  | ensureUsers
  | insertEvent
  | insertEvents
  | insertDetail
  | insertDetails
  | insertApiKey
  /-- Adding the rows of events or keys, the part of a step that talks to the database. -/
  | insertWithIds
  deriving DecidableEq, Repr

/-- The circumstances of a call. -/
structure Conditions where
  scheme : IdScheme
  /-- How deeply lists and records may be nested in a value that is shown in a message. -/
  depth : Nat
  dialect : Dialect
  engine : Engine
  /-- The identifiers that are drawn, in order. -/
  fresh : Nat → Uuid
  /-- What opening a transaction raises. -/
  opening : Option Raised
  /-- What a commit raises. -/
  commit : Option Raised
  /-- What a step raises before it does anything. -/
  broken : Step → Option Raised

/-- A depth of lists and records that is well within what there is room for. -/
def Conditions.usualDepth : Nat := 900

/-- A working SQLite database without faults. -/
def Conditions.ideal (scheme : IdScheme) (fresh : Nat → Uuid) : Conditions :=
  ⟨scheme, usualDepth, Dialect.sqlite, Engine.relational scheme, fresh, none, none, fun _ => none⟩

/-- A transaction under way. -/
structure Work where
  tables : Tables
  /-- The statements executed so far, the one that failed included. -/
  executed : List Statement
  /-- The number of identifiers drawn so far. -/
  drawn : Nat
  deriving Repr

/-- A part of a transaction. -/
abbrev Txn (α : Type) := ExceptT Raised (StateM Work) α

namespace Txn

/-- Raises what a step meets. -/
def meet (fault : Option Raised) : Txn Unit :=
  match fault with
  | some e => throw e
  | none => pure ()

/-- Executes a statement. -/
def execute (c : Conditions) (statement : Statement) : Txn (List (Option Uuid)) := do
  let work ← get
  set { work with executed := work.executed ++ [statement] }
  match c.engine work.executed.length statement work.tables with
  | .error e => throw e
  | .ok (tables, ids) =>
    modify fun work => { work with tables }
    return ids

/-- Draws an identifier. -/
def draw (c : Conditions) : Txn Uuid := do
  let work ← get
  set { work with drawn := work.drawn + 1 }
  return c.fresh work.drawn

/-- Draws one identifier for each item of a list. -/
def drawFor {α : Type} (c : Conditions) (items : List α) : Txn (List Uuid) :=
  items.mapM fun _ => draw c

/-- Continues an outcome outside a transaction. -/
def ofExcept {α : Type} : Except Raised α → Txn α
  | .ok a => pure a
  | .error e => throw e

/-- Runs a part of a transaction; an error of the database is told as the given failure says, any
other error stays as it is. -/
def classify {α : Type} (body : Txn α) (tell : DatabaseError → Txn α) : Txn α :=
  tryCatch body fun
    | .fault (.database e) => tell e
    | e => throw e

/-- Runs a transaction on the stored tables. -/
def run {α : Type} (c : Conditions) (body : Txn α) (t : Tables) : Except Raised α × Tables :=
  match c.opening with
  | some e => (.error e, t)
  | none =>
    match StateT.run (ExceptT.run body) ⟨t, [], 0⟩ with
    | (.error e, _) => (.error e, t)
    | (.ok a, work) =>
      match c.commit with
      | some e => (.error e, t)
      | none => (.ok a, work.tables)

/-- A transaction that raises leaves no trace. -/
theorem run_error {α : Type} {c : Conditions} {body : Txn α} {t t' : Tables} {e : Raised}
    (h : run c body t = (.error e, t')) : t' = t := by
  unfold run at h
  split at h
  · simp_all
  · split at h
    · simp_all
    · split at h <;> simp_all

end Txn

end UsageLedger
