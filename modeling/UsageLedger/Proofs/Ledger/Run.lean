/-
Runs of calls that write.

A run is any list of calls, each with circumstances of its own: the identifiers it will
draw and the faults it will meet.  The database below keeps its constraints.  Some calls
of a run are accepted and the others leave nothing (`outcome_error`), so what a run
stores is settled by the calls that it accepts.
-/
import UsageLedger.Ledger.Basic
import UsageLedger.Proofs.Store.Repository

namespace UsageLedger.Ledger

/-- A call that writes. -/
inductive Call
  | add (submission : Submission) (apiKey : Value)
  | addBatch (submissions : List Submission) (apiKey : Value)
  deriving Repr

/-- The key that a call brings. -/
def Call.apiKey : Call → Value
  | .add _ apiKey => apiKey
  | .addBatch _ apiKey => apiKey

/-- Makes a call. -/
def Call.run (c : Conditions) : Call → Tables → Except Raised (Option Uuid) × Tables
  | .add submission apiKey => Ledger.add c submission apiKey
  | .addBatch submissions apiKey => Ledger.addBatch c submissions apiKey

/-- What is settled outside the ledger for one call. -/
structure Circumstances where
  /-- How deeply lists and records may be nested in a value that is shown in a message. -/
  depth : Nat
  /-- The identifiers that are drawn, in order. -/
  fresh : Nat → Uuid
  /-- What opening a transaction raises. -/
  opening : Option Raised
  /-- What a commit raises. -/
  commit : Option Raised
  /-- What a step raises before it does anything. -/
  broken : Step → Option Raised
  /-- What a statement raises instead of being executed, by its number. -/
  plan : Nat → Option Raised

/-- Nothing goes wrong, and identifiers count up from a number. -/
def Circumstances.quiet (first : Nat) : Circumstances :=
  ⟨Conditions.usualDepth, fun n => Uuid.ofNat (first + n), none, none, fun _ => none, fun _ => none⟩

/-- The conditions of a call on an SQLite database. -/
def Circumstances.onSqlite (k : Circumstances) (scheme : IdScheme) : Conditions :=
  ⟨scheme, k.depth, Dialect.sqlite, Engine.interrupted k.plan (Engine.relational scheme), k.fresh,
    k.opening, k.commit, k.broken⟩

theorem Circumstances.constrained (k : Circumstances) (scheme : IdScheme) :
    (k.onSqlite scheme).Constrained where
  drawn := rfl
  kept {n statement t r} h := by
    show Engine.relational scheme n statement t = .ok r
    change Engine.interrupted k.plan (Engine.relational scheme) n statement t = .ok r at h
    unfold Engine.interrupted at h
    split at h
    · cases h
    · exact h

variable {scheme : IdScheme}

/-- What a call of a run ends with, and the tables after it. -/
def outcome (scheme : IdScheme) (call : Circumstances × Call) (t : Tables) :
    Except Raised (Option Uuid) × Tables :=
  call.2.run (call.1.onSqlite scheme) t

/-- The tables after a run. -/
def runCalls (scheme : IdScheme) : List (Circumstances × Call) → Tables → Tables
  | [], t => t
  | call :: rest, t => runCalls scheme rest (outcome scheme call t).2

/-- The calls of a run that are accepted, in order. -/
def accepted (scheme : IdScheme) : List (Circumstances × Call) → Tables → List Call
  | [], _ => []
  | call :: rest, t =>
    match outcome scheme call t with
    | (.ok _, t) => call.2 :: accepted scheme rest t
    | (.error _, t) => accepted scheme rest t

theorem runCalls_append (calls more : List (Circumstances × Call)) (t : Tables) :
    runCalls scheme (calls ++ more) t = runCalls scheme more (runCalls scheme calls t) := by
  induction calls generalizing t with
  | nil => rfl
  | cons call calls ih => exact ih _

/-! ### Submissions of one user -/

namespace Sample

/-- The key that a first grant is stored under. -/
def key : Value := .uuid (Uuid.ofNat 1)

/-- The grant of a key. -/
def grant : Circumstances × Call :=
  (.quiet 1, .add (.event ⟨Timestamp.first, .addKey ⟨"key", "digest", Timestamp.first⟩⟩) .null)

/-- The tables with the key and nothing else. -/
def granted : Tables := runCalls .bigint [grant] Tables.empty

/-- An SDK call of user 7. -/
def sdkCall (debit : Int) : Submission :=
  .event ⟨Timestamp.first, .sdkCall (.number 7) ⟨.raw, debit⟩⟩

/-- Token usage of user 7. -/
def usage (debit : Int) : Submission :=
  .event ⟨Timestamp.first, .tokenUsage (.number 7) ⟨"model", 1, 2, 3, debit⟩⟩

end Sample

end UsageLedger.Ledger
