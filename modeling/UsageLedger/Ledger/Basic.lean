/-
The ledger.

`add` writes one submission, `addBatch` a delivery of token usage, and
`Pricing.priceFrom` answers what is owed.  Each takes the stored tables and gives the
outcome with the tables after it.  What is submitted is unwrapped, its kind decides on
the handler, and kinds that need a key are refused without one.
-/
import UsageLedger.Ledger.Ingest
import UsageLedger.Ledger.Pricing

namespace UsageLedger.Ledger

open Intake

/-- Writes a record of a known kind. -/
def write (c : Conditions) (kind : EventKind) (record : Record) (apiKey : Value) (t : Tables) :
    Except Raised (Option Uuid) × Tables :=
  let single (result : Except Raised Uuid × Tables) : Except Raised (Option Uuid) × Tables :=
    (result.1.map some, result.2)
  match kind with
  | .sdkCall => single (Ingest.addSdkCall c record apiKey t)
  | .payment => single (Ingest.addPayment c record apiKey t)
  | .tokenUsage => Ingest.addUsage c [record] apiKey t
  | .addKey => single (Ingest.addKey c record t)
  | _ => (Raised.refuse (.unknownEventType (.text kind.name) none), t)

/-- The kind of a submission to be written and its record. -/
def accept (depth : Nat) (submission : Submission) (apiKey : Value) :
    Except Raised (EventKind × Record) := do
  let record ← unwrap submission
  let kind ← resolveKind depth record writeKinds
  if kind.needsApiKey && !apiKey.isPresent then Raised.refuse .missingApiKey
  else return (kind, record)

/-- Writes one submission and tells the identifier of what was stored. -/
def add (c : Conditions) (submission : Submission) (apiKey : Value) (t : Tables) :
    Except Raised (Option Uuid) × Tables :=
  Ingest.checked (accept c.depth submission apiKey) t fun (kind, record) =>
    write c kind record apiKey t

/-- A record of a batch has to be of token usage. -/
def checkBatchable (depth : Nat) (record : Record) : Except Raised Unit := do
  let kind ← resolveKind depth record writeKinds
  if kind = .tokenUsage then return () else Raised.refuse (.notBatchable kind)

/-- The records of a batch. -/
def acceptBatch (depth : Nat) (submissions : List Submission) (apiKey : Value) :
    Except Raised (List Record) := do
  let records ← submissions.mapM unwrap
  records.forM (checkBatchable depth)
  if apiKey.isPresent then return records else Raised.refuse .missingApiKey

/-- Writes a delivery of token usage in one transaction. -/
def addBatch (c : Conditions) (submissions : List Submission) (apiKey : Value) (t : Tables) :
    Except Raised (Option Uuid) × Tables :=
  Ingest.checked (acceptBatch c.depth submissions apiKey) t fun records =>
    Ingest.addUsage c records apiKey t

end UsageLedger.Ledger
