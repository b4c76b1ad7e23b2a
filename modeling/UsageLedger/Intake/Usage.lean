/-
Batches of token usage.

A batch is checked record by record, and the first bad record rejects all of it.  The
checked records are then collapsed into one group for each user and model: counters are
added and the latest time is kept.  Groups come in the order in which their user and
model were first seen.  A sum can be too large for its column although every term fits,
so the sums are checked at the end.
-/
import UsageLedger.Event.Payload
import UsageLedger.Intake.Checks
import UsageLedger.Value.Shape

namespace UsageLedger

/-- A checked record of token usage; its time is still as given. -/
structure UsageRecord where
  user : UserId
  data : TokenUsageData
  reportedTimestamp : Value
  deriving Repr

/-- What one user used of one model. -/
structure UsageGroup where
  user : UserId
  model : String
  inputTokens : Int
  outputTokens : Int
  inputDebitAmount : Int
  outputDebitAmount : Int
  reportedAt : Timestamp
  deriving DecidableEq, Repr

namespace UsageRecord

/-- The counters of a payload under their names, in the order in which they are checked. -/
def counters (d : TokenUsageData) : List (String × Int) :=
  [("input_tokens", d.inputTokens), ("output_tokens", d.outputTokens),
    ("input_debit_amount", d.inputDebitAmount), ("output_debit_amount", d.outputDebitAmount)]

/-- A counter has to be a natural number that fits its column. -/
def checkCounter (user : UserId) (counter : String × Int) : Except Raised Unit := do
  if counter.2 < 0 then
    (Fault.checkLength (.int counter.2)).mapError .fault
    Raised.refuse (.negativeCounter counter.1 user counter.2)
  else Intake.requireInt64 (.int counter.2) counter.1 EventKind.tokenUsage.name

/-- Checks one record. -/
def ofRecord (scheme : IdScheme) (record : Record) : Except Raised UsageRecord := do
  let user ← Raised.ofFailure (Intake.requireUser scheme record EventKind.tokenUsage.name)
  let data ← (TokenUsageData.ofValue (record.get Intake.dataKey)).toExcept.mapError
    fun violations => .failure (.malformedUsage user violations)
  (counters data).forM (checkCounter user)
  return ⟨user, data, record.get Intake.timestampKey⟩

/-- Checks the records of a batch up to the first bad one. -/
def ofRecords (scheme : IdScheme) (records : List Record) : Except Raised (List UsageRecord) :=
  records.mapM (ofRecord scheme)

/-- Checks values as the records of a batch, up to the first bad one. -/
def ofValues (scheme : IdScheme) (values : List Value) : Except Raised (List UsageRecord) :=
  values.mapM fun v => do ofRecord scheme (← v.asRecord.mapError .fault)

end UsageRecord

namespace UsageGroup

/-- The group of one record. -/
def single (record : UsageRecord) : Except Raised UsageGroup := do
  let reportedAt ← Intake.parseTimestamp record.reportedTimestamp
  return ⟨record.user, record.data.model, record.data.inputTokens, record.data.outputTokens,
    record.data.inputDebitAmount, record.data.outputDebitAmount, reportedAt⟩

/-- Two groups are about the same user and model. -/
def sameKey (g h : UsageGroup) : Bool := g.user = h.user && g.model = h.model

/-- The counters of a group under their names, in the order in which they are checked. -/
def counters (g : UsageGroup) : List (String × Int) :=
  [("input_tokens", g.inputTokens), ("output_tokens", g.outputTokens),
    ("input_debit_amount", g.inputDebitAmount), ("output_debit_amount", g.outputDebitAmount)]

/-- Two groups of one user and model as one: sums, and the later time. -/
def merge (g h : UsageGroup) : UsageGroup :=
  { g with
    inputTokens := g.inputTokens + h.inputTokens
    outputTokens := g.outputTokens + h.outputTokens
    inputDebitAmount := g.inputDebitAmount + h.inputDebitAmount
    outputDebitAmount := g.outputDebitAmount + h.outputDebitAmount
    reportedAt :=
      if g.reportedAt.instant < h.reportedAt.instant then h.reportedAt else g.reportedAt }

/-- Adds a group to those there are: to the one of its user and model, or at the end. -/
def addTo : List UsageGroup → UsageGroup → List UsageGroup
  | [], h => [h]
  | g :: rest, h => if g.sameKey h then g.merge h :: rest else g :: addTo rest h

/-- The sums of a group fit their columns. -/
def checkSums (g : UsageGroup) : Except Raised Unit :=
  g.counters.forM fun counter =>
    Intake.requireInt64 (.int counter.2) counter.1 EventKind.tokenUsage.name

/-- The groups of checked records. -/
def aggregate (records : List UsageRecord) : Except Raised (List UsageGroup) := do
  let singles ← records.mapM single
  let groups := singles.foldl addTo []
  groups.forM checkSums
  return groups

end UsageGroup

end UsageLedger
