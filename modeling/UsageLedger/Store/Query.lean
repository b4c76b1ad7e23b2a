/-
Sums over what a user is charged.

A query asks for the sum of the debits of one user, over calls or over token usage.  The
database adds in 64 bits: a sum of two columns that does not fit becomes a double, and a
running sum that does not fit is an error unless a double was met before, after which the
answer is the sum in doubles.  No rows have no sum.
-/
import UsageLedger.Store.Tables

namespace UsageLedger

/-- A question about the debits of a user. -/
inductive Query
  | sdkDebits (user : UserId)
  | tokenDebits (user : UserId)
  deriving DecidableEq, Repr

/-- A sum under way. -/
structure RunningSum where
  /-- The exact sum, of use while every term is whole. -/
  whole : Int
  /-- The sum of all terms in doubles. -/
  real : Binary64
  /-- A double was met. -/
  approximate : Bool
  /-- The exact sum left 64 bits before any double was met. -/
  overflowed : Bool
  deriving Repr

/-- The sum of two numbers, whole when both are and it fits 64 bits.  An undefined sum is null. -/
def SqlNumber.add? (a b : SqlNumber) : Option SqlNumber :=
  match a, b with
  | .whole m, .whole n =>
    if Intake.fitsInt64 (m + n) then some (.whole (m + n))
    else some (.real ((ofWhole m).add (ofWhole n)))
  | a, b =>
    match a.toReal.add b.toReal with
    | .nan => none
    | x => some (.real x)

namespace RunningSum

/-- The sum of no terms. -/
def start : RunningSum := ⟨0, Binary64.ofRat 0, false, false⟩

/-- Adds a term. -/
def step (s : RunningSum) : SqlNumber → RunningSum
  | .real x => { s with real := s.real.add x, approximate := true }
  | .whole n =>
    let s := { s with real := s.real.add (SqlNumber.ofWhole n) }
    if s.approximate || s.overflowed then s
    else if Intake.fitsInt64 (s.whole + n) then { s with whole := s.whole + n }
    else { s with approximate := true, overflowed := true }

/-- The sum as it is answered. -/
def answer (s : RunningSum) : Except DatabaseError Value :=
  if s.overflowed then .error (.operational ⟨[.text "integer overflow"], none, none, none⟩)
  else if !s.approximate then .ok (.int s.whole)
  else match s.real with
    | .nan => .ok .null
    | x => .ok (.float x)

end RunningSum

/-- The sum of terms in their order. -/
def sqlSum (terms : List SqlNumber) : Except DatabaseError Value :=
  match terms with
  | [] => .ok .null
  | terms => (terms.foldl RunningSum.step RunningSum.start).answer

namespace Tables

/-- The identifiers of the events of a user, in the order of the events. -/
def eventsOf (t : Tables) (user : UserId) : List Uuid :=
  (t.events.filter fun event => event.user = some user.toCell).map (·.id)

/-- The stored debits of the SDK calls of a user, in the order of their events. -/
def sdkDebits (t : Tables) (user : UserId) : List Cell :=
  (t.eventsOf user).filterMap fun id =>
    (t.sdkCalls.find? fun row => row.id = id).map (·.debitAmount)

/-- The stored debits of the token usage of a user, input and output apart, in the order of their
events. -/
def tokenDebits (t : Tables) (user : UserId) : List (Cell × Cell) :=
  (t.eventsOf user).filterMap fun id =>
    (t.tokenUsages.find? fun row => row.id = id).map fun row =>
      (row.inputDebitAmount, row.outputDebitAmount)

/-- The answer of the database to a query. -/
def answer (t : Tables) : Query → Except DatabaseError Value
  | .sdkDebits user => sqlSum ((t.sdkDebits user).map Cell.term)
  | .tokenDebits user =>
    sqlSum ((t.tokenDebits user).filterMap fun d => d.1.operand.add? d.2.operand)

end Tables

end UsageLedger
