/-
What can go wrong outside the ledger.

A fault is anything that an operation meets and did not foresee: an error of the
database, with what its driver reports, or an error of any other sort.  The ledger
itself refuses by a `Failure`, which may name a fault as its cause.
-/
import UsageLedger.Schema.Violation
import UsageLedger.Value.Key

namespace UsageLedger

/-- An error as its database looks at it: arguments, and codes where it has them. -/
structure ErrorObject where
  args : List Value
  sqlState : Option Value
  pgCode : Option Value
  sqliteCode : Option Value
  deriving Repr, Inhabited

/-- The text of an error: its one argument, or all of them in parentheses. -/
def ErrorObject.text (error : ErrorObject) : String :=
  match error.args with
  | [] => ""
  | [v] => v.plain
  | vs => "(" ++ Value.joinWith ", " (Value.literals vs) ++ ")"

/-- What a database driver tells about an error.  The code of SQLite is a number. -/
structure DriverReport where
  args : List Value
  sqlState : Option Value
  pgCode : Option Value
  sqliteCode : Option Int
  deriving Repr, Inhabited

namespace DriverReport

/-- The error that a driver reports. -/
def error (report : DriverReport) : ErrorObject :=
  ⟨report.args, report.sqlState, report.pgCode, report.sqliteCode.map .int⟩

/-- The text of a report. -/
def text (report : DriverReport) : String := report.error.text

end DriverReport

/-- An error of the database. -/
inductive DatabaseError
  /-- A constraint of the schema was broken. -/
  | integrity (report : DriverReport)
  | operational (report : DriverReport)
  | data (report : DriverReport)
  /-- The statement does not fit its table. -/
  | uncompiled (message : String)
  /-- The values of a statement do not fit its columns. -/
  | unbound (message : String)
  /-- The driver cannot take a value of a statement. -/
  | programming (message : String)
  | other (message : String)
  deriving Repr

/-- An error that is not a refusal of the ledger. -/
inductive Fault
  | database (error : DatabaseError)
  | badValue (message : String)
  | badType (message : String)
  /-- Nothing is kept under a key. -/
  | missingKey (key : Value)
  | runtime (message : String)
  | overflow (message : String)
  /-- A text has no encoding. -/
  | unencodable (text : BrokenText)
  /-- A value is nested more deeply than it can be written. -/
  | recursion
  /-- An undefined number was compared. -/
  | undefinedOrder
  /-- A value has no attribute of a name, or none that can be set on it. -/
  | badAttribute (message : String)
  /-- A value did not fit its schema. -/
  | invalid (violations : List Violation)
  | unserializable (message : String)
  | unsupported
  /-- A refusal that was handed on as the cause of another; only its message is kept. -/
  | refusal (message : String)
  deriving Repr

namespace DatabaseError

/-- What the driver reported, when it did. -/
def report? : DatabaseError → Option DriverReport
  | integrity report | operational report | data report => some report
  | _ => none

/-- The text of an error. -/
def message : DatabaseError → String
  | integrity report | operational report | data report => report.text
  | uncompiled message | unbound message | programming message | other message => message

end DatabaseError

/-- A whole number of more digits than are read is not written either. -/
def Fault.tooLong : Fault := .badValue Text.digitLimit

/-- The whole number, if the value is one, can be written. -/
def Fault.checkLength : Value → Except Fault Unit
  | .int n => if Text.isWritable n then .ok () else .error .tooLong
  | _ => .ok ()

namespace Value

mutual

/-- What keeps a value from being written, lists and records being nested at most so deeply. -/
def unwritten? (depth : Nat) : Value → Option Fault
  | .int n => if Text.isWritable n then none else some .tooLong
  | .list items => unwrittenItems? depth items
  | .record fields | .object _ _ _ fields => unwrittenFields? depth fields
  | _ => none

/-- What keeps the items of a list from being written. -/
def unwrittenItems? : (depth : Nat) → List Value → Option Fault
  | _, [] => none
  | 0, _ :: _ => some .recursion
  | depth + 1, v :: rest => (unwritten? depth v).or (unwrittenItems? (depth + 1) rest)

/-- What keeps the fields of a record from being written. -/
def unwrittenFields? : (depth : Nat) → List (String × Value) → Option Fault
  | _, [] => none
  | 0, _ :: _ => some .recursion
  | depth + 1, (_, v) :: rest => (unwritten? depth v).or (unwrittenFields? (depth + 1) rest)

end

end Value

/-- The value can be looked up. -/
def Fault.checkKey (v : Value) : Except Fault Unit :=
  match v.keyDefect? with
  | some message => .error (.badType message)
  | none => .ok ()

/-- The text of a fault. -/
def Fault.message : Fault → String
  | database error => error.message
  | badValue message | badType message | runtime message | overflow message
  | badAttribute message => message
  | missingKey key => key.literal
  | unencodable text => text.encodingDefect
  | recursion => "maximum recursion depth exceeded while getting the repr of an object"
  | undefinedOrder => "[<class 'decimal.InvalidOperation'>]"
  | invalid violations => Text.integer violations.length ++ " violations"
  | unserializable message | refusal message => message
  | unsupported => ""

end UsageLedger
