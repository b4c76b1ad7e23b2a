/-
What differs between databases.

Three things do: whether a statement can hand back the identifiers of the rows it adds,
how the statement is spelt that adds users unless they are there, and how a driver
reports that a row is there already.  A driver that gives a code is believed; only when
it gives none does the wording of its message decide.
-/
import UsageLedger.Fault

namespace UsageLedger

/-- What the ledger has to know about a database. -/
structure Dialect where
  name : String
  /-- The name of the class that speaks the dialect. -/
  className : String
  /-- Statements hand back the identifiers of added rows. -/
  returning : Bool
  /-- Parts of messages that tell of a duplicate. -/
  markers : List String
  /-- What the codes of an error say about a duplicate, if anything. -/
  duplicateCode : ErrorObject → Except Fault (Option Bool)
  /-- The statement that adds a user unless it is there. -/
  ensureUser? : IdScheme → Option String

namespace Dialect

/-- The text holds another one. -/
def holds (text part : List Char) : Bool :=
  part.isPrefixOf text || (match text with
    | [] => false
    | _ :: rest => holds rest part)

/-- The text of a value is the given one. -/
def isText (v : Value) (s : String) : Bool :=
  match v with
  | .text t => t = s
  | _ => false

/-- The state that PostgreSQL gives a duplicate. -/
def postgresCode (error : ErrorObject) : Except Fault (Option Bool) :=
  let state := error.sqlState.getD .null
  let code := if state.isPresent then state else error.pgCode.getD .null
  .ok (if code.isNull then none else some (isText code "23505"))

/-- The number that MySQL gives a duplicate. -/
def mysqlCode (error : ErrorObject) : Except Fault (Option Bool) :=
  match error.args with
  | .int n :: _ => .ok (some (n = 1062))
  | .bool _ :: _ => .ok (some false)
  | _ => .ok none

/-- The numbers that SQLite gives a duplicate, among which the code is looked up. -/
def sqliteCode (error : ErrorObject) : Except Fault (Option Bool) := do
  let code := error.sqliteCode.getD .null
  if code.isNull then return none
  Fault.checkKey code
  return some (code.sameKey (.int 1555) || code.sameKey (.int 2067))

/-- The type that PostgreSQL casts the users of a scheme to. -/
def postgresType : IdScheme → String
  | .uuid => "UUID"
  | .bigint => "BIGINT"
  | .int => "INTEGER"

/-- A database of which nothing is known. -/
def generic : Dialect := ⟨"", "EventRepository", false, [], fun _ => .ok none, fun _ => none⟩

def postgresql : Dialect :=
  ⟨"postgresql", "PostgresEventRepository", true, ["duplicate key value"], postgresCode,
    fun scheme => some ("INSERT INTO users (id) VALUES (%(id)s::" ++ postgresType scheme ++
      ") ON CONFLICT (id) DO NOTHING")⟩

def mysql : Dialect :=
  ⟨"mysql", "MySQLEventRepository", false, ["Duplicate entry", "1062"], mysqlCode,
    fun _ => some "INSERT IGNORE INTO users (id) VALUES (%s)"⟩

def sqlite : Dialect :=
  ⟨"sqlite", "SQLiteEventRepository", false, ["UNIQUE constraint failed"], sqliteCode,
    fun _ => some "INSERT INTO users (id) VALUES (?) ON CONFLICT (id) DO NOTHING"⟩

/-- The databases that are supported. -/
def supported : List Dialect := [postgresql, mysql, sqlite]

/-- The dialect with a name. -/
def ofName (name : String) : Except Fault Dialect :=
  match supported.find? (·.name = name) with
  | some dialect => .ok dialect
  | none => .error (.badValue ("Unsupported event repository backend: " ++ name))

/-- The dialect that a value names among those that are looked up. -/
def ofValue (v : Value) : Except Fault Dialect := do
  Fault.checkKey v
  ofName v.plain

/-- An error tells of a duplicate. -/
def isDuplicate (dialect : Dialect) (error : ErrorObject) : Except Fault Bool := do
  match ← dialect.duplicateCode error with
  | some verdict => return verdict
  | none => return dialect.markers.any fun marker => holds error.text.toList marker.toList

/-- The statement that adds a user unless it is there. -/
def ensureUser (dialect : Dialect) (scheme : IdScheme) : Except Fault String :=
  match dialect.ensureUser? scheme with
  | some statement => .ok statement
  | none => .error .unsupported

end Dialect

end UsageLedger
