/-
The options that drivers take.

An option of an address is a text, or several texts when it is given more than once.  Each
driver lays down which of its options are truth values and numbers, and these are read
before anything is connected, in the order of the driver.  Options that a driver says
nothing about are handed on as they are.

PostgreSQL can be reached at several hosts: they are listed with commas, with a list of
ports beside them, or each is an option of its own with its port after a colon.
-/
import UsageLedger.Config.Driver
import UsageLedger.Text.Lowercase
import UsageLedger.Value

namespace UsageLedger

/-- What is wrong with the options of an address, or with what they belong to. -/
inductive OptionDefect
  | badNumeral (defect : Text.NumeralDefect)
  | badTruth (text : String)
  /-- Several texts are no whole number. -/
  | manyWholes
  /-- Several texts are no double. -/
  | manyReals
  /-- A database in a file has no host and no user. -/
  | hosted (address : String)
  /-- Options of a file that has no name. -/
  | namelessFile
  /-- Hosts are listed in two ways at once. -/
  | mixedHosts
  | badPorts (ports : List (Option String))
  | unevenHosts
  /-- Every host has more than one colon. -/
  | manyPorts
  | hostMissing
  | portMissing
  deriving DecidableEq, Repr

namespace OptionDefect

/-- Ports as they were given. -/
def portList (ports : List (Option String)) : String :=
  let shown := ports.map fun port =>
    match port with
    | some s => Text.quoted s
    | none => Value.null.literal
  "(" ++ Value.joinWith ", " shown ++ (if shown.length = 1 then ",)" else ")")

/-- The wording of a defect. -/
def message : OptionDefect → String
  | badNumeral defect => defect.message
  | badTruth text => "String is not true/false: " ++ Text.quoted text
  | manyWholes =>
    "int() argument must be a string, a bytes-like object or a real number, not 'tuple'"
  | manyReals => "float() argument must be a string or a real number, not 'tuple'"
  | hosted address => "Invalid SQLite URL: " ++ address ++
      "\nValid SQLite URL forms are:\n sqlite:///:memory: (or, sqlite://)" ++
      "\n sqlite:///relative/path/to/file.db\n sqlite:////absolute/path/to/file.db"
  | namelessFile => "unsupported operand type(s) for +=: 'NoneType' and 'str'"
  | mixedHosts => "Can't mix 'multihost' formats together; use " ++
      "\"host=h1,h2,h3&port=p1,p2,p3\" or \"host=h1:p1&host=h2:p2&host=h3:p3\" separately"
  | badPorts ports => "Received non-integer port arguments: " ++ portList ports
  | unevenHosts => "number of hosts and ports don't match"
  | manyPorts => "too many values to unpack (expected 2)"
  | hostMissing => "All hosts are required to be present for asyncpg multiple host URL"
  | portMissing => "All ports are required to be present for asyncpg multiple host URL"

end OptionDefect

namespace DriverOptions

/-! ### Values -/

/-- The kind of an option's value. -/
inductive Kind
  | truth
  | whole
  | real
  deriving DecidableEq, Repr

/-- Reads a truth value. -/
def readTruth (text : String) : Except OptionDefect Bool :=
  let word := Text.lower (String.ofList (Text.trim Text.isBlank text.toList))
  if ["true", "yes", "on", "y", "t", "1"].contains word then .ok true
  else if ["false", "no", "off", "n", "f", "0"].contains word then .ok false
  else .error (.badTruth word)

/-- Checks the values of an option.  No value is fine, and several are a truth. -/
def check (kind : Kind) (values : List String) : Except OptionDefect Unit :=
  match kind, values with
  | _, [] => .ok ()
  | .truth, [s] => (readTruth s).map fun _ => ()
  | .whole, [s] => ((Text.readWhole s).mapError .badNumeral).map fun _ => ()
  | .real, [s] => ((Text.readReal s).mapError .badNumeral).map fun _ => ()
  | .truth, _ => .ok ()
  | .whole, _ => .error .manyWholes
  | .real, _ => .error .manyReals

/-- Checks options in the given order. -/
def checkAll (a : DatabaseAddress) (kinds : List (String × Kind)) : Except OptionDefect Unit :=
  kinds.forM fun option => check option.2 (a.option option.1)

/-! ### SQLite -/

/-- The options of SQLite itself. -/
def sqliteKinds : List (String × Kind) :=
  [("uri", .truth), ("timeout", .real), ("detect_types", .whole), ("check_same_thread", .truth),
    ("cached_statements", .whole)]

/-- The names that are not handed on to the file. -/
def sqliteNames : List String := "isolation_level" :: sqliteKinds.map (·.1)

/-- The option is given and true. -/
def isTrue (values : List String) : Bool :=
  match values with
  | [] => false
  | [s] => (readTruth s).toOption.getD false
  | _ => true

/-- Checks the address of a file.  Further options of a file are put behind its name. -/
def checkFile (a : DatabaseAddress) : Except OptionDefect Unit := do
  if a.isHosted then throw (.hosted a.shown)
  checkAll a sqliteKinds
  let further := a.options.any fun o => !sqliteNames.contains o.1
  if isTrue (a.option "uri") && further && a.database.isNone then throw .namelessFile

/-! ### MySQL -/

/-- The options of MySQL. -/
def mysqlKinds : List (String × Kind) :=
  [("compress", .truth), ("connect_timeout", .whole), ("read_timeout", .whole),
    ("write_timeout", .whole), ("client_flag", .whole), ("local_infile", .truth),
    ("use_unicode", .truth), ("ssl_check_hostname", .truth)]

/-! ### PostgreSQL -/

/-- Hosts and ports as they are given. -/
structure HostList where
  hosts : List String
  ports : List (Option String)
  /-- Each host has its port after a colon. -/
  integrated : Bool
  deriving DecidableEq, Repr

/-- A text cut at a character. -/
def cut (c : Char) (s : String) : List String := (Text.parts c s.toList).map String.ofList

/-- Hosts of which each is an option of its own. -/
def separateHosts (values : List String) : Except OptionDefect HostList :=
  let cuts := values.map (cut ':')
  if cuts.all fun parts => 2 < parts.length then .error .manyPorts
  else .ok ⟨cuts.map fun parts => parts.headD "", cuts.map fun parts => parts[1]?, true⟩

/-- The character may be part of the name of a host. -/
def isHostChar (c : Char) : Bool := c.isAlphanum || c = '-' || c = '.'

/-- A host with its port after a colon, which may be missing.  A line may end after it. -/
def hostWithPort? (s : String) : Option HostList :=
  let cs := if s.toList.getLast? = some '\n' then s.toList.dropLast else s.toList
  match cs.takeWhile isHostChar, cs.dropWhile isHostChar with
  | host, ':' :: port =>
    if port.all fun c => (Text.decimalDigit? c).isSome then
      let port := String.ofList port
      some ⟨[String.ofList host], [if port.isEmpty then none else some port], true⟩
    else none
  | _, _ => none

/-- The hosts of an address.  A single host has no port of its own when ports are listed. -/
def hostList (values : List String) (portsListed : Bool) : Except OptionDefect HostList :=
  match values with
  | [] => .ok ⟨[], [], false⟩
  | [s] =>
    match cut ',' s, hostWithPort? s with
    | [_], some found => .ok (if portsListed then ⟨[s], [], false⟩ else found)
    | hosts, _ => .ok ⟨hosts, [], false⟩
  | values => separateHosts values

/-- The ports beside the hosts of an address. -/
def withPorts (hosts : HostList) (values : List String) : Except OptionDefect HostList :=
  match values with
  | [] => .ok hosts
  | values =>
    if hosts.integrated then .error .mixedHosts
    else
      let ports := match values with
        | [s] => cut ',' s
        | values => values
      .ok { hosts with ports := ports.map some }

/-- Reads ports, of which some may be missing. -/
def readPorts (ports : List (Option String)) : Except OptionDefect (List (Option Int)) :=
  ports.mapM fun port =>
    match port with
    | none => .ok none
    | some s =>
      if s.isEmpty then .ok none
      else match Text.readWhole s with
        | .ok n => .ok (some n)
        | .error _ => .error (.badPorts ports)

/-- Checks that hosts and ports go together, as many of one as of the other. -/
def checkHosts (a : DatabaseAddress) : Except OptionDefect Unit := do
  let listed := a.option "port"
  let list ← withPorts (← hostList (a.option "host") (listed ≠ [])) listed
  let ports ← readPorts list.ports
  let many := 1 < ports.length || (list.hosts ≠ [] && 1 < list.hosts.length)
  if ports ≠ [] && list.hosts.length ≠ ports.length && many then throw .unevenHosts
  if 1 < list.hosts.length then
    if list.hosts.any String.isEmpty then throw .hostMissing
    if ports = [] || ports.any fun port => port.getD 0 = 0 then throw .portMissing

/-- Checks the address of a PostgreSQL database. -/
def checkPostgresql (a : DatabaseAddress) : Except OptionDefect Unit := do
  checkHosts a
  checkAll a [("prepared_statement_cache_size", .whole)]

/-- Checks the options that the driver of an address takes. -/
def checkFor (driver : Driver) (a : DatabaseAddress) : Except OptionDefect Unit :=
  if driver.dialect = "sqlite" then checkFile a
  else if driver.dialect = "postgresql" then checkPostgresql a
  else checkAll a mysqlKinds

end DriverOptions

end UsageLedger
