/-
The database of a ledger.

`Database.prepare` reads an address, finds its driver and checks its options; nothing is
connected yet.  Only drivers that do not block can be used, and no extensions are known.  A
pool of connections is kept for every dialect but SQLite.
-/
import UsageLedger.Config.DriverOptions
import UsageLedger.Config.Settings
import UsageLedger.Store.Dialect

namespace UsageLedger

/-- Why an address leads to no database. -/
inductive DatabaseDefect
  /-- Something other than a text was given as address. -/
  | notText (given : Value)
  | badAddress (defect : AddressDefect)
  | noExtension (name : String)
  | noDriver (defect : DriverDefect)
  /-- The driver is not installed. -/
  | absent (module : String)
  | badOption (defect : OptionDefect)
  /-- The driver blocks. -/
  | blocking (driver : String)
  deriving Repr

/-- The wording of a defect. -/
def DatabaseDefect.message : DatabaseDefect → String
  | notText given => "Expected string or URL object, got " ++ given.literal
  | badAddress .unreadable => "Could not parse SQLAlchemy URL from given URL string"
  | badAddress (.port defect) => defect.message
  | noExtension name => "Can't load plugin: sqlalchemy.plugins:" ++ name
  | noDriver defect => defect.message
  | absent module => "No module named '" ++ module ++ "'"
  | badOption defect => defect.message
  | blocking driver => "The asyncio extension requires an async driver to be used. The loaded '" ++
      driver ++ "' is not async."

/-- How many connections are kept open, and how many more are made when all are in use; a negative
number sets no limit. -/
structure Pool where
  size : Int
  overflow : Int
  deriving DecidableEq, Repr

/-- A pool of the wanted size.  One that keeps no connections has to make as many as are wanted. -/
def Pool.ofWanted (size overflow : Int) : Pool := ⟨size, if size = 0 then -1 else overflow⟩

/-- A database that could be opened. -/
structure Database where
  backend : String
  pool : Option Pool
  deriving DecidableEq, Repr

namespace Database

/-- Checks that a driver is there and that the options of the address suit it. -/
def checkDriver (driver : Driver) (address : DatabaseAddress) : Except DatabaseDefect Unit := do
  if let .notInstalled module := driver.state then throw (.absent module)
  (DriverOptions.checkFor driver address).mapError .badOption
  if driver.state = .blocks then throw (.blocking driver.name)

/-- Opens the database at an address. -/
def prepare (address : String) (pool : Pool) : Except DatabaseDefect Database := do
  let a ← (DatabaseAddress.read address).mapError .badAddress
  if let extension :: _ := a.option "plugin" then throw (.noExtension extension)
  let driver ← (Driver.find a).mapError .noDriver
  checkDriver driver a
  return ⟨a.dialect, if a.dialect = Dialect.sqlite.name then none else some pool⟩

/-- Opens the database at the address that a value is. -/
def ofValue (address : Value) (pool : Pool) : Except DatabaseDefect Database :=
  match address with
  | .text s => prepare s pool
  | v => .error (.notText v)

/-- The pool that is kept unless another one is set. -/
def standardPool : Pool :=
  .ofWanted Settings.standard.databasePoolSize Settings.standard.databaseMaxOverflow

/-- Opens the database that settings name. -/
def ofSettings (s : Settings) : Except DatabaseDefect Database :=
  prepare s.databaseUrl (.ofWanted s.databasePoolSize s.databaseMaxOverflow)

end Database

end UsageLedger
