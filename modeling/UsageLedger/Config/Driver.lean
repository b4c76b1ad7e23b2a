/-
Drivers.

A dialect is spoken with one of several drivers, one of which is taken when none is named.
A driver may not be installed, and one that blocks is of no use here.  Beside its drivers
a dialect has other members, which can be named in the place of one but speak nothing.
-/
import UsageLedger.Config.Address

namespace UsageLedger

/-- What becomes of a driver that is named. -/
inductive DriverState
  | ready
  | blocks
  | notInstalled (module : String)
  deriving DecidableEq, Repr

/-- A driver of a dialect. -/
structure Driver where
  dialect : String
  name : String
  /-- The dialect is spoken with this driver when none is named. -/
  byDefault : Bool
  state : DriverState
  deriving DecidableEq, Repr

/-- What a member of a dialect is that is no driver. -/
inductive DialectMember
  /-- A part of a dialect, with the dialect that it is in. -/
  | module (dialect name : String)
  | type (name : String)
  /-- A type with a fixed number of values. -/
  | enumeration
  /-- Anything else, of a kind. -/
  | object (kind : String)
  deriving DecidableEq, Repr

/-- Why an address names no driver. -/
inductive DriverDefect
  /-- More than one driver is named. -/
  | many
  /-- No such dialect, or none with the driver. -/
  | unknown (name : String)
  /-- A member of a dialect that is no driver. -/
  | notDriver (member : DialectMember)
  deriving DecidableEq, Repr

/-- The wording of what a member that is no driver lacks. -/
def DialectMember.lack : DialectMember → String
  | module dialect name =>
    "module 'sqlalchemy.dialects." ++ dialect ++ "." ++ name ++ "' has no attribute 'dialect'"
  | type name => "type object '" ++ name ++ "' has no attribute 'dialect'"
  | enumeration => "dialect"
  | object kind => "'" ++ kind ++ "' object has no attribute 'dialect'"

/-- The wording of a defect. -/
def DriverDefect.message : DriverDefect → String
  | many => "too many values to unpack (expected 2)"
  | unknown name => "Can't load plugin: sqlalchemy.dialects:" ++ name
  | notDriver member => member.lack

namespace Driver

/-- The drivers of PostgreSQL. -/
def postgresql : List Driver :=
  [⟨"postgresql", "asyncpg", false, .ready⟩,
    ⟨"postgresql", "psycopg", true, .notInstalled "psycopg"⟩,
    ⟨"postgresql", "psycopg_async", false, .notInstalled "psycopg"⟩,
    ⟨"postgresql", "psycopg2", false, .notInstalled "psycopg2"⟩,
    ⟨"postgresql", "psycopg2cffi", false, .notInstalled "psycopg2cffi"⟩,
    ⟨"postgresql", "pg8000", false, .notInstalled "pg8000"⟩]

/-- The drivers of MySQL, with which its sibling can be spoken to as well. -/
def mysql (dialect : String) : List Driver :=
  [⟨dialect, "aiomysql", false, .ready⟩,
    ⟨dialect, "mysqldb", true, .notInstalled "MySQLdb"⟩,
    ⟨dialect, "pymysql", false, .blocks⟩,
    ⟨dialect, "asyncmy", false, .notInstalled "asyncmy"⟩,
    ⟨dialect, "cymysql", false, .notInstalled "cymysql"⟩,
    ⟨dialect, "pyodbc", false, .notInstalled "pyodbc"⟩,
    ⟨dialect, "mysqlconnector", false, .notInstalled "mysql"⟩,
    ⟨dialect, "mariadbconnector", false, .notInstalled "mariadb"⟩]

/-- The drivers of SQLite. -/
def sqlite : List Driver :=
  [⟨"sqlite", "aiosqlite", false, .ready⟩,
    ⟨"sqlite", "pysqlite", true, .blocks⟩,
    ⟨"sqlite", "pysqlcipher", false, .notInstalled "pysqlcipher3"⟩]

/-- The drivers of other databases. -/
def others : List Driver :=
  [⟨"oracle", "cx_oracle", false, .notInstalled "cx_Oracle"⟩,
    ⟨"oracle", "oracledb", true, .notInstalled "oracledb"⟩,
    ⟨"oracle", "oracledb_async", false, .notInstalled "oracledb"⟩,
    ⟨"mssql", "pyodbc", true, .notInstalled "pyodbc"⟩,
    ⟨"mssql", "aioodbc", false, .notInstalled "aioodbc"⟩,
    ⟨"mssql", "pymssql", false, .notInstalled "pymssql"⟩,
    ⟨"mssql", "mssqlpython", false, .notInstalled "mssql_python"⟩]

/-- The drivers that are known. -/
def known : List Driver := postgresql ++ mysql "mysql" ++ mysql "mariadb" ++ sqlite ++ others

/-! ### Members that are no drivers -/

/-- Names for each of several dialects. -/
abbrev NameTable := List (String × List String)

/-- A name is in the list of a dialect. -/
def lists (table : NameTable) (dialect name : String) : Bool :=
  ((table.lookup dialect).getD []).contains name

/-- The parts of dialects besides their drivers. -/
def modules : NameTable :=
  [("sqlite", ["dml", "json"]),
    ("mysql", ["_mariadb_shim", "dml", "enumerated", "expression", "json", "mariadb", "reflection",
      "reserved_words", "types"]),
    ("mariadb", ["_mariadb_shim", "dml", "enumerated", "expression", "json", "mariadb", "provision",
      "reflection", "reserved_words", "types"]),
    ("postgresql", ["_psycopg_common", "bitstring", "dml", "ext", "json", "named_types",
      "operators", "pg_catalog", "ranges", "types"]),
    ("mssql", ["information_schema", "json"]),
    ("oracle", ["dictionary", "json", "types", "vector"])]

/-- The types of columns and statements of dialects. -/
def types : NameTable :=
  [("sqlite", ["BLOB", "BOOLEAN", "CHAR", "DATE", "DATETIME", "DECIMAL", "FLOAT", "INTEGER", "JSON",
      "NUMERIC", "REAL", "SMALLINT", "TEXT", "TIME", "TIMESTAMP", "VARCHAR", "Insert"]),
    ("mysql", ["BIGINT", "BINARY", "BIT", "BLOB", "BOOLEAN", "CHAR", "DATE", "DATETIME", "DECIMAL",
      "DOUBLE", "ENUM", "FLOAT", "INET4", "INET6", "INTEGER", "JSON", "LONGBLOB", "LONGTEXT",
      "MEDIUMBLOB", "MEDIUMINT", "MEDIUMTEXT", "NCHAR", "NUMERIC", "NVARCHAR", "REAL", "SET",
      "SMALLINT", "TEXT", "TIME", "TIMESTAMP", "TINYBLOB", "TINYINT", "TINYTEXT", "VARBINARY",
      "VARCHAR", "YEAR", "Insert", "match"]),
    ("postgresql", ["ARRAY", "BIGINT", "BIT", "BOOLEAN", "BYTEA", "CHAR", "CIDR", "CITEXT", "DATE",
      "DOMAIN", "DOUBLE", "DOUBLE_PRECISION", "ENUM", "FLOAT", "HSTORE", "INET", "INTEGER",
      "INTERVAL", "JSON", "JSONB", "JSONPATH", "MACADDR", "MACADDR8", "MONEY", "NUMERIC", "OID",
      "REAL", "REGCLASS", "REGCONFIG", "SMALLINT", "TEXT", "TIME", "TIMESTAMP", "TSQUERY",
      "TSVECTOR", "UUID", "VARCHAR", "INT4RANGE", "INT8RANGE", "NUMRANGE", "DATERANGE", "TSRANGE",
      "TSTZRANGE", "INT4MULTIRANGE", "INT8MULTIRANGE", "NUMMULTIRANGE", "DATEMULTIRANGE",
      "TSMULTIRANGE", "TSTZMULTIRANGE", "AbstractRange", "AbstractSingleRange",
      "AbstractMultiRange", "Range", "MultiRange", "BitString", "NamedType", "CreateEnumType",
      "DropEnumType", "CreateDomainType", "DropDomainType", "Insert", "ExcludeConstraint",
      "aggregate_order_by", "array", "hstore", "to_tsvector", "to_tsquery", "plainto_tsquery",
      "phraseto_tsquery", "websearch_to_tsquery", "ts_headline"]),
    ("mssql", ["BIGINT", "BINARY", "BIT", "CHAR", "DATE", "DATETIME", "DATETIME2",
      "DATETIMEOFFSET", "DECIMAL", "DOUBLE_PRECISION", "FLOAT", "IMAGE", "INTEGER", "JSON",
      "MONEY", "NCHAR", "NTEXT", "NUMERIC", "NVARCHAR", "REAL", "ROWVERSION", "SMALLDATETIME",
      "SMALLINT", "SMALLMONEY", "SQL_VARIANT", "TEXT", "TIME", "TIMESTAMP", "TINYINT",
      "UNIQUEIDENTIFIER", "VARBINARY", "VARCHAR", "XML"]),
    ("oracle", ["BFILE", "BINARY_DOUBLE", "BINARY_FLOAT", "BLOB", "BOOLEAN", "CHAR", "CLOB", "DATE",
      "DOUBLE_PRECISION", "FLOAT", "INTERVAL", "JSON", "LONG", "NCHAR", "NCLOB", "NUMBER",
      "NVARCHAR", "RAW", "REAL", "ROWID", "TIMESTAMP", "VARCHAR", "VARCHAR2", "VECTOR",
      "VectorIndexConfig", "SparseVector"])]

/-- The types of dialects with a fixed number of values. -/
def enumerations : NameTable :=
  [("oracle", ["VectorDistanceType", "VectorIndexType", "VectorStorageFormat",
    "VectorStorageType"])]

/-- The functions of dialects. -/
def functions : NameTable :=
  [("sqlite", ["insert"]), ("mysql", ["insert", "limit"]),
    ("postgresql", ["insert", "All", "Any", "array_agg", "distinct_on"]), ("mssql", ["try_cast"])]

/-- Members under another name than their own. -/
def renamed : List ((String × String) × DialectMember) :=
  [(("sqlite", "dialect"), .type "SQLiteDialect_pysqlite"),
    (("mysql", "dialect"), .type "MySQLDialect_mysqldb"),
    (("postgresql", "dialect"), .type "PGDialect_psycopg"),
    (("postgresql", "arraylib"), .module "postgresql" "array"),
    (("postgresql", "ModuleType"), .type "module"),
    (("mssql", "dialect"), .type "MSDialect_pyodbc"),
    (("oracle", "dialect"), .type "OracleDialect_oracledb"),
    (("oracle", "ModuleType"), .type "module"),
    (("oracle", "NVARCHAR2"), .type "NVARCHAR")]

/-- What every dialect has, by its kind. -/
def common : NameTable :=
  [("str", ["__cached__", "__file__", "__name__", "__package__"]),
    ("list", ["__path__"]),
    ("tuple", ["__all__"]),
    ("dict", ["__annotations__", "__builtins__", "__dict__"]),
    ("NoneType", ["__doc__"]),
    ("SourceFileLoader", ["__loader__"]),
    ("ModuleSpec", ["__spec__"]),
    ("method-wrapper", ["__delattr__", "__eq__", "__ge__", "__getattribute__", "__gt__", "__hash__",
      "__init__", "__le__", "__lt__", "__ne__", "__repr__", "__setattr__", "__str__"]),
    ("builtin_function_or_method", ["__dir__", "__format__", "__getstate__", "__init_subclass__",
      "__new__", "__reduce__", "__reduce_ex__", "__sizeof__", "__subclasshook__"])]

/-- What every dialect has under a name. -/
def commonMember? (name : String) : Option DialectMember :=
  if name = "__class__" then some (.type "module")
  else (common.find? fun kind => kind.2.contains name).map fun kind => .object kind.1

/-- The member of a dialect with a name.  Of the dialect that is spoken through another one only the
parts can be named. -/
def member? (dialect name : String) : Option DialectMember :=
  if dialect = "mariadb" then
    if lists modules dialect name then some (.module "mysql" name) else none
  else if lists modules dialect name then some (.module dialect name)
  else if lists types dialect name then some (.type name)
  else if lists enumerations dialect name then some .enumeration
  else if lists functions dialect name then some (.object "function")
  else (renamed.lookup (dialect, name)).or
    (if modules.any (·.1 = dialect) then commonMember? name else none)

/-! ### Finding a driver -/

/-- The driver of a dialect that is taken when none is named. -/
def standard? (dialect : String) : Option Driver :=
  known.find? fun d => d.dialect = dialect && d.byDefault

/-- The driver of a dialect with a name; the common base of all drivers stands for the standard
one. -/
def named? (dialect name : String) : Option Driver :=
  if name = "base" then standard? dialect
  else known.find? fun d => d.dialect = dialect && d.name = name

/-- The driver that an address asks for. -/
def find (address : DatabaseAddress) : Except DriverDefect Driver :=
  match address.names.drop 1 with
  | [] =>
    match standard? address.dialect with
    | some driver => .ok driver
    | none => .error (.unknown address.dialect)
  | [name] =>
    match named? address.dialect name, member? address.dialect name with
    | some driver, _ => .ok driver
    | none, some member => .error (.notDriver member)
    | none, none => .error (.unknown (address.dialect ++ "." ++ name))
  | _ => .error .many

end Driver

end UsageLedger
