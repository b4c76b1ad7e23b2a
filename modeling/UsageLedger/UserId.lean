/-
Whom an event is about.

A ledger identifies its users in one of three schemes, fixed for its whole life: by
128-bit identifiers or by whole numbers of 64 or 32 bits.  `UserId.parse` is the only
way in from submitted values; it reads every spelling of an identifier to the same
`UserId`, and says what is wrong with a value that is none.
-/
import UsageLedger.Value

namespace UsageLedger

/-- How users are identified. -/
inductive IdScheme
  | uuid
  | bigint
  | int
  deriving DecidableEq, Repr, Inhabited

/-- The identifier of a user. -/
inductive UserId
  | uuid (u : Uuid)
  | number (n : Int)
  deriving DecidableEq, Repr

/-- Why a value identifies no user. -/
inductive UserIdDefect
  /-- A text was needed; the name is that of the kind of value given. -/
  | notText (kind : String)
  | badUuid (text : AnyText)
  | boolean
  | badInteger (text : AnyText)
  /-- A whole number was needed; the name is that of the kind of value given. -/
  | notInteger (kind : String)
  | outOfRange (n : Int) (scheme : IdScheme)
  | unknownScheme (name : String)
  deriving DecidableEq, Repr

namespace IdScheme

/-- The name of a scheme in settings and messages. -/
def name : IdScheme → String
  | uuid => "uuid"
  | bigint => "bigint"
  | int => "int"

/-- The scheme with a name. -/
def ofName? (name : String) : Option IdScheme :=
  [uuid, bigint, int].find? (·.name = name)

/-- The scheme that a value names; one that says nothing leaves the configured scheme. -/
def ofValue (configured : IdScheme) (v : Value) : Except UserIdDefect IdScheme :=
  if !v.isPresent then .ok configured
  else match v with
    | .text name =>
      match ofName? name with
      | some scheme => .ok scheme
      | none => .error (.unknownScheme name)
    | v => .error (.unknownScheme v.plain)

/-- The least and greatest number of a numeric scheme. -/
def bounds? : IdScheme → Option (Int × Int)
  | uuid => none
  | bigint => some (-9223372036854775808, 9223372036854775807)
  | int => some (-2147483648, 2147483647)

/-- The type of the column that holds the users of a scheme. -/
def columnType : IdScheme → String
  | uuid => "Uuid"
  | bigint => "BigInteger"
  | int => "Integer"

end IdScheme

namespace UserIdDefect

/-- The wording of a defect.  A number that is too long to be written is told by that. -/
def message : UserIdDefect → String
  | notText kind => "Invalid UUID: expected a string, got " ++ kind
  | badUuid text => "Invalid UUID: " ++ text.quoted
  | boolean => "Invalid integer id: booleans are not identifiers"
  | badInteger text => "Invalid integer id: " ++ text.quoted
  | notInteger kind => "Invalid integer id: expected int, got " ++ kind
  | outOfRange n scheme =>
    if Text.isWritable n then
      "Integer id " ++ Text.integer n ++ " is out of range for " ++ scheme.name
    else Text.digitLimit
  | unknownScheme name => "Unsupported user id type: " ++ name

end UserIdDefect

namespace UserId

/-- The text of an identifier. -/
def text : UserId → String
  | uuid u => u.text
  | number n => Text.integer n

/-- An identifier as a value. -/
def toValue : UserId → Value
  | uuid u => .uuid u
  | number n => .int n

/-- A text without the blanks around it. -/
def stripped (text : String) : String := String.ofList (Text.trim Text.isBlank text.toList)

/-- Reads a 128-bit identifier. -/
def parseUuid : Value → Except UserIdDefect UserId
  | .uuid u => .ok (uuid u)
  | .text s =>
    match Uuid.read? (stripped s) with
    | some u => .ok (uuid u)
    | none => .error (.badUuid s)
  | .brokenText t => .error (.badUuid (.broken t))
  | v => .error (.notText v.kindName)

/-- A number as an identifier, if it lies within the bounds of the scheme. -/
def ofNumber (scheme : IdScheme) (bounds : Int × Int) (n : Int) : Except UserIdDefect UserId :=
  if bounds.1 ≤ n ∧ n ≤ bounds.2 then .ok (number n) else .error (.outOfRange n scheme)

/-- Reads a numeric identifier. -/
def parseNumber (scheme : IdScheme) (bounds : Int × Int) : Value → Except UserIdDefect UserId
  | .bool _ => .error .boolean
  | .int n => ofNumber scheme bounds n
  | .text s =>
    match Text.readInteger? (Text.trim Text.isBlank s.toList) with
    | some n => ofNumber scheme bounds n
    | none => .error (.badInteger s)
  | .brokenText t => .error (.badInteger (.broken t))
  | v => .error (.notInteger v.kindName)

/-- Reads the identifier of a user in a scheme. -/
def parse (scheme : IdScheme) (value : Value) : Except UserIdDefect UserId :=
  match scheme.bounds? with
  | none => parseUuid value
  | some bounds => parseNumber scheme bounds value

end UserId

end UsageLedger
