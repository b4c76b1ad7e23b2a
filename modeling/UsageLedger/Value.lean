/-
Values as they are submitted.

What is handed to the ledger from outside has no fixed shape, so there is one type for
all of it: the plain values of a data format, and with them exact decimals, byte
strings, identifiers, timestamps and objects that were built before.  A record is a list
of named values in the order given, and the first value under a name is the one that
counts.

`Value.plain` is the text of a value inside a sentence, `Value.literal` the text that
tells values of different kinds apart.
-/
import UsageLedger.Calendar.Timestamp
import UsageLedger.Number.Shortest
import UsageLedger.Text.Broken
import UsageLedger.Uuid

namespace UsageLedger

/-- A submitted value. -/
inductive Value
  | null
  | bool (b : Bool)
  | int (n : Int)
  | float (x : Binary64)
  | decimal (d : Decimal)
  | text (s : String)
  | bytes (b : List UInt8)
  | uuid (u : Uuid)
  | timestamp (t : Timestamp)
  | list (items : List Value)
  | record (fields : List (String × Value))
  /-- An object of a named class: the class of a part of it that can change, if there is one, its
  attributes with their literals, and the record that it is written as. -/
  | object (className : String) (changeable : Option String) (attributes : List (String × String))
      (wire : List (String × Value))
  /-- A text that is no run of characters. -/
  | brokenText (t : BrokenText)
  deriving Repr, Inhabited

/-- Named values in the order given. -/
abbrev Record := List (String × Value)

namespace Record

/-- The value under a name. -/
def get? (r : Record) (name : String) : Option Value := List.lookup name r

/-- The value under a name, a missing one being null. -/
def get (r : Record) (name : String) : Value := (r.get? name).getD .null

/-- A name stands in the record. -/
def has (r : Record) (name : String) : Bool := (r.get? name).isSome

/-- The record with a name set: in place when it is there, at the end otherwise. -/
def set (r : Record) (name : String) (value : Value) : Record :=
  if r.has name then r.map fun field => if field.1 = name then (name, value) else field
  else r ++ [(name, value)]

end Record

namespace Value

/-- The name of the kind of a value, as messages give it. -/
def kindName : Value → String
  | null => "NoneType"
  | bool _ => "bool"
  | int _ => "int"
  | float _ => "float"
  | decimal _ => "Decimal"
  | text _ => "str"
  | bytes _ => "bytes"
  | uuid _ => "UUID"
  | timestamp _ => "datetime"
  | list _ => "list"
  | record _ => "dict"
  | object className .. => className
  | brokenText _ => "str"

/-- The name of the kind of a value, with the module that it is from where there is one. -/
def qualifiedKindName : Value → String
  | decimal _ => "decimal.Decimal"
  | timestamp _ => "datetime.datetime"
  | v => v.kindName

/-- The value is null. -/
def isNull : Value → Bool
  | null => true
  | _ => false

/-- The value says something: it is not null, false, zero or empty. -/
def isPresent : Value → Bool
  | null => false
  | bool b => b
  | int n => n != 0
  | float x => !x.isZero
  | decimal d => !d.isZero
  | text s => !s.isEmpty
  | bytes b => !b.isEmpty
  | uuid _ => true
  | timestamp _ => true
  | list items => !items.isEmpty
  | record fields => !fields.isEmpty
  | object .. => true
  | brokenText _ => true

/-! ### Texts -/

/-- A text as a value. -/
def ofText : AnyText → Value
  | .whole s => text s
  | .broken t => brokenText t

/-- The text that code points make up, as a value. -/
def ofCodes (codes : List Nat) : Value :=
  match BrokenText.ofCodes? codes with
  | some t => brokenText t
  | none => text (String.ofList (codes.map Char.ofNat))

/-- Texts with a separator between them. -/
def joinWith (separator : String) : List String → String
  | [] => ""
  | [s] => s
  | s :: rest => s ++ separator ++ joinWith separator rest

/-- The literal of an offset: days, seconds and microseconds, the last two within a day. -/
def offsetLiteral (offset : Int) : String :=
  if offset = 0 then "datetime.timezone.utc"
  else
    let days := offset / microsPerDay
    let rest := offset % microsPerDay
    let part (name : String) (n : Int) : List String :=
      if n = 0 then [] else [name ++ "=" ++ Text.integer n]
    let parts := part "days" days ++ part "seconds" (rest / 1000000) ++
      part "microseconds" (rest % 1000000)
    "datetime.timezone(datetime.timedelta(" ++ joinWith ", " parts ++ "))"

/-- The literal of a timestamp; seconds and microseconds are left out when they are zero. -/
def timestampLiteral (t : Timestamp) : String :=
  let d := t.date
  let c := t.time
  let tail :=
    if c.microsecond ≠ 0 then [c.second, c.microsecond]
    else if c.second ≠ 0 then [c.second]
    else []
  let parts :=
    ([d.year, d.month, d.day, c.hour, c.minute] ++ tail).map fun (n : Nat) => Text.integer n
  let zone := match t.offset with
    | some o => ["tzinfo=" ++ offsetLiteral o]
    | none => []
  "datetime.datetime(" ++ joinWith ", " (parts ++ zone) ++ ")"

/-- The attributes of an object with their literals. -/
def attributeTexts (attributes : List (String × String)) : List String :=
  attributes.map fun a => a.1 ++ "=" ++ a.2

/-- The literal of an object: its class with its attributes. -/
def objectLiteral (className : String) (attributes : List (String × String)) : String :=
  className ++ "(" ++ joinWith ", " (attributeTexts attributes) ++ ")"

mutual

/-- The text of a value that shows its kind. -/
def literal : Value → String
  | null => "None"
  | bool b => if b then "True" else "False"
  | int n => Text.integer n
  | float x => x.text
  | decimal d => "Decimal('" ++ d.text ++ "')"
  | text s => Text.quoted s
  | bytes b => Text.quotedBytes b
  | uuid u => "UUID('" ++ u.text ++ "')"
  | timestamp t => timestampLiteral t
  | list items => "[" ++ joinWith ", " (literals items) ++ "]"
  | record fields => "\x7b" ++ joinWith ", " (fieldLiterals fields) ++ "\x7d"
  | object className _ attributes _ => objectLiteral className attributes
  | brokenText t => t.quoted

/-- The literals of the items of a list. -/
def literals : List Value → List String
  | [] => []
  | v :: rest => v.literal :: literals rest

/-- The fields of a record with their literals. -/
def fieldLiterals : List (String × Value) → List String
  | [] => []
  | (name, v) :: rest => (Text.quoted name ++ ": " ++ v.literal) :: fieldLiterals rest

end

mutual

/-- A value with the records of objects in place of the objects. -/
def written : Value → Value
  | list items => list (writtenItems items)
  | record fields => record (writtenFields fields)
  | object _ _ _ wire => record wire
  | v => v

/-- Items with the records of objects in place of the objects. -/
def writtenItems : List Value → List Value
  | [] => []
  | v :: rest => v.written :: writtenItems rest

/-- Fields with the records of objects in place of the objects. -/
def writtenFields : List (String × Value) → List (String × Value)
  | [] => []
  | (name, v) :: rest => (name, v.written) :: writtenFields rest

end

/-- The text of a value inside a sentence: a bare text, identifier, decimal or time, the attributes
of an object, a literal otherwise. -/
def plain : Value → String
  | text s => s
  | uuid u => u.text
  | decimal d => d.text
  | timestamp t =>
    let iso := t.isoText.toList
    String.ofList (iso.map fun c => if c = 'T' then ' ' else c)
  | object _ _ attributes _ => joinWith " " (attributeTexts attributes)
  | v => v.literal

end Value

end UsageLedger
