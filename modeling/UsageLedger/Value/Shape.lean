/-
Values that are used as if they were of a shape.

Much of what is handed in is used as a record, a list or a text without being looked at
first, so that a value of another shape is found out only by what it lacks.  Each function
here gives the value in the shape that is wanted, or the fault that is met.
-/
import UsageLedger.Fault

namespace UsageLedger.Value

/-- What is met when a value is asked for something that its kind does not have. -/
def lacks (v : Value) (member : String) : Fault :=
  .badAttribute ("'" ++ v.qualifiedKindName ++ "' object has no attribute '" ++ member ++ "'")

/-- What is met when a value is not of a kind with a use. -/
def isNo (v : Value) (use : String) : Fault :=
  .badType ("'" ++ v.qualifiedKindName ++ "' object is not " ++ use)

/-- The record that a value is, to look names up in. -/
def asRecord : Value → Except Fault Record
  | record r => .ok r
  | v => .error (v.lacks "get")

/-- The record that a value is, to put its fields into another one. -/
def spread : Value → Except Fault Record
  | record r => .ok r
  | v => .error (v.isNo "a mapping")

/-- The text that a value is, to encode it. -/
def asText (member : String) : Value → Except Fault String
  | text s => .ok s
  | brokenText t => .error (.unencodable t)
  | v => .error (v.lacks member)

/-- What a value is made of, one after the other: the items of a list, the characters of a text, the
numbers of bytes, the names of a record. -/
def elements : Value → Except Fault (List Value)
  | list items => .ok items
  | text s => .ok (s.toList.map fun c => .text (String.singleton c))
  | brokenText t => .ok (t.codes.map fun code => ofCodes [code])
  | bytes b => .ok (b.map fun byte => .int byte.toNat)
  | record r => .ok (r.map fun field => .text field.1)
  | v => .error (v.isNo "iterable")

end UsageLedger.Value
