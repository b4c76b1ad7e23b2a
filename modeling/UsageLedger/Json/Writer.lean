/-
Writing JSON texts.

A value is written without spaces.  Values that JSON has no form for are written as
texts.  Infinite and undefined doubles are written as the words that the reader takes,
which the standard does not know, and a text that is no run of characters cannot be sent
at all, nor can bytes that encode none; `isStandard` says that a value has none of them.
-/
import UsageLedger.Text.Utf8
import UsageLedger.Value

namespace UsageLedger.Json

/-- One character of a text. -/
def writeChar (c : Char) : List Char :=
  if c = '"' then ['\\', '"']
  else if c = '\\' then ['\\', '\\']
  else if c.toNat < 0x20 ∨ c.toNat = 0x7F then ['\\', 'u'] ++ Text.hexadecimal 4 c.toNat
  else [c]

/-- A text with its quotes. -/
def writeText (s : String) : String :=
  String.ofList ('"' :: s.toList.flatMap writeChar ++ ['"'])

/-- A double as a number, or as one of the words for what is no number. -/
def writeFloat : Binary64 → String
  | .nan => "NaN"
  | .infinity negative => if negative then "-Infinity" else "Infinity"
  | x => x.text

mutual

/-- The JSON text of a value. -/
def write : Value → String
  | .null => "null"
  | .bool b => if b then "true" else "false"
  | .int n => Text.integer n
  | .float x => writeFloat x
  | .list items => "[" ++ Value.joinWith "," (writeItems items) ++ "]"
  | .record fields => "\x7b" ++ Value.joinWith "," (writeFields fields) ++ "\x7d"
  | v => writeText v.plain

/-- The JSON texts of the items of a list. -/
def writeItems : List Value → List String
  | [] => []
  | v :: rest => write v :: writeItems rest

/-- The JSON texts of the fields of a record. -/
def writeFields : List (String × Value) → List String
  | [] => []
  | (name, v) :: rest => (writeText name ++ ":" ++ write v) :: writeFields rest

end

mutual

/-- No double in the value is infinite or undefined; all texts and bytes stand for characters. -/
def isStandard : Value → Bool
  | .float x => x.isFinite
  | .brokenText _ => false
  | .bytes b => (Text.readUtf8? b).isSome
  | .list items => allStandard items
  | .record fields => allFieldsStandard fields
  | _ => true

/-- All items are standard. -/
def allStandard : List Value → Bool
  | [] => true
  | v :: rest => isStandard v && allStandard rest

/-- All fields are standard. -/
def allFieldsStandard : List (String × Value) → Bool
  | [] => true
  | (_, v) :: rest => isStandard v && allFieldsStandard rest

end

end UsageLedger.Json
