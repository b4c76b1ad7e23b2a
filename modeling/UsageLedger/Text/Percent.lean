/-
Percent-encoded texts.

A byte can be written as a percent sign with two hexadecimal digits.  Reading puts the
bytes of a text together and takes them as UTF-8; a percent sign without two digits stands
for itself.  Writing leaves letters, digits and four marks as they are, and whatever else
the place allows.

A query is a run of named values, in which a plus stands for a space (`queryFields`).
-/
import UsageLedger.Text.Digit
import UsageLedger.Text.Integer
import UsageLedger.Text.Split
import UsageLedger.Text.Utf8

namespace UsageLedger.Text

/-- The bytes of a percent-encoded text.  A percent sign without two digits stands for itself. -/
def percentBytes : List Char → List UInt8
  | [] => []
  | '%' :: high :: low :: rest =>
    match asciiHexDigit? high, asciiHexDigit? low with
    | some h, some l => UInt8.ofNat (16 * h + l) :: percentBytes rest
    | _, _ => utf8Bytes '%' ++ percentBytes (high :: low :: rest)
  | c :: rest => utf8Bytes c ++ percentBytes rest

/-- Decodes a percent-encoded text. -/
def percentDecode (cs : List Char) : List Char := decodeUtf8 (percentBytes cs)

/-- The character is never encoded. -/
def isUnreserved (c : Char) : Bool :=
  c.isAlphanum || c = '_' || c = '.' || c = '-' || c = '~'

/-- A byte as a percent sign and two digits. -/
def percentByte (b : UInt8) : List Char :=
  '%' :: (hexadecimal 2 b.toNat).map Char.toUpper

/-- Encodes a text, except for the characters that are safe in its place. -/
def percentEncode (isSafe : Char → Bool) (cs : List Char) : List Char :=
  cs.flatMap fun c =>
    if isUnreserved c || isSafe c then [c] else (utf8Bytes c).flatMap percentByte

/-! ### Queries -/

/-- Decodes a part of a query. -/
def queryDecode (cs : List Char) : String :=
  String.ofList (percentDecode (cs.map fun c => if c = '+' then ' ' else c))

/-- Encodes a part of a query. -/
def queryEncode (s : String) : List Char :=
  (percentEncode (· = ' ') s.toList).map fun c => if c = ' ' then '+' else c

/-- A named value of a query.  A name without a value has the empty one. -/
def queryField (field : List Char) : String × String :=
  (queryDecode (field.takeWhile (· ≠ '=')), queryDecode ((field.dropWhile (· ≠ '=')).drop 1))

/-- The named values of a query. -/
def queryFields (query : List Char) : List (String × String) :=
  ((parts '&' query).filter (· ≠ [])).map queryField

end UsageLedger.Text
