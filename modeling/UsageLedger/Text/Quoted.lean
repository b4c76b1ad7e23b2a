/-
Quoted forms of texts and byte strings.

A text is put between single quotes, or between double quotes when it holds a
single quote and no double quote.  Backslash, the quote in use, line feed, carriage
return and tab have short escapes; any other unprintable character is written by
its code point in the shortest of three fixed widths.  Byte strings follow the same
rule over ASCII, after a leading letter b.
-/
import UsageLedger.Text.Integer
import UsageLedger.Text.Printable

namespace UsageLedger.Text

/-- The quote that needs the fewest escapes, preferring the single one. -/
def chooseQuote (text : List Char) : Char :=
  if text.contains '\'' && !text.contains '"' then '"' else '\''

/-- One character inside quotes. -/
def quoteChar (quote : Char) (c : Char) : List Char :=
  if c = quote ∨ c = '\\' then ['\\', c]
  else if c = '\n' then ['\\', 'n']
  else if c = '\r' then ['\\', 'r']
  else if c = '\t' then ['\\', 't']
  else if isPrintable c then [c]
  else if c.toNat < 0x100 then ['\\', 'x'] ++ hexadecimal 2 c.toNat
  else if c.toNat < 0x10000 then ['\\', 'u'] ++ hexadecimal 4 c.toNat
  else ['\\', 'U'] ++ hexadecimal 8 c.toNat

/-- The quoted form of a text. -/
def quoted (text : String) : String :=
  let quote := chooseQuote text.toList
  String.ofList (quote :: text.toList.flatMap (quoteChar quote) ++ [quote])

/-- The code unit is half of a pair and stands for no character by itself. -/
def isHalfUnit (n : Nat) : Bool := 0xD800 ≤ n && n < 0xE000

/-- One code point inside quotes.  Half of a pair is never printable. -/
def quoteCode (quote : Char) (n : Nat) : List Char :=
  if isHalfUnit n then ['\\', 'u'] ++ hexadecimal 4 n else quoteChar quote (Char.ofNat n)

/-- The quoted form of a text with halves of pairs in it. -/
def quotedCodes (codes : List Nat) : String :=
  let quote := chooseQuote ((codes.filter (!isHalfUnit ·)).map Char.ofNat)
  String.ofList (quote :: codes.flatMap (quoteCode quote) ++ [quote])

/-- One byte inside quotes. -/
def quoteByte (quote : Char) (b : UInt8) : List Char :=
  if b.toNat < 0x80 then quoteChar quote (Char.ofNat b.toNat)
  else ['\\', 'x'] ++ hexadecimal 2 b.toNat

/-- The quoted form of a byte string. -/
def quotedBytes (bytes : List UInt8) : String :=
  let quote := chooseQuote ((bytes.filter (·.toNat < 0x80)).map fun b => Char.ofNat b.toNat)
  String.ofList ('b' :: quote :: bytes.flatMap (quoteByte quote) ++ [quote])

end UsageLedger.Text
