/-
Whole numbers as text.

A number is read with optional white space around it, one optional sign, and
digits in which single underscores may separate two digits.  Digits of any script
count.  A decimal text of more than `maxDigits` digits is refused, so reading stays
cheap on hostile input.  Writing is the usual decimal form without leading zeros.
-/
import UsageLedger.Text.Blank
import UsageLedger.Text.Digit

namespace UsageLedger.Text

/-- The digit values of a text made of digits with single underscores between two of them. -/
def digitRun? (value : Char → Option Nat) : List Char → Option (List Nat)
  | [] => none
  | [c] => (value c).map fun d => [d]
  | c :: '_' :: rest =>
    match value c, digitRun? value rest with
    | some d, some ds => some (d :: ds)
    | _, _ => none
  | c :: rest =>
    match value c, digitRun? value rest with
    | some d, some ds => some (d :: ds)
    | _, _ => none

/-- The number that digit values denote in a base, most significant first. -/
def ofDigits (base : Nat) (digits : List Nat) : Nat :=
  digits.foldl (fun n d => base * n + d) 0

/-- Splits one leading sign off a text; `true` means negative. -/
def splitSign : List Char → Bool × List Char
  | '+' :: rest => (false, rest)
  | '-' :: rest => (true, rest)
  | rest => (false, rest)

/-- A magnitude with a sign. -/
def signed (negative : Bool) (n : Nat) : Int := if negative then -(n : Int) else n

/-- A decimal text of more digits than this is refused. -/
def maxDigits : Nat := 4300

/-- Reads a decimal whole number. -/
def readInteger? (text : List Char) : Option Int :=
  let (negative, rest) := splitSign (trim isWhiteSpace text)
  match digitRun? decimalDigit? rest with
  | some digits =>
    if digits.length ≤ maxDigits then some (signed negative (ofDigits 10 digits)) else none
  | none => none

/-- Removes one underscore at the front of a text. -/
def dropUnderscore : List Char → List Char
  | '_' :: rest => rest
  | rest => rest

/-- Removes the marker of a hexadecimal number, a zero of any script and an `x`, after which one
underscore may stand. -/
def dropHexMarker : List Char → List Char
  | zero :: mark :: rest =>
    if decimalDigit? zero = some 0 ∧ (mark = 'x' ∨ mark = 'X') then dropUnderscore rest
    else zero :: mark :: rest
  | rest => rest

/-- Reads a hexadecimal whole number. -/
def readHexInteger? (text : List Char) : Option Int :=
  let (negative, rest) := splitSign (trim isWhiteSpace text)
  (digitRun? hexDigit? (dropHexMarker rest)).map fun digits => signed negative (ofDigits 16 digits)

/-- The digits of a number in a base, most significant first; zero has one digit. -/
def digits (base : Nat) (n : Nat) : List Nat :=
  if _short : n < base ∨ base < 2 then [n]
  else digits base (n / base) ++ [n % base]
termination_by n
decreasing_by exact Nat.div_lt_self (by omega) (by omega)

/-- The decimal form of a natural number. -/
def decimal (n : Nat) : List Char := (digits 10 n).map digitChar

/-- The decimal form of a whole number, as it appears in messages. -/
def integer (n : Int) : String :=
  String.ofList (if n < 0 then '-' :: decimal n.natAbs else decimal n.natAbs)

/-- The wording for a number that is too long to be read or written. -/
def digitLimit : String :=
  "Exceeds the limit (" ++ integer maxDigits ++ " digits) for integer string conversion; " ++
    "use sys.set_int_max_str_digits() to increase the limit"

/-- The number has few enough digits to be written. -/
def isWritable (n : Int) : Bool := n.natAbs < Nat.pow 10 maxDigits

/-- Exactly two decimal digits of a number below a hundred. -/
def twoDigits (n : Nat) : List Char := [digitChar (n / 10 % 10), digitChar (n % 10)]

/-- Exactly four decimal digits of a number below ten thousand. -/
def fourDigits (n : Nat) : List Char := twoDigits (n / 100) ++ twoDigits (n % 100)

/-- Exactly six decimal digits of a number below a million. -/
def sixDigits (n : Nat) : List Char :=
  twoDigits (n / 10000) ++ twoDigits (n / 100 % 100) ++ twoDigits (n % 100)

/-- Lower-case hexadecimal digits of a number, padded with zeros to a width. -/
def hexadecimal (width : Nat) (n : Nat) : List Char :=
  (List.range width).reverse.map fun i => digitChar (n / Nat.pow 16 i % 16)

end UsageLedger.Text
