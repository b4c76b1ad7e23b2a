/-
Numbers in texts, read with a reason when there is none.

`readWhole` reads what `readInteger?` reads, and says whether a text is no number or one
with too many digits to be converted.  The text in a reason is cut after two hundred
characters.  `readReal` reads a double: digits of any script with single underscores between
two of them, a point, an exponent, or the name of what is no number.
-/
import UsageLedger.Number.Binary64
import UsageLedger.Text.Quoted
import UsageLedger.Text.Split

namespace UsageLedger.Text

/-- Why a text is no number. -/
inductive NumeralDefect
  | notWhole (text : String)
  | tooLong (digits : Nat)
  | notReal (text : String)
  deriving DecidableEq, Repr

/-- The wording of a defect. -/
def NumeralDefect.message : NumeralDefect → String
  | notWhole text => "invalid literal for int() with base 10: " ++
      String.ofList ((quoted text).toList.take 200)
  | tooLong digits => "Exceeds the limit (" ++ integer maxDigits ++
      " digits) for integer string conversion: value has " ++ integer digits ++
      " digits; use sys.set_int_max_str_digits() to increase the limit"
  | notReal text => "could not convert string to float: " ++ quoted text

/-- Reads a decimal whole number.  Digits are counted before the rest of the text is looked at. -/
def readWhole (text : String) : Except NumeralDefect Int :=
  let (negative, rest) := splitSign (trim isWhiteSpace text.toList)
  let run := rest.takeWhile fun c => (decimalDigit? c).isSome || c = '_'
  match digitRun? decimalDigit? run with
  | none => .error (.notWhole text)
  | some digits =>
    if maxDigits < digits.length then .error (.tooLong digits.length)
    else if run.length = rest.length then .ok (signed negative (ofDigits 10 digits))
    else .error (.notWhole text)

/-! ### Doubles -/

/-- A digit of any script as the ASCII digit of its value. -/
def asciiForm (c : Char) : Char :=
  match decimalDigit? c with
  | some d => digitChar d
  | none => c

/-- The character is an ASCII digit. -/
def isAsciiDigit (c : Char) : Bool := (asciiDigit? c).isSome

/-- A text without its underscores, each of which has to stand between two digits. -/
def joinDigitGroups? (text : List Char) : Option (List Char) :=
  let groups := parts '_' text
  let endsInDigit (group : List Char) : Bool := (group.getLast?.map isAsciiDigit).getD false
  let beginsWithDigit (group : List Char) : Bool := (group.head?.map isAsciiDigit).getD false
  if groups.dropLast.all endsInDigit && (groups.drop 1).all beginsWithDigit then
    some groups.flatten
  else none

/-- Reads a double. -/
def readReal (text : String) : Except NumeralDefect Binary64 :=
  let cs := (trim isWhiteSpace text.toList).map asciiForm
  match (joinDigitGroups? cs).bind fun digits => Decimal.read? (String.ofList digits) with
  | some (.nan _ false none) => .ok .nan
  | some (.nan ..) | none => .error (.notReal text)
  | some d => .ok (.ofDecimal d)

end UsageLedger.Text
