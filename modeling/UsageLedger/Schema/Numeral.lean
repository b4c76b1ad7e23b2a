/-
Whole numbers in submitted texts.

A plain numeral is an optional minus and digits, of which the first is not zero unless it is
the only one.  A text that is no plain numeral is tidied once and has to be one then: blanks
around it, a plus, leading zeros, a point with zeros and underscores between digits are
taken off, in this order, and each step says which texts it does not let through.  A minus in
front is set aside meanwhile.

Numerals of more than `Text.maxDigits` digits are not converted.  Such a text is told apart
from one that is no number only while it stands as it was given.
-/
import UsageLedger.Schema.Violation
import UsageLedger.Text.Split

namespace UsageLedger.Schema

/-- An ASCII digit other than zero. -/
def isLeadingDigit (c : Char) : Bool := '1' ≤ c && c ≤ '9'

/-- Reads a magnitude that does not begin with a zero unless it is zero. -/
def readPlainMagnitude? (text : List Char) : Option Nat :=
  match Decimal.leadingDigits text with
  | ([d], []) => some d
  | (d :: ds, []) => if d = 0 then none else some (Text.ofDigits 10 (d :: ds))
  | _ => none

/-- A minus at the front of a text, and what follows it. -/
def splitMinus : List Char → Bool × List Char
  | '-' :: rest => (true, rest)
  | text => (false, text)

/-- Reads a plain numeral. -/
def readPlainNumeral? (text : List Char) : Option Int :=
  let (negative, rest) := splitMinus text
  (readPlainMagnitude? rest).map (Text.signed negative)

/-- A text begins with a numeral that is too long to be converted. -/
def isOversized (text : List Char) : Bool :=
  let span := (splitMinus text).2.takeWhile fun c => (Text.asciiDigit? c).isSome
  (span.head?.map isLeadingDigit).getD false && Text.maxDigits < span.length

/-! ### Tidying -/

/-- Takes off one plus, after which no minus may stand. -/
def dropPlus? : List Char → Option (List Char)
  | '+' :: '-' :: _ => none
  | '+' :: rest => some rest
  | text => some text

/-- Passes over zeros and underscores.  Of a text that has nothing else the last character is
left, and of one that goes on with a point the character before it. -/
def skipZeros? (last : Char) : List Char → Option (List Char)
  | [] => some [last]
  | c :: rest =>
    if c = '0' ∨ c = '_' then skipZeros? c rest
    else if c = '.' then some (last :: c :: rest)
    else if c = '-' ∨ isLeadingDigit c then some (c :: rest)
    else none

/-- Takes off leading zeros. -/
def dropLeadingZeros? : List Char → Option (List Char)
  | [] => none
  | c :: rest =>
    if c = '0' then skipZeros? c rest
    else if c = '-' ∨ isLeadingDigit c then some (c :: rest)
    else none

/-- Takes off a point with zeros after it that ends the text. -/
def dropZeroFraction (text : List Char) : List Char :=
  match text.dropWhile (· ≠ '.') with
  | _ :: d :: ds => if (d :: ds).all (· = '0') then text.takeWhile (· ≠ '.') else text
  | _ => text

/-- Takes out underscores, each of which has to stand alone between two other characters. -/
def joinUnderscores? (text : List Char) : Option (List Char) :=
  let groups := Text.parts '_' text
  if groups.any List.isEmpty then none else some groups.flatten

/-- A text without what may surround a numeral. -/
def tidyNumeral? (text : List Char) : Option (List Char) := do
  let (negative, text) := splitMinus (← dropPlus? (Text.trim Text.isWhiteSpace text))
  let tidy ← joinUnderscores? (dropZeroFraction (← dropLeadingZeros? text))
  return if negative then '-' :: tidy else tidy

/-- Reads the text of a whole number. -/
def readIntegerText (text : String) : Except SchemaDefect Int :=
  let given := text.toList
  if isOversized given then .error .hugeInteger
  else match readPlainNumeral? given with
    | some n => .ok n
    | none =>
      match tidyNumeral? given with
      | none => .error .unreadableInteger
      | some tidy =>
        if isOversized tidy then .error .unreadableInteger
        else match readPlainNumeral? tidy with
          | some n => .ok n
          | none => .error .unreadableInteger

end UsageLedger.Schema
