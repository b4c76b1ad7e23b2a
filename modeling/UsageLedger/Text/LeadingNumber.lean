/-
The number at the front of a text.

A column of numbers looks for a number wherever it is given a text: blanks, a sign,
digits with a point among them, and an exponent.  All of the text may be used up by it,
apart from blanks at the end, or something else may follow.  Only ASCII counts, for
blanks as for digits.
-/
import UsageLedger.Number.Extended

namespace UsageLedger

/-- The parts of the number at the front of a text. -/
structure LeadingNumber where
  negative : Bool
  /-- The digits before the point. -/
  whole : List Nat
  /-- The digits after the point, if there is one. -/
  fraction : Option (List Nat)
  /-- The sign and the digits after the mark of an exponent, if there is one. -/
  exponent : Option (Bool × List Nat)
  /-- Nothing but blanks follows. -/
  ended : Bool
  deriving DecidableEq, Repr

namespace LeadingNumber

/-- The blanks of ASCII. -/
def isAsciiBlank (c : Char) : Bool := c = ' ' || ('\t' ≤ c && c ≤ '\r')

/-- The digits after a point, if one comes first, and what follows them. -/
def readFraction : List Char → Option (List Nat) × List Char
  | '.' :: rest => let (digits, rest) := Decimal.leadingDigits rest; (some digits, rest)
  | rest => (none, rest)

/-- The exponent after its mark, if that comes first, and what follows it. -/
def readExponent : List Char → Option (Bool × List Nat) × List Char
  | [] => (none, [])
  | c :: rest =>
    if c = 'e' ∨ c = 'E' then
      let (negative, rest) := Text.splitSign rest
      let (digits, rest) := Decimal.leadingDigits rest
      (some (negative, digits), rest)
    else (none, c :: rest)

/-- Reads the number at the front of a text. -/
def read (text : List Char) : LeadingNumber :=
  let (negative, rest) := Text.splitSign (text.dropWhile isAsciiBlank)
  let (whole, rest) := Decimal.leadingDigits rest
  let (fraction, rest) := readFraction rest
  let (exponent, rest) := readExponent rest
  ⟨negative, whole, fraction, exponent, rest.all isAsciiBlank⟩

/-- There is a digit before or after the point. -/
def hasDigits (n : LeadingNumber) : Bool := !n.whole.isEmpty || !(n.fraction.getD []).isEmpty

/-- The mark of an exponent, if there is one, has digits after it. -/
def hasSoundExponent (n : LeadingNumber) : Bool := n.exponent.all fun e => !e.2.isEmpty

/-- The whole text is a number. -/
def isNumber (n : LeadingNumber) : Bool := n.ended && n.hasDigits && n.hasSoundExponent

/-- The number has a point or a sound exponent, which a whole number has not. -/
def isReal (n : LeadingNumber) : Bool :=
  n.hasDigits && (n.fraction.isSome || (n.exponent.isSome && n.hasSoundExponent))

/-- The number before any point or exponent; no digits make zero. -/
def integer (n : LeadingNumber) : Int := Text.signed n.negative (Text.ofDigits 10 n.whole)

/-- A significand from here on has no room for another digit in 64 bits. -/
def significandBound : Nat := 922337203685477579

/-- Takes one more digit into a significand, or counts it as left out. -/
def takeDigit (taken : Nat × Nat) (digit : Nat) : Nat × Nat :=
  if taken.1 < significandBound then (10 * taken.1 + digit, taken.2) else (taken.1, taken.2 + 1)

/-- Takes one more digit into an exponent, which stops growing when it is out of all bounds. -/
def takeExponent (exponent digit : Nat) : Nat :=
  if exponent < 10000 then 10 * exponent + digit else 10000

/-- The number with its fraction and exponent as a double.  Digits that the significand has no room
for count as zeros. -/
def real (n : LeadingNumber) : Binary64 :=
  let fraction := n.fraction.getD []
  let (negative, digits) := n.exponent.getD (false, [])
  let (significand, leftOut) := (n.whole ++ fraction).foldl takeDigit (0, 0)
  Extended.ofScaled n.negative significand
    (Text.signed negative (digits.foldl takeExponent 0) - fraction.length + leftOut)

end LeadingNumber

end UsageLedger
