/-
Doubles with a fixed number of significant digits.

A double is cut after fifteen digits, which are worked out with significands of sixty-four
bits, and zeros at the end are dropped.  The text has a point with a digit after it in any
case; it is positional while the first digit stands between the fourth place after the point
and the fifteenth before it.
-/
import UsageLedger.Number.Extended

namespace UsageLedger

namespace Binary64

/-- The number of significant digits that are shown. -/
def significantDigits : Nat := 15

/-- A point, and the digits after it or a zero when there are none. -/
def pointAnd (digits : List Char) : List Char := '.' :: (if digits.isEmpty then ['0'] else digits)

/-- Significant digits in scientific notation. -/
def significantScientific (digits : List Char) (order : Int) : List Char :=
  let exponent := Text.decimal order.natAbs
  digits.take 1 ++ pointAnd (digits.drop 1) ++ ['e', if order < 0 then '-' else '+'] ++
    (if exponent.length < 2 then '0' :: exponent else exponent)

/-- Significant digits in positional notation. -/
def significantPositional (digits : List Char) (order : Int) : List Char :=
  if order < 0 then '0' :: pointAnd (List.replicate (-order - 1).toNat '0' ++ digits)
  else
    let whole := order.toNat + 1
    digits.take whole ++ List.replicate (whole - digits.length) '0' ++ pointAnd (digits.drop whole)

/-- The text of a positive magnitude. -/
def significantMagnitude (magnitude : Rat) : List Char :=
  let (digits, order) := Extended.leadingDigits significantDigits magnitude
  let shown := (digits.map Text.digitChar).reverse.dropWhile (· = '0') |>.reverse
  if -4 ≤ order ∧ order < significantDigits then significantPositional shown order
  else significantScientific shown order

/-- The text of a double with its significant digits; zero has no sign. -/
def significantText (x : Binary64) : String :=
  match x with
  | nan => "NaN"
  | infinity negative => if negative then "-Inf" else "Inf"
  | finite negative mantissa exponent =>
    if mantissa = 0 then "0.0"
    else String.ofList ((if negative then ['-'] else []) ++
      significantMagnitude (scaleTwo mantissa exponent))

end Binary64

end UsageLedger
