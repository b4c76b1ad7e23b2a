/-
The shortest decimal form of a double.

Of all decimals that read back as the same double, the one with the fewest digits
is written, and of those the nearest to the double.  Decimals with k digits lie on
a grid; `shortestOnGrid` looks at the two points of a grid next to the value, and
`shortest` takes the first grid, from one digit upwards, with a point in the
interval of reals that round to the double.  Seventeen digits always suffice.

Written numbers are positional from 0.0001 up to 10^16 and always show a point;
otherwise the exponent has a sign and at least two digits.
-/
import UsageLedger.Number.Binary64

namespace UsageLedger.Binary64

/-- A decimal with its digits as a natural number: `coefficient · 10 ^ exponent`. -/
structure ShortDecimal where
  coefficient : Nat
  exponent : Int
  deriving DecidableEq, Repr

/-- The largest power of ten not above num / den, by its exponent, searched near a guess. -/
def decimalOrder (num den : Nat) : Int :=
  let reaches (p : Int) : Bool := den * Nat.pow 10 p.toNat ≤ num * Nat.pow 10 (-p).toNat
  let guess : Int := (binaryOrder num den * 30103) / 100000
  if reaches (guess + 1) then guess + 1 else if reaches guess then guess else guess - 1

/-- The points of the grid `10 ^ p` next to a value, kept when they round to it; the nearer wins.

All numbers are in units of a quarter of the last binary place: the value is `4 m`, the interval of
reals that round to it goes from `low` to `4 m + 2`, and `closed` tells whether its ends count. -/
def shortestOnGrid (m : Nat) (e : Int) (low : Nat) (closed : Bool) (p : Int) :
    Option ShortDecimal :=
  let unit := e - 2
  let scale (quarters : Nat) : Nat := quarters * Nat.pow 2 unit.toNat * Nat.pow 10 (-p).toNat
  let step := Nat.pow 2 (-unit).toNat * Nat.pow 10 p.toNat
  let value := scale (4 * m)
  let below := value / step
  let above := below + 1
  let inside (c : Nat) : Bool :=
    if closed then scale low ≤ c * step && c * step ≤ scale (4 * m + 2)
    else scale low < c * step && c * step < scale (4 * m + 2)
  match inside below, inside above with
  | true, true =>
    let toBelow := value - below * step
    let toAbove := above * step - value
    some ⟨if toBelow < toAbove ∨ (toBelow = toAbove ∧ below % 2 = 0) then below else above, p⟩
  | true, false => some ⟨below, p⟩
  | false, true => some ⟨above, p⟩
  | false, false => none

/-- Trailing zeros of a coefficient, moved into the exponent. -/
def stripZeros : Nat → ShortDecimal → ShortDecimal
  | 0, d => d
  | fuel + 1, d =>
    if d.coefficient ≠ 0 ∧ d.coefficient % 10 = 0 then
      stripZeros fuel ⟨d.coefficient / 10, d.exponent + 1⟩
    else d

/-- The shortest decimal that reads back as the positive double `m · 2 ^ e`. -/
def shortest (m : Nat) (e : Int) : ShortDecimal :=
  let low := if m = Nat.pow 2 52 ∧ minExponent < e then 4 * m - 1 else 4 * m - 2
  let order := decimalOrder (m * Nat.pow 2 e.toNat) (Nat.pow 2 (-e).toNat)
  let found := (List.range 17).findSome? fun (k : Nat) =>
    shortestOnGrid m e low (m % 2 == 0) (order - k)
  stripZeros 20 (found.getD ⟨0, 0⟩)

/-- Scientific notation, with a point only when there is more than one digit. -/
def scientificForm (digits : List Char) (order : Int) : List Char :=
  let tail := digits.drop 1
  let mantissa := digits.take 1 ++ (if tail.isEmpty then [] else '.' :: tail)
  let exponent := Text.decimal order.natAbs
  mantissa ++ ['e', if order < 0 then '-' else '+'] ++
    (if exponent.length < 2 then '0' :: exponent else exponent)

/-- Positional notation, always with a point. -/
def positionalForm (digits : List Char) (order : Int) : List Char :=
  let body := Decimal.withPoint digits (order + 1)
  if body.contains '.' then body else body ++ ['.', '0']

/-- The text of a finite nonnegative double. -/
def magnitudeText (m : Nat) (e : Int) : List Char :=
  if m = 0 then ['0', '.', '0']
  else
    let d := shortest m e
    let digits := Text.decimal d.coefficient
    let order := d.exponent + digits.length - 1
    if -4 ≤ order ∧ order < 16 then positionalForm digits order else scientificForm digits order

/-- The text of a double. -/
def text : Binary64 → String
  | nan => "nan"
  | infinity negative => if negative then "-inf" else "inf"
  | finite negative mantissa exponent =>
    String.ofList ((if negative then ['-'] else []) ++ magnitudeText mantissa exponent)

end UsageLedger.Binary64
