/-
Double-precision numbers as exact values.

A finite double is a sign, a mantissa and a power of two, so every question about
it is a question about an exact rational: `toRat?` is the value, comparisons and
truncation are those of the value, and `nearest` is the double closest to a
quotient, ties going to the even mantissa.  No machine arithmetic takes part.
-/
import UsageLedger.Number.Decimal

namespace UsageLedger

/-- A double-precision number. -/
inductive Binary64
  | nan
  | infinity (negative : Bool)
  /-- The mantissa times a power of two. -/
  | finite (negative : Bool) (mantissa : Nat) (exponent : Int)
  deriving DecidableEq, Repr, Inhabited

/-- The exact value m · 2 ^ e. -/
def scaleTwo (m : Int) (e : Int) : Rat :=
  if 0 ≤ e then ((m * (Nat.pow 2 e.toNat : Nat) : Int) : Rat) else mkRat m (Nat.pow 2 (-e).toNat)

/-- The natural number nearest to a quotient; a tie goes to the even neighbour. -/
def roundDiv (num den : Nat) : Nat :=
  let q := num / den
  let r := num % den
  if 2 * r < den then q
  else if 2 * r > den then q + 1
  else if q % 2 = 0 then q else q + 1

namespace Binary64

/-- The least exponent of a double. -/
def minExponent : Int := -1074

/-- The greatest exponent of a double. -/
def maxExponent : Int := 971

/-- The value of a finite double. -/
def toRat? : Binary64 → Option Rat
  | finite negative mantissa exponent => some (scaleTwo (Text.signed negative mantissa) exponent)
  | _ => none

/-- The value is a number, neither infinite nor undefined. -/
def isFinite : Binary64 → Bool
  | finite .. => true
  | _ => false

/-- The value equals zero, whatever its sign. -/
def isZero : Binary64 → Bool
  | finite _ mantissa _ => mantissa == 0
  | _ => false

/-- Exact order against a rational; an undefined value is below nothing. -/
def isLe (x : Binary64) (bound : Rat) : Bool :=
  match x with
  | nan => false
  | infinity negative => negative
  | finite negative mantissa exponent => scaleTwo (Text.signed negative mantissa) exponent ≤ bound

/-- Exact order against a rational; an undefined value is above nothing. -/
def isGe (x : Binary64) (bound : Rat) : Bool :=
  match x with
  | nan => false
  | infinity negative => !negative
  | finite negative mantissa exponent => bound ≤ scaleTwo (Text.signed negative mantissa) exponent

/-- The whole number nearest to a finite double on the side of zero. -/
def truncate? (x : Binary64) : Option Int :=
  x.toRat?.map fun r => if 0 ≤ r then r.floor else r.ceil

/-- The whole number equal to a finite double, if there is one. -/
def toInt? (x : Binary64) : Option Int :=
  match x.toRat? with
  | some r => if r.den = 1 then some r.num else none
  | none => none

/-- The largest power of two not above num / den, by its exponent. -/
def binaryOrder (num den : Nat) : Int :=
  let guess : Int := (num.log2 : Int) - (den.log2 : Int)
  if den * Nat.pow 2 guess.toNat ≤ num * Nat.pow 2 (-guess).toNat then guess else guess - 1

/-- The double nearest to num / den with a sign. -/
def nearest (negative : Bool) (num den : Nat) : Binary64 :=
  if num = 0 then finite negative 0 minExponent
  else
    let e := max (binaryOrder num den - 52) minExponent
    let m := roundDiv (num * Nat.pow 2 (-e).toNat) (den * Nat.pow 2 e.toNat)
    let (m, e) := if m = Nat.pow 2 53 then (Nat.pow 2 52, e + 1) else (m, e)
    if maxExponent < e then infinity negative else finite negative m e

/-- The double nearest to a rational; zero is positive. -/
def ofRat (r : Rat) : Binary64 := nearest (decide (r < 0)) r.num.natAbs r.den

/-- The value of the double nearest to a rational, or the rational itself when it is too large. -/
def roundRat (r : Rat) : Rat := ((ofRat r).toRat?).getD r

/-- The double nearest to a whole number, unless it is too large for any. -/
def ofInt? (n : Int) : Option Binary64 :=
  match nearest (decide (n < 0)) n.natAbs 1 with
  | infinity _ => none
  | x => some x

/-- The sum of two doubles, rounded once. -/
def add (x y : Binary64) : Binary64 :=
  match x.toRat?, y.toRat? with
  | some a, some b => ofRat (a + b)
  | some _, none => y
  | none, some _ => x
  | none, none => if x = y then x else nan

/-- The double nearest to a decimal.  Magnitudes outside every double are settled by size alone. -/
def ofDecimal : Decimal → Binary64
  | .nan .. => nan
  | .infinity negative => infinity negative
  | .finite negative coefficient exponent =>
    let top := Decimal.places coefficient exponent
    if coefficient = 0 ∨ top < -400 then finite negative 0 minExponent
    else if 400 < top then infinity negative
    else nearest negative (coefficient * Nat.pow 10 exponent.toNat) (Nat.pow 10 (-exponent).toNat)

/-- A double as a decimal of the same value: a half is five tenths. -/
def toDecimal : Binary64 → Decimal
  | nan => .nan false false none
  | infinity negative => .infinity negative
  | finite negative mantissa exponent =>
    .finite negative (mantissa * Nat.pow 2 exponent.toNat * Nat.pow 5 (-exponent).toNat)
      (min exponent 0)

/-- Reads a decimal literal, or the name of an infinity or of the undefined value. -/
def read? (text : String) : Option Binary64 := (Decimal.read? text).map ofDecimal

end Binary64

end UsageLedger
