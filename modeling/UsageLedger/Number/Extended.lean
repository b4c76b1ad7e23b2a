/-
Numbers with significands of sixty-four bits.

A database computes with a few more bits than a double has, and rounds every product and
quotient to them, so that a decimal it reads or writes may come out next to the nearest one.
A number is an exact rational here, and `Extended.round` keeps its leading bits.

`Extended.ofScaled` makes a double out of a significand and a power of ten, which is the
product of repeated squares; `Extended.leadingDigits` takes a magnitude apart into decimal
digits.
-/
import UsageLedger.Number.Binary64

namespace UsageLedger.Extended

/-- The number of bits of a significand. -/
def precision : Nat := 64

/-- The nearest number with a significand of sixty-four bits; a tie goes to the even one. -/
def round (r : Rat) : Rat :=
  if r = 0 then 0
  else
    let n := r.num.natAbs
    let e := Binary64.binaryOrder n r.den - (precision - 1 : Nat)
    let m := roundDiv (n * Nat.pow 2 (-e).toNat) (r.den * Nat.pow 2 e.toNat)
    scaleTwo (Text.signed (decide (r < 0)) m) e

/-- A rounded product. -/
def mul (a b : Rat) : Rat := round (a * b)

/-- A rounded quotient. -/
def div (a b : Rat) : Rat := round (a / b)

/-- The product of `r` and a power of `x`, by repeated squaring. -/
def mulPower (r x : Rat) (n : Nat) : Rat :=
  if n = 0 then r else mulPower (if n % 2 = 1 then mul r x else r) (mul x x) (n / 2)
termination_by n

/-- A power of ten. -/
def powerOfTen (n : Nat) : Rat := mulPower 1 10 n

/-! ### From decimals -/

/-- A significand from here on is not multiplied by ten any more. -/
def growthBound : Nat := 922337203685477580

/-- Puts powers of ten into a significand while it has room for them. -/
def grow : (places significand : Nat) → Nat × Nat
  | 0, s => (s, 0)
  | places + 1, s => if s < growthBound then grow places (10 * s) else (s, places + 1)

/-- Takes powers of ten out of a significand while it has any. -/
def shrink : (places significand : Nat) → Nat × Nat
  | 0, s => (s, 0)
  | places + 1, s => if s % 10 = 0 then shrink places (s / 10) else (s, places + 1)

/-- Powers of ten up to here are made at once; a greater one takes a second step. -/
def directPlaces : Nat := 307

/-- From here on a power of ten has no double. -/
def endPlaces : Nat := 342

/-- The double nearest to the greatest power of ten that is used as a whole. -/
def largeScale : Rat :=
  Binary64.roundRat ((Nat.pow 10 (directPlaces + 1) : Nat) : Rat)

/-- A significand times a power of ten as a double. -/
def magnify (negative : Bool) (significand places : Nat) : Binary64 :=
  let (s, places) := grow places significand
  let signed : Rat := Text.signed negative s
  if places = 0 then .ofRat signed
  else if endPlaces ≤ places then .infinity negative
  else if directPlaces < places then
    .ofRat (Binary64.roundRat (mul signed (powerOfTen (places - (directPlaces + 1)))) * largeScale)
  else .ofRat (mul signed (powerOfTen places))

/-- A significand divided by a power of ten as a double. -/
def reduce (negative : Bool) (significand places : Nat) : Binary64 :=
  let (s, places) := shrink places significand
  let signed : Rat := Text.signed negative s
  if places = 0 then .ofRat signed
  else if endPlaces ≤ places then .nearest negative 0 1
  else if directPlaces < places then
    .ofRat (Binary64.roundRat (div signed (powerOfTen (places - (directPlaces + 1)))) / largeScale)
  else .ofRat (div signed (powerOfTen places))

/-- A significand of sixty-three bits with a power of ten as a double. -/
def ofScaled (negative : Bool) (significand : Nat) (exponent : Int) : Binary64 :=
  if significand = 0 then .nearest negative 0 1
  else if exponent < 0 then reduce negative significand (-exponent).toNat
  else magnify negative significand exponent.toNat

/-! ### To decimals -/

/-- Multiplies a scale by `step`, which stands for some places, while the value is not below it. -/
def climb (value step : Rat) (places : Int) : (fuel : Nat) → Rat × Int → Rat × Int
  | 0, scale => scale
  | fuel + 1, (scale, order) =>
    let next := mul scale step
    if next ≤ value then climb value step places fuel (next, order + places) else (scale, order)

/-- Multiplies a value by `step`, which stands for some places, while it is below a bound. -/
def raise (bound step : Rat) (places : Int) : (fuel : Nat) → Rat × Int → Rat × Int
  | 0, value => value
  | fuel + 1, (value, order) =>
    if value < bound then raise bound step places fuel (mul value step, order - places)
    else (value, order)

/-- A double written as a decimal. -/
def double (coefficient : Nat) (exponent : Int) : Rat :=
  ((Binary64.ofDecimal (.finite false coefficient exponent)).toRat?).getD 0

/-- A positive value as a number from one up to ten, and its order.  A scale is sought by hundred
places, by ten and one by one. -/
def normalize (value : Rat) : Rat × Int :=
  let scale := climb value (double 1 100) 100 4 (1, 0)
  let scale := climb value (double 1 10) 10 10 scale
  let scale := climb value 10 1 10 scale
  raise 1 10 1 8 (raise (double 1 (-8)) (double 1 8) 8 41 (div value scale.1, scale.2))

/-- The digits of a number below ten, one after the other. -/
def digits : (count : Nat) → Rat → List Nat
  | 0, _ => []
  | count + 1, value => value.floor.toNat :: digits count (mul (value - value.floor) 10)

/-- The first digits of a positive value and its order.  Before the digits are taken off, half a
unit of the last one is added, as the product of two doubles. -/
def leadingDigits (count : Nat) (value : Rat) : List Nat × Int :=
  let half := Binary64.roundRat (double 5 (10 - count) * double 1 (-10))
  let (value, order) := normalize value
  let value := round (value + half)
  if 10 ≤ value then (digits count (mul value (double 1 (-1))), order + 1)
  else (digits count value, order)

end UsageLedger.Extended
