/-
Decimal numbers with an explicit exponent.

A finite decimal is a sign, a coefficient and a power of ten, so 1.50 and 1.5 are
different decimals of the same value.  `Decimal.text` writes one so that
`Decimal.read?` gives it back: in positional form while the exponent is not
positive and at most six zeros follow the point, with an exponent otherwise.
`Decimal.compare?` orders decimals by value.
-/
import UsageLedger.Text.Integer

namespace UsageLedger

/-- A decimal number, or one of the values that stand for no number. -/
inductive Decimal
  /-- The coefficient times a power of ten. -/
  | finite (negative : Bool) (coefficient : Nat) (exponent : Int)
  | infinity (negative : Bool)
  /-- Not a number; a signalling one refuses to take part in arithmetic.  The payload is a tag. -/
  | nan (negative : Bool) (signalling : Bool) (payload : Option Nat)
  deriving DecidableEq, Repr, Inhabited

namespace Decimal

/-- The value equals zero. -/
def isZero : Decimal → Bool
  | finite _ coefficient _ => coefficient == 0
  | _ => false

/-- The decimal is a number, neither infinite nor undefined. -/
def isFinite : Decimal → Bool
  | finite .. => true
  | _ => false

/-- The number of places of a magnitude before the point; not positive when it is below one. -/
def places (coefficient : Nat) (exponent : Int) : Int :=
  exponent + (Text.decimal coefficient).length

/-- The whole number nearest to a decimal on the side of zero.  A magnitude below one is not
expanded, however small it is. -/
def truncate? : Decimal → Option Int
  | finite negative coefficient exponent =>
    if coefficient = 0 ∨ places coefficient exponent ≤ 0 then some 0
    else some (Text.signed negative
      (coefficient * Nat.pow 10 exponent.toNat / Nat.pow 10 (-exponent).toNat))
  | _ => none

/-- The whole number equal to a decimal, if there is one. -/
def toInt? : Decimal → Option Int
  | finite negative coefficient exponent =>
    if coefficient = 0 then some 0
    else if places coefficient exponent ≤ 0 then none
    else if coefficient % Nat.pow 10 (-exponent).toNat = 0 then
      truncate? (finite negative coefficient exponent)
    else none
  | _ => none

/-! ### Order -/

/-- The order of two magnitudes.  The number of places decides before anything is expanded. -/
def compareMagnitudes (c : Nat) (e : Int) (c' : Nat) (e' : Int) : Ordering :=
  if c = 0 ∨ c' = 0 then compare c c'
  else if places c e = places c' e' then
    let low := min e e'
    compare (c * Nat.pow 10 (e - low).toNat) (c' * Nat.pow 10 (e' - low).toNat)
  else compare (places c e) (places c' e')

/-- The order of two decimals by value, unless one of them is undefined. -/
def compare? : Decimal → Decimal → Option Ordering
  | nan .., _ | _, nan .. => none
  | infinity negative, infinity negative' => some (compare negative' negative)
  | infinity negative, _ => some (if negative then .lt else .gt)
  | _, infinity negative => some (if negative then .gt else .lt)
  | finite negative c e, finite negative' c' e' =>
    let below := negative && c != 0
    let below' := negative' && c' != 0
    if below ∧ below' then some (compareMagnitudes c' e' c e)
    else if below = below' then some (compareMagnitudes c e c' e')
    else some (if below then .lt else .gt)

/-- A whole number as a decimal. -/
def ofInt (n : Int) : Decimal := finite (decide (n < 0)) n.natAbs 0

/-- The two decimals are equal in value. -/
def sameValue (d d' : Decimal) : Bool := d.compare? d' == some .eq

/-! ### Writing -/

/-- The exponent part of scientific notation, with its sign always shown. -/
def exponentText (mark : Char) (e : Int) : List Char :=
  mark :: (if e < 0 then '-' else '+') :: Text.decimal e.natAbs

/-- Digits with a point after the first `place` of them; zeros fill in when it lies outside. -/
def withPoint (digits : List Char) (place : Int) : List Char :=
  if place ≤ 0 then '0' :: '.' :: List.replicate (-place).toNat '0' ++ digits
  else if place.toNat < digits.length then digits.take place.toNat ++ '.' :: digits.drop place.toNat
  else digits ++ List.replicate (place.toNat - digits.length) '0'

/-- The text of a decimal. -/
def text : Decimal → String
  | finite negative coefficient exponent =>
    let digits := Text.decimal coefficient
    let adjusted := exponent + digits.length
    let body :=
      if exponent ≤ 0 ∧ -6 < adjusted then withPoint digits adjusted
      else withPoint digits 1 ++ exponentText 'E' (adjusted - 1)
    String.ofList (if negative then '-' :: body else body)
  | infinity negative => if negative then "-Infinity" else "Infinity"
  | nan negative signalling payload =>
    let body := (if signalling then "sNaN" else "NaN") ++
      (match payload with | some p => String.ofList (Text.decimal p) | none => "")
    if negative then "-" ++ body else body

/-! ### Reading -/

/-- The longest run of ASCII digits at the front, as values, and what follows it. -/
def leadingDigits : List Char → List Nat × List Char
  | [] => ([], [])
  | c :: rest =>
    match Text.asciiDigit? c with
    | some d => let (ds, more) := leadingDigits rest; (d :: ds, more)
    | none => ([], c :: rest)

/-- An exponent part, up to the end of the text. -/
def readExponent? : List Char → Option Int
  | [] => some 0
  | c :: rest =>
    if c = 'e' ∨ c = 'E' then
      let (negative, digits) := Text.splitSign rest
      match leadingDigits digits with
      | (d :: ds, []) => some (Text.signed negative (Text.ofDigits 10 (d :: ds)))
      | _ => none
    else none

/-- Reads an unsigned decimal literal: digits, at most one point, at most one exponent. -/
def readMagnitude? (negative : Bool) (text : List Char) : Option Decimal :=
  let (whole, rest) := leadingDigits text
  let (fraction, rest) := match rest with
    | '.' :: more => leadingDigits more
    | _ => ([], rest)
  if whole.isEmpty && fraction.isEmpty then none
  else (readExponent? rest).map fun e =>
    finite negative (Text.ofDigits 10 (whole ++ fraction)) (e - fraction.length)

/-- An undefined value whose payload is made of digits only; zero is none. -/
def readPayload? (negative : Bool) (signalling : Bool) (payload : List Char) : Option Decimal :=
  match leadingDigits payload with
  | (digits, []) =>
    let tag := Text.ofDigits 10 digits
    some (nan negative signalling (if tag = 0 then none else some tag))
  | _ => none

/-- Reads a special value, whose name is given in lower case. -/
def readSpecial? (negative : Bool) (name : List Char) : Option Decimal :=
  match name with
  | ['i', 'n', 'f'] => some (infinity negative)
  | ['i', 'n', 'f', 'i', 'n', 'i', 't', 'y'] => some (infinity negative)
  | 's' :: 'n' :: 'a' :: 'n' :: payload => readPayload? negative true payload
  | 'n' :: 'a' :: 'n' :: payload => readPayload? negative false payload
  | _ => none

/-- Reads a decimal literal or the name of a special value in any letter case. -/
def read? (text : String) : Option Decimal :=
  let (negative, rest) := Text.splitSign (Text.trim Text.isWhiteSpace text.toList)
  let rest := rest.filter (· ≠ '_')
  match readSpecial? negative (rest.map Char.toLower) with
  | some special => some special
  | none => readMagnitude? negative rest

end Decimal

end UsageLedger
