/-
Identifiers of 128 bits.

`Uuid.text` writes 32 lower-case hexadecimal digits in groups of 8, 4, 4, 4 and 12.
`Uuid.read?` takes every usual spelling of the same number: any letter case, hyphens
anywhere or nowhere, the markers of a resource name, braces around the whole.  What is
left without them has to be 32 characters long and a hexadecimal number.
-/
import UsageLedger.Text.Integer

namespace UsageLedger

/-- A number of 128 bits. -/
structure Uuid where
  number : Nat
  number_lt : number < Nat.pow 2 128
  deriving DecidableEq, Repr

namespace Uuid

instance : Inhabited Uuid := ⟨⟨0, by decide⟩⟩

/-- A number as an identifier, if it has at most 128 bits. -/
def ofNat? (n : Nat) : Option Uuid := if h : n < Nat.pow 2 128 then some ⟨n, h⟩ else none

/-- The low 128 bits of a number. -/
def ofNat (n : Nat) : Uuid := ⟨n % Nat.pow 2 128, Nat.mod_lt _ (by decide)⟩

/-- Groups of hexadecimal digits with hyphens between them. -/
def grouped (digits : List Char) : List Char :=
  digits.take 8 ++ '-' :: (digits.drop 8).take 4 ++ '-' :: (digits.drop 12).take 4 ++
    '-' :: (digits.drop 16).take 4 ++ '-' :: digits.drop 20

/-- The canonical text. -/
def text (u : Uuid) : String := String.ofList (grouped (Text.hexadecimal 32 u.number))

/-- Removes the marker `urn:` wherever it stands. -/
def dropUrn : List Char → List Char
  | 'u' :: 'r' :: 'n' :: ':' :: rest => dropUrn rest
  | c :: rest => c :: dropUrn rest
  | [] => []

/-- Removes the marker `uuid:` wherever it stands. -/
def dropScheme : List Char → List Char
  | 'u' :: 'u' :: 'i' :: 'd' :: ':' :: rest => dropScheme rest
  | c :: rest => c :: dropScheme rest
  | [] => []

/-- The braces that may stand around an identifier. -/
def isBrace (c : Char) : Bool := c = '\x7b' || c = '\x7d'

/-- The digits of an identifier, without markers, braces and hyphens. -/
def bareDigits (text : List Char) : List Char :=
  (Text.trim isBrace (dropScheme (dropUrn text))).filter (· ≠ '-')

/-- Reads any usual spelling of an identifier. -/
def read? (text : String) : Option Uuid :=
  let digits := bareDigits text.toList
  if digits.length = 32 then
    match Text.readHexInteger? digits with
    | some n => if 0 ≤ n then ofNat? n.toNat else none
    | none => none
  else none

end Uuid

end UsageLedger
