/-
How the bytes of a JSON text stand for characters.

A JSON text begins with a mark of the order of bytes, which is left out, or with two ASCII
characters.  So its first bytes tell the width of a character and the order of its bytes
(`Encoding.ofBytes`), and nothing among them means UTF-8.  Bytes that are not in the
encoding found have no code points, but a half of a pair may stand alone.
-/
import UsageLedger.Text.Utf8

namespace UsageLedger.Json

/-- An encoding of characters. -/
inductive Encoding
  | utf8
  | utf16 (bigEndian : Bool)
  | utf32 (bigEndian : Bool)
  deriving DecidableEq, Repr

/-- The encoding of a text with the given bytes. -/
def Encoding.ofBytes : List UInt8 → Encoding
  | 0xFF :: 0xFE :: 0x00 :: 0x00 :: _ => utf32 false
  | 0xFE :: 0xFF :: _ => utf16 true
  | 0xFF :: 0xFE :: _ => utf16 false
  | b₀ :: b₁ :: b₂ :: b₃ :: _ =>
    if b₀ = 0 then (if b₁ = 0 then utf32 true else utf16 true)
    else if b₁ = 0 then (if b₂ = 0 ∧ b₃ = 0 then utf32 false else utf16 false)
    else utf8
  | [b₀, b₁] => if b₀ = 0 then utf16 true else if b₁ = 0 then utf16 false else utf8
  | _ => utf8

/-- The number that bytes denote, most significant first. -/
def ofBigEndian (bytes : List UInt8) : Nat := bytes.foldl (fun n b => 256 * n + b.toNat) 0

/-- The numbers of two bytes each; no byte may be left over. -/
def pairs? (bigEndian : Bool) : List UInt8 → Option (List Nat)
  | [] => some []
  | [_] => none
  | a :: b :: rest =>
    (pairs? bigEndian rest).map fun units =>
      ofBigEndian (if bigEndian then [a, b] else [b, a]) :: units

/-- The numbers of four bytes each; no byte may be left over. -/
def quadruples? (bigEndian : Bool) : List UInt8 → Option (List Nat)
  | [] => some []
  | a :: b :: c :: d :: rest =>
    (quadruples? bigEndian rest).map fun units =>
      ofBigEndian (if bigEndian then [a, b, c, d] else [d, c, b, a]) :: units
  | _ => none

/-- The code points of code units of sixteen bits, of which two halves make up a pair. -/
def ofUnits : List Nat → List Nat
  | [] => []
  | [unit] => [unit]
  | high :: low :: rest =>
    if 0xD800 ≤ high ∧ high < 0xDC00 ∧ 0xDC00 ≤ low ∧ low < 0xE000 then
      (0x10000 + (high - 0xD800) * 0x400 + (low - 0xDC00)) :: ofUnits rest
    else high :: ofUnits (low :: rest)

/-- The code points of UTF-8 in which halves of pairs are encoded as well; the bytes in front of
those given are read when a half comes, and given last first. -/
def utf8Codes? (before : List UInt8) : List UInt8 → Option (List Nat)
  | [] => (Text.readUtf8? before.reverse).map fun s => s.toList.map Char.toNat
  | 0xED :: b :: c :: rest =>
    if 0xA0 ≤ b ∧ b ≤ 0xBF ∧ 0x80 ≤ c ∧ c ≤ 0xBF then do
      let s ← Text.readUtf8? before.reverse
      let codes ← utf8Codes? [] rest
      return s.toList.map Char.toNat ++ (0xD000 + b.toNat % 64 * 64 + c.toNat % 64) :: codes
    else utf8Codes? (0xED :: before) (b :: c :: rest)
  | b :: rest => utf8Codes? (b :: before) rest

/-- A text without a mark of the order of bytes at its front. -/
def dropByteOrderMark : List Nat → List Nat
  | 0xFEFF :: rest => rest
  | codes => codes

/-- The code points of a text in an encoding. -/
def Encoding.decode? (encoding : Encoding) (bytes : List UInt8) : Option (List Nat) :=
  let codes := match encoding with
    | .utf8 => utf8Codes? [] bytes
    | .utf16 bigEndian => (pairs? bigEndian bytes).map ofUnits
    | .utf32 bigEndian =>
      (quadruples? bigEndian bytes).bind fun codes =>
        if codes.all (· < 0x110000) then some codes else none
  codes.map dropByteOrderMark

end UsageLedger.Json
