/-
Reading UTF-8.

Bytes that are meant to be well-formed are a text or none (`readUtf8?`).  Where they may be
malformed, every longest run of bytes that begins a character but does not complete one becomes a
single replacement character, and so does every byte that begins none.
-/

namespace UsageLedger.Text

/-- The text that bytes encode, if they encode one. -/
def readUtf8? (bytes : List UInt8) : Option String := String.fromUTF8? ⟨bytes.toArray⟩

/-- The character that stands for what cannot be read. -/
def replacement : Char := '\uFFFD'

/-- A character that is begun: the bytes that are missing, the bits so far, and the range that the
next byte has to lie in. -/
structure Utf8Pending where
  missing : Nat
  bits : Nat
  low : Nat
  high : Nat
  deriving DecidableEq, Repr

/-- What a first byte gives: a whole character or the beginning of one. -/
def leadByte (byte : Nat) : List Char × Option Utf8Pending :=
  if byte < 0x80 then ([Char.ofNat byte], none)
  else if 0xC2 ≤ byte ∧ byte ≤ 0xDF then ([], some ⟨1, byte - 0xC0, 0x80, 0xBF⟩)
  else if byte = 0xE0 then ([], some ⟨2, 0, 0xA0, 0xBF⟩)
  else if byte = 0xED then ([], some ⟨2, 0xD, 0x80, 0x9F⟩)
  else if 0xE1 ≤ byte ∧ byte ≤ 0xEF then ([], some ⟨2, byte - 0xE0, 0x80, 0xBF⟩)
  else if byte = 0xF0 then ([], some ⟨3, 0, 0x90, 0xBF⟩)
  else if byte = 0xF4 then ([], some ⟨3, 4, 0x80, 0x8F⟩)
  else if 0xF1 ≤ byte ∧ byte ≤ 0xF3 then ([], some ⟨3, byte - 0xF0, 0x80, 0xBF⟩)
  else ([replacement], none)

/-- What a further byte gives, if it can follow. -/
def nextByte? (p : Utf8Pending) (byte : Nat) : Option (List Char × Option Utf8Pending) :=
  if p.low ≤ byte ∧ byte ≤ p.high then
    let bits := p.bits * 64 + byte % 64
    if p.missing ≤ 1 then some ([Char.ofNat bits], none)
    else some ([], some ⟨p.missing - 1, bits, 0x80, 0xBF⟩)
  else none

/-- Reads bytes, perhaps with a character begun. -/
def decodeFrom : Option Utf8Pending → List UInt8 → List Char
  | none, [] => []
  | some _, [] => [replacement]
  | none, byte :: rest =>
    let (chars, pending) := leadByte byte.toNat
    chars ++ decodeFrom pending rest
  | some p, byte :: rest =>
    match nextByte? p byte.toNat with
    | some (chars, pending) => chars ++ decodeFrom pending rest
    | none =>
      let (chars, pending) := leadByte byte.toNat
      replacement :: chars ++ decodeFrom pending rest

/-- Reads bytes as UTF-8. -/
def decodeUtf8 (bytes : List UInt8) : List Char := decodeFrom none bytes

/-- The bytes of a character. -/
def utf8Bytes (c : Char) : List UInt8 := (String.ofList [c]).toUTF8.toList

end UsageLedger.Text
