/-
Reading JSON texts.

`Json.read` turns a text into a value, or says what was expected and at which
character.  Beyond the standard it takes the words NaN, Infinity and -Infinity, and of
fields with one name the last counts.  Numbers without point and exponent are whole
numbers of any size, all others are doubles.  A text may hold half of a pair without the
other half, escaped or as it is; it is read, but has no characters.

The reader goes down the code points of the text once.  Positions are kept as the number of
code points still to come, which is what `Failed.remaining` holds; the fuel of the recursion
is twice the length of the text, of which every step uses up at least half a code point.
`depth` is how many lists and records may still be opened inside one another.
-/
import UsageLedger.Value

namespace UsageLedger.Json

/-- What a text lacks to be JSON. -/
inductive Defect
  | value
  | propertyName
  | colon
  | comma
  | extraData
  | unterminatedText
  | controlCharacter
  | escape
  | unicodeEscape
  /-- A whole number has more digits than are read. -/
  | tooManyDigits
  /-- Lists and records are nested too deeply. -/
  | tooDeep
  deriving DecidableEq, Repr

/-- The wording of a defect. -/
def Defect.message : Defect → String
  | value => "Expecting value"
  | propertyName => "Expecting property name enclosed in double quotes"
  | colon => "Expecting ':' delimiter"
  | comma => "Expecting ',' delimiter"
  | extraData => "Extra data"
  | unterminatedText => "Unterminated string starting at"
  | controlCharacter => "Invalid control character at"
  | escape => "Invalid \\escape"
  | unicodeEscape => "Invalid \\uXXXX escape"
  | tooManyDigits => "Exceeds the limit for integer string conversion"
  | tooDeep => "maximum recursion depth exceeded"

/-- A defect, and how many code points of the text follow the place where it shows. -/
structure Failed where
  defect : Defect
  remaining : Nat
  deriving DecidableEq, Repr

/-! ### Signs

The code points that have a meaning of their own outside texts, and those that have one inside. -/

/-- The quote around a text. -/
@[match_pattern] abbrev quote : Nat := 0x22

/-- What begins an escape. -/
@[match_pattern] abbrev backslash : Nat := 0x5C

/-- What comes between items and between fields. -/
@[match_pattern] abbrev comma : Nat := 0x2C

/-- What comes after the name of a field. -/
@[match_pattern] abbrev colon : Nat := 0x3A

/-- The beginning of a list. -/
@[match_pattern] abbrev listStart : Nat := 0x5B

/-- The end of a list. -/
@[match_pattern] abbrev listEnd : Nat := 0x5D

/-- The beginning of a record. -/
@[match_pattern] abbrev recordStart : Nat := 0x7B

/-- The end of a record. -/
@[match_pattern] abbrev recordEnd : Nat := 0x7D

/-- The code points of a text. -/
def codesOf (cs : List Char) : List Nat := cs.map Char.toNat

/-- A code point that may stand between any two signs. -/
def isSpace (code : Nat) : Bool := code = 0x20 || code = 0x09 || code = 0x0A || code = 0x0D

/-- The text from its first sign on. -/
def skipSpace (codes : List Nat) : List Nat := codes.dropWhile isSpace

/-- A failure in front of a text. -/
def failAt {α : Type} (defect : Defect) (codes : List Nat) : Except Failed α :=
  .error ⟨defect, codes.length⟩

/-! ### Texts -/

/-- The number of four hexadecimal digits at the front of a text, and what follows. -/
def fourHex? : List Nat → Option (Nat × List Nat)
  | a :: b :: c :: d :: rest => do
    let digits ← [a, b, c, d].mapM fun code => Text.asciiHexDigit? (Char.ofNat code)
    return (Text.ofDigits 16 digits, rest)
  | _ => none

/-- The code unit of an escape by its number at the front of a text, and what follows; something
has to. -/
def escapedUnit? : List Nat → Option (Nat × List Nat)
  | backslash :: u :: rest =>
    if u = 'u'.toNat then
      match fourHex? rest with
      | some (unit, next :: more) => some (unit, next :: more)
      | _ => none
    else none
  | _ => none

/-- The code point written by four hexadecimal digits, which may be the first half of a pair. -/
def codePoint (unit : Nat) (rest : List Nat) : Nat × List Nat :=
  if 0xD800 ≤ unit ∧ unit < 0xDC00 then
    match escapedUnit? rest with
    | some (low, more) =>
      if 0xDC00 ≤ low ∧ low < 0xE000 then
        (0x10000 + (unit - 0xD800) * 0x400 + (low - 0xDC00), more)
      else (unit, rest)
    | none => (unit, rest)
  else (unit, rest)

/-- The character of a short escape. -/
def shortEscape? (c : Char) : Option Char :=
  match c with
  | '"' => some '"'
  | '\\' => some '\\'
  | '/' => some '/'
  | 'b' => some '\x08'
  | 'f' => some '\x0c'
  | 'n' => some '\n'
  | 'r' => some '\r'
  | 't' => some '\t'
  | _ => none

/-- Reads a text behind its opening quote; `start` is the number of code points from the quote on,
and what was read already is given last first. -/
def readText (start : Nat) :
    (fuel : Nat) → List Nat → List Nat → Except Failed (Value × List Nat)
  | 0, _, _ => .error ⟨.unterminatedText, start⟩
  | _ + 1, _, [] => .error ⟨.unterminatedText, start⟩
  | _ + 1, done, quote :: rest => .ok (.ofCodes done.reverse, rest)
  | _ + 1, _, [backslash] => .error ⟨.unterminatedText, start⟩
  | fuel + 1, done, backslash :: e :: rest =>
    if e = 'u'.toNat then
      match fourHex? rest with
      | some (unit, next :: more) =>
        let (code, more) := codePoint unit (next :: more)
        readText start fuel (code :: done) more
      | _ => .error ⟨.unicodeEscape, rest.length + 1⟩
    else
      match shortEscape? (Char.ofNat e) with
      | some c => readText start fuel (c.toNat :: done) rest
      | none => failAt .escape (backslash :: e :: rest)
  | fuel + 1, done, code :: rest =>
    if code < 0x20 then failAt .controlCharacter (code :: rest)
    else readText start fuel (code :: done) rest

/-! ### Numbers -/

/-- The digits of the whole part of a number: a zero alone, or digits that begin with no zero. -/
def wholeDigits? : List Char → Option (List Nat × List Char)
  | '0' :: rest => some ([0], rest)
  | cs =>
    match Decimal.leadingDigits cs with
    | ([], _) => none
    | found => some found

/-- The fraction of a number, if a point and a digit follow. -/
def fractionDigits? : List Char → Option (List Nat × List Char)
  | '.' :: rest =>
    match Decimal.leadingDigits rest with
    | ([], _) => none
    | found => some found
  | _ => none

/-- The exponent of a number, if its mark and a digit follow. -/
def exponentDigits? : List Char → Option (Int × List Char)
  | c :: rest =>
    if c = 'e' ∨ c = 'E' then
      let (negative, digits) := Text.splitSign rest
      match Decimal.leadingDigits digits with
      | ([], _) => none
      | (ds, more) => some (Text.signed negative (Text.ofDigits 10 ds), more)
    else none
  | [] => none

/-- Reads the number at the front of some characters: a whole number, or a double when there is a
point or an exponent. -/
def numberOf (cs : List Char) : Except Defect (Value × List Char) :=
  let (negative, body) := match cs with
    | '-' :: rest => (true, rest)
    | _ => (false, cs)
  match wholeDigits? body with
  | none => .error .value
  | some (whole, rest) =>
    match fractionDigits? rest, exponentDigits? rest with
    | none, none =>
      if Text.maxDigits < whole.length then .error .tooManyDigits
      else .ok (.int (Text.signed negative (Text.ofDigits 10 whole)), rest)
    | none, some (e, rest) =>
      .ok (.float (.ofDecimal (.finite negative (Text.ofDigits 10 whole) e)), rest)
    | some (fraction, rest), _ =>
      let (e, rest) := (exponentDigits? rest).getD (0, rest)
      .ok (.float (.ofDecimal (.finite negative (Text.ofDigits 10 (whole ++ fraction))
        (e - fraction.length))), rest)

/-- The character may be part of a number. -/
def isNumberChar (c : Char) : Bool := c.isDigit || ['-', '+', '.', 'e', 'E'].contains c

/-- Reads a number at the front of a text. -/
def readNumber (codes : List Nat) : Except Failed (Value × List Nat) :=
  let run := (codes.takeWhile fun code => isNumberChar (Char.ofNat code)).map Char.ofNat
  match numberOf run with
  | .ok (v, rest) => .ok (v, codes.drop (run.length - rest.length))
  | .error defect => failAt defect codes

/-- The words that are values. -/
def words : List (String × Value) :=
  [("null", .null), ("true", .bool true), ("false", .bool false), ("NaN", .float .nan),
    ("Infinity", .float (.infinity false)), ("-Infinity", .float (.infinity true))]

/-- Reads one of the words that are values. -/
def readWord? (codes : List Nat) : Option (Value × List Nat) :=
  (words.find? fun word => (codesOf word.1.toList).isPrefixOf codes).map fun word =>
    (word.2, codes.drop word.1.length)

/-! ### Values -/

/-- The record with a field added.  A field whose name is no run of characters is kept under the
literal of its name, and no more can be told of its value than of its name. -/
def addField (r : Record) (name v : Value) : Record :=
  match name with
  | .text s => r.set s v
  | name => r.set name.literal name

mutual

/-- Reads a value at the front of a text. -/
def readValue : (fuel depth : Nat) → List Nat → Except Failed (Value × List Nat)
  | 0, _, codes => failAt .value codes
  | fuel + 1, depth, codes =>
    match codes, depth with
    | quote :: rest, _ => readText codes.length codes.length [] rest
    | recordStart :: _, 0 | listStart :: _, 0 => failAt .tooDeep codes
    | recordStart :: rest, depth + 1 =>
      let rest := skipSpace rest
      match rest with
      | recordEnd :: more => .ok (.record [], more)
      | _ => readFields fuel depth [] rest
    | listStart :: rest, depth + 1 =>
      let rest := skipSpace rest
      match rest with
      | listEnd :: more => .ok (.list [], more)
      | _ => readItems fuel depth [] rest
    | _, _ =>
      match readWord? codes with
      | some found => .ok found
      | none => readNumber codes

/-- Reads the items of a list up to its end; those read already are given last first. -/
def readItems : (fuel depth : Nat) → List Value → List Nat → Except Failed (Value × List Nat)
  | 0, _, _, codes => failAt .value codes
  | fuel + 1, depth, done, codes => do
    let (v, rest) ← readValue fuel depth codes
    let rest := skipSpace rest
    match rest with
    | listEnd :: more => return (.list (v :: done).reverse, more)
    | comma :: more => readItems fuel depth (v :: done) (skipSpace more)
    | _ => failAt .comma rest

/-- Reads the fields of a record up to its end. -/
def readFields : (fuel depth : Nat) → Record → List Nat → Except Failed (Value × List Nat)
  | 0, _, _, codes => failAt .value codes
  | fuel + 1, depth, done, codes =>
    match codes with
    | quote :: rest => do
      let (name, rest) ← readText codes.length codes.length [] rest
      let rest := skipSpace rest
      match rest with
      | colon :: more =>
        let (v, rest) ← readValue fuel depth (skipSpace more)
        let rest := skipSpace rest
        match rest with
        | recordEnd :: more => return (.record (addField done name v), more)
        | comma :: more => readFields fuel depth (addField done name v) (skipSpace more)
        | _ => failAt .comma rest
      | _ => failAt .colon rest
    | _ => failAt .propertyName codes

end

/-- Reads a whole text, in which lists and records may be nested to a depth; a defect comes with the
number of code points in front of it. -/
def readWithin (depth : Nat) (codes : List Nat) : Except (Defect × Nat) Value :=
  let result := do
    let (v, rest) ← readValue (2 * codes.length + 2) depth (skipSpace codes)
    match skipSpace rest with
    | [] => return v
    | rest => failAt .extraData rest
  result.mapError fun failed => (failed.defect, codes.length - failed.remaining)

/-- Reads a whole text. -/
def read (text : String) : Except (Defect × Nat) Value :=
  readWithin text.length (codesOf text.toList)

end UsageLedger.Json
