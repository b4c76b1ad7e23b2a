/-
What is kept in a place of a table.

A table does not insist on the type of a column, it has a preference: a column of texts
writes numbers out, a column of numbers turns a text that is a number into one, and a
real number without a fraction into a whole one.  What does not fit the preference is
kept as it came.

A cell takes part in arithmetic with the number that it is, or with the number that its
text begins with.
-/
import UsageLedger.Intake.Checks
import UsageLedger.Number.Significant
import UsageLedger.Text.LeadingNumber

namespace UsageLedger

/-- A stored value. -/
inductive Cell
  | whole (n : Int)
  | real (x : Binary64)
  | text (s : String)
  | blob (b : List UInt8)
  | uuid (u : Uuid)
  deriving DecidableEq, Repr, Inhabited

/-- A number as the database computes with it. -/
inductive SqlNumber
  | whole (n : Int)
  | real (x : Binary64)
  deriving DecidableEq, Repr

namespace SqlNumber

/-- A whole number as a double. -/
def ofWhole (n : Int) : Binary64 := Binary64.ofRat n

/-- A number as a double. -/
def toReal : SqlNumber → Binary64
  | whole n => ofWhole n
  | real x => x

/-- A real number that is whole and lies strictly inside 64 bits is kept as a whole one. -/
def ofReal (x : Binary64) : SqlNumber :=
  match x.toInt? with
  | some n => if Intake.int64Min < n ∧ n < Intake.int64Max then whole n else real x
  | none => real x

end SqlNumber

/-- The number that a text is, as a column of numbers keeps it. -/
def LeadingNumber.kept (n : LeadingNumber) : SqlNumber :=
  if !n.isReal && Intake.fitsInt64 n.integer then .whole n.integer
  else SqlNumber.ofReal n.real

/-- The number that stands for a text in a sum of two columns: real when it has a point or an
exponent, or when it does not fit 64 bits. -/
def LeadingNumber.operand (n : LeadingNumber) : SqlNumber :=
  if !n.isReal && Intake.fitsInt64 n.integer then .whole n.integer
  else .real n.real

namespace Cell

/-- A number as a cell. -/
def ofNumber : SqlNumber → Cell
  | .whole n => whole n
  | .real x => real x

/-- A cell as a column of texts keeps it. -/
def asText : Cell → Cell
  | whole n => text (Text.integer n)
  | real x => text x.significantText
  | cell => cell

/-- A cell as a column of numbers keeps it. -/
def asNumber : Cell → Cell
  | real x => ofNumber (SqlNumber.ofReal x)
  | text s =>
    let n := LeadingNumber.read s.toList
    if n.isNumber then ofNumber n.kept else text s
  | cell => cell

/-- A cell as it is handed back. -/
def toValue : Cell → Value
  | whole n => .int n
  | real x => .float x
  | text s => .text s
  | blob b => .bytes b
  | uuid u => .uuid u

/-- The characters that a number is looked for among. -/
def chars : Cell → List Char
  | text s => s.toList
  | blob b => b.map fun byte => Char.ofNat byte.toNat
  | uuid u => u.text.toList
  | whole _ | real _ => []

/-- The number that a cell stands for in a sum of two columns. -/
def operand : Cell → SqlNumber
  | whole n => .whole n
  | real x => .real x
  | cell => (LeadingNumber.read cell.chars).operand

/-- The number that a cell stands for in a sum over rows, where every text counts as real. -/
def term : Cell → SqlNumber
  | whole n => .whole n
  | real x => .real x
  | cell => .real (LeadingNumber.read cell.chars).real

end Cell

/-- The cell in which a user is kept. -/
def UserId.toCell : UserId → Cell
  | uuid u => .uuid u
  | number n => .whole n

end UsageLedger
