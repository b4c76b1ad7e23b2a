/-
Which characters count as blank.

Two classes are in use.  `isWhiteSpace` is the Unicode property White_Space.
`isBlank` adds the four information separators U+001C to U+001F, and is the class
that is trimmed from identifiers and names; `isBlank_of_isWhiteSpace` says the
second contains the first.  `trim` removes a class from both ends of a text and
touches nothing between.
-/

namespace UsageLedger.Text

/-- The Unicode property White_Space. -/
def isWhiteSpace (c : Char) : Bool :=
  let n := c.toNat
  (0x09 ≤ n && n ≤ 0x0D) || n == 0x20 || n == 0x85 || n == 0xA0 || n == 0x1680 ||
    (0x2000 ≤ n && n ≤ 0x200A) || n == 0x2028 || n == 0x2029 || n == 0x202F ||
    n == 0x205F || n == 0x3000

/-- White space, or one of the information separators U+001C to U+001F. -/
def isBlank (c : Char) : Bool :=
  isWhiteSpace c || (0x1C ≤ c.toNat && c.toNat ≤ 0x1F)

theorem isBlank_of_isWhiteSpace {c : Char} (h : isWhiteSpace c = true) : isBlank c = true := by
  simp [isBlank, h]

/-- What is left when everything of the class `p` is taken off both ends. -/
def trim {α : Type} (p : α → Bool) (text : List α) : List α :=
  ((text.dropWhile p).reverse.dropWhile p).reverse

/-- No character of the text is outside the blank class; the empty text is blank. -/
def allBlank (text : String) : Bool := text.toList.all isBlank

end UsageLedger.Text
