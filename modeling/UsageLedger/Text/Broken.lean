/-
Texts that are no runs of characters.

A submitted text can hold a code unit that is half of a pair and has no character beside it.
Such a text can be compared, quoted and handed on like any other, but it has no encoding: what
needs the bytes of a text fails on it, and tells where (`BrokenText.encodingDefect`).
`BrokenText` carries the proof that there is such a unit in it, and `AnyText` is a text of
either sort.
-/
import UsageLedger.Text.Quoted

namespace UsageLedger

/-- A text with a half of a pair in it. -/
structure BrokenText where
  codes : List Nat
  codes_lt : ∀ n ∈ codes, n < 0x110000
  broken : codes.any Text.isHalfUnit = true
  deriving DecidableEq, Repr

namespace BrokenText

/-- Code points as a text that is no run of characters, if they make up one. -/
def ofCodes? (codes : List Nat) : Option BrokenText :=
  if h : (∀ n ∈ codes, n < 0x110000) ∧ codes.any Text.isHalfUnit = true then
    some ⟨codes, h.1, h.2⟩
  else none

/-- The quoted form, in which halves of pairs are escaped. -/
def quoted (t : BrokenText) : String := Text.quotedCodes t.codes

/-- The number of characters in front of the first half of a pair. -/
def start (t : BrokenText) : Nat := (t.codes.takeWhile fun n => !Text.isHalfUnit n).length

/-- The first halves of pairs that follow each other. -/
def halves (t : BrokenText) : List Nat :=
  (t.codes.dropWhile fun n => !Text.isHalfUnit n).takeWhile Text.isHalfUnit

/-- Why the text has no encoding. -/
def encodingDefect (t : BrokenText) : String :=
  let place := match t.halves with
    | [half] =>
      " '" ++ String.ofList (Text.quoteCode '\'' half) ++ "' in position " ++ Text.integer t.start
    | halves =>
      "s in position " ++ Text.integer t.start ++ "-" ++
        Text.integer (t.start + halves.length - 1 : Nat)
  "'utf-8' codec can't encode character" ++ place ++ ": surrogates not allowed"

end BrokenText

/-- A text, be it a run of characters or not. -/
inductive AnyText
  | whole (s : String)
  | broken (t : BrokenText)
  deriving DecidableEq, Repr

namespace AnyText

instance : Coe String AnyText := ⟨whole⟩

/-- The text has no character outside the blank class.  Half of a pair is outside of it. -/
def isBlank : AnyText → Bool
  | whole s => Text.allBlank s
  | broken _ => false

/-- The quoted form. -/
def quoted : AnyText → String
  | whole s => Text.quoted s
  | broken t => t.quoted

/-- The text inside a sentence.  One that is no run of characters stands there in quotes. -/
def plain : AnyText → String
  | whole s => s
  | broken t => t.quoted

/-- The code points. -/
def codes : AnyText → List Nat
  | whole s => s.toList.map Char.toNat
  | broken t => t.codes

end AnyText

end UsageLedger
