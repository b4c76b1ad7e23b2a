/-
Texts split at a separator.

`parts` cuts a text at every occurrence of a separator, so there is one part more than
there are separators: an empty text has one empty part.  Nothing is lost, since putting
the separator between the parts gives the text back (`intercalate_parts`).
-/

namespace UsageLedger.Text

/-- The parts of a text between separators. -/
def parts (separator : Char) : List Char → List (List Char)
  | [] => [[]]
  | c :: rest =>
    let others := parts separator rest
    if c = separator then [] :: others else (c :: others.headD []) :: others.drop 1

theorem parts_ne_nil (separator : Char) (cs : List Char) : parts separator cs ≠ [] := by
  cases cs with
  | nil => simp [parts]
  | cons c rest => by_cases h : c = separator <;> simp [parts, h]

/-- The separator between the parts gives the text back. -/
theorem intercalate_parts (separator : Char) (cs : List Char) :
    [separator].intercalate (parts separator cs) = cs := by
  induction cs with
  | nil => simp [parts]
  | cons c rest ih =>
    obtain ⟨first, others, h⟩ := List.exists_cons_of_ne_nil (parts_ne_nil separator rest)
    rw [h] at ih
    by_cases hc : c = separator
    · simp [parts, hc, h, List.intercalate_cons_cons, ih]
    · cases others <;> simp_all [parts, List.intercalate_cons_cons]

end UsageLedger.Text
