/-
Which texts are read as whole numbers.

A numeral is a run of digits of any script, two of which may have an underscore between
them, with a sign in front or not (`Numeral`).  No character of a numeral is a blank, so a
numeral is what is left of a text with blanks around it, and reading decides whether a text
is one: `readInteger?` says so for a text without white space around it, and `readWhole`,
which also gives a reason, for any text (`readWhole_eq_ok_iff`).
-/
import UsageLedger.Proofs.Intake.Spelling
import UsageLedger.Text.Numeral

namespace UsageLedger.Text

variable {l : List Char} {ds : List Nat} {n : Int} {s : String}

/-! ### Runs of digits -/

/-- A run of digits of any script with single underscores between two of them, and the values of
its digits. -/
inductive DigitRun : List Char → List Nat → Prop
  | last {c : Char} {d : Nat} : decimalDigit? c = some d → DigitRun [c] [d]
  | next {c : Char} {d : Nat} {l : List Char} {ds : List Nat} : decimalDigit? c = some d →
      DigitRun l ds → DigitRun (c :: l) (d :: ds)
  | spaced {c : Char} {d : Nat} {l : List Char} {ds : List Nat} : decimalDigit? c = some d →
      DigitRun l ds → DigitRun (c :: '_' :: l) (d :: ds)

/-- What is no digit begins no run. -/
theorem DigitRun.ne_cons {c : Char} (h : DigitRun l ds) (hc : decimalDigit? c = none) :
    ∀ rest, l ≠ c :: rest := by
  rintro rest rfl
  cases h with
  | last hd | next hd _ | spaced hd _ => exact nomatch hc.symm.trans hd

theorem DigitRun.ne_nil (h : DigitRun l ds) : l ≠ [] := by
  cases h <;> exact List.cons_ne_nil _ _

theorem digitRun?_of_digitRun (h : DigitRun l ds) : digitRun? decimalDigit? l = some ds := by
  induction h with
  | last hd => rw [digitRun?, hd]; rfl
  | next hd hl ih =>
      rw [digitRun?, hd, ih]
      · exact hl.ne_nil
      · exact hl.ne_cons (by decide)
  | spaced hd _ ih => rw [digitRun?, hd, ih]

theorem digitRun_of_digitRun? (h : digitRun? decimalDigit? l = some ds) : DigitRun l ds := by
  fun_induction digitRun? decimalDigit? l generalizing ds with
  | case1 => cases h
  | case2 c =>
      obtain ⟨d, hd, rfl⟩ := Option.map_eq_some_iff.mp h
      exact .last hd
  | case3 c rest ds' d hrest hd ih =>
      cases h
      exact .spaced hd (ih hrest)
  | case4 => cases h
  | case5 c rest _ _ ds' d hrest hd ih =>
      cases h
      exact .next hd (ih hrest)
  | case6 => cases h

theorem digitRun?_eq_some_iff : digitRun? decimalDigit? l = some ds ↔ DigitRun l ds :=
  ⟨digitRun_of_digitRun?, digitRun?_of_digitRun⟩

/-- A digit of any script is no blank. -/
theorem not_blank_of_decimalDigit? {c : Char} {d : Nat} (h : decimalDigit? c = some d) :
    isBlank c = false := by
  have hall : ∀ z ∈ digitZeros, ∀ k < 10, isBlank (Char.ofNat (z + k)) = false := by
    decide +kernel
  obtain ⟨z, hfind, -⟩ := Option.map_eq_some_iff.mp h
  have hrange := List.find?_some hfind
  simp only [Bool.and_eq_true, decide_eq_true_eq] at hrange
  have hchar := hall z (List.mem_of_find?_eq_some hfind) (c.toNat - z) (by omega)
  rwa [Nat.add_sub_cancel' hrange.1, Char.ofNat_toNat] at hchar

/-- The characters of a run are digits and underscores. -/
theorem DigitRun.chars (h : DigitRun l ds) : ∀ c ∈ l, (decimalDigit? c).isSome ∨ c = '_' := by
  induction h with
  | last hd => simp [hd]
  | next hd _ ih => simpa [hd] using ih
  | spaced hd _ ih => simpa [hd] using ih

/-! ### Numerals -/

/-- The numerals of a whole number that are short enough to be read. -/
inductive Numeral : Int → List Char → Prop
  | plain {l : List Char} {ds : List Nat} : DigitRun l ds → ds.length ≤ maxDigits →
      Numeral (ofDigits 10 ds) l
  | plus {l : List Char} {ds : List Nat} : DigitRun l ds → ds.length ≤ maxDigits →
      Numeral (ofDigits 10 ds) ('+' :: l)
  | minus {l : List Char} {ds : List Nat} : DigitRun l ds → ds.length ≤ maxDigits →
      Numeral (-(ofDigits 10 ds)) ('-' :: l)

/-- The characters of a numeral are signs, digits and underscores. -/
theorem Numeral.chars (h : Numeral n l) :
    ∀ c ∈ l, c = '+' ∨ c = '-' ∨ (decimalDigit? c).isSome ∨ c = '_' := by
  cases h with
  | plain hl _ => exact fun c hc => .inr (.inr (hl.chars c hc))
  | plus hl _ => exact List.forall_mem_cons.mpr ⟨by simp, fun c hc => .inr (.inr (hl.chars c hc))⟩
  | minus hl _ => exact List.forall_mem_cons.mpr ⟨by simp, fun c hc => .inr (.inr (hl.chars c hc))⟩

theorem Numeral.not_blank (h : Numeral n l) : ∀ c ∈ l, isBlank c = false := by
  intro c hc
  rcases h.chars c hc with rfl | rfl | hdigit | rfl
  · decide
  · decide
  · obtain ⟨d, hd⟩ := Option.isSome_iff_exists.mp hdigit
    exact not_blank_of_decimalDigit? hd
  · decide

/-- A sign that is there or not and a run of digits make a numeral. -/
theorem numeral_iff : Numeral n l ↔ ∃ ds, DigitRun (splitSign l).2 ds ∧ ds.length ≤ maxDigits ∧
    n = signed (splitSign l).1 (ofDigits 10 ds) := by
  constructor
  · intro h
    cases h with
    | @plain l ds hl hlength =>
        have hself : splitSign l = (false, l) := by
          refine splitSign_eq_self fun c hc => ?_
          have hchar := hl.chars c hc
          constructor <;> rintro rfl <;> exact absurd hchar (by decide)
        rw [hself]
        exact ⟨ds, hl, hlength, rfl⟩
    | @plus l ds hl hlength => exact ⟨ds, hl, hlength, rfl⟩
    | @minus l ds hl hlength => exact ⟨ds, hl, hlength, rfl⟩
  · rintro ⟨ds, hl, hlength, rfl⟩
    unfold splitSign at hl ⊢
    split at hl
    · exact .plus hl hlength
    · exact .minus hl hlength
    · exact .plain hl hlength

/-! ### Reading -/

theorem readInteger?_eq_some_iff :
    readInteger? l = some n ↔ Numeral n (trim isWhiteSpace l) := by
  rw [numeral_iff]
  unfold readInteger?
  obtain ⟨negative, rest⟩ := splitSign (trim isWhiteSpace l)
  dsimp only
  simp only [← digitRun?_eq_some_iff]
  cases hrun : digitRun? decimalDigit? rest with
  | none => simp
  | some ds =>
      by_cases hlength : ds.length ≤ maxDigits
      · simp only [Option.some.injEq, exists_eq_left', hlength, true_and, if_true]
        exact eq_comm
      · simp [hlength]

/-- The digits are looked at first, but the whole text has to be a numeral all the same. -/
theorem readWhole_eq_ok_iff_numeral :
    readWhole s = .ok n ↔ Numeral n (trim isWhiteSpace s.toList) := by
  rw [numeral_iff]
  unfold readWhole
  obtain ⟨negative, rest⟩ := splitSign (trim isWhiteSpace s.toList)
  dsimp only
  constructor
  · intro h
    split at h
    · cases h
    next ds hrun =>
    split at h
    · cases h
    next hlength =>
    split at h
    · next hwhole =>
        cases h
        have hrest := (List.takeWhile_prefix _).eq_of_length hwhole
        rw [hrest, digitRun?_eq_some_iff] at hrun
        exact ⟨ds, hrun, not_lt.mp hlength, rfl⟩
    · cases h
  · rintro ⟨ds, hrun, hlength, rfl⟩
    have hall : rest.takeWhile (fun c => (decimalDigit? c).isSome || c = '_') = rest := by
      rw [List.takeWhile_eq_self_iff]
      simpa using hrun.chars
    rw [hall, digitRun?_of_digitRun hrun]
    dsimp only
    rw [if_neg (not_lt.mpr hlength), if_pos rfl]

/-- What is taken off the ends of a text stood there. -/
theorem exists_eq_append_trim (p : Char → Bool) (l : List Char) : ∃ before after,
    (∀ c ∈ before, p c = true) ∧ (∀ c ∈ after, p c = true) ∧ l = before ++ trim p l ++ after := by
  have hends : ∀ m : List Char, ∀ c ∈ m.takeWhile p, p c = true :=
    fun m c hc => List.mem_takeWhile_imp hc
  refine ⟨l.takeWhile p, ((l.dropWhile p).reverse.takeWhile p).reverse, hends l,
    fun c hc => hends _ c (List.mem_reverse.mp hc), ?_⟩
  rw [trim, List.append_assoc, ← List.reverse_append, List.takeWhile_append_dropWhile,
    List.reverse_reverse, List.takeWhile_append_dropWhile]

/-- The text is a numeral with characters of a class around it. -/
def Padded (p : Char → Bool) (n : Int) (l : List Char) : Prop :=
  ∃ before core after, (∀ c ∈ before, p c = true) ∧ (∀ c ∈ after, p c = true) ∧
    l = before ++ core ++ after ∧ Numeral n core

theorem numeral_trim_iff {p : Char → Bool} (hp : ∀ c, p c = true → isBlank c = true) :
    Numeral n (trim p l) ↔ Padded p n l := by
  constructor
  · intro h
    obtain ⟨before, after, hbefore, hafter, hl⟩ := exists_eq_append_trim p l
    exact ⟨before, _, after, hbefore, hafter, hl, h⟩
  · rintro ⟨before, core, after, hbefore, hafter, rfl, hcore⟩
    rwa [trim_padded hbefore hafter fun c hc => ?_]
    refine Bool.eq_false_iff.mpr fun hblank => ?_
    exact Bool.false_ne_true ((hcore.not_blank c hc).symm.trans (hp c hblank))

/-- What stands inside a text with more blanks around it. -/
theorem Padded.around {p q : Char → Bool} {before m after : List Char} (h : Padded p n m)
    (hpq : ∀ c, p c = true → q c = true) (hbefore : ∀ c ∈ before, q c = true)
    (hafter : ∀ c ∈ after, q c = true) : Padded q n (before ++ m ++ after) := by
  obtain ⟨front, core, back, hfront, hback, rfl, hcore⟩ := h
  refine ⟨before ++ front, core, back ++ after, ?_, ?_, by simp, hcore⟩
  · exact List.forall_mem_append.mpr ⟨hbefore, fun c hc => hpq c (hfront c hc)⟩
  · exact List.forall_mem_append.mpr ⟨fun c hc => hpq c (hback c hc), hafter⟩

/-- Once blanks are taken off, taking off white space does nothing. -/
theorem numeral_trim_trim :
    Numeral n (trim isWhiteSpace (trim isBlank l)) ↔ Padded isBlank n l := by
  rw [numeral_trim_iff fun _ => isBlank_of_isWhiteSpace]
  obtain ⟨before, after, hbefore, hafter, hl⟩ := exists_eq_append_trim isBlank l
  constructor
  · intro h
    rw [hl]
    exact h.around (fun _ => isBlank_of_isWhiteSpace) hbefore hafter
  · rintro ⟨before, core, after, hbefore, hafter, rfl, hcore⟩
    rw [trim_padded hbefore hafter hcore.not_blank]
    exact ⟨[], core, [], by simp, by simp, by simp, hcore⟩

/-- **A text is read as a whole number when it is a numeral of it with white space around it.** -/
theorem readWhole_eq_ok_iff : readWhole s = .ok n ↔ Padded isWhiteSpace n s.toList :=
  readWhole_eq_ok_iff_numeral.trans (numeral_trim_iff fun _ => isBlank_of_isWhiteSpace)

/-- Decimal digits with a sign or not are a numeral. -/
theorem numeral_of_spells (h : Spells n l) : Numeral n l := by
  have hread := readInteger?_eq_some_iff.mp (readInteger?_of_spells h)
  rwa [trim_isWhiteSpace h.not_blank] at hread

end UsageLedger.Text
