/-
A sum means the same in whatever form the database hands it back.

A whole number comes as such, as a decimal, as a double or as a text, and each form is read in
its own way: a decimal is tried as a double before it is cut off at the point, which costs
nothing as the double itself is not used (`Decimal.truncate?_of_toRat?`).  A text is read when
it is a numeral with blanks around it, and a value that is no number is refused in one way
(`aggregates_agree`).

The blanks around a text are taken off before it is read, and there are more of them than a
number may have around it by itself: separators of information are blanks too
(`separators_taken_off`).
-/
import UsageLedger.Ledger.Pricing
import UsageLedger.Proofs.Number.Whole
import UsageLedger.Proofs.Text.Numeral

namespace UsageLedger.Pricing

open Text

variable {n : Int} {v user : Value} {s : String}

/-- The forms in which a whole number is handed back. -/
inductive Denotes (n : Int) : Value → Prop
  | int : Denotes n (.int n)
  | decimal {d : Decimal} : d.toRat? = some (n : Rat) → Denotes n (.decimal d)
  | float {x : Binary64} : x.toRat? = some (n : Rat) → Denotes n (.float x)
  | text {before after : String} {l : List Char} : allBlank before = true →
      allBlank after = true → Spells n l → Denotes n (.text (before ++ String.ofList l ++ after))

/-- Values that are no number, whatever they are compared with. -/
inductive NoNumber : Value → Prop
  | bool (b : Bool) : NoNumber (.bool b)
  | nan : NoNumber (.float .nan)
  | infinity (negative : Bool) : NoNumber (.float (.infinity negative))
  | decimalNan (negative signalling : Bool) (payload : Option Nat) :
      NoNumber (.decimal (.nan negative signalling payload))
  | decimalInfinity (negative : Bool) : NoNumber (.decimal (.infinity negative))
  | brokenText (t : BrokenText) : NoNumber (.brokenText t)

/-- The value is refused as a price that cannot be had. -/
def Unpriced (v user : Value) : Prop :=
  ∃ f, parsePrice v user = .error f ∧ f.kind = .priceCalculationFailed

/-! ### Reading by form -/

theorem parsePrice_of_wholeNumber (h : wholeNumber v = .ok n) : parsePrice v user = .ok n := by
  unfold parsePrice
  split
  · cases h
  · rw [h]
    rfl

theorem unpriced_of_wholeNumber {x : Fault} (hv : v ≠ .null) (h : wholeNumber v = .error x) :
    Unpriced v user := by
  unfold Unpriced parsePrice
  split
  · exact absurd rfl hv
  · rw [h]
    exact ⟨_, rfl, rfl⟩

/-- A text is read when it is a numeral with blanks around it. -/
theorem wholeNumber_text : wholeNumber (.text s) = .ok n ↔ Padded isBlank n s.toList := by
  have htrimmed : wholeNumber (.text s)
      = (readWhole (String.ofList (trim isBlank s.toList))).mapError
        fun defect => .badValue defect.message := rfl
  rw [htrimmed, mapError_eq_ok, readWhole_eq_ok_iff_numeral, String.toList_ofList,
    numeral_trim_trim]

theorem wholeNumber_of_denotes (hn : n.natAbs < 2 ^ 1023) (h : Denotes n v) :
    wholeNumber v = .ok n := by
  cases h with
  | int => rfl
  | @decimal d hd =>
      unfold wholeNumber
      dsimp only
      rw [if_pos (Decimal.isFinite_ofDecimal hd hn), Decimal.truncate?_of_toRat? hd]
      rfl
  | @float x hx =>
      unfold wholeNumber
      dsimp only
      rw [Binary64.truncate?_of_toRat? hx]
  | @text before after l hbefore hafter hl =>
      rw [wholeNumber_text, String.toList_append, String.toList_append, String.toList_ofList]
      exact ⟨_, l, _, List.all_eq_true.mp hbefore, List.all_eq_true.mp hafter, rfl,
        numeral_of_spells hl⟩

/-! ### Refusals -/

/-- A quote is no part of a numeral and no blank. -/
theorem not_padded_quoted {quote : Char} {l : List Char} (hquote : quote = '\'' ∨ quote = '"') :
    ¬ Padded isBlank n (quote :: l) := by
  rintro ⟨before, core, after, hbefore, hafter, hl, hcore⟩
  have hmem : quote ∈ before ++ core ++ after := hl ▸ List.mem_cons_self
  have hplain : isBlank quote = false ∧
      ¬ (quote = '+' ∨ quote = '-' ∨ (decimalDigit? quote).isSome ∨ quote = '_') := by
    rcases hquote with rfl | rfl <;> decide
  rw [List.mem_append, List.mem_append] at hmem
  rcases hmem with (hmem | hmem) | hmem
  · exact Bool.false_ne_true (hplain.1.symm.trans (hbefore _ hmem))
  · exact hplain.2 (hcore.chars _ hmem)
  · exact Bool.false_ne_true (hplain.1.symm.trans (hafter _ hmem))

theorem chooseQuote_cases (l : List Char) : chooseQuote l = '\'' ∨ chooseQuote l = '"' := by
  unfold chooseQuote
  split
  · exact .inr rfl
  · exact .inl rfl

theorem exists_error_of_noNumber (h : NoNumber v) : ∃ x, wholeNumber v = .error x := by
  cases h with
  | bool b => exact ⟨_, rfl⟩
  | nan => exact ⟨_, rfl⟩
  | infinity negative => exact ⟨_, rfl⟩
  | decimalNan negative signalling payload => exact ⟨_, rfl⟩
  | decimalInfinity negative => exact ⟨_, rfl⟩
  | brokenText t =>
      have htext : wholeNumber (.brokenText t) = wholeNumber (.text t.quoted) := rfl
      rw [htext]
      cases hread : wholeNumber (.text t.quoted) with
      | error x => exact ⟨x, rfl⟩
      | ok n =>
          rw [wholeNumber_text, BrokenText.quoted, quotedCodes, String.toList_ofList] at hread
          exact absurd hread (not_padded_quoted (chooseQuote_cases _))

theorem unpriced_of_noNumber (h : NoNumber v) : Unpriced v user := by
  obtain ⟨x, hx⟩ := exists_error_of_noNumber h
  refine unpriced_of_wholeNumber ?_ hx
  rintro rfl
  cases h

/-- A separator of information, which is a blank and no white space. -/
def IsSeparator (c : Char) : Prop := 0x1C ≤ c.toNat ∧ c.toNat ≤ 0x1F

/-- The text is a numeral with blanks around it, one of which is a separator. -/
def Separated (n : Int) (l : List Char) : Prop :=
  ∃ before core after, (∀ c ∈ before, isBlank c = true) ∧ (∀ c ∈ after, isBlank c = true) ∧
    l = before ++ core ++ after ∧ Numeral n core ∧ ∃ c ∈ before ++ after, IsSeparator c

/-- What has blanks around it has white space around it, or a separator among them. -/
theorem padded_or_separated {l : List Char} (h : Padded isBlank n l) :
    Padded isWhiteSpace n l ∨ Separated n l := by
  obtain ⟨before, core, after, hbefore, hafter, hl, hcore⟩ := h
  by_cases hwhite : ∀ c ∈ before ++ after, isWhiteSpace c = true
  · rw [List.forall_mem_append] at hwhite
    exact .inl ⟨before, core, after, hwhite.1, hwhite.2, hl, hcore⟩
  · obtain ⟨c, hc, hno⟩ := not_forall₂.mp hwhite
    have hblank : isBlank c = true := (List.forall_mem_append.mpr ⟨hbefore, hafter⟩) c hc
    refine .inr ⟨before, core, after, hbefore, hafter, hl, hcore, c, hc, ?_⟩
    simpa [isBlank, hno, IsSeparator] using hblank

/-- Separators are blanks, so what they stand around is read. -/
theorem Separated.padded {l : List Char} (h : Separated n l) : Padded isBlank n l := by
  obtain ⟨before, core, after, hbefore, hafter, hl, hcore, -⟩ := h
  exact ⟨before, core, after, hbefore, hafter, hl, hcore⟩

/-- A text that is no number by itself is refused, unless separators made it none. -/
theorem unpriced_or_separated {defect : NumeralDefect} (h : readWhole s = .error defect) :
    Unpriced (.text s) user ∨
      ∃ n, Separated n s.toList ∧ parsePrice (.text s) user = .ok n := by
  cases hread : wholeNumber (.text s) with
  | error x => exact .inl (unpriced_of_wholeNumber (by simp) hread)
  | ok n =>
      refine .inr ⟨n, ?_, parsePrice_of_wholeNumber hread⟩
      refine (padded_or_separated (wholeNumber_text.mp hread)).resolve_left fun hwhite => ?_
      cases h.symm.trans (readWhole_eq_ok_iff.mpr hwhite)

/-- **A sum means the same in every form.**  Below 2 ^ 1023 a whole number is read exactly from
itself and from every decimal, double and decimal text that equals it.  What is no number is refused
as a price that cannot be had, and so is a text that is no number, unless it is one as soon as the
separators around it are taken off.  Then it is read as this number, as is a text that is one by
itself. -/
theorem aggregates_agree (user : Value) :
    (∀ {n : Int} {v : Value}, n.natAbs < 2 ^ 1023 → Denotes n v → parsePrice v user = .ok n) ∧
    (∀ {v : Value}, NoNumber v → Unpriced v user) ∧
    (∀ {s : String} {defect : NumeralDefect}, readWhole s = .error defect →
      Unpriced (.text s) user ∨ ∃ n, Separated n s.toList ∧ parsePrice (.text s) user = .ok n) ∧
    (∀ {s : String} {n : Int}, Separated n s.toList → parsePrice (.text s) user = .ok n) ∧
    ∀ (s : String) (n : Int), readWhole s = .ok n → parsePrice (.text s) user = .ok n := by
  refine ⟨fun hn h => parsePrice_of_wholeNumber (wholeNumber_of_denotes hn h),
    unpriced_of_noNumber, unpriced_or_separated,
    fun h => parsePrice_of_wholeNumber (wholeNumber_text.mpr h.padded),
    fun s n h => parsePrice_of_wholeNumber ?_⟩
  have hpadded : Padded isBlank n ([] ++ s.toList ++ []) :=
    (readWhole_eq_ok_iff.mp h).around (fun _ => isBlank_of_isWhiteSpace) (by simp) (by simp)
  rw [List.nil_append, List.append_nil] at hpadded
  exact wholeNumber_text.mpr hpadded

/-- Twelve hundred as two decimals, a double and a text, an undefined decimal with a payload, and
texts that are no number and one. -/
theorem aggregates_agree_sample :
    let user : Value := .text "u"
    parsePrice (.decimal (.finite false 12 2)) user = .ok 1200 ∧
    parsePrice (.decimal (.finite true 120000 (-2))) user = .ok (-1200) ∧
    parsePrice (.float (.finite false 75 4)) user = .ok 1200 ∧
    parsePrice (.text ("\u001c" ++ String.ofList ('+' :: padded 3 1200) ++ "\n")) user = .ok 1200 ∧
    Unpriced (.decimal (.nan true true (some 7))) user ∧
    (Unpriced (.text "12.5") user ∨
      ∃ n, Separated n "12.5".toList ∧ parsePrice (.text "12.5") user = .ok n) ∧
    parsePrice (.text "\u001c5") user = .ok 5 ∧ parsePrice (.text "1_2\n") user = .ok 12 := by
  intro user
  obtain ⟨hread, hrefuse, hreject, hseparated, hplain⟩ := aggregates_agree user
  have hsmall : ∀ {m k : Nat}, m < 2 ^ 11 → 11 ≤ k → m < 2 ^ k := fun hm hk =>
    hm.trans_le (Nat.pow_le_pow_right (by decide) hk)
  have hspells : Spells 1200 ('+' :: padded 3 1200) := .plus (by decide) (by decide +kernel)
  have hscaled : Denotes 1200 (.decimal (.finite false 12 2)) ∧
      Denotes (-1200) (.decimal (.finite true 120000 (-2))) :=
    ⟨.decimal (Decimal.toRat?_eq_some_int.mpr (by decide)),
      .decimal (Decimal.toRat?_eq_some_int.mpr (by decide))⟩
  have hlow : (1200 : Int).natAbs < 2 ^ 1023 ∧ (-1200 : Int).natAbs < 2 ^ 1023 :=
    ⟨hsmall (by decide) (by decide), hsmall (by decide) (by decide)⟩
  have hnumeral : Numeral (ofDigits 10 [5]) ['5'] := .plain (.last (by decide)) (by decide)
  have hfive : Separated 5 "\u001c5".toList :=
    ⟨['\u001c'], ['5'], [], List.forall_mem_singleton.mpr rfl, List.forall_mem_nil _, rfl,
      hnumeral, '\u001c', by decide, by unfold IsSeparator; decide⟩
  exact ⟨hread hlow.1 hscaled.1, hread hlow.2 hscaled.2, hread hlow.1 (.float rfl),
    hread hlow.1 (.text rfl rfl hspells), hrefuse (.decimalNan true true (some 7)), hreject rfl,
    hseparated hfive, hplain _ _ rfl⟩

/-- A separator in front of a number makes it none, but it is a blank and taken off. -/
theorem separators_taken_off :
    readWhole "\u001c5" = .error (.notWhole "\u001c5") ∧
      parsePrice (.text "\u001c5") (.text "u") = .ok 5 ∧
      ¬ Unpriced (.text "\u001c5") (.text "u") := by
  refine ⟨rfl, rfl, ?_⟩
  rintro ⟨f, hf, -⟩
  cases hf

end UsageLedger.Pricing
