/-
Every spelling of an identifier is read as the identifier.

What is left of a spelling without its markers, braces and hyphens are the digits of the number
(`Uuid.bareDigits_of_spells`), and digits are read as the number that they denote.  The text of
an identifier is one of its spellings, so an identifier that was read is read again from itself
and from its text (`UserId.parse_text`).
-/
import Mathlib.Data.List.TakeWhile
import UsageLedger.Proofs.Event.RoundTrip
import UsageLedger.Proofs.Intake.Timestamp
import UsageLedger.Proofs.Text.Digits

namespace UsageLedger

/-! ### Texts -/

namespace Text

/-- What is taken off the ends may as well be added to them. -/
theorem trim_append {p : Char → Bool} {before l after : List Char}
    (hbefore : ∀ c ∈ before, p c = true) (hafter : ∀ c ∈ after, p c = true) :
    trim p (before ++ l ++ after) = trim p l := by
  unfold trim
  rw [List.append_assoc, List.dropWhile_append_of_pos hbefore, List.dropWhile_append]
  by_cases hl : (l.dropWhile p).isEmpty = true
  · rw [if_pos hl, List.isEmpty_iff.mp hl, List.dropWhile_eq_nil_iff.mpr hafter]
  · rw [if_neg hl, List.reverse_append,
      List.dropWhile_append_of_pos fun c hc => hafter c (List.mem_reverse.mp hc)]

theorem trim_eq_self {p : Char → Bool} {l : List Char} (hl : ∀ c ∈ l, p c = false) :
    trim p l = l := by
  have h : trim p ([] ++ l ++ []) = l := trim_padded (by simp) (by simp) hl
  rwa [List.nil_append, List.append_nil] at h

theorem splitSign_eq_self {l : List Char} (hl : ∀ c ∈ l, c ≠ '+' ∧ c ≠ '-') :
    splitSign l = (false, l) := by
  unfold splitSign
  split
  · exact absurd rfl (hl '+' (by simp)).1
  · exact absurd rfl (hl '-' (by simp)).2
  · rfl

/-- A text without blanks has no white space around it. -/
theorem trim_isWhiteSpace {l : List Char} (hl : ∀ c ∈ l, isBlank c = false) :
    trim isWhiteSpace l = l := by
  refine trim_eq_self fun c hc => Bool.eq_false_iff.mpr fun hwhite => ?_
  exact Bool.false_ne_true ((hl c hc).symm.trans (isBlank_of_isWhiteSpace hwhite))

end Text

/-! ### Whole numbers -/

namespace Text

/-- The decimal digits of a magnitude, with zeros in front of them. -/
def padded (zeros m : Nat) : List Char := List.replicate zeros '0' ++ decimal m

/-- The decimal spellings of a whole number that are short enough to be read. -/
inductive Spells (n : Int) : List Char → Prop
  | plain {zeros : Nat} : 0 ≤ n → (padded zeros n.natAbs).length ≤ maxDigits →
      Spells n (padded zeros n.natAbs)
  | plus {zeros : Nat} : 0 ≤ n → (padded zeros n.natAbs).length ≤ maxDigits →
      Spells n ('+' :: padded zeros n.natAbs)
  | minus {zeros : Nat} : n ≤ 0 → (padded zeros n.natAbs).length ≤ maxDigits →
      Spells n ('-' :: padded zeros n.natAbs)

variable {n : Int} {l : List Char}

theorem padded_eq (zeros m : Nat) :
    padded zeros m = (List.replicate zeros 0 ++ digits 10 m).map digitChar := by
  rw [List.map_append, List.map_replicate]
  rfl

theorem padded_digits {zeros m : Nat} : ∀ d ∈ List.replicate zeros 0 ++ digits 10 m, d < 10 := by
  rw [List.forall_mem_append]
  refine ⟨fun d hd => ?_, (ofDigits_digits (by decide) m).2⟩
  rw [List.eq_of_mem_replicate hd]
  decide

theorem padded_plain {zeros m : Nat} : ∀ c ∈ padded zeros m,
    isBlank c = false ∧ c ≠ '+' ∧ c ≠ '-' ∧ c ≠ '_' := by
  rw [padded_eq]
  intro c hc
  obtain ⟨d, hd, rfl⟩ := List.mem_map.mp hc
  exact digitChar_plain (padded_digits d hd)

theorem digitRun?_padded (zeros m : Nat) :
    digitRun? decimalDigit? (padded zeros m) = some (List.replicate zeros 0 ++ digits 10 m) := by
  refine digitRun?_eq_some ?_ ?_ fun c hc => (padded_plain c hc).2.2.2
  · rw [padded_eq, List.forall₂_map_left_iff, List.forall₂_same]
    exact fun d hd => decimalDigit?_digitChar (padded_digits d hd)
  · have hdigits : digits 10 m ≠ [] := by
      rw [digits]
      split <;> simp
    simp [padded, decimal, hdigits]

/-- A sign and digits are read as the number that they denote. -/
theorem readInteger?_of_splitSign {negative : Bool} {zeros m : Nat}
    (hblank : ∀ c ∈ l, isBlank c = false)
    (hsign : splitSign l = (negative, padded zeros m))
    (hlength : (padded zeros m).length ≤ maxDigits) :
    readInteger? l = some (signed negative m) := by
  rw [padded_eq, List.length_map] at hlength
  unfold readInteger?
  rw [trim_isWhiteSpace hblank, hsign]
  dsimp only
  rw [digitRun?_padded]
  dsimp only
  rw [if_pos hlength, ofDigits_zeros, (ofDigits_digits (by decide) m).1]

theorem Spells.not_blank (h : Spells n l) : ∀ c ∈ l, isBlank c = false := by
  cases h with
  | plain _ _ => exact fun c hc => (padded_plain c hc).1
  | plus _ _ => exact List.forall_mem_cons.mpr ⟨by decide, fun c hc => (padded_plain c hc).1⟩
  | minus _ _ => exact List.forall_mem_cons.mpr ⟨by decide, fun c hc => (padded_plain c hc).1⟩

theorem readInteger?_of_spells (h : Spells n l) : readInteger? l = some n := by
  have hblank := h.not_blank
  cases h with
  | plain hn hlength =>
      rw [readInteger?_of_splitSign hblank
        (splitSign_eq_self fun c hc => (padded_plain c hc).2.imp_right And.left) hlength, signed,
        if_neg Bool.false_ne_true, Int.natAbs_of_nonneg hn]
  | plus hn hlength =>
      rw [readInteger?_of_splitSign hblank rfl hlength, signed, if_neg Bool.false_ne_true,
        Int.natAbs_of_nonneg hn]
  | minus hn hlength =>
      rw [readInteger?_of_splitSign hblank rfl hlength, signed, if_pos rfl]
      exact congrArg some (by omega)

/-- A number has no more digits than a bound of its size. -/
theorem length_digits_le {base : Nat} {k m : Nat} (hm : m < base ^ (k + 1)) :
    (digits base m).length ≤ k + 1 := by
  induction k generalizing m with
  | zero =>
      rw [digits, dif_pos (Or.inl (by simpa using hm))]
      simp
  | succ k ih =>
      rw [digits]
      by_cases hshort : m < base ∨ base < 2
      · rw [dif_pos hshort]
        simp
      · rw [dif_neg hshort, List.length_append, List.length_singleton]
        exact Nat.succ_le_succ (ih (Nat.div_lt_of_lt_mul (by rwa [← Nat.pow_succ'])))

/-- The decimal form of a number is a spelling of it. -/
theorem spells_integer (hn : n.natAbs < 10 ^ 19) : Spells n (integer n).toList := by
  have hlength : (padded 0 n.natAbs).length ≤ maxDigits := by
    rw [padded_eq, List.length_map]
    exact (length_digits_le hn).trans (by decide)
  unfold integer
  rw [String.toList_ofList]
  by_cases hneg : n < 0
  · rw [if_pos hneg]
    have hspells : Spells n ('-' :: padded 0 n.natAbs) := .minus hneg.le hlength
    exact hspells
  · rw [if_neg hneg]
    have hspells : Spells n (padded 0 n.natAbs) := .plain (not_lt.mp hneg) hlength
    exact hspells

end Text

/-! ### Hexadecimal numbers -/

namespace Text

/-- Characters that are digits in lower case are read as the values of these. -/
theorem hexDigits_of_lower {ds : List Char} {vs : List Nat}
    (h : ds.map Char.toLower = vs.map digitChar) (hvs : ∀ d ∈ vs, d < 16) :
    (∀ c ∈ ds, c ∈ hexChars) ∧ List.Forall₂ (fun c d => hexDigit? c = some d) ds vs := by
  induction vs generalizing ds with
  | nil =>
      obtain rfl := List.map_eq_nil_iff.mp h
      exact ⟨by simp, .nil⟩
  | cons d vs ih =>
      obtain ⟨c, ds, rfl, hc, hrest⟩ := List.map_eq_cons_iff.mp h
      rw [List.forall_mem_cons] at hvs
      obtain ⟨hchar, hdigit⟩ := hexDigit_of_toLower hvs.1 hc
      obtain ⟨hchars, hdigits⟩ := ih hrest hvs.2
      exact ⟨List.forall_mem_cons.mpr ⟨hchar, hchars⟩, .cons hdigit hdigits⟩

theorem dropHexMarker_eq_self {l : List Char} (hl : ∀ c ∈ l, c ≠ 'x' ∧ c ≠ 'X') :
    dropHexMarker l = l := by
  unfold dropHexMarker
  split
  · next zero mark rest =>
      obtain ⟨hlow, hhigh⟩ := hl mark (by simp)
      rw [if_neg fun h => h.2.elim hlow hhigh]
  · rfl

/-- Hexadecimal digits in any case are read as the number that they denote. -/
theorem readHexInteger?_of_lower {ds : List Char} {vs : List Nat}
    (h : ds.map Char.toLower = vs.map digitChar) (hvs : ∀ d ∈ vs, d < 16) (hne : ds ≠ []) :
    readHexInteger? ds = some (ofDigits 16 vs : Int) := by
  obtain ⟨hchars, hdigits⟩ := hexDigits_of_lower h hvs
  have hplain := fun c hc => hexChars_plain c (hchars c hc)
  have hsign : splitSign ds = (false, ds) :=
    splitSign_eq_self fun c hc => ⟨(hplain c hc).2.1, (hplain c hc).2.2.1⟩
  have hmarker : dropHexMarker ds = ds :=
    dropHexMarker_eq_self fun c hc => ⟨(hplain c hc).2.2.2.2.1, (hplain c hc).2.2.2.2.2.1⟩
  unfold readHexInteger?
  rw [trim_isWhiteSpace fun c hc => (hplain c hc).1, hsign]
  dsimp only
  rw [hmarker, digitRun?_eq_some hdigits hne fun c hc => (hplain c hc).2.2.2.1]
  rfl

end Text

/-! ### Identifiers of 128 bits -/

namespace Uuid

open Text

/-- The spellings of an identifier: its digits in any case with hyphens anywhere, in braces or not,
and after the marker of a resource name or not. -/
inductive Spells (u : Uuid) : List Char → Prop
  | digits {l : List Char} :
      (l.filter (· ≠ '-')).map Char.toLower = Text.hexadecimal 32 u.number → Spells u l
  | braced {l : List Char} : Spells u l → Spells u ('\x7b' :: l ++ ['\x7d'])
  | named {l : List Char} : Spells u l → Spells u ("urn:uuid:".toList ++ l)

variable {u : Uuid} {l : List Char}

/-! #### Markers -/

theorem dropUrn_eq_self (hl : ∀ c ∈ l, c ≠ 'u') : dropUrn l = l := by
  induction l with
  | nil => rfl
  | cons c l ih =>
      rw [dropUrn, ih fun x hx => hl x (List.mem_cons_of_mem c hx)]
      rintro rest rfl
      exact absurd rfl (hl 'u' (by simp))

theorem dropScheme_eq_self (hl : ∀ c ∈ l, c ≠ 'u') : dropScheme l = l := by
  induction l with
  | nil => rfl
  | cons c l ih =>
      rw [dropScheme, ih fun x hx => hl x (List.mem_cons_of_mem c hx)]
      rintro rest rfl
      exact absurd rfl (hl 'u' (by simp))

/-- A brace behind a text is no part of a marker. -/
theorem dropUrn_brace (l : List Char) : dropUrn (l ++ ['\x7d']) = dropUrn l ++ ['\x7d'] := by
  fun_induction dropUrn l with
  | case1 rest ih => rw [← ih]; rfl
  | case2 c rest hmarker ih =>
      rw [List.cons_append, dropUrn, ih, List.cons_append]
      rintro rest' rfl h
      rcases rest with _ | ⟨a, _ | ⟨b, _ | ⟨d, rest⟩⟩⟩ <;> simp at h
      exact hmarker rest rfl (by simp [h])
  | case3 => rfl

theorem dropScheme_brace (l : List Char) :
    dropScheme (l ++ ['\x7d']) = dropScheme l ++ ['\x7d'] := by
  fun_induction dropScheme l with
  | case1 rest ih => rw [← ih]; rfl
  | case2 c rest hmarker ih =>
      rw [List.cons_append, dropScheme, ih, List.cons_append]
      rintro rest' rfl h
      rcases rest with _ | ⟨a, _ | ⟨b, _ | ⟨d, _ | ⟨e, rest⟩⟩⟩⟩ <;> simp at h
      exact hmarker rest rfl (by simp [h])
  | case3 => rfl

/-! #### Digits -/

/-- Digits with hyphens have no other characters. -/
theorem mem_of_digits (h : (l.filter (· ≠ '-')).map Char.toLower = hexadecimal 32 u.number) :
    ∀ c ∈ l, c = '-' ∨ c ∈ hexChars := by
  intro c hc
  by_cases hhyphen : c = '-'
  · exact .inl hhyphen
  · have hlower : c.toLower ∈ hexadecimal 32 u.number := by
      rw [← h]
      exact List.mem_map_of_mem (List.mem_filter.mpr ⟨hc, decide_eq_true hhyphen⟩)
    rw [hexadecimal_eq] at hlower
    obtain ⟨d, hd, hdigit⟩ := List.mem_map.mp hlower
    exact .inr (hexDigit_of_toLower (hexValues_lt d hd) hdigit.symm).1

/-- What is left of a spelling are the digits of the number. -/
theorem bareDigits_of_spells (h : u.Spells l) :
    (bareDigits l).map Char.toLower = Text.hexadecimal 32 u.number := by
  induction h with
  | @digits l hl =>
      have hplain : ∀ c ∈ l, c ≠ 'u' ∧ isBrace c = false := by
        intro c hc
        rcases mem_of_digits hl c hc with rfl | hhex
        · decide
        · obtain ⟨-, -, -, -, -, -, hu, hopen, hclose⟩ := hexChars_plain c hhex
          exact ⟨hu, by simp [isBrace, hopen, hclose]⟩
      rw [bareDigits, dropUrn_eq_self fun c hc => (hplain c hc).1,
        dropScheme_eq_self fun c hc => (hplain c hc).1,
        trim_eq_self fun c hc => (hplain c hc).2, hl]
  | @braced l _ ih =>
      have hbare : bareDigits ('\x7b' :: l ++ ['\x7d']) = bareDigits l := by
        have hdropped : dropScheme (dropUrn ('\x7b' :: l ++ ['\x7d']))
            = ['\x7b'] ++ dropScheme (dropUrn l) ++ ['\x7d'] := by
          show '\x7b' :: dropScheme (dropUrn (l ++ ['\x7d'])) = _
          rw [dropUrn_brace, dropScheme_brace]
          rfl
        rw [bareDigits, hdropped, trim_append (List.forall_mem_singleton.mpr rfl)
          (List.forall_mem_singleton.mpr rfl), ← bareDigits]
      rw [hbare, ih]
  | @named l _ ih =>
      have hbare : bareDigits ("urn:uuid:".toList ++ l) = bareDigits l := rfl
      rw [hbare, ih]

/-- A spelling has no blanks. -/
theorem Spells.not_blank (h : u.Spells l) : ∀ c ∈ l, isBlank c = false := by
  induction h with
  | digits hl =>
      intro c hc
      rcases mem_of_digits hl c hc with rfl | hhex
      · decide
      · exact (hexChars_plain c hhex).1
  | braced _ ih =>
      rw [List.forall_mem_append, List.forall_mem_cons, List.forall_mem_singleton]
      exact ⟨⟨rfl, ih⟩, rfl⟩
  | named _ ih =>
      have hurn : "urn:uuid:".toList.all (!isBlank ·) = true := by decide
      rw [List.forall_mem_append]
      exact ⟨fun c hc => by simpa using List.all_eq_true.mp hurn c hc, ih⟩

/-- Every spelling is read as the identifier. -/
theorem read?_of_spells (h : u.Spells l) : read? (String.ofList l) = some u := by
  have hbare := bareDigits_of_spells h
  unfold read?
  rw [String.toList_ofList]
  generalize bareDigits l = ds at hbare
  have hlength : ds.length = 32 := by
    rw [← List.length_map (f := Char.toLower), hbare, hexadecimal_eq, List.length_map,
      length_hexValues]
  have hread : readHexInteger? ds = some (u.number : Int) := by
    rw [readHexInteger?_of_lower (hbare.trans (hexadecimal_eq 32 u.number)) hexValues_lt
      (List.ne_nil_of_length_pos (by omega)), ofDigits_hexadecimal]
    exact congrArg (fun n : Nat => some (n : Int)) (Nat.mod_eq_of_lt u.number_lt)
  simp only [hlength, hread]
  rw [if_pos trivial, if_pos (Int.natCast_nonneg _), Int.toNat_natCast, ofNat?, dif_pos u.number_lt]

/-- Without the hyphens between them, groups of digits are the digits. -/
theorem filter_grouped {ds : List Char} (hds : ∀ c ∈ ds, c ≠ '-') :
    (grouped ds).filter (· ≠ '-') = ds := by
  have hself : ∀ m : List Char, m.Sublist ds → m.filter (· ≠ '-') = m := fun m hm =>
    List.filter_eq_self.mpr fun c hc => decide_eq_true (hds c (hm.mem hc))
  have htake : ∀ i k, ((ds.drop i).take k).filter (· ≠ '-') = (ds.drop i).take k := fun i k =>
    hself _ ((List.take_sublist k _).trans (List.drop_sublist i ds))
  have hhyphen : ∀ m : List Char, ('-' :: m).filter (· ≠ '-') = m.filter (· ≠ '-') :=
    fun m => List.filter_cons_of_neg (by decide)
  have hjoin : ∀ i k, (ds.drop i).take k ++ ds.drop (i + k) = ds.drop i := by
    intro i k
    rw [← List.drop_drop]
    exact List.take_append_drop k (ds.drop i)
  unfold grouped
  rw [List.append_assoc, List.append_assoc, List.append_assoc, List.filter_append,
    List.cons_append, hhyphen, List.filter_append, List.cons_append, hhyphen, List.filter_append,
    List.cons_append, hhyphen, List.filter_append, hhyphen, htake, htake, htake,
    hself _ (List.take_sublist 8 ds), hself _ (List.drop_sublist 20 ds), hjoin 16 4, hjoin 12 4,
    hjoin 8 4, List.take_append_drop]

/-- The digits of an identifier in groups are its digits with hyphens. -/
theorem spells_text (u : Uuid) : u.Spells u.text.toList := by
  rw [text, String.toList_ofList]
  refine .digits ?_
  have hlower : ∀ c ∈ hexadecimal 32 u.number, c ≠ '-' ∧ c.toLower = c := by
    rw [hexadecimal_eq]
    intro c hc
    obtain ⟨d, hd, rfl⟩ := List.mem_map.mp hc
    have hall : ∀ d < 16, digitChar d ≠ '-' ∧ (digitChar d).toLower = digitChar d := by decide
    exact hall d (hexValues_lt d hd)
  rw [filter_grouped fun c hc => (hlower c hc).1, List.map_congr_left fun c hc => (hlower c hc).2,
    List.map_id']

end Uuid

/-! ### Identifiers of users -/

namespace UserId

variable {scheme : IdScheme} {user : UserId} {s : String}

/-- The identifier is one of the scheme: of 128 bits, or a number of 64 or 32 bits. -/
def Within : UserId → IdScheme → Prop
  | .uuid _, .uuid => True
  | .number n, .bigint => -2 ^ 63 ≤ n ∧ n < 2 ^ 63
  | .number n, .int => -2 ^ 31 ≤ n ∧ n < 2 ^ 31
  | _, _ => False

/-- The identifiers that are read as themselves are those of the scheme. -/
theorem fits_iff_within : user.Fits scheme ↔ user.Within scheme := by
  have hnumber : ∀ {low high n : Int},
      ofNumber scheme (low, high) n = .ok (.number n) ↔ low ≤ n ∧ n ≤ high := by
    intro low high n
    unfold ofNumber
    split
    · next h => exact iff_of_true rfl h
    · next h => exact iff_of_false nofun h
  unfold Fits
  cases user with
  | uuid u =>
      cases scheme <;> simp [parse, IdScheme.bounds?, toValue, parseUuid, parseNumber, Within]
  | number n =>
      cases scheme with
      | uuid => exact iff_of_false nofun id
      | bigint =>
          refine hnumber.trans ?_
          simp only [Within]
          omega
      | int =>
          refine hnumber.trans ?_
          simp only [Within]
          omega

/-- The spellings of an identifier as texts, which may have blanks around them. -/
inductive Spelling : UserId → String → Prop
  | uuid {u : Uuid} {l : List Char} {before after : String} : u.Spells l →
      Text.allBlank before = true → Text.allBlank after = true →
      Spelling (.uuid u) (before ++ String.ofList l ++ after)
  | number {n : Int} {l : List Char} {before after : String} : Text.Spells n l →
      Text.allBlank before = true → Text.allBlank after = true →
      Spelling (.number n) (before ++ String.ofList l ++ after)

theorem trim_padded {l : List Char} {before after : String}
    (hbefore : Text.allBlank before = true) (hafter : Text.allBlank after = true)
    (hl : ∀ c ∈ l, Text.isBlank c = false) :
    Text.trim Text.isBlank (before ++ String.ofList l ++ after).toList = l := by
  rw [String.toList_append, String.toList_append, String.toList_ofList]
  exact Text.trim_padded (List.all_eq_true.mp hbefore) (List.all_eq_true.mp hafter) hl

theorem parseUuid_text {u : Uuid} (h : Uuid.read? (stripped s) = some u) :
    parse .uuid (.text s) = .ok (.uuid u) := by
  have hparse : parse .uuid (.text s) = parseUuid (.text s) := rfl
  rw [hparse]
  unfold parseUuid
  simp only [h]

theorem parseNumber_text {n : Int}
    (h : Text.readInteger? (Text.trim Text.isBlank s.toList) = some n)
    (hn : (number n).Fits scheme) : parse scheme (.text s) = .ok (.number n) := by
  unfold Fits parse at hn
  unfold parse
  cases hbounds : scheme.bounds? with
  | none =>
      rw [hbounds] at hn
      cases hn
  | some bounds =>
      rw [hbounds] at hn
      dsimp only
      unfold parseNumber
      simp only [h]
      exact hn

/-- **Every spelling of an identifier is read as the identifier**, in its scheme. -/
theorem parse_of_spelling (huser : user.Within scheme) (hs : user.Spelling s) :
    parse scheme (.text s) = .ok user := by
  cases hs with
  | @uuid u l before after hl hbefore hafter =>
      cases scheme with
      | uuid =>
          refine parseUuid_text ?_
          rw [stripped, trim_padded hbefore hafter hl.not_blank]
          exact Uuid.read?_of_spells hl
      | bigint | int => exact huser.elim
  | @number n l before after hl hbefore hafter =>
      refine parseNumber_text ?_ (fits_iff_within.mpr huser)
      rw [trim_padded hbefore hafter hl.not_blank]
      exact Text.readInteger?_of_spells hl

/-- The text of an identifier is one of its spellings. -/
theorem spelling_text (huser : user.Within scheme) : user.Spelling user.text := by
  have hempty : ∀ s : String, "" ++ String.ofList s.toList ++ "" = s := by simp
  cases user with
  | uuid u =>
      rw [text, ← hempty u.text]
      exact .uuid u.spells_text rfl rfl
  | number n =>
      have hsize : n.natAbs < 10 ^ 19 := by
        cases scheme with
        | uuid => exact huser.elim
        | bigint | int =>
            simp only [Within] at huser
            omega
      rw [text, ← hempty (Text.integer n)]
      exact .number (Text.spells_integer hsize) rfl rfl

/-- **What was read is read again, from itself and from its text.** -/
theorem parse_text {v : Value} (h : parse scheme v = .ok user) :
    user.Within scheme ∧ parse scheme user.toValue = .ok user ∧
      parse scheme (.text user.text) = .ok user := by
  have hfits : user.Fits scheme := fits_of_parse h
  have hwithin := fits_iff_within.mp hfits
  exact ⟨hwithin, hfits, parse_of_spelling hwithin (spelling_text hwithin)⟩

/-- What is read as an identifier says something. -/
theorem saysNothing_of_parse {v : Value} (h : parse scheme v = .ok user) :
    Intake.saysNothing v = false := by
  cases v with
  | null =>
      unfold parse at h
      split at h <;> cases h
  | text s =>
      by_contra hsays
      have hblank : Text.allBlank s = true := Bool.not_eq_false _ ▸ hsays
      have htrim : Text.trim Text.isBlank s.toList = [] := by
        unfold Text.trim
        rw [List.dropWhile_eq_nil_iff.mpr (List.all_eq_true.mp hblank)]
        rfl
      unfold parse at h
      split at h
      · unfold parseUuid stripped at h
        dsimp only at h
        rw [htrim] at h
        cases h
      · unfold parseNumber at h
        dsimp only at h
        rw [htrim] at h
        cases h
  | _ => rfl

end UserId

end UsageLedger
