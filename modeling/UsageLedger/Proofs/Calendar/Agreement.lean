/-
What two readers make of one text.

The strict reader takes a date with a time, a date alone, or a Unix time, and the lenient reader
knows no Unix times.  A date with a time is taken apart by `exists_form_of_readDateTime?`, and its
parts are the same to the lenient reader, which reads `Z` spelt out as an offset (`spellByte`).  A
Unix time is a numeral, and no date with hyphens is one, so a text that both readers take is read
alike unless it is a numeral (`readIsoBytes?_of_readRfc3339Bytes`), and a numeral is a Unix time to
the strict reader (`readUnixTime?_of_isNumeral`).
-/
import UsageLedger.Proofs.Calendar.Forms
import UsageLedger.Proofs.Schema.Numeral

namespace UsageLedger

/-- The digits in front of a text, and what follows them. -/
theorem Decimal.leadingDigits_append {text rest : List Char} {ds : List Nat}
    (h : leadingDigits text = (ds, rest)) :
    ∃ front, text = front ++ rest ∧ ∀ c ∈ front, (Text.asciiDigit? c).isSome = true := by
  induction text generalizing ds with
  | nil =>
      cases h
      exact ⟨[], rfl, by simp⟩
  | cons c text ih =>
      unfold leadingDigits at h
      cases hdigit : Text.asciiDigit? c with
      | none =>
          rw [hdigit] at h
          cases h
          exact ⟨[], rfl, by simp⟩
      | some d =>
          rw [hdigit] at h
          obtain ⟨-, hrest⟩ := Prod.mk.inj h
          obtain ⟨front, rfl, hfront⟩ := ih (Prod.ext rfl hrest)
          exact ⟨c :: front, rfl, by simpa [hdigit] using hfront⟩

namespace Calendar

/-! ### Universal time spelt out -/

/-- The bytes that a byte is spelt out as: `Z` is an offset of zero. -/
def spellByte (x : UInt8) : List UInt8 := if x = 90 then [43, 48, 48, 58, 48, 48] else [x]

theorem spell_eq_self {b : List UInt8} (h : ∀ x ∈ b, x ≠ 90) : b.flatMap spellByte = b := by
  induction b with
  | nil => rfl
  | cons x b ih =>
      rw [List.flatMap_cons, spellByte, if_neg (h x List.mem_cons_self),
        ih fun y hy => h y (List.mem_cons_of_mem x hy)]
      rfl

theorem InClock.not_zulu {x : UInt8} (h : InClock x) : x ≠ 90 := by
  rintro rfl
  exact absurd h.range (by decide)

section Forms

variable {front k rest : List UInt8} {date : CivilDate} {time : ClockTime} {offset : Option Int}

/-- An offset that the lenient reader reads is the same to it. -/
theorem readBehind?_of_offsetAt {d : Timestamp} (hk : ClockAt k time k.length)
    (hoffset : OffsetAt rest offset)
    (h : readBehind? date (k ++ rest.flatMap spellByte) = some d) :
    Timestamp.make? date time offset = some d := by
  cases hoffset with
  | none =>
      rw [List.flatMap_nil, List.append_nil, readBehind?_end hk] at h
      exact h
  | zulu =>
      have hzero : readOffset? [43, 48, 48, 58, 48, 48] 0 = some 0 := by decide
      have hspelt : [90].flatMap spellByte = 43 :: [48, 48, 58, 48, 48] := rfl
      rw [hspelt, readBehind?_signed hk rfl hzero] at h
      exact h
  | small =>
      have hspelt : [122].flatMap spellByte = [122] := rfl
      rw [hspelt, readBehind?_junk hk (fun hin => absurd hin.range (by decide)) (by decide)
        (List.forall_mem_singleton.mpr rfl)] at h
      cases h
  | @signed x b hour minute hx hdigits hhour hminute =>
      have hspelt : (x :: b).flatMap spellByte = x :: b := by
        refine spell_eq_self (List.forall_mem_cons.mpr ⟨?_, fun y hy => ?_⟩)
        · rintro rfl
          cases hx
        · exact (hdigits.inClock y hy).not_zulu
      rw [hspelt, readBehind?_signed hk hx (readOffset?_signed hdigits hhour hminute)] at h
      exact h
  | @minus b hour minute hdigits =>
      have hin := hdigits.inClock
      have hspelt : (0xE2 :: 0x88 :: 0x92 :: b).flatMap spellByte = 0xE2 :: 0x88 :: 0x92 :: b := by
        refine spell_eq_self ?_
        simp only [List.forall_mem_cons]
        exact ⟨by decide, by decide, by decide, fun y hy => (hin y hy).not_zulu⟩
      have hsigns : ∀ y ∈ 0xE2 :: 0x88 :: 0x92 :: b, isSign y = false := by
        simp only [List.forall_mem_cons]
        exact ⟨by decide, by decide, by decide, fun y hy => (hin y hy).isSign⟩
      rw [hspelt, readBehind?_junk hk (fun h => absurd h.range (by decide)) (by decide) hsigns] at h
      cases h

theorem DateAt.not_zulu {b : List UInt8} (h : DateAt b date) : ∀ j < 10, byteAt b j ≠ 90 := by
  intro j hj hz
  have hbyte := h.bytes j hj
  rw [hz] at hbyte
  exact absurd hbyte (by decide)

/-- A date and its separator have no `Z`. -/
theorem DateTimeForm.front_not_zulu (h : DateTimeForm front k rest date time offset) :
    ∀ x ∈ front, x ≠ 90 := by
  intro x hx
  obtain ⟨j, hj, rfl⟩ := exists_of_mem hx
  rcases Nat.lt_succ_iff_lt_or_eq.mp (h.length ▸ hj) with hj | rfl
  · exact h.date.not_zulu j hj
  · intro hz
    have hmark := h.mark.cases
    rw [hz] at hmark
    exact absurd hmark (by decide)

theorem DateTimeForm.readIsoBytes? {d : Timestamp} (h : DateTimeForm front k rest date time offset)
    (hread : Calendar.readIsoBytes? ((front ++ (k ++ rest)).flatMap spellByte) = some d) :
    Timestamp.make? date time offset = some d := by
  have hk : ∀ x ∈ k, x ≠ 90 := by
    intro x hx
    obtain ⟨j, hj, rfl⟩ := exists_of_mem hx
    exact (h.clock.inClock j hj).not_zulu
  have hmark : byteAt front 10 < 0x80 := by
    rcases h.mark.cases with hx | hx | hx | hx <;> rw [hx] <;> decide
  rw [List.flatMap_append, List.flatMap_append, spell_eq_self h.front_not_zulu, spell_eq_self hk,
    readIsoBytes?_append _ _ h.date h.length hmark] at hread
  exact readBehind?_of_offsetAt h.clock h.offset hread

/-- A date alone is the same to both readers. -/
theorem readIsoBytes?_date {b : List UInt8} (h : DateAt b date) (hlength : b.length = 10) :
    Calendar.readIsoBytes? (b.flatMap spellByte) = Timestamp.make? date ⟨0, 0, 0, 0⟩ none := by
  have hspelt : b.flatMap spellByte = b := by
    refine spell_eq_self fun x hx => ?_
    obtain ⟨j, hj, rfl⟩ := exists_of_mem hx
    exact h.not_zulu j (hlength ▸ hj)
  have hshort : ¬ 10 < b.length := hlength.not_gt
  unfold Calendar.readIsoBytes?
  rw [hspelt, h.separatorPosition? hlength.ge, Option.bind_eq_bind, Option.bind_some]
  simp only [h.readDate?]
  rw [Option.bind_eq_bind, Option.bind_some, if_neg hshort]

/-- What does not begin with a digit is nothing to the lenient reader. -/
theorem readIsoBytes?_eq_none {b : List UInt8} (h : ¬ IsDigit (byteAt b 0)) :
    Calendar.readIsoBytes? b = none := by
  have hdate : ∀ stop, readDate? b stop = none := by
    intro stop
    unfold readDate?
    rw [numberAt?_eq_none (j := 0) (by decide) h]
    rfl
  unfold Calendar.readIsoBytes?
  cases separatorPosition? b with
  | none => rfl
  | some stop =>
      rw [Option.bind_eq_bind, Option.bind_some, hdate]
      rfl

end Forms

/-! ### Unix times -/

/-- The text is made of digits and points. -/
def IsNumeral (text : List Char) : Prop := ∀ c ∈ text, (Text.asciiDigit? c).isSome = true ∨ c = '.'

instance (text : List Char) : Decidable (IsNumeral text) :=
  List.decidableBAll _ text

/-- A Unix time is a numeral, perhaps with a sign. -/
theorem isNumeral_of_readUnixTime? {text : List Char} {result : Except TimestampDefect Timestamp}
    (h : readUnixTime? text = some result) : IsNumeral (Text.splitSign text).2 := by
  unfold readUnixTime? at h
  generalize Text.splitSign text = split at h ⊢
  obtain ⟨negative, rest⟩ := split
  dsimp only at h ⊢
  rcases hwhole : Decimal.leadingDigits rest with ⟨whole, more⟩
  rw [hwhole] at h
  obtain ⟨front, rfl, hfront⟩ := Decimal.leadingDigits_append hwhole
  refine List.forall_mem_append.mpr ⟨fun c hc => .inl (hfront c hc), ?_⟩
  dsimp only at h
  split at h
  · simp
  · next fraction =>
      rcases hfraction : Decimal.leadingDigits fraction with ⟨ds, more⟩
      rw [hfraction] at h
      obtain ⟨front', rfl, hfront'⟩ := Decimal.leadingDigits_append hfraction
      cases more with
      | nil =>
          rw [List.append_nil]
          exact List.forall_mem_cons.mpr ⟨.inr rfl, fun c hc => .inl (hfront' c hc)⟩
      | cons c more => cases h
  · cases h

/-- A reading at a clock is one of a timestamp. -/
theorem atClock_eq_ok {date : CivilDate} {time : ClockTime} {offset : Option Int} {d : Timestamp}
    (h : atClock date time offset = .ok d) : Timestamp.make? date time offset = some d := by
  -- unfolded at its arguments, it would be compared by counting microseconds
  obtain ⟨f, hf⟩ : ∃ f, atClock = f := ⟨_, rfl⟩
  rw [hf] at h
  delta atClock at hf
  subst hf
  dsimp only at h
  generalize Timestamp.make? date time offset = made at h ⊢
  cases made with
  | none => cases h
  | some t => exact congrArg some (Except.ok.inj h)

/-- The characters that the bytes of an ASCII text are. -/
def asciiChars (b : List UInt8) : List Char := b.map fun x => Char.ofNat x.toNat

/-- What the strict reader accepts is a date with a time, a Unix time or a date alone. -/
theorem readRfc3339Bytes_ok {b : List UInt8} {d : Timestamp} (h : readRfc3339Bytes b = .ok d) :
    (∃ front k rest date time offset, b = front ++ (k ++ rest) ∧
      DateTimeForm front k rest date time offset ∧ Timestamp.make? date time offset = some d) ∨
    readUnixTime? (asciiChars b) = some (.ok d) ∨
    ∃ date, DateAt b date ∧ b.length = 10 ∧ Timestamp.make? date ⟨0, 0, 0, 0⟩ none = some d := by
  unfold readRfc3339Bytes at h
  split at h
  · next date time offset hform =>
      obtain ⟨front, k, rest, hb, hform⟩ := exists_form_of_readDateTime? hform
      exact .inl ⟨front, k, rest, date, time, offset, hb, hform, atClock_eq_ok h⟩
  · split at h
    · next hunix =>
        rw [h] at hunix
        exact .inr (.inl hunix)
    · split at h
      · cases h
      · next date hdate =>
          split at h
          · cases h
          · next hshort =>
              obtain ⟨hlong, hdate⟩ := dateAt_of_readPlainDate hdate
              exact .inr (.inr ⟨date, hdate, by omega, atClock_eq_ok h⟩)

theorem toNat_asciiChar (x : UInt8) : (Char.ofNat x.toNat).toNat = x.toNat := by
  have hlt := x.toNat_lt
  have hvalid : x.toNat.isValidChar := .inl (by omega)
  unfold Char.ofNat
  rw [dif_pos hvalid]
  rfl

theorem asciiDigit?_isSome {c : Char} :
    (Text.asciiDigit? c).isSome = true ↔ 48 ≤ c.toNat ∧ c.toNat ≤ 57 := by
  unfold Text.asciiDigit?
  split
  · next h => exact iff_of_true rfl h
  · next h => exact iff_of_false Bool.false_ne_true h

/-- A Unix time that the lenient reader takes has no sign. -/
theorem isNumeral_of_both {b : List UInt8} {result : Except TimestampDefect Timestamp}
    {d : Timestamp} (hunix : readUnixTime? (asciiChars b) = some result)
    (hiso : readIsoBytes? (b.flatMap spellByte) = some d) : IsNumeral (asciiChars b) := by
  have hfirst : ∀ x more, b = x :: more → (Char.ofNat x.toNat = '+' ∨ Char.ofNat x.toNat = '-') →
      False := by
    rintro x more rfl hsign
    have hx : x.toNat = 43 ∨ x.toNat = 45 := by
      rw [← toNat_asciiChar x]
      rcases hsign with hsign | hsign <;> rw [hsign] <;> decide
    have hspelt : (x :: more).flatMap spellByte = x :: more.flatMap spellByte := by
      have hz : x ≠ 90 := by
        rintro rfl
        exact absurd hx (by decide)
      rw [List.flatMap_cons, spellByte, if_neg hz, List.singleton_append]
    have hdigit : ¬ IsDigit (byteAt (x :: more.flatMap spellByte) 0) := by
      show ¬ (48 ≤ x.toNat ∧ x.toNat ≤ 57)
      omega
    rw [hspelt, readIsoBytes?_eq_none hdigit] at hiso
    cases hiso
  have hnumeral := isNumeral_of_readUnixTime? hunix
  unfold Text.splitSign at hnumeral
  split at hnumeral
  · next rest hchars =>
      obtain ⟨x, more, rfl, hx, -⟩ := List.map_eq_cons_iff.mp hchars
      exact (hfirst x more rfl (.inl hx)).elim
  · next rest hchars =>
      obtain ⟨x, more, rfl, hx, -⟩ := List.map_eq_cons_iff.mp hchars
      exact (hfirst x more rfl (.inr hx)).elim
  · exact hnumeral

/-- A date has a hyphen, and a numeral has none. -/
theorem DateAt.not_isNumeral {b : List UInt8} {date : CivilDate} (h : DateAt b date)
    (hlength : 10 ≤ b.length) : ¬ IsNumeral (asciiChars b) := by
  intro hnumeral
  have hmem : byteAt b 4 ∈ b := by
    rw [byteAt, List.getElem?_eq_getElem (by omega), Option.getD_some]
    exact List.getElem_mem _
  have hdash : Char.ofNat (byteAt b 4).toNat = '-' := by
    rw [isByte_iff.mp h.dash]
    rfl
  have hchar := hnumeral _ (List.mem_map_of_mem hmem)
  rw [hdash] at hchar
  exact absurd hchar (by decide)

/-- A numeral is a Unix time to the strict reader. -/
theorem readUnixTime?_of_isNumeral {b : List UInt8} {d : Timestamp}
    (hread : readRfc3339Bytes b = .ok d) (hnumeral : IsNumeral (asciiChars b)) :
    readUnixTime? (asciiChars b) = some (.ok d) := by
  rcases readRfc3339Bytes_ok hread with ⟨front, k, rest, date, time, offset, rfl, hform, -⟩ |
    hunix | ⟨date, hdate, hlength, -⟩
  · have hfront := hform.length
    have hdate : DateAt (front ++ (k ++ rest)) date :=
      hform.date.congr fun j hj => (byteAt_append_left (by omega)).symm
    exact absurd hnumeral (hdate.not_isNumeral (by rw [List.length_append]; omega))
  · exact hunix
  · exact absurd hnumeral (hdate.not_isNumeral hlength.ge)

/-- **A text that both readers take is read alike, unless it is a numeral.** -/
theorem readIsoBytes?_of_readRfc3339Bytes {b : List UInt8} {d d' : Timestamp}
    (hread : readRfc3339Bytes b = .ok d) (hiso : readIsoBytes? (b.flatMap spellByte) = some d')
    (hnumeral : ¬ IsNumeral (asciiChars b)) : d' = d := by
  rcases readRfc3339Bytes_ok hread with ⟨front, k, rest, date, time, offset, rfl, hform, hmake⟩ |
    hunix | ⟨date, hdate, hlength, hmake⟩
  · exact Option.some.inj ((hform.readIsoBytes? hiso).symm.trans hmake)
  · exact absurd (isNumeral_of_both hunix hiso) hnumeral
  · rw [readIsoBytes?_date hdate hlength, hmake] at hiso
    exact (Option.some.inj hiso).symm

/-! ### The ends of a text -/

/-- A byte of a visible ASCII character. -/
def IsInk (x : UInt8) : Prop := 33 ≤ x.toNat ∧ x.toNat ≤ 126

instance (x : UInt8) : Decidable (IsInk x) := inferInstanceAs (Decidable (_ ∧ _))

theorem InClock.isInk {x : UInt8} (h : InClock x) : IsInk x := by
  have hrange := h.range
  unfold IsInk
  omega

theorem isInk_of_isSign {x : UInt8} (h : isSign x = true) : IsInk x := by
  have hplus : ('+').toNat = 43 := rfl
  have hminus : ('-').toNat = 45 := rfl
  rw [isSign, Bool.or_eq_true, isByte_iff, isByte_iff, hplus, hminus] at h
  unfold IsInk
  omega

theorem OffsetAt.isInk_last {rest : List UInt8} {offset : Option Int} (h : OffsetAt rest offset) :
    ∀ x ∈ rest.getLast?, IsInk x := by
  intro x hx
  cases h with
  | none => cases hx
  | zulu | small =>
      obtain rfl := Option.some.inj hx
      decide
  | signed hsign hdigits _ _ =>
      rcases List.mem_cons.mp (List.mem_of_getLast? hx) with rfl | hmem
      · exact isInk_of_isSign hsign
      · exact (hdigits.inClock x hmem).isInk
  | @minus b hour minute hdigits =>
      have hne : b ≠ [] := by
        rintro rfl
        cases hdigits <;> contradiction
      have hlast : x ∈ b.getLast? := by
        obtain ⟨y, b, rfl⟩ := List.exists_cons_of_ne_nil hne
        exact hx
      exact (hdigits.inClock x (List.mem_of_getLast? hlast)).isInk

theorem DateAt.isInk {b : List UInt8} {date : CivilDate} (h : DateAt b date) :
    ∀ j < 10, IsInk (byteAt b j) := by
  intro j hj
  have hdash : ('-').toNat = 45 := rfl
  have hbyte := h.bytes j hj
  rw [isByte_iff, hdash] at hbyte
  unfold IsDigit at hbyte
  unfold IsInk
  omega

theorem isInk_of_readUnixTime? {b : List UInt8} {result : Except TimestampDefect Timestamp}
    (h : readUnixTime? (asciiChars b) = some result) : ∀ x ∈ b, IsInk x := by
  intro x hx
  have hchar : Char.ofNat x.toNat ∈ asciiChars b := List.mem_map_of_mem hx
  have hnumeral := isNumeral_of_readUnixTime? h
  have hcases : Char.ofNat x.toNat = '+' ∨ Char.ofNat x.toNat = '-' ∨
      (Text.asciiDigit? (Char.ofNat x.toNat)).isSome = true ∨ Char.ofNat x.toNat = '.' := by
    unfold Text.splitSign at hnumeral
    split at hnumeral
    · next rest hchars =>
        rw [hchars] at hchar
        exact (List.mem_cons.mp hchar).imp id fun hrest => .inr (hnumeral _ hrest)
    · next rest hchars =>
        rw [hchars] at hchar
        exact .inr ((List.mem_cons.mp hchar).imp id (hnumeral _))
    · exact .inr (.inr (hnumeral _ hchar))
  have hcode : ∀ {c : Char}, Char.ofNat x.toNat = c → x.toNat = c.toNat :=
    fun hc => (toNat_asciiChar x).symm.trans (congrArg Char.toNat hc)
  unfold IsInk
  rcases hcases with hc | hc | hc | hc
  · rw [hcode hc]
    decide
  · rw [hcode hc]
    decide
  · rw [asciiDigit?_isSome, toNat_asciiChar] at hc
    omega
  · rw [hcode hc]
    decide

/-- Neither end of what the strict reader takes is blank. -/
theorem isInk_ends {b : List UInt8} {d : Timestamp} (h : readRfc3339Bytes b = .ok d) :
    (∀ x ∈ b.head?, IsInk x) ∧ ∀ x ∈ b.getLast?, IsInk x := by
  have hof : (∀ x ∈ b, IsInk x) → (∀ x ∈ b.head?, IsInk x) ∧ ∀ x ∈ b.getLast?, IsInk x :=
    fun hall => ⟨fun x hx => hall x (List.mem_of_head? hx),
      fun x hx => hall x (List.mem_of_getLast? hx)⟩
  rcases readRfc3339Bytes_ok h with ⟨front, k, rest, date, time, offset, rfl, hform, -⟩ |
    hunix | ⟨date, hdate, hlength, -⟩
  · have hk : ∀ x ∈ k, IsInk x := by
      intro x hx
      obtain ⟨j, hj, rfl⟩ := exists_of_mem hx
      exact (hform.clock.inClock j hj).isInk
    have hne : k ≠ [] := by
      rintro rfl
      exact absurd hform.clock.pos (by decide)
    obtain ⟨y, front', rfl⟩ := List.exists_cons_of_length_eq_add_one hform.length
    refine ⟨fun x hx => ?_, fun x hx => ?_⟩
    · obtain rfl := Option.some.inj hx
      exact hform.date.isInk 0 (by decide)
    · rw [List.getLast?_append_of_ne_nil _ (by simp [hne]), List.getLast?_append, Option.mem_def,
        Option.or_eq_some_iff] at hx
      rcases hx with hx | ⟨-, hx⟩
      · exact hform.offset.isInk_last x hx
      · exact hk x (List.mem_of_getLast? hx)
  · exact hof (isInk_of_readUnixTime? hunix)
  · refine hof fun x hx => ?_
    obtain ⟨j, hj, rfl⟩ := exists_of_mem hx
    exact hdate.isInk j (hlength ▸ hj)

end Calendar

end UsageLedger
