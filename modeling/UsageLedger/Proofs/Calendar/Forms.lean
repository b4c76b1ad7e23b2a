/-
What the strict reader takes for a date with a time, and how the lenient one reads it.

The strict reader goes through a text from the front, and the lenient one by position.  So each
part that the strict reader takes is stated as bytes at positions: a clock to the minute, to the
second or with a fraction of any length (`ClockAt`), a date with hyphens (`DateAt`) and an offset
(`OffsetAt`).  The lenient reader reads a clock as far as it is written (`ClockAt.readClock?`), and
since neither digits nor marks follow it, what follows is an offset to both readers or is not let
through (`readBehind?_signed`, `readBehind?_junk`).
-/
import UsageLedger.Calendar.Rfc3339
import UsageLedger.Proofs.Calendar.Reading

namespace UsageLedger.Calendar

/-! ### Bytes at positions -/

/-- The byte writes a digit. -/
def IsDigit (x : UInt8) : Prop := 48 ≤ x.toNat ∧ x.toNat ≤ 57

instance (x : UInt8) : Decidable (IsDigit x) := inferInstanceAs (Decidable (_ ∧ _))

theorem isByte_iff {x : UInt8} {c : Char} : isByte x c = true ↔ x.toNat = c.toNat := by
  simp [isByte]

section Positions

variable {b b' : List UInt8} {i n : Nat}

theorem byteAt_drop (j : Nat) : byteAt (b.drop i) j = byteAt b (i + j) := by
  rw [byteAt, List.getElem?_drop, ← byteAt]

theorem byteAt_append_left (h : i < b.length) : byteAt (b ++ b') i = byteAt b i := by
  rw [byteAt, List.getElem?_append_left h, ← byteAt]

theorem byteAt_take (h : i < n) : byteAt (b.take n) i = byteAt b i := by
  rw [byteAt, List.getElem?_take_of_lt h, ← byteAt]

theorem byteAt_eq_zero (h : b.length ≤ i) : byteAt b i = 0 := by
  rw [byteAt, List.getElem?_eq_none h, Option.getD_none]

theorem exists_of_mem {x : UInt8} (h : x ∈ b) : ∃ j < b.length, byteAt b j = x := by
  obtain ⟨j, hj, hget⟩ := List.getElem_of_mem h
  exact ⟨j, hj, by rw [byteAt, List.getElem?_eq_getElem hj, Option.getD_some, hget]⟩

theorem isDigit_of_digitAt? {d : Nat} (h : digitAt? b i = some d) : IsDigit (byteAt b i) := by
  by_contra hdigit
  have hnone : digitAt? b i = none := if_neg hdigit
  cases h.symm.trans hnone

/-- A number is made of digits. -/
theorem isDigit_of_numberAt? {v : Nat} (h : numberAt? b i n = some v) :
    ∀ j < n, IsDigit (byteAt b (i + j)) := by
  induction n generalizing v with
  | zero => exact fun j hj => absurd hj (Nat.not_lt_zero j)
  | succ n ih =>
      simp only [numberAt?, Option.bind_eq_bind, Option.pure_def, Option.bind_eq_some_iff] at h
      obtain ⟨high, hhigh, d, hd, -⟩ := h
      intro j hj
      rcases Nat.lt_succ_iff_lt_or_eq.mp hj with hj | rfl
      · exact ih hhigh j hj
      · exact isDigit_of_digitAt? hd

theorem numberAt?_drop (j : Nat) : numberAt? (b.drop i) j n = numberAt? b (i + j) n := by
  induction n with
  | zero => rfl
  | succ n ih => simp only [numberAt?, digitAt?, byteAt_drop, ih, Nat.add_assoc]

theorem numberAt?_eq_none {j : Nat} (hj : j < n) (h : ¬ IsDigit (byteAt b (i + j))) :
    numberAt? b i n = none :=
  Option.eq_none_iff_forall_not_mem.mpr fun _ hv => h (isDigit_of_numberAt? hv j hj)

/-- A number depends on the bytes it is read from. -/
theorem numberAt?_congr (h : ∀ j < n, byteAt b (i + j) = byteAt b' (i + j)) :
    numberAt? b i n = numberAt? b' i n := by
  induction n with
  | zero => rfl
  | succ n ih =>
      simp only [numberAt?, digitAt?, ih fun j hj => h j (Nat.lt_succ_of_lt hj),
        h n (Nat.lt_succ_self n)]

theorem digitSpan_cons {x : UInt8} (h : IsDigit x) : digitSpan (x :: b) = digitSpan b + 1 :=
  if_pos h

theorem digitSpan_cons_of_not {x : UInt8} (h : ¬ IsDigit x) : digitSpan (x :: b) = 0 := if_neg h

/-- As many digits are counted as there are in front of something else. -/
theorem digitSpan_eq (h : ∀ j < n, IsDigit (byteAt b j)) (hend : ¬ IsDigit (byteAt b n)) :
    digitSpan b = n := by
  induction n generalizing b with
  | zero =>
      cases b with
      | nil => rfl
      | cons x b => exact digitSpan_cons_of_not hend
  | succ n ih =>
      cases b with
      | nil => exact absurd (h 0 (Nat.succ_pos n)) (by decide)
      | cons x b =>
          have hx : IsDigit x := h 0 (Nat.succ_pos n)
          rw [digitSpan_cons hx, ih (fun j hj => h (j + 1) (Nat.succ_lt_succ hj)) hend]

theorem isDigit_of_lt_digitSpan : ∀ j < digitSpan b, IsDigit (byteAt b j) := by
  induction b with
  | nil => exact fun j hj => absurd hj (Nat.not_lt_zero j)
  | cons x b ih =>
      intro j hj
      by_cases hx : IsDigit x
      · rw [digitSpan_cons hx] at hj
        cases j with
        | zero => exact hx
        | succ j => exact ih j (Nat.lt_of_succ_lt_succ hj)
      · rw [digitSpan_cons_of_not hx] at hj
        exact absurd hj (Nat.not_lt_zero j)

end Positions

/-! ### Clocks of any precision -/

/-- An hour and a minute stand at the front, with a colon between them. -/
structure HourMinuteAt (b : List UInt8) (hour minute : Nat) : Prop where
  hour : numberAt? b 0 2 = some hour
  colon : isByte (byteAt b 2) ':' = true
  minute : numberAt? b 3 2 = some minute

/-- A second stands behind the minute. -/
structure SecondAt (b : List UInt8) (second : Nat) : Prop where
  colon : isByte (byteAt b 5) ':' = true
  second : numberAt? b 6 2 = some second

/-- A fraction of a number of digits stands behind the second, of which six count. -/
structure FractionAt (b : List UInt8) (count micros : Nat) : Prop where
  mark : isByte (byteAt b 8) '.' = true ∨ isByte (byteAt b 8) ',' = true
  pos : 0 < count
  digits : ∀ j < count, IsDigit (byteAt b (9 + j))
  value : ∃ v, numberAt? b 9 (min 6 count) = some v ∧ micros = v * Nat.pow 10 (6 - min 6 count)

/-- A time is written at the front, up to a position. -/
inductive ClockAt (b : List UInt8) : ClockTime → Nat → Prop
  | minutes {h m : Nat} : HourMinuteAt b h m → ClockAt b ⟨h, m, 0, 0⟩ 5
  | seconds {h m s : Nat} : HourMinuteAt b h m → SecondAt b s → ClockAt b ⟨h, m, s, 0⟩ 8
  | fraction {h m s count micros : Nat} : HourMinuteAt b h m → SecondAt b s →
      FractionAt b count micros → ClockAt b ⟨h, m, s, micros⟩ (9 + count)

/-- A byte that can stand in a clock. -/
def InClock (x : UInt8) : Prop :=
  IsDigit x ∨ isByte x ':' = true ∨ isByte x '.' = true ∨ isByte x ',' = true

theorem InClock.range {x : UInt8} (h : InClock x) : x.toNat = 44 ∨ x.toNat = 46 ∨
    (48 ≤ x.toNat ∧ x.toNat ≤ 58) := by
  have hcolon : (':').toNat = 58 := rfl
  have hpoint : ('.').toNat = 46 := rfl
  have hcomma : (',').toNat = 44 := rfl
  unfold InClock IsDigit at h
  simp only [isByte_iff, hcolon, hpoint, hcomma] at h
  omega

namespace ClockAt

variable {b b' : List UInt8} {time : ClockTime} {stop : Nat}

theorem inClock (h : ClockAt b time stop) : ∀ j < stop, InClock (byteAt b j) := by
  have hpart : ∀ {i v : Nat}, numberAt? b i 2 = some v →
      InClock (byteAt b i) ∧ InClock (byteAt b (i + 1)) := fun h =>
    ⟨.inl (isDigit_of_numberAt? h 0 (by decide)), .inl (isDigit_of_numberAt? h 1 (by decide))⟩
  have hminutes : ∀ {h m : Nat}, HourMinuteAt b h m → ∀ j < 5, InClock (byteAt b j) := by
    intro h m hm j hj
    have hhour := hpart hm.hour
    have hminute := hpart hm.minute
    interval_cases j
    exacts [hhour.1, hhour.2, .inr (.inl hm.colon), hminute.1, hminute.2]
  have hseconds : ∀ {h m s : Nat}, HourMinuteAt b h m → SecondAt b s →
      ∀ j < 8, InClock (byteAt b j) := by
    intro h m s hm hs j hj
    have hsecond := hpart hs.second
    rcases Nat.lt_or_ge j 5 with hlt | hge
    · exact hminutes hm j hlt
    · interval_cases j
      exacts [.inr (.inl hs.colon), hsecond.1, hsecond.2]
  cases h with
  | minutes hm => exact hminutes hm
  | seconds hm hs => exact hseconds hm hs
  | fraction hm hs hf =>
      intro j hj
      rcases Nat.lt_or_ge j 8 with hlt | hge
      · exact hseconds hm hs j hlt
      · rcases Nat.eq_or_lt_of_le hge with rfl | hgt
        · exact .inr (.inr hf.mark)
        · have hdigit := hf.digits (j - 9) (by omega)
          rw [Nat.add_sub_cancel' hgt] at hdigit
          exact .inl hdigit

/-- What follows a time does not matter to it. -/
theorem congr (h : ClockAt b time stop) (hsame : ∀ j < stop, byteAt b j = byteAt b' j) :
    ClockAt b' time stop := by
  have hminutes : ∀ {h m : Nat}, HourMinuteAt b h m → 5 ≤ stop → HourMinuteAt b' h m := by
    intro h m hm hstop
    refine ⟨?_, hsame 2 (by omega) ▸ hm.colon, ?_⟩
    · rw [← hm.hour]
      exact numberAt?_congr fun j hj => (hsame _ (by omega)).symm
    · rw [← hm.minute]
      exact numberAt?_congr fun j hj => (hsame _ (by omega)).symm
  have hseconds : ∀ {s : Nat}, SecondAt b s → 8 ≤ stop → SecondAt b' s := by
    intro s hs hstop
    refine ⟨hsame 5 (by omega) ▸ hs.colon, ?_⟩
    rw [← hs.second]
    exact numberAt?_congr fun j hj => (hsame _ (by omega)).symm
  cases h with
  | minutes hm => exact .minutes (hminutes hm (by omega))
  | seconds hm hs => exact .seconds (hminutes hm (by omega)) (hseconds hs (by omega))
  | fraction hm hs hf =>
      have hpos := hf.pos
      refine .fraction (hminutes hm (by omega)) (hseconds hs (by omega))
        ⟨hsame 8 (by omega) ▸ hf.mark, hpos, fun j hj => ?_, ?_⟩
      · rw [← hsame (9 + j) (by omega)]
        exact hf.digits j hj
      obtain ⟨v, hv, hmicros⟩ := hf.value
      refine ⟨v, ?_, hmicros⟩
      rw [← hv]
      exact numberAt?_congr fun j hj => (hsame _ (by omega)).symm

theorem pos (h : ClockAt b time stop) : 0 < stop := by
  cases h <;> omega

theorem le_length (h : ClockAt b time stop) : stop ≤ b.length := by
  by_contra hlt
  have hin := h.inClock b.length (by omega)
  rw [byteAt_eq_zero (Nat.le_refl _)] at hin
  exact absurd hin.range (by decide)

end ClockAt

/-! ### Reading such a clock -/

section Reading

variable {b : List UInt8} {p v parts stop : Nat}

theorem isByte_eq_false {x : UInt8} {c : Char} (h : ¬ InClock x)
    (hc : c = ':' ∨ c = '.' ∨ c = ',') : isByte x c = false := by
  refine Bool.eq_false_iff.mpr fun hx => h ?_
  rcases hc with rfl | rfl | rfl
  exacts [.inr (.inl hx), .inr (.inr (.inl hx)), .inr (.inr (.inr hx))]

theorem readParts?_colon {colons : Option Bool} (hv : numberAt? b p 2 = some v)
    (hcolon : isByte (byteAt b (p + 2)) ':' = true) (hcolons : colons.getD true = true)
    (hstop : p + 3 < stop) : readParts? b stop (parts + 1) p colons
      = (readParts? b stop parts (p + 3) (some true)).map fun (values, ending) =>
        (v :: values, ending) := by
  simp only [readParts?, hv, hcolon, hcolons, if_neg (Nat.not_le.mpr hstop), Option.bind_eq_bind,
    Option.bind_some, Option.pure_def, Bool.and_self, if_true]
  cases readParts? b stop parts (p + 3) (some true) <;> rfl

theorem readParts?_mark (hv : numberAt? b p 2 = some v)
    (hmark : isByte (byteAt b (p + 2)) '.' = true ∨ isByte (byteAt b (p + 2)) ',' = true)
    (hstop : p + 3 < stop) :
    readParts? b stop (parts + 1) p (some true) = some ([v], .fractionAt (p + 3)) := by
  have hcolon : isByte (byteAt b (p + 2)) ':' = false := by
    simp only [isByte_iff] at hmark
    simp only [isByte, beq_eq_false_iff_ne]
    rcases hmark with hmark | hmark <;> rw [hmark] <;> decide
  have hor := (Bool.or_eq_true _ _).mpr hmark
  simp only [readParts?, hv, hcolon, hor, if_neg (Nat.not_le.mpr hstop), Option.bind_eq_bind,
    Option.bind_some, Option.pure_def, Bool.and_false, Bool.false_eq_true, if_false, if_true]

/-- The last part may have a single character behind it. -/
theorem readParts?_end (hv : numberAt? b p 2 = some v) (hend : ¬ InClock (byteAt b (p + 2))) :
    readParts? b stop (parts + 1) p (some true)
      = if stop ≤ p + 3 then some ([v], .complete (byteAt b (p + 2) != 0)) else none := by
  simp only [readParts?, hv, isByte_eq_false hend (.inl rfl),
    isByte_eq_false hend (.inr (.inl rfl)), isByte_eq_false hend (.inr (.inr rfl)),
    Option.bind_eq_bind, Option.bind_some, Option.pure_def,
    Option.getD_some, Bool.and_false, Bool.or_false, Bool.false_eq_true, if_false, if_true]

/-- The last part is read whatever stands behind it. -/
theorem readParts?_last {colons : Option Bool} (hv : numberAt? b p 2 = some v)
    (hstop : stop ≤ p + 3) : readParts? b stop (parts + 1) p colons
      = some ([v], .complete (byteAt b (p + 2) != 0)) := by
  simp only [readParts?, hv, if_pos hstop, Option.bind_eq_bind, Option.bind_some, Option.pure_def]

/-- Without a colon behind the first part there is none behind the others. -/
theorem readParts?_compact (hv : numberAt? b p 2 = some v) (hdigit : IsDigit (byteAt b (p + 2)))
    (hstop : p + 3 < stop) : readParts? b stop (parts + 1) p none
      = (readParts? b stop parts (p + 2) (some false)).map fun (values, ending) =>
        (v :: values, ending) := by
  have hmark : ∀ c : Char, c.toNat < 48 ∨ 57 < c.toNat → isByte (byteAt b (p + 2)) c = false := by
    intro c hc
    unfold IsDigit at hdigit
    simp only [isByte, beq_eq_false_iff_ne]
    omega
  simp only [readParts?, hv, hmark ':' (by decide), hmark '.' (by decide), hmark ',' (by decide),
    if_neg (Nat.not_le.mpr hstop), Option.bind_eq_bind, Option.bind_some, Option.pure_def,
    Option.getD_none, Bool.false_and, Bool.or_self, Bool.false_eq_true, if_false]
  cases readParts? b stop parts (p + 2) (some false) <;> rfl

theorem readFraction?_of_fractionAt {count micros : Nat} (h : FractionAt b count micros)
    (hend : ¬ InClock (byteAt b (9 + count))) (hstop : 9 + count ≤ stop) :
    readFraction? b 9 stop = some (micros, byteAt b (9 + count) != 0) ∨
      (9 + count < stop ∧ readFraction? b 9 stop = none) := by
  have hnot : ¬ IsDigit (byteAt b (9 + count)) := fun hdigit => hend (.inl hdigit)
  obtain ⟨v, hv, rfl⟩ := h.value
  unfold readFraction?
  by_cases hmore : min 6 (stop - 9) = min 6 count
  · have hspan : digitSpan (b.drop (9 + min 6 count)) = count - min 6 count := by
      refine digitSpan_eq (fun j hj => ?_) ?_
      · rw [byteAt_drop, Nat.add_assoc]
        exact h.digits _ (by omega)
      · rwa [byteAt_drop, Nat.add_assoc, Nat.add_sub_cancel' (Nat.min_le_right 6 count)]
    have hafter : 9 + min 6 count + digitSpan (b.drop (9 + min 6 count)) = 9 + count := by omega
    dsimp only
    rw [hmore, hv, hafter]
    exact .inl rfl
  · -- fewer than six digits are followed by a byte that would have to be one
    have hnone : numberAt? b 9 (min 6 (stop - 9)) = none :=
      numberAt?_eq_none (j := count) (by omega) hnot
    dsimp only
    rw [hnone]
    exact .inr ⟨by omega, rfl⟩

/-- **A time is read as far as it is written.**  When the reader has to go on behind it, it either
fails or tells that something stands there. -/
theorem ClockAt.readClock? {time : ClockTime} {last : Nat} (h : ClockAt b time last)
    (hend : ¬ InClock (byteAt b last)) (hstop : last ≤ stop) :
    Calendar.readClock? b 0 stop = some (time, byteAt b last != 0) ∨
      (last < stop ∧ Calendar.readClock? b 0 stop = none) := by
  unfold Calendar.readClock?
  cases h with
  | minutes hm =>
      rw [readParts?_colon hm.hour hm.colon rfl (by omega), readParts?_end hm.minute hend]
      split
      · exact .inl rfl
      · exact .inr ⟨by omega, rfl⟩
  | seconds hm hs =>
      rw [readParts?_colon hm.hour hm.colon rfl (by omega),
        readParts?_colon hm.minute hs.colon rfl (by omega), readParts?_end hs.second hend]
      split
      · exact .inl rfl
      · exact .inr ⟨by omega, rfl⟩
  | @fraction _ _ _ count _ hm hs hf =>
      have hpos := hf.pos
      rw [readParts?_colon hm.hour hm.colon rfl (by omega),
        readParts?_colon hm.minute hs.colon rfl (by omega),
        readParts?_mark hs.second hf.mark (by omega)]
      rcases readFraction?_of_fractionAt hf hend hstop with hread | ⟨hlt, hnone⟩
      · refine .inl ?_
        simp only [Option.map_some, Option.bind_eq_bind, Option.bind_some, hread]
        rfl
      · refine .inr ⟨hlt, ?_⟩
        simp only [Option.map_some, Option.bind_eq_bind, Option.bind_some, hnone, Option.bind_none]

end Reading

/-- The strict reader takes a fraction when there is a mark, and then it takes all its digits. -/
theorem fractionAt_of_readShortFraction? {b rest : List UInt8} {micros : Nat}
    (h : readShortFraction? (b.drop 8) = some (micros, rest)) : (micros = 0 ∧ rest = b.drop 8) ∨
      ∃ count, FractionAt b count micros ∧ rest = b.drop (9 + count) := by
  unfold readShortFraction? at h
  split at h
  · next mark digits hdrop =>
      split at h
      · next hmark =>
          have hbyte : byteAt b 8 = mark := by rw [← Nat.add_zero 8, ← byteAt_drop, hdrop]; rfl
          have hdigits : digits = b.drop 9 := by rw [← List.tail_drop, hdrop, List.tail_cons]
          dsimp only at h
          split at h
          · cases h
          · next hpos =>
              obtain ⟨v, hv, h⟩ := Option.bind_eq_some_iff.mp h
              cases h
              subst hdigits
              refine .inr ⟨_, ⟨?_, Nat.pos_of_ne_zero hpos, fun j hj => ?_, v, ?_, rfl⟩,
                List.drop_drop⟩
              · rw [hbyte]
                exact (Bool.or_eq_true _ _).mp hmark
              · rw [← byteAt_drop]
                exact isDigit_of_lt_digitSpan j hj
              · rw [← hv, numberAt?_drop]
      · cases h
        exact .inl ⟨rfl, rfl⟩
  · next hnil =>
      cases h
      exact .inl ⟨rfl, rfl⟩

/-- A time of the strict reader is written at the front, and what follows it is left over. -/
theorem clockAt_of_readPlainTime? {b rest : List UInt8} {time : ClockTime}
    (h : readPlainTime? b = some (time, rest)) :
    ∃ stop, ClockAt b time stop ∧ rest = b.drop stop := by
  unfold readPlainTime? at h
  simp only [Option.bind_eq_bind, Option.bind_eq_some_iff] at h
  obtain ⟨hour, hhour, h⟩ := h
  split at h
  · cases h
  next hcolon =>
  simp only [Bool.not_eq_true', Bool.not_eq_false] at hcolon
  obtain ⟨minute, hminute, h⟩ := Option.bind_eq_some_iff.mp h
  have hm : HourMinuteAt b hour minute := ⟨hhour, hcolon, hminute⟩
  obtain ⟨⟨second, micros, rest'⟩, hparts, h⟩ := Option.bind_eq_some_iff.mp h
  obtain ⟨-, h⟩ := Option.ite_none_right_eq_some.mp h
  cases h
  split at hparts
  · next hcolon' =>
      obtain ⟨second', hsecond, hparts⟩ := Option.bind_eq_some_iff.mp hparts
      obtain ⟨⟨micros', rest''⟩, hfraction, hparts⟩ := Option.bind_eq_some_iff.mp hparts
      cases hparts
      have hs : SecondAt b second := ⟨hcolon', hsecond⟩
      rcases fractionAt_of_readShortFraction? hfraction with ⟨rfl, rfl⟩ | ⟨count, hf, rfl⟩
      · exact ⟨8, .seconds hm hs, rfl⟩
      · exact ⟨9 + count, .fraction hm hs hf, rfl⟩
  · cases hparts
    exact ⟨5, .minutes hm, rfl⟩

/-! ### Dates with hyphens -/

/-- A date with hyphens stands at the front. -/
structure DateAt (b : List UInt8) (date : CivilDate) : Prop where
  year : numberAt? b 0 4 = some date.year
  dash : isByte (byteAt b 4) '-' = true
  month : numberAt? b 5 2 = some date.month
  dash' : isByte (byteAt b 7) '-' = true
  day : numberAt? b 8 2 = some date.day

theorem dateAt_of_readPlainDate {b : List UInt8} {date : CivilDate}
    (h : readPlainDate b = .ok date) : 10 ≤ b.length ∧ DateAt b date := by
  unfold readPlainDate at h
  split at h
  · cases h
  next hlength =>
  split at h
  · cases h
  next year hyear =>
  split at h
  · cases h
  next hdash =>
  split at h
  · cases h
  next month hmonth =>
  split at h
  · cases h
  next hdash' =>
  split at h
  · cases h
  next day hday =>
  split at h
  · cases h
  · split at h
    · cases h
      exact ⟨Nat.not_lt.mp hlength,
        hyear, by simpa using hdash, hmonth, by simpa using hdash', hday⟩
    · cases h

namespace DateAt

variable {b b' : List UInt8} {date : CivilDate}

/-- What follows a date does not matter to it. -/
theorem congr (h : DateAt b date) (hsame : ∀ j < 10, byteAt b j = byteAt b' j) :
    DateAt b' date := by
  have hnumber : ∀ {i n v : Nat}, i + n ≤ 10 → numberAt? b i n = some v →
      numberAt? b' i n = some v := by
    intro i n v hle hv
    rw [← hv]
    exact numberAt?_congr fun j hj => (hsame _ (by omega)).symm
  exact ⟨hnumber (by decide) h.year, hsame 4 (by decide) ▸ h.dash, hnumber (by decide) h.month,
    hsame 7 (by decide) ▸ h.dash', hnumber (by decide) h.day⟩

/-- A date is made of digits and hyphens. -/
theorem bytes (h : DateAt b date) : ∀ j < 10, IsDigit (byteAt b j) ∨ isByte (byteAt b j) '-' := by
  intro j hj
  have hyear := isDigit_of_numberAt? h.year
  have hmonth := isDigit_of_numberAt? h.month
  have hday := isDigit_of_numberAt? h.day
  interval_cases j
  exacts [.inl (hyear 0 (by decide)), .inl (hyear 1 (by decide)), .inl (hyear 2 (by decide)),
    .inl (hyear 3 (by decide)), .inr h.dash, .inl (hmonth 0 (by decide)),
    .inl (hmonth 1 (by decide)), .inr h.dash', .inl (hday 0 (by decide)),
    .inl (hday 1 (by decide))]

theorem not_week (h : DateAt b date) : isByte (byteAt b 5) 'W' = false := by
  refine Bool.eq_false_iff.mpr fun hweek => ?_
  have hdigit : IsDigit (byteAt b 5) := isDigit_of_numberAt? h.month 0 (by decide)
  rw [isByte_iff] at hweek
  unfold IsDigit at hdigit
  rw [hweek] at hdigit
  exact absurd hdigit (by decide)

theorem separatorPosition? (h : DateAt b date) (hlength : 10 ≤ b.length) :
    Calendar.separatorPosition? b = some 10 := by
  have hlong : ¬ b.length < 7 ∧ ¬ b.length = 7 := by omega
  simp [Calendar.separatorPosition?, hlong, h.dash, h.not_week]

theorem readDate? (h : DateAt b date) : Calendar.readDate? b 10 = some date := by
  simp [Calendar.readDate?, h.year, h.dash, h.month, h.dash', h.day, h.not_week]

end DateAt

/-! ### What follows a date -/

/-- What the lenient reader makes of the bytes behind a date and a separator. -/
def readBehind? (date : CivilDate) (c : List UInt8) : Option Timestamp := do
  let sign := offsetPosition c 0
  let (time, junk) ← readClock? c 0 sign
  if sign < c.length then Timestamp.make? date time (some (← readOffset? c sign))
  else if junk then none
  else Timestamp.make? date time none

section Behind

variable (front c : List UInt8)

theorem offsetPosition_append :
    offsetPosition (front ++ c) front.length = front.length + offsetPosition c 0 := by
  unfold offsetPosition
  rw [List.drop_left, List.drop_zero, Nat.zero_add]

theorem readOffset?_append (p : Nat) :
    readOffset? (front ++ c) (front.length + p) = readOffset? c p := by
  unfold readOffset?
  rw [Nat.add_assoc, List.length_append, readClock?_append, byteAt_append]

theorem readIsoBytes?_append {date : CivilDate} (hdate : DateAt front date)
    (hlength : front.length = 11) (hmark : byteAt front 10 < 0x80) :
    readIsoBytes? (front ++ c) = readBehind? date c := by
  have hfront : ∀ j < 11, byteAt front j = byteAt (front ++ c) j :=
    fun j hj => (byteAt_append_left (hlength ▸ hj)).symm
  have hdate' : DateAt (front ++ c) date := hdate.congr fun j hj => hfront j (by omega)
  have hlong : 10 < (front ++ c).length := by rw [List.length_append]; omega
  have hstart : 10 + characterLength (byteAt (front ++ c) 10) = front.length := by
    rw [← hfront 10 (by decide), characterLength, if_pos hmark, hlength]
  have hclock : ∀ stop, readClock? (front ++ c) front.length (front.length + stop)
      = readClock? c 0 stop := readClock?_append front c 0
  unfold readIsoBytes? readBehind?
  simp only [hdate'.separatorPosition? hlong.le, hdate'.readDate?, Option.bind_eq_bind,
    Option.bind_some, hstart, offsetPosition_append, readOffset?_append, hclock]
  rw [if_pos hlong, List.length_append]
  simp only [Nat.add_lt_add_iff_left]

end Behind

/-! ### Offsets -/

/-- The hour and the minute of an offset, with or without a colon between them. -/
inductive OffsetDigits (b : List UInt8) (hour minute : Nat) : Prop
  | colon : b.length = 5 → HourMinuteAt b hour minute → OffsetDigits b hour minute
  | compact : b.length = 4 → numberAt? b 0 2 = some hour → numberAt? b 2 2 = some minute →
      OffsetDigits b hour minute

namespace OffsetDigits

variable {b : List UInt8} {hour minute : Nat}

theorem inClock (h : OffsetDigits b hour minute) : ∀ x ∈ b, InClock x := by
  intro x hx
  obtain ⟨j, hj, rfl⟩ := exists_of_mem hx
  cases h with
  | colon hlength hm => exact (ClockAt.minutes hm).inClock j (hlength ▸ hj)
  | compact hlength hhour hminute =>
      refine .inl ?_
      rcases Nat.lt_or_ge j 2 with hlt | hge
      · have hdigit := isDigit_of_numberAt? hhour j hlt
        rwa [Nat.zero_add] at hdigit
      · have hdigit := isDigit_of_numberAt? hminute (j - 2) (by omega)
        rwa [Nat.add_sub_cancel' hge] at hdigit

/-- The lenient reader reads them to the end. -/
theorem readClock? (h : OffsetDigits b hour minute) :
    Calendar.readClock? b 0 b.length = some (⟨hour, minute, 0, 0⟩, false) := by
  cases h with
  | colon hlength hm =>
      have hnone : byteAt b 5 = 0 := byteAt_eq_zero hlength.le
      have hend : ¬ InClock (byteAt b 5) := fun hin => absurd (hnone ▸ hin).range (by decide)
      rcases (ClockAt.minutes hm).readClock? hend hlength.ge with hread | ⟨hlt, -⟩
      · rw [hread, hnone]
        rfl
      · omega
  | compact hlength hhour hminute =>
      have hnone : byteAt b 4 = 0 := byteAt_eq_zero hlength.le
      unfold Calendar.readClock?
      rw [readParts?_compact hhour (isDigit_of_numberAt? hminute 0 (by decide)) (by omega),
        readParts?_last hminute (by omega), hnone]
      rfl

end OffsetDigits

/-- What the strict reader takes for an offset, and what it makes of it. -/
inductive OffsetAt : List UInt8 → Option Int → Prop
  | none : OffsetAt [] none
  | zulu : OffsetAt [90] (some 0)
  | small : OffsetAt [122] (some 0)
  | signed {x : UInt8} {b : List UInt8} {hour minute : Nat} : isSign x = true →
      OffsetDigits b hour minute → hour < 24 → minute < 60 →
      OffsetAt (x :: b) (some (Text.signed (isByte x '-') ((hour * 60 + minute) * 60000000)))
  | minus {b : List UInt8} {hour minute : Nat} : OffsetDigits b hour minute →
      OffsetAt (0xE2 :: 0x88 :: 0x92 :: b)
        (some (Text.signed true ((hour * 60 + minute) * 60000000)))

theorem offsetDigits_of_number {b : List UInt8} {hour minute : Nat}
    (hhour : numberAt? b 0 2 = some hour)
    (h : numberAt? (if isByte (byteAt (b.drop 2) 0) ':' then (b.drop 2).drop 1 else b.drop 2) 0 2
      = some minute)
    (hlength : (if isByte (byteAt (b.drop 2) 0) ':' then (b.drop 2).drop 1 else b.drop 2).length
      = 2) : OffsetDigits b hour minute := by
  rw [byteAt_drop] at h hlength
  split at h
  · next hcolon =>
      rw [if_pos hcolon, List.drop_drop, List.length_drop] at hlength
      rw [List.drop_drop, numberAt?_drop] at h
      exact .colon (by omega) ⟨hhour, hcolon, h⟩
  · next hcolon =>
      rw [if_neg hcolon, List.length_drop] at hlength
      rw [numberAt?_drop] at h
      exact .compact (by omega) hhour h

theorem readOffsetSign?_eq_some {b rest : List UInt8} {negative : Bool}
    (h : readOffsetSign? b = some (negative, rest)) :
    (negative = true ∧ b = 0xE2 :: 0x88 :: 0x92 :: rest) ∨
      ∃ x, b = x :: rest ∧ isSign x = true ∧ negative = isByte x '-' := by
  unfold readOffsetSign? at h
  split at h
  · cases h
    exact .inl ⟨rfl, rfl⟩
  · next x more _ =>
      refine .inr ⟨x, ?_⟩
      split at h
      · next hplus =>
          cases h
          have hminus : isByte x '-' = false := by
            rw [isByte, isByte_iff.mp hplus]
            rfl
          exact ⟨rfl, by rw [isSign, hplus, Bool.true_or], hminus.symm⟩
      · split at h
        · next hminus =>
            cases h
            exact ⟨rfl, by rw [isSign, hminus, Bool.or_true], hminus.symm⟩
        · cases h
  · cases h

theorem offsetAt_of_readPlainOffset? {b : List UInt8} {offset : Option Int}
    (h : readPlainOffset? b = some offset) : OffsetAt b offset := by
  unfold readPlainOffset? at h
  split at h
  · cases h
    exact .none
  · next x =>
      split at h
      · next hmark =>
          cases h
          rcases (Bool.or_eq_true _ _).mp hmark with hmark | hmark
          · obtain rfl : x = 90 := UInt8.toNat_inj.mp (isByte_iff.mp hmark)
            exact .zulu
          · obtain rfl : x = 122 := UInt8.toNat_inj.mp (isByte_iff.mp hmark)
            exact .small
      · cases h
  · obtain ⟨⟨negative, rest⟩, hsign, h⟩ := Option.bind_eq_some_iff.mp h
    obtain ⟨hour, hhour, h⟩ := Option.bind_eq_some_iff.mp h
    obtain ⟨minute, hminute, h⟩ := Option.bind_eq_some_iff.mp h
    obtain ⟨⟨hlength, hhour', hminute'⟩, h⟩ := Option.ite_none_right_eq_some.mp h
    cases h
    have hdigits := offsetDigits_of_number hhour hminute hlength
    rcases readOffsetSign?_eq_some hsign with ⟨rfl, rfl⟩ | ⟨x, rfl, hx, rfl⟩
    · exact .minus hdigits
    · exact .signed hx hdigits hhour' hminute'

/-! ### Times of the strict reader, read by the lenient one -/

theorem InClock.isSign {x : UInt8} (h : InClock x) : isSign x = false := by
  have hrange := h.range
  have hplus : ('+').toNat = 43 := rfl
  have hminus : ('-').toNat = 45 := rfl
  simp only [Calendar.isSign, isByte, hplus, hminus, Bool.or_eq_false_iff, beq_eq_false_iff_ne]
  omega

theorem readBehind?_of_clock {date : CivilDate} {time : ClockTime} {junk : Bool} {c : List UInt8}
    {p : Nat} (hp : offsetPosition c 0 = p) (hread : readClock? c 0 p = some (time, junk)) :
    readBehind? date c
      = if p < c.length then (readOffset? c p).bind fun o => Timestamp.make? date time (some o)
        else if junk then none else Timestamp.make? date time none := by
  unfold readBehind?
  simp only [hp, hread, Option.bind_eq_bind, Option.bind_some]

section Lenient

variable {date : CivilDate} {time : ClockTime} {k : List UInt8} (hk : ClockAt k time k.length)

include hk

theorem clockAt_append (rest : List UInt8) : ClockAt (k ++ rest) time k.length :=
  hk.congr fun _ hj => (byteAt_append_left hj).symm

theorem offsetPosition_clock (rest : List UInt8) : offsetPosition (k ++ rest) 0
    = k.length + (rest.takeWhile fun x => !isSign x).length := by
  have hclock : ∀ x ∈ k, (!isSign x) = true := by
    intro x hx
    obtain ⟨j, hj, rfl⟩ := exists_of_mem hx
    rw [(hk.inClock j hj).isSign, Bool.not_false]
  show 0 + ((List.drop 0 _).takeWhile fun x => !isSign x).length = _
  rw [List.drop_zero, List.takeWhile_append_of_pos hclock, List.length_append, Nat.zero_add]

theorem readClock?_clock {rest : List UInt8} (hend : ¬ InClock (byteAt rest 0)) {stop : Nat}
    (hstop : k.length ≤ stop) :
    readClock? (k ++ rest) 0 stop = some (time, byteAt rest 0 != 0) ∨
      (k.length < stop ∧ readClock? (k ++ rest) 0 stop = none) := by
  have hnext : byteAt (k ++ rest) k.length = byteAt rest 0 := byteAt_append k rest 0
  rw [← hnext] at hend ⊢
  exact (clockAt_append hk rest).readClock? hend hstop

theorem readBehind?_end : readBehind? date k = Timestamp.make? date time none := by
  have hposition := offsetPosition_clock hk []
  rw [List.append_nil] at hposition
  have hzero : ¬ InClock (byteAt [] 0) := fun h => absurd h.range (by decide)
  rcases readClock?_clock hk hzero (Nat.le_refl _) with hread | ⟨hlt, -⟩
  · rw [List.append_nil] at hread
    rw [readBehind?_of_clock hposition hread, List.takeWhile_nil, List.length_nil, Nat.add_zero,
      if_neg (Nat.lt_irrefl _)]
    exact if_neg (by decide)
  · exact absurd hlt (Nat.lt_irrefl _)

theorem readBehind?_signed {x : UInt8} {b : List UInt8} {o : Int} (hx : isSign x = true)
    (ho : readOffset? (x :: b) 0 = some o) :
    readBehind? date (k ++ x :: b) = Timestamp.make? date time (some o) := by
  have hposition := offsetPosition_clock hk (x :: b)
  rw [List.takeWhile_cons_of_neg (by simp [hx]), List.length_nil, Nat.add_zero] at hposition
  have hend : ¬ InClock (byteAt (x :: b) 0) := fun h =>
    Bool.false_ne_true (h.isSign.symm.trans hx)
  have hoffset : readOffset? (k ++ x :: b) k.length = some o := by
    rw [← ho]
    exact readOffset?_append k (x :: b) 0
  rcases readClock?_clock hk hend (Nat.le_refl _) with hread | ⟨hlt, -⟩
  · rw [readBehind?_of_clock hposition hread, if_pos (by simp), hoffset, Option.bind_some]
  · exact absurd hlt (Nat.lt_irrefl _)

/-- What is neither part of the time nor an offset is not let through. -/
theorem readBehind?_junk {x : UInt8} {b : List UInt8} (hx : ¬ InClock x) (hzero : x ≠ 0)
    (hsigns : ∀ y ∈ x :: b, isSign y = false) : readBehind? date (k ++ x :: b) = none := by
  have hall : ∀ y ∈ x :: b, (!isSign y) = true := fun y hy => by rw [hsigns y hy, Bool.not_false]
  have hposition := offsetPosition_clock hk (x :: b)
  rw [← List.append_nil (x :: b), List.takeWhile_append_of_pos hall, List.takeWhile_nil,
    List.append_nil, ← List.length_append] at hposition
  have hstop : k.length ≤ (k ++ x :: b).length := by simp
  have hjunk : (byteAt (x :: b) 0 != 0) = true := bne_iff_ne.mpr hzero
  have hend : ¬ InClock (byteAt (x :: b) 0) := hx
  rcases readClock?_clock hk hend hstop with hread | ⟨-, hnone⟩
  · rw [readBehind?_of_clock hposition hread, if_neg (Nat.lt_irrefl _), hjunk, if_pos rfl]
  · unfold readBehind?
    simp only [hposition, hnone, Option.bind_eq_bind, Option.bind_none]

end Lenient

/-- An offset with a sign is the same to both readers. -/
theorem readOffset?_signed {x : UInt8} {b : List UInt8} {hour minute : Nat}
    (h : OffsetDigits b hour minute) (hhour : hour < 24) (hminute : minute < 60) :
    readOffset? (x :: b) 0
      = some (Text.signed (isByte x '-') ((hour * 60 + minute) * 60000000)) := by
  have hclock : readClock? (x :: b) (0 + 1) (x :: b).length
      = some (⟨hour, minute, 0, 0⟩, false) := by
    rw [← h.readClock?, List.length_cons, Nat.zero_add, Nat.add_comm]
    exact readClock?_append [x] b 0 b.length
  have hmicros : (ClockTime.mk hour minute 0 0).micros = (hour * 60 + minute) * 60000000 := by
    simp only [ClockTime.micros]
    omega
  have hday : ¬ microsPerDay ≤ (hour * 60 + minute) * 60000000 := by
    unfold microsPerDay
    omega
  unfold readOffset?
  rw [hclock, Option.bind_eq_bind, Option.bind_some]
  dsimp only
  rw [hmicros, if_neg Bool.false_ne_true, if_neg hday]
  by_cases hshort : (hour * 60 + minute) * 60000000 < 1000000
  · have hzero : (hour * 60 + minute) * 60000000 = 0 := by omega
    rw [if_pos hshort, hzero]
    cases isByte x '-' <;> rfl
  · rw [if_neg hshort]
    rfl

/-! ### What the strict reader takes -/

/-- A byte that may separate date and time. -/
def IsMark (x : UInt8) : Prop :=
  isByte x 'T' = true ∨ isByte x 't' = true ∨ isByte x ' ' = true ∨ isByte x '_' = true

theorem IsMark.cases {x : UInt8} (h : IsMark x) : x = 84 ∨ x = 116 ∨ x = 32 ∨ x = 95 := by
  unfold IsMark at h
  simp only [isByte_iff] at h
  rcases h with h | h | h | h
  exacts [.inl (UInt8.toNat_inj.mp h), .inr (.inl (UInt8.toNat_inj.mp h)),
    .inr (.inr (.inl (UInt8.toNat_inj.mp h))), .inr (.inr (.inr (UInt8.toNat_inj.mp h)))]

/-- A date with a separator, a time and an offset, one after the other. -/
structure DateTimeForm (front k rest : List UInt8) (date : CivilDate) (time : ClockTime)
    (offset : Option Int) : Prop where
  length : front.length = 11
  date : DateAt front date
  mark : IsMark (byteAt front 10)
  clock : ClockAt k time k.length
  offset : OffsetAt rest offset

theorem exists_form_of_readDateTime? {b : List UInt8} {date : CivilDate} {time : ClockTime}
    {offset : Option Int} (h : readDateTime? b = some (date, time, offset)) :
    ∃ front k rest, b = front ++ (k ++ rest) ∧ DateTimeForm front k rest date time offset := by
  unfold readDateTime? at h
  split at h
  · cases h
  next date' hdate =>
  dsimp only at h
  split at h
  · next hmark =>
      obtain ⟨⟨time', rest⟩, htime, h⟩ := Option.bind_eq_some_iff.mp h
      obtain ⟨offset', hoffset, h⟩ := Option.bind_eq_some_iff.mp h
      cases h
      obtain ⟨-, hat⟩ := dateAt_of_readPlainDate hdate
      obtain ⟨stop, hclock, rfl⟩ := clockAt_of_readPlainTime? htime
      have hle := hclock.le_length
      have hpos := hclock.pos
      have hlength : 11 < b.length := by
        rw [List.length_drop] at hle
        omega
      have hsame : ∀ j < 11, byteAt b j = byteAt (b.take 11) j := fun j hj => (byteAt_take hj).symm
      refine ⟨b.take 11, (b.drop 11).take stop, (b.drop 11).drop stop, ?_, ?_, ?_, ?_, ?_, ?_⟩
      · rw [List.take_append_drop, List.take_append_drop]
      · rw [List.length_take, Nat.min_eq_left hlength.le]
      · exact hat.congr fun j hj => hsame j (by omega)
      · rw [← hsame 10 (by decide)]
        simpa [IsMark, or_assoc] using hmark
      · rw [List.length_take, Nat.min_eq_left hle]
        exact hclock.congr fun j hj => (byteAt_take hj).symm
      · exact offsetAt_of_readPlainOffset? hoffset
  · cases h

end UsageLedger.Calendar
