/-
The texts of a timestamp can be read back.

A timestamp is written as its date, its time in one of the forms of a clock, and its offset
if there is one (`chars`); `isoText` and `canonicalText` differ in the form only.  As long as
the form leaves out nothing but zeros, the reader finds the date, the time and the offset
that were written (`readIso?_chars`).  An offset shorter than a second is the exception: it
is written, and read as universal time, so that what is read back is `heard` and not always
the timestamp.

That a timestamp is made of its own date and time again (`make?_date_time`) is the
calendar's share, `dayNumber_ofDayNumber`.
-/
import UsageLedger.Proofs.Calendar.Date
import UsageLedger.Proofs.Calendar.Reading

namespace UsageLedger.Timestamp

open Calendar

variable {t : Timestamp} {form : ClockForm}

/-! ### Dates and times -/

theorem isValid_date (t : Timestamp) : t.date.isValid = true :=
  CivilDate.isValid_ofDayNumber
    (Nat.div_lt_of_lt_mul (by rw [Nat.mul_comm]; exact t.wall_lt))

theorem isValid_time (t : Timestamp) : t.time.isValid = true :=
  ClockTime.isValid_ofMicros (Nat.mod_lt _ (by decide))

/-- A timestamp is made of its own date, time and offset. -/
theorem make?_date_time (t : Timestamp) : make? t.date t.time t.offset = some t := by
  have hwall : t.date.dayNumber * microsPerDay + t.time.micros = t.wall := by
    unfold date time
    rw [CivilDate.dayNumber_ofDayNumber, ClockTime.micros_ofMicros, Nat.mul_comm]
    exact Nat.div_add_mod _ _
  unfold make?
  simp only [hwall, isValid_date, isValid_time, Bool.and_true, if_true]
  exact dif_pos ⟨t.wall_lt, t.offset_lt⟩

/-- Every part of a date has room in its digits. -/
theorem date_lt (t : Timestamp) : t.date.year < 10000 ∧ t.date.month < 100 ∧ t.date.day < 100 := by
  have hvalid := isValid_date t
  have hmonth := CivilDate.daysInMonth_le t.date.year t.date.month
  simp only [CivilDate.isValid, CivilDate.monthHasDay, Bool.and_eq_true, decide_eq_true_eq]
    at hvalid
  omega

/-! ### Universal time -/

/-- A time in universal time has no offset from it, and the instant that it had before. -/
theorem toUniversal?_eq_some {u : Timestamp} (h : t.toUniversal? = some u) :
    u.offset = some 0 ∧ u.instant = t.instant := by
  unfold toUniversal? ofInstant? at h
  split at h
  · next hrange =>
      cases h
      refine ⟨rfl, ?_⟩
      show ((t.instant.toNat : Nat) : Int) - 0 = t.instant
      omega
  · cases h

theorem toUniversal?_universal (h : t.offset = some 0) : t.toUniversal? = some t := by
  have hinstant : t.instant = t.wall := by simp [instant, h]
  unfold toUniversal? ofInstant?
  rw [hinstant, dif_pos ⟨by omega, by exact_mod_cast t.wall_lt⟩]
  cases t
  simp_all

/-! ### What is heard of a timestamp -/

/-- The timestamp that is read from the texts of one. -/
def heard (t : Timestamp) : Timestamp :=
  ⟨t.wall, t.offset.map heardOffset, t.wall_lt, by
    intro o ho
    obtain ⟨o', ho', rfl⟩ := Option.map_eq_some_iff.mp ho
    have hday : (0 : Int) < microsPerDay := by decide
    have := t.offset_lt o' ho'
    unfold heardOffset
    split <;> omega⟩

/-- Unless its offset is shorter than a second, nothing of a timestamp is lost. -/
theorem heard_eq_self (h : ∀ o ∈ t.offset, o = 0 ∨ 1000000 ≤ o.natAbs) : t.heard = t := by
  obtain ⟨wall, offset, hwall, hoffset⟩ := t
  have hsame : offset.map heardOffset = offset := by
    cases offset with
    | none => rfl
    | some o =>
        have ho := h o rfl
        have hheard : heardOffset o = o := by
          unfold heardOffset
          split <;> omega
        rw [Option.map_some, hheard]
  simp only [heard, hsame]

/-! ### Texts -/

/-- The offset, if there is one. -/
def zoneChars : Option Int → List Char
  | some o => offsetText o
  | none => []

/-- The text of a timestamp with its time in a given form. -/
def chars (form : ClockForm) (t : Timestamp) : List Char :=
  dateText t.date ++ 'T' :: (form.chars t.time ++ zoneChars t.offset)

/-- The form of the time in `isoText`. -/
def isoForm (t : Timestamp) : ClockForm :=
  if t.time.microsecond = 0 then .seconds else .micros

theorem shows_isoForm (t : Timestamp) : t.isoForm.Shows t.time := by
  unfold isoForm
  split
  · assumption
  · trivial

theorem isoText_eq (t : Timestamp) : t.isoText = String.ofList (t.chars t.isoForm) := by
  show String.ofList (dateText t.date ++ 'T' :: clockText t.time ++
    shortFractionText t.time.microsecond ++ zoneChars t.offset) = _
  unfold chars isoForm shortFractionText
  split <;> simp [ClockForm.chars]

theorem canonicalText_eq (t : Timestamp) : t.canonicalText = String.ofList (t.chars .micros) := by
  show String.ofList (dateText t.date ++ 'T' :: clockText t.time ++
    fractionText t.time.microsecond ++ zoneChars t.offset) = _
  simp [chars, ClockForm.chars]

/-- **Every text of a timestamp that leaves out nothing but zeros is read as what is heard of
it.** -/
theorem readIso?_chars (t : Timestamp) (hshows : form.Shows t.time) :
    readIso? (String.ofList (t.chars form)) = some t.heard := by
  have hmark : String.utf8EncodeChar 'T' = [84] := by decide
  have hzone : (zoneChars t.offset).flatMap String.utf8EncodeChar = zoneBytes t.offset := by
    cases t.offset with
    | none => rfl
    | some o => exact encode_offsetText o
  have hbytes : (t.chars form).flatMap String.utf8EncodeChar
      = dateBytes t.date ++ 84 :: (form.bytes t.time ++ zoneBytes t.offset) := by
    simp only [chars, List.flatMap_append, List.flatMap_cons, encode_dateText,
      ClockForm.encode_chars, hzone, hmark, List.cons_append, List.nil_append]
  have hoffset : ∀ o ∈ t.offset, o.natAbs < microsPerDay := fun o ho => by
    have := t.offset_lt o ho
    omega
  rw [readIso?, toUTF8_ofList, hbytes,
    readIsoBytes?_bytes t.date_lt t.isValid_time hshows hoffset]
  exact make?_date_time t.heard

/-- The text of a universal time ends in its offset. -/
theorem chars_universal (h : t.offset = some 0) :
    t.chars form = t.withoutOffset.chars form ++ ['+', '0', '0', ':', '0', '0'] := by
  have hzero : offsetText 0 = ['+', '0', '0', ':', '0', '0'] := by decide
  unfold chars
  rw [h]
  simp [zoneChars, hzero, withoutOffset, date, time]

/-! ### The characters of a text -/

/-- A character that is neither trimmed nor spelt out. -/
def IsPlain (c : Char) : Prop := c ≠ 'Z' ∧ Text.isBlank c = false

theorem isPlain_mark {c : Char} (h : c ∈ ['-', 'T', ':', '.', '+']) : IsPlain c := by
  simp only [List.mem_cons, List.not_mem_nil, or_false] at h
  rcases h with rfl | rfl | rfl | rfl | rfl <;> exact ⟨by decide, by decide⟩

theorem isPlain_twoDigits {n : Nat} {c : Char} (h : c ∈ Text.twoDigits n) : IsPlain c := by
  have hdigit : ∀ {d : Nat}, d < 10 → IsPlain (Text.digitChar d) := by
    intro d hd
    interval_cases d <;> exact ⟨by decide, by decide⟩
  simp only [Text.twoDigits, List.mem_cons, List.not_mem_nil, or_false] at h
  rcases h with rfl | rfl <;> exact hdigit (Nat.mod_lt _ (by decide))

theorem isPlain_clock {time : ClockTime} {c : Char} (h : c ∈ form.chars time) : IsPlain c := by
  cases form <;>
    simp only [ClockForm.chars, clockText, fractionText, Text.sixDigits, List.mem_append,
      List.mem_cons] at h <;>
    grind [isPlain_twoDigits, isPlain_mark]

theorem isPlain_chars {c : Char} (h : c ∈ t.chars form) : IsPlain c := by
  have hzone : c ∈ zoneChars t.offset → IsPlain c := by
    cases t.offset with
    | none => exact fun h => absurd h List.not_mem_nil
    | some o =>
        intro h
        rw [zoneChars, offsetText_eq, List.mem_cons] at h
        rcases h with rfl | h
        · split <;> exact isPlain_mark (by simp)
        · exact isPlain_clock h
  simp only [chars, dateText, Text.fourDigits, List.mem_append, List.mem_cons] at h
  grind [isPlain_twoDigits, isPlain_mark, isPlain_clock]

end UsageLedger.Timestamp
