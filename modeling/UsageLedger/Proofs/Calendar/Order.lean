/-
Texts of universal times are ordered like their instants.

A text of fixed width is a row of columns, and a column writes larger numbers as later texts of
the same length (`Text.Column`).  So whole rows compare as the lists of their numbers do
(`Text.Column.row_lt`), and the columns of a canonical text are the parts of its date and of its
time, the largest first.

It remains that the calendar counts up: a later date has a larger day number
(`CivilDate.dayNumber_lt`), because a month ends no later than the next one begins and a year
likewise.  Dates that are in order therefore come from days that are, and what is true of days
and of the hands of a clock is true of the instants made of them (`parts_lt`).
-/
import Mathlib.Data.List.Lex
import Mathlib.Data.String.Basic
import UsageLedger.Proofs.Calendar.IsoText

namespace UsageLedger

/-! ### Columns -/

/-- What stands in front decides, when there is equally much of it. -/
theorem append_lt_append {α : Type} [LT α] {l l' : List α} (m m' : List α) (h : l < l')
    (hlength : l.length = l'.length) : l ++ m < l' ++ m' := by
  induction l generalizing l' with
  | nil =>
      cases l' with
      | nil => exact absurd h (List.not_lt_nil _)
      | cons b l' => cases hlength
  | cons a l ih =>
      cases l' with
      | nil => exact absurd h (List.not_lt_nil _)
      | cons b l' =>
          rw [List.cons_append, List.cons_append, List.cons_lt_cons_iff]
          exact (List.cons_lt_cons_iff.mp h).imp_right fun ⟨hab, hl⟩ =>
            ⟨hab, ih hl (Nat.succ.inj hlength)⟩

namespace Text

theorem digitChar_lt {d e : Nat} (h : d < e) (he : e < 10) : digitChar d < digitChar e := by
  have hall : ∀ e < 10, ∀ d < e, digitChar d < digitChar e := by decide
  exact hall e he d h

theorem twoDigits_lt {m n : Nat} (h : m < n) (hn : n < 100) : twoDigits m < twoDigits n := by
  unfold twoDigits
  rw [List.cons_lt_cons_iff, List.cons_lt_cons_iff]
  by_cases htens : m / 10 = n / 10
  · exact .inr ⟨by rw [htens], .inl (digitChar_lt (by omega) (by omega))⟩
  · exact .inl (digitChar_lt (by omega) (by omega))

/-- A way of writing the numbers below a bound with a fixed number of characters, in order. -/
structure Column where
  bound : Nat
  width : Nat
  write : Nat → List Char
  length_write : ∀ n, (write n).length = width
  write_lt : ∀ {m n}, m < n → n < bound → write m < write n

namespace Column

/-- Two columns side by side, for the number of hundreds and what is left. -/
def hundreds (column : Column) : Column where
  bound := column.bound * 100
  width := column.width + 2
  write n := column.write (n / 100) ++ twoDigits (n % 100)
  length_write n := by rw [List.length_append, column.length_write]; rfl
  write_lt {m n} h hn := by
    by_cases hfront : m / 100 = n / 100
    · rw [hfront]
      exact List.append_left_lt (twoDigits_lt (by omega) (by omega))
    · refine append_lt_append _ _ (column.write_lt (by omega) (by omega)) ?_
      rw [column.length_write, column.length_write]

/-- Two digits. -/
def two : Column := ⟨100, 2, twoDigits, fun _ => rfl, twoDigits_lt⟩

@[simp] theorem write_two (n : Nat) : two.write n = twoDigits n := rfl

@[simp] theorem write_four (n : Nat) : two.hundreds.write n = fourDigits n := rfl

@[simp] theorem write_six (n : Nat) : two.hundreds.hundreds.write n = sixDigits n := by
  show twoDigits (n / 100 / 100) ++ twoDigits (n / 100 % 100) ++ twoDigits (n % 100) = _
  rw [Nat.div_div_eq_div_mul]
  rfl

/-- A column behind a mark. -/
def behind (column : Column) (mark : Char) : Column where
  bound := column.bound
  width := column.width + 1
  write n := mark :: column.write n
  length_write n := by rw [List.length_cons, column.length_write]
  write_lt h hn := List.cons_lt_cons_iff.mpr (.inr ⟨rfl, column.write_lt h hn⟩)

@[simp] theorem write_behind (column : Column) (mark : Char) (n : Nat) :
    (column.behind mark).write n = mark :: column.write n := rfl

/-- Numbers written in columns, one behind the other. -/
def row : List Column → List Nat → List Char
  | column :: columns, n :: ns => column.write n ++ row columns ns
  | _, _ => []

/-- Each number has its column, and room in it. -/
def Fits (columns : List Column) (ns : List Nat) : Prop :=
  List.Forall₂ (fun column n => n < column.bound) columns ns

theorem length_row {columns : List Column} {ns : List Nat} (h : Fits columns ns) :
    (row columns ns).length = (columns.map (·.width)).sum := by
  induction h with
  | nil => rfl
  | @cons column n columns ns _ _ ih =>
      rw [row, List.length_append, column.length_write, ih, List.map_cons, List.sum_cons]

/-- **Rows of columns compare like the numbers in them.** -/
theorem row_lt {columns : List Column} {ms ns : List Nat} (hms : Fits columns ms)
    (hns : Fits columns ns) (h : ms < ns) : row columns ms < row columns ns := by
  induction hms generalizing ns with
  | nil =>
      cases hns
      exact absurd h (List.not_lt_nil _)
  | @cons column m columns ms _ _ ih =>
      cases hns with
      | @cons _ n _ ns hn hns =>
          rw [row, row]
          rcases List.cons_lt_cons_iff.mp h with hmn | ⟨rfl, hrest⟩
          · refine append_lt_append _ _ (column.write_lt hmn hn) ?_
            rw [column.length_write, column.length_write]
          · exact List.append_left_lt (ih hns hrest)

end Column

end Text

/-! ### Dates -/

namespace CivilDate

/-- The parts of a date, the largest first. -/
def parts (d : CivilDate) : List Nat := [d.year, d.month, d.day]

theorem parts_injective : Function.Injective parts := by
  rintro ⟨year, month, day⟩ ⟨year', month', day'⟩ h
  simpa [parts] using h

theorem daysBeforeMonth_mono {leap : Bool} {m n : Nat} (h : m ≤ n) (hn : n ≤ 12) :
    daysBeforeMonth leap m ≤ daysBeforeMonth leap n := by
  have hall : ∀ leap, ∀ n < 13, ∀ m ≤ n, daysBeforeMonth leap m ≤ daysBeforeMonth leap n := by
    decide
  exact hall leap n (by omega) m h

/-- A month ends within its year. -/
theorem daysBeforeMonth_add_le (year : Nat) {month : Nat} (h1 : 1 ≤ month) (h12 : month ≤ 12) :
    daysBeforeMonth (isLeapYear year) month + daysInMonth year month ≤ daysInYear year := by
  rw [daysBeforeMonth_last]
  rcases Nat.lt_or_ge month 12 with hlt | hge
  · rw [← daysBeforeMonth_succ year h1 (by omega)]
    exact Nat.le_trans (daysBeforeMonth_mono (by omega) (Nat.le_refl 12)) (Nat.le_add_right _ _)
  · rw [Nat.le_antisymm h12 hge]

/-- **A later date has a larger number.** -/
theorem dayNumber_lt {d e : CivilDate} (hd : d.isValid = true) (he : e.isValid = true)
    (h : d.parts < e.parts) : d.dayNumber < e.dayNumber := by
  simp only [isValid, monthHasDay, Bool.and_eq_true, decide_eq_true_eq] at hd he
  obtain ⟨⟨hyear, -⟩, ⟨⟨hone, htwelve⟩, hfirst⟩, hday⟩ := hd
  have hlast := daysBeforeMonth_add_le d.year hone htwelve
  have hnext := daysBeforeYear_succ d.year hyear
  unfold dayNumber
  simp only [parts, List.cons_lt_cons_iff, List.not_lt_nil, and_false, or_false] at h
  rcases h with hlt | ⟨hsame, hlt | ⟨hmonth, hlt⟩⟩
  · have hyears : daysBeforeYear (d.year + 1) ≤ daysBeforeYear e.year :=
      daysBeforeYear_mono (Nat.le_add_left 1 _) hlt
    omega
  · have hmonths : daysBeforeMonth (isLeapYear d.year) (d.month + 1)
        ≤ daysBeforeMonth (isLeapYear d.year) e.month := daysBeforeMonth_mono hlt (by omega)
    rw [daysBeforeMonth_succ d.year hone (by omega)] at hmonths
    rw [← hsame]
    omega
  · rw [← hsame, ← hmonth]
    omega

/-- Later days have later dates. -/
theorem parts_ofDayNumber_lt {m n : Nat} (h : m < n) (hn : n < dayCount) :
    (ofDayNumber m).parts < (ofDayNumber n).parts := by
  have hm := Nat.lt_trans h hn
  rcases lt_trichotomy (ofDayNumber m).parts (ofDayNumber n).parts with hlt | heq | hgt
  · exact hlt
  · have hdays := congrArg dayNumber (parts_injective heq)
    rw [dayNumber_ofDayNumber, dayNumber_ofDayNumber] at hdays
    exact absurd hdays (Nat.ne_of_lt h)
  · have hdays := dayNumber_lt (isValid_ofDayNumber hn) (isValid_ofDayNumber hm) hgt
    rw [dayNumber_ofDayNumber, dayNumber_ofDayNumber] at hdays
    exact absurd hdays (Nat.lt_asymm h)

end CivilDate

/-! ### Times -/

namespace ClockTime

/-- The parts of a time, the largest first. -/
def parts (t : ClockTime) : List Nat := [t.hour, t.minute, t.second, t.microsecond]

theorem parts_ofMicros_lt {m n : Nat} (h : m < n) : (ofMicros m).parts < (ofMicros n).parts := by
  simp only [parts, ofMicros, List.cons_lt_cons_iff, List.not_lt_nil, and_false, or_false]
  omega

end ClockTime

/-! ### Timestamps -/

namespace Timestamp

open Text

variable {s t : Timestamp}

/-- The parts of the reading of a clock, the largest first. -/
def parts (t : Timestamp) : List Nat := t.date.parts ++ t.time.parts

theorem parts_lt (h : s.wall < t.wall) : s.parts < t.parts := by
  have hday : t.wall / microsPerDay < CivilDate.dayCount :=
    Nat.div_lt_of_lt_mul (by rw [Nat.mul_comm]; exact t.wall_lt)
  have hpos : 0 < microsPerDay := by decide
  unfold parts date time
  by_cases hsame : s.wall / microsPerDay = t.wall / microsPerDay
  · rw [hsame]
    refine List.append_left_lt (ClockTime.parts_ofMicros_lt ?_)
    have hs := Nat.div_add_mod s.wall microsPerDay
    have ht := Nat.div_add_mod t.wall microsPerDay
    rw [hsame] at hs
    omega
  · have hle := Nat.div_le_div_right (c := microsPerDay) (Nat.le_of_lt h)
    exact append_lt_append _ _ (CivilDate.parts_ofDayNumber_lt (by omega) hday) rfl

/-- The columns of a canonical text. -/
def columns : List Column :=
  [Column.two.hundreds, Column.two.behind '-', Column.two.behind '-', Column.two.behind 'T',
    Column.two.behind ':', Column.two.behind ':', Column.two.hundreds.hundreds.behind '.']

theorem fits_parts (t : Timestamp) : Column.Fits columns t.parts := by
  obtain ⟨hyear, hmonth, hday⟩ := date_lt t
  have htime := isValid_time t
  simp only [ClockTime.isValid, Bool.and_eq_true, decide_eq_true_eq] at htime
  obtain ⟨⟨⟨hhour, hminute⟩, hsecond⟩, hmicros⟩ := htime
  exact .cons hyear <| .cons hmonth <| .cons hday <| .cons (Nat.lt_trans hhour (by decide)) <|
    .cons (Nat.lt_trans hminute (by decide)) <| .cons (Nat.lt_trans hsecond (by decide)) <|
    .cons hmicros .nil

/-- The canonical text of a universal time is a row of columns, with the offset behind it. -/
theorem canonicalText_row (h : t.offset = some 0) :
    t.canonicalText.toList = Column.row columns t.parts ++ ['+', '0', '0', ':', '0', '0'] := by
  rw [canonicalText_eq, String.toList_ofList, chars_universal h]
  simp [chars, zoneChars, withoutOffset, date, time, dateText, Calendar.ClockForm.chars, clockText,
    fractionText, parts, CivilDate.parts, ClockTime.parts, columns, Column.row]

theorem length_canonicalText (h : t.offset = some 0) : t.canonicalText.length = 32 := by
  rw [← String.length_toList, canonicalText_row h, List.length_append,
    Column.length_row (fits_parts t)]
  rfl

theorem canonicalText_lt (hs : s.offset = some 0) (ht : t.offset = some 0)
    (h : s.instant < t.instant) : s.canonicalText < t.canonicalText := by
  have hwall : s.wall < t.wall := by
    rw [instant, instant, hs, ht] at h
    simpa using h
  rw [String.lt_iff, canonicalText_row hs, canonicalText_row ht]
  refine append_lt_append _ _ (Column.row_lt (fits_parts s) (fits_parts t) (parts_lt hwall)) ?_
  rw [Column.length_row (fits_parts s), Column.length_row (fits_parts t)]

/-- A universal time is settled by its instant. -/
theorem eq_of_instant (hs : s.offset = some 0) (ht : t.offset = some 0)
    (h : s.instant = t.instant) : s = t := by
  rw [instant, instant, hs, ht] at h
  obtain ⟨wall, offset, hwall, hoffset⟩ := s
  obtain ⟨wall', offset', hwall', hoffset'⟩ := t
  obtain rfl : offset = some 0 := hs
  obtain rfl : offset' = some 0 := ht
  obtain rfl : wall = wall' := by simpa using h
  rfl

/-- **Canonical texts of universal times compare like their instants.** -/
theorem canonicalText_lt_iff (hs : s.offset = some 0) (ht : t.offset = some 0) :
    s.canonicalText < t.canonicalText ↔ s.instant < t.instant := by
  refine ⟨fun h => ?_, canonicalText_lt hs ht⟩
  rcases lt_trichotomy s.instant t.instant with hlt | heq | hgt
  · exact hlt
  · rw [eq_of_instant hs ht heq] at h
    exact absurd h (lt_irrefl _)
  · exact absurd (canonicalText_lt ht hs hgt) (lt_asymm h)

end Timestamp

end UsageLedger
