/-
Days and dates number each other.

`ofDayNumber` finds the date of a day by guessing its year from the mean length of a
year and correcting the guess once.  What makes one correction enough is the shape of
the calendar: years come in cycles of 400, 100, 4 and 1, and in those terms both the
days before a year (`daysBeforeYear_cycles`) and its being a leap year
(`isLeapYear_cycles`) are linear, so that the guess can be compared with the truth.

From there on it is bookkeeping: a year ends where the next one begins
(`daysBeforeYear_succ`), so does a month (`daysBeforeMonth_succ`), and the date found
for a day has the number of the day (`dayNumber_ofDayNumber`).
-/
import Mathlib.Tactic.IntervalCases
import UsageLedger.Calendar.Date

namespace UsageLedger.CivilDate

/-! ### Years -/

/-- The number of days of a year. -/
def daysInYear (year : Nat) : Nat := if isLeapYear year then 366 else 365

/-- A number of years in cycles of 400, 100, 4 and 1 years. -/
theorem exists_cycles (y : Nat) :
    ∃ a b c d, y = 400 * a + 100 * b + 4 * c + d ∧ b < 4 ∧ c < 25 ∧ d < 4 :=
  ⟨y / 400, y / 100 % 4, y / 4 % 25, y % 4, by omega, by omega, by omega, by omega⟩

theorem daysBeforeYear_cycles {a b c d : Nat} (hb : b < 4) (hc : c < 25) (hd : d < 4) :
    daysBeforeYear (400 * a + 100 * b + 4 * c + d + 1)
      = 146097 * a + 36524 * b + 1461 * c + 365 * d := by
  unfold daysBeforeYear
  have h4 : (400 * a + 100 * b + 4 * c + d) / 4 = 100 * a + 25 * b + c := by omega
  have h100 : (400 * a + 100 * b + 4 * c + d) / 100 = 4 * a + b := by omega
  have h400 : (400 * a + 100 * b + 4 * c + d) / 400 = a := by omega
  simp only [Nat.add_sub_cancel, h4, h100, h400]
  omega

theorem isLeapYear_cycles {a b c d : Nat} (hb : b < 4) (hc : c < 25) (hd : d < 4) :
    isLeapYear (400 * a + 100 * b + 4 * c + d + 1) = true ↔ d = 3 ∧ (c = 24 → b = 3) := by
  simp only [isLeapYear, Bool.and_eq_true, Bool.or_eq_true, beq_iff_eq, bne_iff_ne]
  omega

theorem daysBeforeYear_succ (year : Nat) (h : 1 ≤ year) :
    daysBeforeYear (year + 1) = daysBeforeYear year + daysInYear year := by
  obtain ⟨a, b, c, d, hy, hb, hc, hd⟩ := exists_cycles (year - 1)
  obtain rfl : year = 400 * a + 100 * b + 4 * c + d + 1 := by omega
  have hleap := isLeapYear_cycles (a := a) hb hc hd
  rw [daysBeforeYear_cycles hb hc hd]
  -- The next year begins a new cycle when the present one is the last of its own.
  have hnext : daysBeforeYear (400 * a + 100 * b + 4 * c + d + 1 + 1)
      = 146097 * a + 36524 * b + 1461 * c + 365 * d
        + (if d = 3 ∧ (c = 24 → b = 3) then 366 else 365) := by
    by_cases h3 : d = 3
    · by_cases h24 : c = 24
      · by_cases hb3 : b = 3
        · have := daysBeforeYear_cycles (a := a + 1) (b := 0) (c := 0) (d := 0) (by omega)
            (by omega) (by omega)
          rw [if_pos ⟨h3, fun _ => hb3⟩, ← show 400 * (a + 1) + 100 * 0 + 4 * 0 + 0 + 1
            = 400 * a + 100 * b + 4 * c + d + 1 + 1 by omega, this]
          omega
        · have := daysBeforeYear_cycles (a := a) (b := b + 1) (c := 0) (d := 0) (by omega)
            (by omega) (by omega)
          rw [if_neg (by omega), ← show 400 * a + 100 * (b + 1) + 4 * 0 + 0 + 1
            = 400 * a + 100 * b + 4 * c + d + 1 + 1 by omega, this]
          omega
      · have := daysBeforeYear_cycles (a := a) (b := b) (c := c + 1) (d := 0) (by omega)
          (by omega) (by omega)
        rw [if_pos ⟨h3, fun h => absurd h h24⟩, ← show 400 * a + 100 * b + 4 * (c + 1) + 0 + 1
          = 400 * a + 100 * b + 4 * c + d + 1 + 1 by omega, this]
        omega
    · have := daysBeforeYear_cycles (a := a) (b := b) (c := c) (d := d + 1) hb hc (by omega)
      rw [if_neg (by omega), ← show 400 * a + 100 * b + 4 * c + (d + 1) + 1
        = 400 * a + 100 * b + 4 * c + d + 1 + 1 by omega, this]
      omega
  rw [hnext]
  unfold daysInYear
  simp only [hleap]

theorem daysInYear_bounds (year : Nat) : 365 ≤ daysInYear year ∧ daysInYear year ≤ 366 := by
  unfold daysInYear
  split <;> omega

theorem daysBeforeYear_mono {a b : Nat} (ha : 1 ≤ a) (h : a ≤ b) :
    daysBeforeYear a ≤ daysBeforeYear b := by
  induction h with
  | refl => exact Nat.le_refl _
  | step hle ih =>
      rw [daysBeforeYear_succ _ (Nat.le_trans ha hle)]
      exact Nat.le_trans ih (Nat.le_add_right _ _)

/-- The year of a day begins no later than the day, and has it. -/
theorem yearOfDay_bounds (n : Nat) :
    1 ≤ yearOfDay n ∧ daysBeforeYear (yearOfDay n) ≤ n ∧ n < daysBeforeYear (yearOfDay n + 1) := by
  obtain ⟨a, b, c, d, hy, hb, hc, hd⟩ := exists_cycles (n * 400 / 146097)
  have hguess := daysBeforeYear_cycles (a := a) hb hc hd
  rw [← hy] at hguess
  have h1 := daysBeforeYear_succ (n * 400 / 146097 + 1) (by omega)
  have hlen1 := daysInYear_bounds (n * 400 / 146097 + 1)
  unfold yearOfDay
  simp only
  by_cases hlow : n < daysBeforeYear (n * 400 / 146097 + 1)
  · have hpos : 1 ≤ n * 400 / 146097 := by
      rcases Nat.eq_zero_or_pos (n * 400 / 146097) with h0 | hpos
      · rw [h0] at hlow
        simp [daysBeforeYear] at hlow
      · exact hpos
    have h0 := daysBeforeYear_succ _ hpos
    have hlen0 := daysInYear_bounds (n * 400 / 146097)
    rw [if_pos hlow, Nat.add_sub_cancel]
    omega
  · rw [if_neg hlow]
    by_cases hhigh : daysBeforeYear (n * 400 / 146097 + 1 + 1) ≤ n
    · rw [if_pos hhigh]
      have h2 := daysBeforeYear_succ (n * 400 / 146097 + 1 + 1) (by omega)
      have hlen2 := daysInYear_bounds (n * 400 / 146097 + 1 + 1)
      omega
    · rw [if_neg hhigh]
      omega

theorem yearOfDay_le {n : Nat} (h : n < dayCount) : yearOfDay n ≤ 9999 := by
  obtain ⟨-, hle, -⟩ := yearOfDay_bounds n
  rcases Nat.lt_or_ge (yearOfDay n) 10000 with hlt | hge
  · omega
  · have := daysBeforeYear_mono (by omega) hge
    have hcount : daysBeforeYear 10000 = dayCount := by decide
    omega

/-! ### Months -/

/-- A month ends where the next one begins. -/
theorem daysBeforeMonth_succ (year : Nat) {month : Nat} (h1 : 1 ≤ month) (h11 : month ≤ 11) :
    daysBeforeMonth (isLeapYear year) (month + 1)
      = daysBeforeMonth (isLeapYear year) month + daysInMonth year month := by
  unfold daysInMonth
  cases isLeapYear year <;> interval_cases month <;> rfl

/-- The last month ends with the year. -/
theorem daysBeforeMonth_last (year : Nat) :
    daysInYear year = daysBeforeMonth (isLeapYear year) 12 + daysInMonth year 12 := by
  unfold daysInYear daysInMonth
  cases isLeapYear year <;> rfl

/-- The month of a day begins no later than the day, and has it. -/
theorem monthOfDay_spec {year n : Nat} (h : n < daysInYear year) :
    1 ≤ monthOfDay (isLeapYear year) n ∧ monthOfDay (isLeapYear year) n ≤ 12 ∧
      daysBeforeMonth (isLeapYear year) (monthOfDay (isLeapYear year) n) ≤ n ∧
      n < daysBeforeMonth (isLeapYear year) (monthOfDay (isLeapYear year) n)
        + daysInMonth year (monthOfDay (isLeapYear year) n) := by
  have hfirst : daysBeforeMonth (isLeapYear year) 1 = 0 := rfl
  rw [daysBeforeMonth_last] at h
  fun_cases monthOfDay (isLeapYear year) n
  case case12 => exact ⟨by decide, by decide, by omega, h⟩
  all_goals
    rw [← daysBeforeMonth_succ year (by decide) (by decide)]
    exact ⟨by decide, by decide, by omega, by assumption⟩

theorem daysInMonth_le (year month : Nat) : daysInMonth year month ≤ 31 := by
  unfold daysInMonth
  split
  · split <;> omega
  all_goals omega

/-! ### Dates -/

theorem dayOfYear_lt (n : Nat) : n - daysBeforeYear (yearOfDay n) < daysInYear (yearOfDay n) := by
  obtain ⟨hpos, hle, hlt⟩ := yearOfDay_bounds n
  rw [daysBeforeYear_succ _ hpos] at hlt
  omega

/-- **The date of a day number has that number.** -/
theorem dayNumber_ofDayNumber (n : Nat) : (ofDayNumber n).dayNumber = n := by
  obtain ⟨-, hle, -⟩ := yearOfDay_bounds n
  obtain ⟨-, -, hfirst, -⟩ := monthOfDay_spec (dayOfYear_lt n)
  show daysBeforeYear (yearOfDay n) + daysBeforeMonth (isLeapYear (yearOfDay n)) (monthOfDay _ _)
    + (_ - daysBeforeMonth (isLeapYear (yearOfDay n)) (monthOfDay _ _) + 1 - 1) = n
  omega

theorem isValid_ofDayNumber {n : Nat} (h : n < dayCount) : (ofDayNumber n).isValid = true := by
  obtain ⟨hpos, -, -⟩ := yearOfDay_bounds n
  obtain ⟨hone, htwelve, hfirst, hlast⟩ := monthOfDay_spec (dayOfYear_lt n)
  have hyear := yearOfDay_le h
  have hday : (ofDayNumber n).day ≤ daysInMonth (ofDayNumber n).year (ofDayNumber n).month := by
    show _ - _ + 1 ≤ daysInMonth (yearOfDay n) (monthOfDay (isLeapYear (yearOfDay n))
      (n - daysBeforeYear (yearOfDay n)))
    omega
  have hfirstDay : 1 ≤ (ofDayNumber n).day := Nat.le_add_left 1 _
  have hmonth : 1 ≤ (ofDayNumber n).month ∧ (ofDayNumber n).month ≤ 12 := ⟨hone, htwelve⟩
  have hyears : 1 ≤ (ofDayNumber n).year ∧ (ofDayNumber n).year ≤ 9999 := ⟨hpos, hyear⟩
  simp [isValid, monthHasDay, hyears, hmonth, hday, hfirstDay]

end UsageLedger.CivilDate
