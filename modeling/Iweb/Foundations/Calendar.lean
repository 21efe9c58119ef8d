import Mathlib.Data.Nat.Notation
import Mathlib.Order.Basic

/-!
# The Gregorian calendar

Dates as a year, a month and a day, and the number of days from the first day of year 0 to a date. Real dates are
numbered in their order, so two real dates with one number are one date.
-/

namespace Iweb.Calendar

def IsLeapYear (year : ℕ) : Prop := year % 4 = 0 ∧ (year % 100 ≠ 0 ∨ year % 400 = 0)

instance (year : ℕ) : Decidable (IsLeapYear year) :=
  inferInstanceAs (Decidable (year % 4 = 0 ∧ (year % 100 ≠ 0 ∨ year % 400 = 0)))

def yearLength (year : ℕ) : ℕ := if IsLeapYear year then 366 else 365

/-- The days of a month; no days outside 1 to 12. -/
def monthDays (year month : ℕ) : ℕ :=
  match month with
  | 1 | 3 | 5 | 7 | 8 | 10 | 12 => 31
  | 4 | 6 | 9 | 11 => 30
  | 2 => if IsLeapYear year then 29 else 28
  | _ => 0

/-- A date that the calendar has. -/
structure IsDate (year month day : ℕ) : Prop where
  day_pos : 1 ≤ day
  day_le : day ≤ monthDays year month

/-- The days of the years before a year. -/
def daysBeforeYear (year : ℕ) : ℕ := 365 * year + (year + 3) / 4 - (year + 99) / 100 + (year + 399) / 400

/-- The days of a year before a month. -/
def daysBeforeMonth (year : ℕ) : ℕ → ℕ
  | 0 => 0
  | month + 1 => daysBeforeMonth year month + monthDays year month

/-- The days before a date. -/
def dayNumber (year month day : ℕ) : ℕ := daysBeforeYear year + daysBeforeMonth year month + (day - 1)

/-! ## Order -/

theorem daysBeforeYear_succ (year : ℕ) : daysBeforeYear (year + 1) = daysBeforeYear year + yearLength year := by
  have hfour : (year + 4) / 4 = (year + 3) / 4 + if year % 4 = 0 then 1 else 0 := by split <;> omega
  have hundred : (year + 100) / 100 = (year + 99) / 100 + if year % 100 = 0 then 1 else 0 := by split <;> omega
  have hcycle : (year + 400) / 400 = (year + 399) / 400 + if year % 400 = 0 then 1 else 0 := by split <;> omega
  have hlength : yearLength year + (if year % 100 = 0 then 1 else 0) =
      365 + (if year % 4 = 0 then 1 else 0) + if year % 400 = 0 then 1 else 0 := by
    unfold yearLength IsLeapYear
    by_cases h4 : year % 4 = 0 <;> by_cases h100 : year % 100 = 0 <;> by_cases h400 : year % 400 = 0 <;>
      simp [h4, h100, h400] <;> omega
  have hle : (year + 99) / 100 ≤ (year + 3) / 4 := by omega
  unfold daysBeforeYear
  have hassoc : year + 1 + 3 = year + 4 ∧ year + 1 + 99 = year + 100 ∧ year + 1 + 399 = year + 400 := by omega
  rw [hassoc.1, hassoc.2.1, hassoc.2.2, hfour, hundred, hcycle]
  have hle' : (year + 99) / 100 + (if year % 100 = 0 then 1 else 0) ≤ 365 * (year + 1) := by
    split <;> omega
  generalize (if year % 4 = 0 then 1 else 0) = fours at hlength ⊢
  generalize (if year % 100 = 0 then 1 else 0) = hundreds at hlength hle' ⊢
  generalize (if year % 400 = 0 then 1 else 0) = cycles at hlength ⊢
  omega

theorem daysBeforeYear_mono {year year' : ℕ} (h : year ≤ year') : daysBeforeYear year ≤ daysBeforeYear year' := by
  induction h with
  | refl => exact Nat.le_refl _
  | step _ ih =>
    rw [daysBeforeYear_succ]
    omega

theorem daysBeforeMonth_mono (year : ℕ) {month month' : ℕ} (h : month ≤ month') :
    daysBeforeMonth year month ≤ daysBeforeMonth year month' := by
  induction h with
  | refl => exact Nat.le_refl _
  | step _ ih => exact Nat.le_trans ih (Nat.le_add_right _ _)

theorem daysBeforeMonth_year (year : ℕ) : daysBeforeMonth year 13 = yearLength year := by
  unfold yearLength
  simp only [daysBeforeMonth, monthDays]
  split <;> rfl

theorem IsDate.month_le {year month day : ℕ} (h : IsDate year month day) : 1 ≤ month ∧ month ≤ 12 := by
  have hpos := Nat.le_trans h.day_pos h.day_le
  unfold monthDays at hpos
  split at hpos <;> omega

theorem IsDate.month_lt {year month day : ℕ} (h : IsDate year month day) : month < 100 := by
  have hmonth := h.month_le
  omega

theorem IsDate.day_lt {year month day : ℕ} (h : IsDate year month day) : day < 100 := by
  have hday := h.day_le
  have hle : monthDays year month ≤ 31 := by
    unfold monthDays
    repeat' split
    all_goals omega
  omega

/-- A date is within its month. -/
theorem IsDate.lt_month {year month day : ℕ} (h : IsDate year month day) :
    dayNumber year month day < daysBeforeYear year + daysBeforeMonth year (month + 1) := by
  have hpos := h.day_pos
  have hle := h.day_le
  unfold dayNumber
  rw [daysBeforeMonth]
  omega

/-- A date is within its year. -/
theorem IsDate.lt_year {year month day : ℕ} (h : IsDate year month day) :
    dayNumber year month day < daysBeforeYear (year + 1) := by
  have hmonth : daysBeforeMonth year (month + 1) ≤ daysBeforeMonth year 13 :=
    daysBeforeMonth_mono year (Nat.succ_le_succ h.month_le.2)
  have hlt := h.lt_month
  rw [daysBeforeMonth_year] at hmonth
  rw [daysBeforeYear_succ]
  omega

theorem dayNumber_lt_of_year_lt {year month day year' : ℕ} (h : IsDate year month day) (hyear : year < year')
    (month' day' : ℕ) : dayNumber year month day < dayNumber year' month' day' := by
  have hlt := h.lt_year
  have hmono := daysBeforeYear_mono hyear
  have hle : daysBeforeYear year' ≤ dayNumber year' month' day' := by
    unfold dayNumber
    omega
  exact Nat.lt_of_lt_of_le hlt (Nat.le_trans hmono hle)

theorem dayNumber_lt_of_month_lt {year month day month' : ℕ} (h : IsDate year month day) (hmonth : month < month')
    (day' : ℕ) : dayNumber year month day < dayNumber year month' day' := by
  have hlt := h.lt_month
  have hmono := daysBeforeMonth_mono year hmonth
  have hle : daysBeforeYear year + daysBeforeMonth year month' ≤ dayNumber year month' day' := by
    unfold dayNumber
    omega
  exact Nat.lt_of_lt_of_le hlt (Nat.le_trans (Nat.add_le_add_left hmono _) hle)

/-- Real dates are numbered in their order. -/
theorem dayNumber_lt_iff {year month day year' month' day' : ℕ} (h : IsDate year month day)
    (h' : IsDate year' month' day') : dayNumber year month day < dayNumber year' month' day' ↔
      year < year' ∨ year = year' ∧ (month < month' ∨ month = month' ∧ day < day') := by
  have hpos := h.day_pos
  have hpos' := h'.day_pos
  rcases Nat.lt_trichotomy year year' with hlt | rfl | hgt
  · exact iff_of_true (dayNumber_lt_of_year_lt h hlt month' day') (.inl hlt)
  · rcases Nat.lt_trichotomy month month' with hlt | rfl | hgt
    · exact iff_of_true (dayNumber_lt_of_month_lt h hlt day') (.inr ⟨rfl, .inl hlt⟩)
    · unfold dayNumber
      omega
    · have hback := dayNumber_lt_of_month_lt h' hgt day
      exact iff_of_false (by omega) (by omega)
  · have hback := dayNumber_lt_of_year_lt h' hgt month day
    exact iff_of_false (by omega) (by omega)

theorem dayNumber_inj {year month day year' month' day' : ℕ} (h : IsDate year month day)
    (h' : IsDate year' month' day') : dayNumber year month day = dayNumber year' month' day' ↔
      year = year' ∧ month = month' ∧ day = day' := by
  have hlt := dayNumber_lt_iff h h'
  have hgt := dayNumber_lt_iff h' h
  constructor
  · intro heq
    omega
  · rintro ⟨rfl, rfl, rfl⟩
    rfl

/-! ## The next day -/

/-- The date after a date: the next day of its month, or the first of the next month, or the first of the next
year. -/
def nextDate (year month day : ℕ) : ℕ × ℕ × ℕ :=
  if day < monthDays year month then (year, month, day + 1)
  else if month < 12 then (year, month + 1, 1)
  else (year + 1, 1, 1)

theorem monthDays_pos (year : ℕ) {month : ℕ} (h : 1 ≤ month ∧ month ≤ 12) : 1 ≤ monthDays year month := by
  have hcases : month = 1 ∨ month = 2 ∨ month = 3 ∨ month = 4 ∨ month = 5 ∨ month = 6 ∨ month = 7 ∨ month = 8 ∨
      month = 9 ∨ month = 10 ∨ month = 11 ∨ month = 12 := by omega
  rcases hcases with rfl | rfl | rfl | rfl | rfl | rfl | rfl | rfl | rfl | rfl | rfl | rfl
  case inr.inl =>
    show 1 ≤ if IsLeapYear year then 29 else 28
    split <;> omega
  all_goals exact Nat.le_add_left 1 _

/-- The date after a date of the calendar is one, and it has the next number. -/
theorem IsDate.next {year month day : ℕ} (h : IsDate year month day) : ∃ year' month' day',
    nextDate year month day = (year', month', day') ∧ IsDate year' month' day' ∧
      dayNumber year' month' day' = dayNumber year month day + 1 := by
  have hday := h.day_pos
  have hlast := h.day_le
  have hmonth := h.month_le
  unfold nextDate
  by_cases hinside : day < monthDays year month
  · rw [if_pos hinside]
    refine ⟨year, month, day + 1, rfl, ⟨by omega, hinside⟩, ?_⟩
    unfold dayNumber
    omega
  · rw [if_neg hinside]
    by_cases hyear : month < 12
    · rw [if_pos hyear]
      refine ⟨year, month + 1, 1, rfl, ⟨Nat.le_refl 1, monthDays_pos year (by omega)⟩, ?_⟩
      unfold dayNumber
      rw [daysBeforeMonth]
      omega
    · rw [if_neg hyear]
      refine ⟨year + 1, 1, 1, rfl, ⟨Nat.le_refl 1, monthDays_pos _ (by omega)⟩, ?_⟩
      -- after the last day of December all days of the year are over
      have hmonths := daysBeforeMonth_year year
      have hjanuary : daysBeforeMonth (year + 1) 1 = 0 := rfl
      obtain rfl : month = 12 := by omega
      rw [daysBeforeMonth] at hmonths
      unfold dayNumber
      rw [daysBeforeYear_succ, hjanuary]
      omega

end Iweb.Calendar
