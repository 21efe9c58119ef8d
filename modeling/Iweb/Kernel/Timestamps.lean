import Iweb.Foundations.Calendar
import Iweb.Foundations.Decimals
import Iweb.Kernel.Text
import Mathlib.Data.Int.Notation

/-!
# The timestamps the Kernel writes

`civilFromDays` counts its years from March, so that a leap day is the last day of a year. It gives the date that
the calendar has for the day, and the rendered timestamp writes that date and the time of day in decimals.
-/

namespace Iweb

open Calendar Decimals

/-! ## Years from March -/

/-- The days from the first of March of year 0 to the first of March of a year. -/
def marchDays (year : ℕ) : ℕ := 365 * year + year / 4 - year / 100 + year / 400

theorem daysBefore_march (year : ℕ) :
    daysBeforeYear year + daysBeforeMonth year 3 = marchDays year + 60 := by
  have hmarch : daysBeforeMonth year 3 = 59 + if IsLeapYear year then 1 else 0 := by
    simp only [daysBeforeMonth, monthDays]
    split <;> rfl
  have hfour : (year + 3) / 4 + (if year % 4 = 0 then 1 else 0) = year / 4 + 1 := by split <;> omega
  have hundred : (year + 99) / 100 + (if year % 100 = 0 then 1 else 0) = year / 100 + 1 := by split <;> omega
  have hcycle : (year + 399) / 400 + (if year % 400 = 0 then 1 else 0) = year / 400 + 1 := by split <;> omega
  have hleap : (if IsLeapYear year then 1 else 0) + (if year % 100 = 0 then 1 else 0) =
      (if year % 4 = 0 then 1 else 0) + if year % 400 = 0 then 1 else 0 := by
    unfold IsLeapYear
    by_cases h4 : year % 4 = 0 <;> by_cases h100 : year % 100 = 0 <;> by_cases h400 : year % 400 = 0 <;>
      simp [h4, h100, h400] <;> omega
  have hle : (year + 99) / 100 ≤ (year + 3) / 4 := by omega
  have hle' : year / 100 ≤ year / 4 := by omega
  rw [hmarch]
  unfold daysBeforeYear marchDays
  generalize (if IsLeapYear year then 1 else 0) = leap at hleap ⊢
  generalize (if year % 4 = 0 then 1 else 0) = fours at hleap hfour
  generalize (if year % 100 = 0 then 1 else 0) = hundreds at hleap hundred
  generalize (if year % 400 = 0 then 1 else 0) = cycles at hleap hcycle
  omega

theorem marchDays_succ (year : ℕ) :
    marchDays (year + 1) = marchDays year + 365 + if IsLeapYear (year + 1) then 1 else 0 := by
  have hmarch := daysBefore_march year
  have hnext := daysBefore_march (year + 1)
  have hyear := daysBeforeYear_succ year
  have hmonth : ∀ y : ℕ, daysBeforeMonth y 3 = 59 + if IsLeapYear y then 1 else 0 := by
    intro y
    simp only [daysBeforeMonth, monthDays]
    split <;> rfl
  have hlength : yearLength year = 365 + if IsLeapYear year then 1 else 0 := by
    unfold yearLength
    split <;> rfl
  rw [hmonth] at hmarch hnext
  omega

/-- A cycle of 400 years has 146097 days. -/
theorem marchDays_add (year era : ℕ) : marchDays (year + era * 400) = marchDays year + era * 146097 := by
  have hfour : (year + era * 400) / 4 = year / 4 + era * 100 := by omega
  have hundred : (year + era * 400) / 100 = year / 100 + era * 4 := by omega
  have hcycle : (year + era * 400) / 400 = year / 400 + era := by omega
  unfold marchDays
  omega

/-! ## The year of a day in its cycle -/

/-- `(doe - doe / 1460 + doe / 36524 - doe / 146096) / 365` -/
def yearOfEra (doe : ℕ) : ℕ := (doe - doe / 1460 + doe / 36524 - doe / 146096) / 365

theorem yearOfEra_le_succ {doe : ℕ} (h : doe + 1 < 146097) : yearOfEra doe ≤ yearOfEra (doe + 1) := by
  have hle : doe - doe / 1460 + doe / 36524 - doe / 146096 ≤
      (doe + 1) - (doe + 1) / 1460 + (doe + 1) / 36524 - (doe + 1) / 146096 := by
    by_cases hlast : doe + 1 = 146096
    · obtain rfl : doe = 146095 := by omega
      decide
    · have hnow : doe / 146096 = 0 := by omega
      have hnext : (doe + 1) / 146096 = 0 := by omega
      rw [hnow, hnext]
      omega
  exact Nat.div_le_div_right hle

theorem yearOfEra_mono {doe doe' : ℕ} (h : doe ≤ doe') (hlt : doe' < 146097) : yearOfEra doe ≤ yearOfEra doe' := by
  induction h with
  | refl => exact Nat.le_refl _
  | step _ ih => exact Nat.le_trans (ih (by omega)) (yearOfEra_le_succ hlt)

/-- The first and the last day of each year of the cycle. -/
theorem yearOfEra_ends : ∀ year < 400,
    yearOfEra (marchDays year - year / 400) = year ∧ yearOfEra (marchDays (year + 1) - 1) = year := by
  decide +kernel

theorem marchDays_mono {year year' : ℕ} (h : year ≤ year') : marchDays year ≤ marchDays year' := by
  induction h with
  | refl => exact Nat.le_refl _
  | step _ ih =>
    rw [marchDays_succ]
    omega

/-- A day of the cycle lies in the year that is computed for it. -/
theorem yearOfEra_spec {doe : ℕ} (h : doe < 146097) : yearOfEra doe < 400 ∧
    marchDays (yearOfEra doe) ≤ doe ∧ doe < marchDays (yearOfEra doe + 1) := by
  have hlast : yearOfEra doe ≤ yearOfEra 146096 := yearOfEra_mono (by omega) (by omega)
  have hyear : yearOfEra doe < 400 := Nat.lt_of_le_of_lt hlast (by decide)
  refine ⟨hyear, Nat.not_lt.mp fun hbefore => ?_, Nat.not_le.mp fun hafter => ?_⟩
  · -- a day before the first day of its year would lie in an earlier year
    obtain ⟨year, hpred⟩ : ∃ year, yearOfEra doe = year + 1 := by
      refine ⟨yearOfEra doe - 1, ?_⟩
      have hne : yearOfEra doe ≠ 0 := by
        intro hzero
        rw [hzero] at hbefore
        exact absurd hbefore (Nat.not_lt_zero _)
      omega
    rw [hpred] at hbefore hyear
    have hend := (yearOfEra_ends year (by omega)).2
    have hbound : marchDays (year + 1) ≤ marchDays 400 := marchDays_mono (by omega)
    have hmono := yearOfEra_mono (show doe ≤ marchDays (year + 1) - 1 by omega)
      (Nat.lt_of_lt_of_le (show marchDays (year + 1) - 1 < marchDays (year + 1) by omega)
        (Nat.le_trans hbound (by decide)))
    omega
  · by_cases hsmall : yearOfEra doe + 1 < 400
    · have hstart := (yearOfEra_ends (yearOfEra doe + 1) hsmall).1
      rw [Nat.div_eq_of_lt hsmall, Nat.sub_zero] at hstart
      have hmono := yearOfEra_mono hafter h
      omega
    · have hfull : yearOfEra doe + 1 = 400 := by omega
      rw [hfull] at hafter
      have hcycle : marchDays 400 = 146097 := by decide
      omega

/-! ## The date of a day -/

/-- The date of a day of a year from March. -/
def marchDate (year doy : ℕ) : ℕ × ℕ × ℕ :=
  let mp := (5 * doy + 2) / 153
  let d := doy - (153 * mp + 2) / 5 + 1
  let m := if mp < 10 then mp + 3 else mp - 9
  (if m ≤ 2 then year + 1 else year, m, d)

/-- The days of a year from March before each of its months. -/
theorem daysBefore_month (year mp : ℕ) (hmp : mp < 12) :
    daysBeforeYear (if mp < 10 then year else year + 1) +
      daysBeforeMonth (if mp < 10 then year else year + 1) (if mp < 10 then mp + 3 else mp - 9) =
      marchDays year + 60 + (153 * mp + 2) / 5 := by
  have hmarch := daysBefore_march year
  have hnext := daysBeforeYear_succ year
  have hlength : yearLength year = daysBeforeMonth year 3 + 306 := by
    unfold yearLength
    simp only [daysBeforeMonth, monthDays]
    split <;> rfl
  by_cases hyear : mp < 10
  · have hmonth : daysBeforeMonth year (mp + 3) = daysBeforeMonth year 3 + (153 * mp + 2) / 5 := by
      have hcases : mp = 0 ∨ mp = 1 ∨ mp = 2 ∨ mp = 3 ∨ mp = 4 ∨ mp = 5 ∨ mp = 6 ∨ mp = 7 ∨ mp = 8 ∨ mp = 9 := by
        omega
      rcases hcases with rfl | rfl | rfl | rfl | rfl | rfl | rfl | rfl | rfl | rfl <;>
        simp only [daysBeforeMonth, monthDays, Nat.reduceMul, Nat.reduceAdd, Nat.reduceDiv, Nat.add_zero]
    rw [if_pos hyear, if_pos hyear, hmonth]
    omega
  · obtain rfl | rfl : mp = 10 ∨ mp = 11 := by omega
    · simp only [daysBeforeMonth, monthDays, Nat.reduceLT, Nat.reduceSub, if_false] at hnext ⊢
      omega
    · simp only [daysBeforeMonth, monthDays, Nat.reduceLT, Nat.reduceSub, if_false] at hnext ⊢
      omega

/-- The months from March have the days that lie between their first days; February ends the year. -/
theorem marchMonth_length (year : ℕ) {mp day : ℕ} (hmp : mp < 12)
    (hday : day < (153 * (mp + 1) + 2) / 5 - (153 * mp + 2) / 5)
    (hend : mp = 11 → day < 28 + if IsLeapYear (year + 1) then 1 else 0) :
    day + 1 ≤ monthDays (if mp < 10 then year else year + 1) (if mp < 10 then mp + 3 else mp - 9) := by
  by_cases hlast : mp = 11
  · subst hlast
    have hlt := hend rfl
    show day + 1 ≤ if IsLeapYear (year + 1) then 29 else 28
    split at hlt
    · rw [if_pos ‹_›]
      omega
    · rw [if_neg ‹_›]
      omega
  · have hcases : mp = 0 ∨ mp = 1 ∨ mp = 2 ∨ mp = 3 ∨ mp = 4 ∨ mp = 5 ∨ mp = 6 ∨ mp = 7 ∨ mp = 8 ∨ mp = 9 ∨
        mp = 10 := by omega
    rcases hcases with rfl | rfl | rfl | rfl | rfl | rfl | rfl | rfl | rfl | rfl | rfl <;>
      exact Nat.succ_le_of_lt hday

/-- The date of a day of the year from March is a date of the calendar, and it is that day. -/
theorem marchDate_spec {year doy : ℕ} (h : doy < 365 + if IsLeapYear (year + 1) then 1 else 0) :
    ∃ y m d, marchDate year doy = (y, m, d) ∧ IsDate y m d ∧ dayNumber y m d = marchDays year + 60 + doy := by
  have hbound : doy < 366 := by
    split at h <;> omega
  obtain ⟨mp, hmp⟩ : ∃ mp, mp = (5 * doy + 2) / 153 := ⟨_, rfl⟩
  have hlt : mp < 12 := by omega
  have hfirst : (153 * mp + 2) / 5 ≤ doy := by omega
  have hnext : doy < (153 * (mp + 1) + 2) / 5 := by omega
  have hmonth := daysBefore_month year mp hlt
  have hlength := @marchMonth_length year mp (doy - (153 * mp + 2) / 5) hlt (by omega) (by omega)
  have hdate : marchDate year doy = (if mp < 10 then year else year + 1, if mp < 10 then mp + 3 else mp - 9,
      doy - (153 * mp + 2) / 5 + 1) := by
    unfold marchDate
    dsimp only
    rw [← hmp]
    by_cases hten : mp < 10
    · rw [if_pos hten, if_pos hten, if_neg (by omega)]
    · rw [if_neg hten, if_neg hten, if_pos (by omega)]
  refine ⟨_, _, _, hdate, ⟨Nat.le_add_left 1 _, hlength⟩, ?_⟩
  unfold dayNumber
  omega

/-- The date computed for a day is a date of the calendar, and it is that day; 1970-01-01 is day 719528. -/
theorem civilFromDays_spec (days : ℕ) : ∃ year month day, civilFromDays days = (year, month, day) ∧
    IsDate year month day ∧ dayNumber year month day = days + 719528 := by
  obtain ⟨era, hera⟩ : ∃ era, era = (days + 719468) / 146097 := ⟨_, rfl⟩
  obtain ⟨doe, hdoe⟩ : ∃ doe, doe = days + 719468 - era * 146097 := ⟨_, rfl⟩
  have hlt : doe < 146097 := by omega
  obtain ⟨hyear, hfirst, hnext⟩ := yearOfEra_spec hlt
  obtain ⟨yoe, hyoe⟩ : ∃ yoe, yoe = yearOfEra doe := ⟨_, rfl⟩
  rw [← hyoe] at hyear hfirst hnext
  have hmarch : marchDays yoe = 365 * yoe + yoe / 4 - yoe / 100 := by
    unfold marchDays
    omega
  have hera' := marchDays_add yoe era
  have hleap : IsLeapYear (yoe + era * 400 + 1) ↔ IsLeapYear (yoe + 1) := by
    unfold IsLeapYear
    omega
  rw [marchDays_succ] at hnext
  obtain ⟨year, month, day, hdate, hreal, hnumber⟩ :=
    @marchDate_spec (yoe + era * 400) (doe - marchDays yoe) (by
      simp only [hleap]
      omega)
  refine ⟨year, month, day, ?_, hreal, by omega⟩
  rw [← hdate, hmarch, hyoe, hdoe, hera]
  rfl

/-! ## Decimals -/

theorem ascii_digitChar {digit : ℕ} (h : digit < 10) : ascii digit.digitChar = digitByte digit := by
  have hall : ∀ d < 10, ascii d.digitChar = digitByte d := by decide
  exact hall digit h

/-- The digits of a number, with the zeros before them, are its decimal. -/
theorem padded_digits {width n : ℕ} (h : n < 10 ^ width) (hwidth : 0 < width) :
    (List.replicate (width - (Nat.toDigits 10 n).length) '0' ++ Nat.toDigits 10 n).map ascii = decimal width n := by
  induction width generalizing n with
  | zero => exact absurd hwidth (Nat.lt_irrefl 0)
  | succ width ih =>
    rw [Nat.pow_succ] at h
    rw [decimal]
    by_cases hsmall : n < 10
    · have hzeros : ∀ width : ℕ, decimal width 0 = List.replicate width (ascii '0') := by
        intro width
        induction width with
        | zero => rfl
        | succ width ih =>
          rw [decimal, ih, List.replicate_succ']
          rfl
      rw [Nat.toDigits_of_lt_base hsmall, Nat.div_eq_of_lt hsmall, Nat.mod_eq_of_lt hsmall, hzeros, List.map_append,
        List.map_replicate, List.map_singleton, ascii_digitChar hsmall]
      rfl
    · have hrest : 0 < width := by
        rcases Nat.eq_zero_or_pos width with rfl | hpos
        · omega
        · exact hpos
      rw [Nat.toDigits_of_base_le (by decide) (by omega), ← ih (by omega) hrest, List.length_append,
        List.length_singleton, Nat.add_sub_add_right, ← List.append_assoc, List.map_append, List.map_singleton,
        ascii_digitChar (Nat.mod_lt n (by decide))]

theorem isAscii_toDigits {n : ℕ} {c : Char} (hc : c ∈ Nat.toDigits 10 n) : c.toNat ≤ 0x7f := by
  have hdigit := Nat.isDigit_of_mem_toDigits (by decide) (by decide) hc
  unfold Char.isDigit at hdigit
  have hle := of_decide_eq_true (Bool.and_eq_true_iff.mp hdigit).2
  exact Nat.le_trans hle (by decide)

theorem bytes_padDecimal_eq (width n : ℕ) : bytes (padDecimal width n) =
    (List.replicate (width - (Nat.toDigits 10 n).length) '0' ++ Nat.toDigits 10 n).map ascii := by
  have hdigits : (toString n).toList = Nat.toDigits 10 n := Nat.toList_repr
  unfold padDecimal
  rw [hdigits]
  refine bytes_ofList_ascii ?_
  intro c hc
  rcases List.mem_append.mp hc with hzero | hdigit
  · rw [List.eq_of_mem_replicate hzero]
    decide
  · exact isAscii_toDigits hdigit

/-- The bytes of a padded number. -/
theorem bytes_padDecimal {width n : ℕ} (h : n < 10 ^ width) (hwidth : 0 < width) :
    bytes (padDecimal width n) = decimal width n := by
  rw [bytes_padDecimal_eq, padded_digits h hwidth]

/-- The first four digits of a number that has more. -/
def leadingFour (n : ℕ) : ℕ := if n < 10000 then n else leadingFour (n / 10)

theorem leadingFour_lt (n : ℕ) : leadingFour n < 10000 := by
  induction n using leadingFour.induct with
  | case1 n h =>
    rw [leadingFour, if_pos h]
    exact h
  | case2 n h ih =>
    rw [leadingFour, if_neg h]
    exact ih

/-- A number of more than four digits starts with its first four, and a digit follows. -/
theorem bytes_padDecimal_far {n : ℕ} (h : ¬n < 10000) : ∃ digit rest,
    bytes (padDecimal 4 n) = decimal 4 (leadingFour n) ++ digitByte digit :: rest ∧ digit < 10 := by
  have hlength : ¬(Nat.toDigits 10 n).length ≤ 4 := by
    rw [Nat.length_toDigits_le_iff (by decide) (by decide)]
    exact h
  rw [bytes_padDecimal_eq, Nat.sub_eq_zero_of_le (by omega), List.replicate_zero, List.nil_append]
  clear hlength
  induction n using leadingFour.induct with
  | case1 n hlt => exact absurd hlt h
  | case2 n _ ih =>
    rw [leadingFour, if_neg h, Nat.toDigits_of_base_le (by decide) (by omega), List.map_append, List.map_singleton,
      ascii_digitChar (Nat.mod_lt n (by decide))]
    by_cases hlast : n / 10 < 10000
    · have hfour : (Nat.toDigits 10 (n / 10)).map ascii = decimal 4 (n / 10) := by
        have hlength : ¬(Nat.toDigits 10 (n / 10)).length ≤ 3 := by
          rw [Nat.length_toDigits_le_iff (by decide) (by decide)]
          omega
        have hpadded := padded_digits hlast (by decide : 0 < 4)
        rw [Nat.sub_eq_zero_of_le (by omega), List.replicate_zero, List.nil_append] at hpadded
        exact hpadded
      rw [leadingFour, if_pos hlast, hfour]
      exact ⟨n % 10, [], rfl, Nat.mod_lt n (by decide)⟩
    · obtain ⟨digit, rest, hdigits, hdigit⟩ := ih hlast
      rw [hdigits]
      exact ⟨digit, rest ++ [digitByte (n % 10)], by rw [List.append_assoc, List.cons_append], hdigit⟩

/-! ## Timestamps -/

/-- The members of a list, by their positions. -/
theorem eq_map_getD {α : Type} (fallback : α) (l : List α) :
    l = (List.range l.length).map fun i => l.getD i fallback := by
  refine List.ext_getElem (by simp) ?_
  intro i hi _
  simp [List.getD_eq_getElem?_getD, hi]

/-- The bytes of a date and a time of day, and what follows the seconds. -/
def timestampBytes (year month day hour minute second : ℕ) (fraction : List UInt8) : List UInt8 :=
  decimal 4 year ++ ascii '-' :: (decimal 2 month ++ ascii '-' :: (decimal 2 day ++ ascii 'T' ::
    (decimal 2 hour ++ ascii ':' :: (decimal 2 minute ++ ascii ':' :: (decimal 2 second ++ fraction)))))

/-- The seconds from the start of 1970, which is day 719528, to a date and a time of day. -/
def epochSeconds (year month day hour minute second : ℕ) : ℤ :=
  ((dayNumber year month day : ℤ) - 719528) * 86400 + hour * 3600 + minute * 60 + second

theorem bytes_formatRfc3339UtcMillis {ms year month day : ℕ}
    (h : civilFromDays (ms / 1000 / 86400) = (year, month, day)) :
    bytes (formatRfc3339UtcMillis ms) = bytes (padDecimal 4 year) ++ ascii '-' ::
      (bytes (padDecimal 2 month) ++ ascii '-' ::
        (bytes (padDecimal 2 day) ++ ascii 'T' ::
          (bytes (padDecimal 2 (ms / 1000 % 86400 / 3600)) ++ ascii ':' ::
            (bytes (padDecimal 2 (ms / 1000 % 86400 % 3600 / 60)) ++ ascii ':' ::
              (bytes (padDecimal 2 (ms / 1000 % 86400 % 60)) ++ ascii '.' ::
                (bytes (padDecimal 3 (ms % 1000)) ++ [ascii 'Z'])))))) := by
  have hdash : bytes "-" = [ascii '-'] := rfl
  have ht : bytes "T" = [ascii 'T'] := rfl
  have hcolon : bytes ":" = [ascii ':'] := rfl
  have hdot : bytes "." = [ascii '.'] := rfl
  have hz : bytes "Z" = [ascii 'Z'] := rfl
  unfold formatRfc3339UtcMillis
  dsimp only
  rw [h]
  simp only [bytes_append, hdash, ht, hcolon, hdot, hz, List.append_assoc, List.cons_append, List.nil_append]

/-- While years have four digits, an instant is written as a date of the calendar and a time of day, with its
milliseconds. -/
theorem format_spec {ms : ℕ} (h : (civilFromDays (ms / 1000 / 86400)).1 < 10000) : ∃ year month day,
    year < 10000 ∧ IsDate year month day ∧
      bytes (formatRfc3339UtcMillis ms) = timestampBytes year month day (ms / 1000 % 86400 / 3600)
        (ms / 1000 % 86400 % 3600 / 60) (ms / 1000 % 86400 % 60) (ascii '.' :: (decimal 3 (ms % 1000) ++ [ascii 'Z'])) ∧
      epochSeconds year month day (ms / 1000 % 86400 / 3600) (ms / 1000 % 86400 % 3600 / 60)
        (ms / 1000 % 86400 % 60) = (ms / 1000 : ℕ) := by
  obtain ⟨year, month, day, hcivil, hdate, hnumber⟩ := civilFromDays_spec (ms / 1000 / 86400)
  rw [hcivil] at h
  refine ⟨year, month, day, h, hdate, ?_, ?_⟩
  · have hmonth := hdate.month_lt
    have hday := hdate.day_lt
    rw [bytes_formatRfc3339UtcMillis hcivil, bytes_padDecimal h (by decide), bytes_padDecimal hmonth (by decide),
      bytes_padDecimal hday (by decide), bytes_padDecimal (by omega) (by decide),
      bytes_padDecimal (by omega) (by decide), bytes_padDecimal (by omega) (by decide),
      bytes_padDecimal (by omega) (by decide)]
    rfl
  · unfold epochSeconds
    omega

end Iweb
