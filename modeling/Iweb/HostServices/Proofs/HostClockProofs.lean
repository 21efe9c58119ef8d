import Iweb.HostServices.HostClock
import Iweb.Kernel.Proofs.TimestampCodecProofs
import Iweb.Keys.Proofs.StampProofs

/-!
# The clock of the host services follows the calendar

The date of a day is the one with its number, so the next day has the next date. The timestamps are those of the
kernel's clock, which are ordered as the instants that they denote.
-/

namespace Iweb.HostClock

open Calendar

/-- The kernel computes its dates in the same way. -/
theorem civilFromDays_eq : civilFromDays = Rfc3339.civilFromDaysInt := rfl

/-- The date of a day is a date of the calendar, and it is that day; 1970-01-01 is day 719528. -/
theorem civilFromDays_nat (n : ℕ) : ∃ year month day : ℕ, civilFromDays n = ((year : ℤ), month, day) ∧
    Iweb.civilFromDays n = (year, month, day) ∧ IsDate year month day ∧ dayNumber year month day = n + 719528 := by
  obtain ⟨year, month, day, hcivil, hdate, hnumber⟩ := civilFromDays_spec n
  obtain ⟨year', month', day', hkernel, hint⟩ := Rfc3339.civilFromDaysInt_nat n
  rw [hcivil] at hkernel
  cases hkernel
  rw [civilFromDays_eq]
  exact ⟨year, month, day, hint, hcivil, hdate, hnumber⟩

/-- The date of the next day is the next date. -/
theorem civilFromDays_succ {n year month day : ℕ} (hdate : IsDate year month day)
    (hnumber : dayNumber year month day = n + 719528) :
    ∃ year' month' day' : ℕ, nextDate year month day = (year', month', day') ∧
      civilFromDays (n + 1 : ℕ) = ((year' : ℤ), month', day') := by
  obtain ⟨year', month', day', hnext, hdate', hnumber'⟩ := hdate.next
  obtain ⟨y, m, d, hcivil', -, hreal, hsame⟩ := civilFromDays_nat (n + 1)
  have hequal := (dayNumber_inj hreal hdate').mp (by omega)
  obtain ⟨rfl, rfl, rfl⟩ := hequal
  exact ⟨y, m, d, hnext, hcivil'⟩

/-! ## The order of the timestamps -/

/-- The timestamp of the kernel for the same milliseconds. -/
theorem formatUtcTimestamp_eq (now : SystemTime) :
    formatUtcTimestamp now = formatRfc3339UtcMillis (unixMillis now) := by
  obtain ⟨year, month, day, hcivil, hkernel, -⟩ := civilFromDays_nat (dayCount now)
  unfold formatUtcTimestamp formatRfc3339UtcMillis
  dsimp only
  unfold dayCount at hcivil hkernel ⊢
  rw [hcivil, hkernel]
  dsimp only
  unfold padSigned
  rw [if_neg (by omega : ¬(year : ℤ) < 0), Int.toNat_natCast]

/-- A time before the year 10000 shows all its milliseconds. -/
theorem unixMillis_eq {now : SystemTime} (h : yearOf now ≤ 9999) :
    unixMillis now = millisSinceEpoch now ∧ (Iweb.civilFromDays (millisSinceEpoch now / 1000 / 86400)).1 < 10000 := by
  obtain ⟨year, month, day, hcivil, hkernel, hdate, hnumber⟩ := civilFromDays_nat (millisSinceEpoch now / 1000 / 86400)
  unfold yearOf at h
  rw [hcivil] at h
  rw [hkernel]
  have hyear : year < 10000 := by omega
  have hlast := hdate.lt_year
  have hbound : daysBeforeYear (year + 1) ≤ daysBeforeYear 10000 := daysBeforeYear_mono hyear
  have hdays : daysBeforeYear 10000 = 3652425 := by decide
  refine ⟨Nat.mod_eq_of_lt ?_, hyear⟩
  omega

theorem millisSinceEpoch_div_mono {m m' : ℕ} (h : m ≤ m') : m / 1000 / 86400 ≤ m' / 1000 / 86400 :=
  Nat.div_le_div_right (Nat.div_le_div_right h)

/-- Earlier times have earlier years. -/
theorem yearOf_mono {now now' : SystemTime} (h : millisSinceEpoch now ≤ millisSinceEpoch now') :
    yearOf now ≤ yearOf now' := by
  obtain ⟨year, month, day, hcivil, -, hdate, hnumber⟩ := civilFromDays_nat (millisSinceEpoch now / 1000 / 86400)
  obtain ⟨year', month', day', hcivil', -, hdate', hnumber'⟩ :=
    civilFromDays_nat (millisSinceEpoch now' / 1000 / 86400)
  have hdays := millisSinceEpoch_div_mono h
  unfold yearOf
  rw [hcivil, hcivil']
  by_contra hlater
  have hlt := (dayNumber_lt_iff hdate' hdate).mpr (.inl (by omega : year' < year))
  omega

/-- A later millisecond has a later timestamp. -/
theorem formatUtcTimestamp_lt {now now' : SystemTime} (h : millisSinceEpoch now < millisSinceEpoch now')
    (hyear : yearOf now' ≤ 9999) : bytes (formatUtcTimestamp now) < bytes (formatUtcTimestamp now') := by
  obtain ⟨hmillis, hfour⟩ := unixMillis_eq (Int.le_trans (yearOf_mono (Nat.le_of_lt h)) hyear)
  obtain ⟨hmillis', hfour'⟩ := unixMillis_eq hyear
  obtain ⟨stamp, htext, hstamp, -, hinstant⟩ := Keys.utcNow_stamp hfour
  obtain ⟨stamp', htext', -, -, hinstant'⟩ := Keys.utcNow_stamp hfour'
  rw [formatUtcTimestamp_eq, formatUtcTimestamp_eq, hmillis, hmillis']
  show bytes (Keys.utcNow _) < bytes (Keys.utcNow _)
  rw [htext, htext', Keys.UtcStamp.text_lt_iff_of_millis hstamp]
  exact .inl (by omega)

/-- From day 0, which is 1970-01-01, every day has a date of the calendar and the next day the next date; and while
years have four digits, the timestamps increase with the milliseconds. -/
theorem host_clock_gregorian :
    civilFromDays 0 = (1970, 1, 1) ∧
    (∀ n : ℕ, ∃ year month day : ℕ, civilFromDays n = ((year : ℤ), month, day) ∧ IsDate year month day ∧
      ∃ year' month' day' : ℕ, nextDate year month day = (year', month', day') ∧
        civilFromDays (n + 1 : ℕ) = ((year' : ℤ), month', day')) ∧
    ∀ now now' : SystemTime, millisSinceEpoch now < millisSinceEpoch now' → yearOf now' ≤ 9999 →
      bytes (formatUtcTimestamp now) < bytes (formatUtcTimestamp now') := by
  refine ⟨by decide, ?_, fun now now' => formatUtcTimestamp_lt⟩
  intro n
  obtain ⟨year, month, day, hcivil, -, hdate, hnumber⟩ := civilFromDays_nat n
  exact ⟨year, month, day, hcivil, hdate, civilFromDays_succ hdate hnumber⟩

example : formatUtcTimestamp 1709164799999000000 = "2024-02-28T23:59:59.999Z" := by decide +kernel

end Iweb.HostClock
