import Iweb.Keys.UtcStamp

/-!
# The order of timestamps

Two timestamps compare as their seconds; within one second, a timestamp without milliseconds comes after every
timestamp with them, since `.` comes before `Z`. The clock writes the timestamp of its instant.
-/

namespace Iweb.Keys

open Calendar Decimals

namespace UtcStamp

/-- Timestamps are ordered by their seconds, then by what follows them. -/
theorem text_lt_iff (a b : UtcStamp) : a.text < b.text ↔
    a.seconds < b.seconds ∨ a.seconds = b.seconds ∧ fractionText a.millis < fractionText b.millis := by
  have hday := dayNumber_lt_iff a.isDate b.isDate
  have hsame := dayNumber_inj a.isDate b.isDate
  have hhour := a.hour_lt
  have hminute := a.minute_lt
  have hsecond := a.second_lt
  have hhour' := b.hour_lt
  have hminute' := b.minute_lt
  have hsecond' := b.second_lt
  unfold text timestampBytes
  rw [decimal_append_lt_iff a.year_lt b.year_lt, List.cons_lt_cons_iff,
    decimal_append_lt_iff a.isDate.month_lt b.isDate.month_lt, List.cons_lt_cons_iff,
    decimal_append_lt_iff a.isDate.day_lt b.isDate.day_lt, List.cons_lt_cons_iff,
    decimal_append_lt_iff (by omega) (by omega), List.cons_lt_cons_iff,
    decimal_append_lt_iff (by omega) (by omega), List.cons_lt_cons_iff,
    decimal_append_lt_iff (by omega) (by omega)]
  simp only [UInt8.lt_irrefl, false_or, true_and]
  unfold seconds epochSeconds
  generalize (fractionText a.millis < fractionText b.millis) = fraction
  generalize dayNumber a.year a.month a.day = number at hday hsame ⊢
  generalize dayNumber b.year b.month b.day = number' at hday hsame ⊢
  rcases Nat.lt_trichotomy number number' with hlt | heq | hgt
  · refine iff_of_true ?_ (.inl (by omega))
    rcases hday.mp hlt with hyear | ⟨hyear, hmonth | ⟨hmonth, hday⟩⟩
    · exact .inl hyear
    · exact .inr ⟨hyear, .inl hmonth⟩
    · exact .inr ⟨hyear, .inr ⟨hmonth, .inl hday⟩⟩
  · obtain ⟨hyear, hmonth, hday⟩ := hsame.mp heq
    rw [hyear, hmonth, hday, heq]
    simp only [Nat.lt_irrefl, false_or, true_and]
    constructor
    · rintro (hlt | ⟨hh, hlt | ⟨hm, hlt | ⟨hs, hfraction⟩⟩⟩)
      · exact .inl (by omega)
      · exact .inl (by omega)
      · exact .inl (by omega)
      · exact .inr ⟨by omega, hfraction⟩
    · rintro (hlt | ⟨heq, hfraction⟩)
      · omega
      · exact .inr ⟨by omega, .inr ⟨by omega, .inr ⟨by omega, hfraction⟩⟩⟩
  · have hnot : ¬number < number' := by omega
    have hne : number ≠ number' := by omega
    rw [hday] at hnot
    rw [Ne, hsame] at hne
    refine iff_of_false ?_ (by omega)
    rintro (hlt | ⟨hyear, hlt | ⟨hmonth, hlt | ⟨heq, -⟩⟩⟩)
    · exact hnot (.inl hlt)
    · exact hnot (.inr ⟨hyear, .inl hlt⟩)
    · exact hnot (.inr ⟨hyear, .inr ⟨hmonth, hlt⟩⟩)
    · exact hne ⟨hyear, hmonth, heq⟩

theorem fractionText_lt_none (ms : ℕ) : fractionText (some ms) < fractionText none := by
  unfold fractionText
  rw [List.cons_lt_cons_iff]
  exact .inl (by decide)

theorem fractionText_lt_some {ms ms' : ℕ} (h : ms < 1000) (h' : ms' < 1000) :
    fractionText (some ms) < fractionText (some ms') ↔ ms < ms' := by
  unfold fractionText
  rw [List.cons_lt_cons_iff, decimal_append_lt_iff h h']
  simp only [UInt8.lt_irrefl, false_or, true_and, List.lt_irrefl, and_false, or_false]

/-- A timestamp with milliseconds comes before another one exactly when its instant does, or when the other one
names its second without milliseconds. -/
theorem text_lt_iff_of_millis {a b : UtcStamp} {ms : ℕ} (h : a.millis = some ms) : a.text < b.text ↔
    a.instant < b.instant ∨ b.millis = none ∧ b.seconds = a.seconds := by
  have hms := a.millis_lt ms h
  rw [text_lt_iff]
  unfold instant
  rw [h]
  cases hb : b.millis with
  | none =>
    have hfraction := fractionText_lt_none ms
    simp only [hfraction, Option.getD, true_and, and_true]
    omega
  | some ms' =>
    have hms' := b.millis_lt ms' hb
    rw [fractionText_lt_some hms hms']
    simp only [Option.getD, reduceCtorEq, false_and, or_false]
    omega

end UtcStamp

/-! ## The clock -/

/-- While years have four digits, the clock writes the timestamp of its instant, with milliseconds. -/
theorem utcNow_stamp {now : ℕ} (h : (civilFromDays (now / 1000 / 86400)).1 < 10000) : ∃ stamp : UtcStamp,
    bytes (utcNow now) = stamp.text ∧ stamp.millis = some (now % 1000) ∧ stamp.seconds = (now / 1000 : ℕ) ∧
      stamp.instant = (now : ℤ) := by
  obtain ⟨year, month, day, hyear, hdate, hbytes, hseconds⟩ := format_spec h
  have hms : ∀ ms, some (now % 1000) = some ms → ms < 1000 := by
    rintro ms ⟨⟩
    exact Nat.mod_lt now (by decide)
  refine ⟨⟨year, month, day, _, _, _, some (now % 1000), hyear, hdate, by omega, by omega, by omega, hms⟩, hbytes, rfl,
    hseconds, ?_⟩
  show epochSeconds year month day _ _ _ * 1000 + ((now % 1000 : ℕ) : ℤ) = now
  rw [hseconds]
  omega

/-- Every timestamp lies before the year 10000. -/
theorem UtcStamp.instant_lt (stamp : UtcStamp) : stamp.instant < 253402300800000 := by
  have hyear := stamp.isDate.lt_year
  have hbound : daysBeforeYear (stamp.year + 1) ≤ daysBeforeYear 10000 := daysBeforeYear_mono stamp.year_lt
  have hlast : daysBeforeYear 10000 = 3652425 := by decide
  have hhour := stamp.hour_lt
  have hminute := stamp.minute_lt
  have hsecond := stamp.second_lt
  have hms : stamp.millis.getD 0 < 1000 := by
    cases h : stamp.millis with
    | none => decide
    | some ms => exact stamp.millis_lt ms h
  unfold UtcStamp.instant UtcStamp.seconds epochSeconds
  omega

/-- A clock that writes longer years shows an instant of the year 10000 or a later one. -/
theorem le_of_far {now : ℕ} (h : ¬(civilFromDays (now / 1000 / 86400)).1 < 10000) : 253402300800000 ≤ now := by
  obtain ⟨year, month, day, hcivil, hdate, hnumber⟩ := civilFromDays_spec (now / 1000 / 86400)
  rw [hcivil] at h
  have hyear : daysBeforeYear 10000 ≤ daysBeforeYear year := daysBeforeYear_mono (Nat.not_lt.mp h)
  have hfirst : daysBeforeYear 10000 = 3652425 := by decide
  unfold dayNumber at hnumber
  omega

/-- The texts say that a timestamp is not after the clock exactly when its instant is not, on the condition. -/
theorem expired_iff (stamp : UtcStamp) (now : ℕ) :
    (¬bytes (utcNow now) < stamp.text ↔ stamp.instant ≤ (now : ℤ)) ↔ ClockAgrees stamp now := by
  unfold ClockAgrees
  dsimp only
  by_cases hfar : (civilFromDays (now / 1000 / 86400)).1 < 10000
  · obtain ⟨clock, htext, hmillis, hseconds, hinstant⟩ := utcNow_stamp hfar
    rw [if_pos hfar, htext, UtcStamp.text_lt_iff_of_millis hmillis, hinstant, hseconds]
    constructor
    · intro hiff hslip
      refine hiff.mpr ?_ (.inr hslip)
      unfold UtcStamp.instant
      rw [hslip.1, hslip.2]
      simp only [Option.getD]
      omega
    · intro hok
      constructor
      · intro hnot
        exact Int.not_lt.mp fun hlt => hnot (.inl hlt)
      · rintro hle (hlt | hslip)
        · omega
        · exact hok hslip
  · obtain ⟨⟨year, month, day⟩, hcivil⟩ : ∃ date, civilFromDays (now / 1000 / 86400) = date := ⟨_, rfl⟩
    have hpast : stamp.instant ≤ (now : ℤ) := by
      have hlt := stamp.instant_lt
      have hle := le_of_far hfar
      omega
    rw [hcivil] at hfar ⊢
    obtain ⟨digit, rest, hyear, hdigit⟩ := bytes_padDecimal_far hfar
    have hdash : ¬digitByte digit < ascii '-' := by
      rw [UInt8.lt_iff_toNat_lt, toNat_digitByte hdigit]
      show ¬48 + digit < 45
      omega
    have hne : digitByte digit ≠ ascii '-' := by
      rw [Ne, ← UInt8.toNat_inj, toNat_digitByte hdigit]
      show ¬48 + digit = 45
      omega
    rw [if_neg hfar, iff_true_right hpast, utcNow, bytes_formatRfc3339UtcMillis hcivil, hyear, List.append_assoc, List.cons_append]
    unfold UtcStamp.text timestampBytes
    rw [decimal_append_lt_iff (leadingFour_lt _) stamp.year_lt, List.cons_lt_cons_iff]
    simp only [hdash, hne, false_and, or_false, and_false]
    exact Nat.not_lt

/-! ## The accepted texts -/

theorem isDecimalDigit_digitByte {digit : ℕ} (h : digit < 10) : isDecimalDigit (digitByte digit) = true := by
  have hall : ∀ d < 10, isDecimalDigit (digitByte d) = true := by decide
  exact hall digit h

theorem exists_digit {b : UInt8} (h : isDecimalDigit b = true) : ∃ digit < 10, b = digitByte digit := by
  obtain ⟨hlo, hhi⟩ := Bool.and_eq_true_iff.mp h
  have hlo := of_decide_eq_true hlo
  have hhi := of_decide_eq_true hhi
  have hlo : 48 ≤ b.toNat := hlo
  have hhi : b.toNat ≤ 57 := hhi
  refine ⟨b.toNat - 48, by omega, ?_⟩
  rw [← UInt8.toNat_inj, toNat_digitByte (by omega)]
  omega

/-- The checks of two digits, as checks of their number. -/
theorem two_digit_checks : ∀ a < 10, ∀ b < 10,
    (digitByte a == ascii '0' && inRange '1' '9' (digitByte b) ||
      digitByte a == ascii '1' && inRange '0' '2' (digitByte b)) =
      decide (1 ≤ 10 * a + b ∧ 10 * a + b ≤ 12) ∧
    (digitByte a == ascii '0' && isDecimalDigit (digitByte b) ||
      digitByte a == ascii '1' && isDecimalDigit (digitByte b) ||
      digitByte a == ascii '2' && inRange '0' '3' (digitByte b)) = decide (10 * a + b < 24) ∧
    inRange '0' '5' (digitByte a) = decide (10 * a + b < 60) := by
  decide +kernel

theorem validDay_iff {bs : List UInt8} {year month day : ℕ}
    (hyear : ((bs.getD 0 0).toNat - 48) * 1000 + ((bs.getD 1 0).toNat - 48) * 100 + ((bs.getD 2 0).toNat - 48) * 10 +
      ((bs.getD 3 0).toNat - 48) = year)
    (hmonth : ((bs.getD 5 0).toNat - 48) * 10 + ((bs.getD 6 0).toNat - 48) = month)
    (hday : ((bs.getD 8 0).toNat - 48) * 10 + ((bs.getD 9 0).toNat - 48) = day) :
    validDay bs = true ↔ IsDate year month day := by
  unfold validDay
  dsimp only
  rw [hyear, hmonth, hday]
  have hleap : (year % 4 == 0 && (year % 100 != 0 || year % 400 == 0)) = true ↔ IsLeapYear year := by
    unfold IsLeapYear
    simp only [Bool.and_eq_true, Bool.or_eq_true, beq_iff_eq, bne_iff_ne]
  have hdate : IsDate year month day ↔ 1 ≤ day ∧ day ≤ monthDays year month :=
    ⟨fun h => ⟨h.day_pos, h.day_le⟩, fun h => ⟨h.1, h.2⟩⟩
  rw [hdate]
  unfold monthDays
  split
  case h_12 =>
    simp only [hleap]
    split <;> simp
  case h_13 =>
    simp only [Bool.false_eq_true, false_iff]
    omega
  all_goals simp

theorem toNat_digit {digit : ℕ} (h : digit < 10) : (digitByte digit).toNat - 48 = digit := by
  rw [toNat_digitByte h]
  omega

theorem isDecimalDigit_of_low {b : UInt8} (h : inRange '0' '5' b = true) : isDecimalDigit b = true := by
  obtain ⟨hlo, hhi⟩ := Bool.and_eq_true_iff.mp h
  have hhi : b.toNat ≤ 53 := of_decide_eq_true hhi
  refine Bool.and_eq_true_iff.mpr ⟨hlo, decide_eq_true ?_⟩
  show b.toNat ≤ 57
  omega

/-- An accepted text is a timestamp. -/
theorem exists_stamp_of_valid {value : String} (h : validUtcStamp value = true) :
    ∃ stamp : UtcStamp, bytes value = stamp.text := by
  obtain ⟨bs, hbs⟩ : ∃ bs, bs = bytes value := ⟨_, rfl⟩
  unfold validUtcStamp at h
  dsimp only at h
  rw [← hbs] at h ⊢
  simp only [Bool.and_eq_true, List.all_cons, List.all_nil, beq_iff_eq, and_true] at h
  obtain ⟨⟨hlength, hd0, hd1, hd2, hd3, hd5, hd6, hd8, hd9, hd11, hd12, hd14, hd15⟩,
    ⟨⟨⟨⟨⟨⟨⟨⟨⟨⟨⟨⟨h4, h7⟩, h10⟩, h13⟩, h16⟩, hz⟩, hfraction⟩, -⟩, hday⟩, hhour⟩, hminute⟩, -⟩, hsecond⟩, hd18⟩ := h
  have hd17 := isDecimalDigit_of_low hsecond
  obtain ⟨d0, l0, e0⟩ := exists_digit hd0
  obtain ⟨d1, l1, e1⟩ := exists_digit hd1
  obtain ⟨d2, l2, e2⟩ := exists_digit hd2
  obtain ⟨d3, l3, e3⟩ := exists_digit hd3
  obtain ⟨d5, l5, e5⟩ := exists_digit hd5
  obtain ⟨d6, l6, e6⟩ := exists_digit hd6
  obtain ⟨d8, l8, e8⟩ := exists_digit hd8
  obtain ⟨d9, l9, e9⟩ := exists_digit hd9
  obtain ⟨d11, l11, e11⟩ := exists_digit hd11
  obtain ⟨d12, l12, e12⟩ := exists_digit hd12
  obtain ⟨d14, l14, e14⟩ := exists_digit hd14
  obtain ⟨d15, l15, e15⟩ := exists_digit hd15
  obtain ⟨d17, l17, e17⟩ := exists_digit hd17
  obtain ⟨d18, l18, e18⟩ := exists_digit hd18
  rw [e11, e12, (two_digit_checks d11 l11 d12 l12).2.1] at hhour
  rw [e14, (two_digit_checks d14 l14 d15 l15).2.2] at hminute
  rw [e17, (two_digit_checks d17 l17 d18 l18).2.2] at hsecond
  have hdate : IsDate (10 * (10 * (10 * d0 + d1) + d2) + d3) (10 * d5 + d6) (10 * d8 + d9) := by
    refine (validDay_iff ?_ ?_ ?_).mp hday
    · rw [e0, e1, e2, e3, toNat_digit l0, toNat_digit l1, toNat_digit l2, toNat_digit l3]
      omega
    · rw [e5, e6, toNat_digit l5, toNat_digit l6, Nat.mul_comm]
    · rw [e8, e9, toNat_digit l8, toNat_digit l9, Nat.mul_comm]
  have hstamp : ∀ millis, (∀ ms, millis = some ms → ms < 1000) → ∃ stamp : UtcStamp, stamp.text =
      [digitByte d0, digitByte d1, digitByte d2, digitByte d3, ascii '-', digitByte d5, digitByte d6, ascii '-',
        digitByte d8, digitByte d9, ascii 'T', digitByte d11, digitByte d12, ascii ':', digitByte d14, digitByte d15,
        ascii ':', digitByte d17, digitByte d18] ++ UtcStamp.fractionText millis := by
    intro millis hmillis
    refine ⟨⟨_, _, _, 10 * d11 + d12, 10 * d14 + d15, 10 * d17 + d18, millis, by omega, hdate,
      of_decide_eq_true hhour, of_decide_eq_true hminute, of_decide_eq_true hsecond, hmillis⟩, ?_⟩
    unfold UtcStamp.text timestampBytes
    rw [decimal_four l0 l1 l2 l3, decimal_two l5 l6, decimal_two l8 l9, decimal_two l11 l12, decimal_two l14 l15,
      decimal_two l17 l18]
    rfl
  simp only [Bool.or_eq_true, beq_iff_eq] at hlength
  have hlist := eq_map_getD 0 bs
  rcases hlength with hlength | hlength
  · obtain ⟨stamp, hstamp⟩ := hstamp none nofun
    refine ⟨stamp, ?_⟩
    rw [hlength] at hlist hz
    rw [hstamp]
    refine hlist.trans ?_
    show [bs.getD 0 0, bs.getD 1 0, bs.getD 2 0, bs.getD 3 0, bs.getD 4 0, bs.getD 5 0, bs.getD 6 0, bs.getD 7 0,
      bs.getD 8 0, bs.getD 9 0, bs.getD 10 0, bs.getD 11 0, bs.getD 12 0, bs.getD 13 0, bs.getD 14 0, bs.getD 15 0,
      bs.getD 16 0, bs.getD 17 0, bs.getD 18 0, bs.getD 19 0] = _
    rw [e0, e1, e2, e3, h4, e5, e6, h7, e8, e9, h10, e11, e12, h13, e14, e15, h16, e17, e18, hz]
    rfl
  · have hshort : ¬bs.length = 20 := by omega
    simp only [Bool.or_eq_true, beq_iff_eq, hshort, false_or, Bool.and_eq_true, and_true] at hfraction
    obtain ⟨h19, hd20, hd21, hd22⟩ := hfraction
    obtain ⟨d20, l20, e20⟩ := exists_digit hd20
    obtain ⟨d21, l21, e21⟩ := exists_digit hd21
    obtain ⟨d22, l22, e22⟩ := exists_digit hd22
    obtain ⟨stamp, hstamp⟩ := hstamp (some (10 * (10 * d20 + d21) + d22)) (by
      rintro ms ⟨⟩
      omega)
    refine ⟨stamp, ?_⟩
    rw [hlength] at hlist hz
    rw [hstamp]
    refine hlist.trans ?_
    show [bs.getD 0 0, bs.getD 1 0, bs.getD 2 0, bs.getD 3 0, bs.getD 4 0, bs.getD 5 0, bs.getD 6 0, bs.getD 7 0,
      bs.getD 8 0, bs.getD 9 0, bs.getD 10 0, bs.getD 11 0, bs.getD 12 0, bs.getD 13 0, bs.getD 14 0, bs.getD 15 0,
      bs.getD 16 0, bs.getD 17 0, bs.getD 18 0, bs.getD 19 0, bs.getD 20 0, bs.getD 21 0, bs.getD 22 0,
      bs.getD 23 0] = _
    rw [e0, e1, e2, e3, h4, e5, e6, h7, e8, e9, h10, e11, e12, h13, e14, e15, h16, e17, e18, h19, e20, e21, e22, hz]
    unfold UtcStamp.fractionText
    dsimp only
    rw [decimal_three l20 l21 l22]
    rfl

/-- A timestamp is accepted. -/
theorem valid_of_stamp {value : String} {stamp : UtcStamp} (h : bytes value = stamp.text) :
    validUtcStamp value = true := by
  obtain ⟨d0, d1, d2, d3, l0, l1, l2, l3, hyear⟩ := exists_digits_four stamp.year_lt
  obtain ⟨d5, d6, l5, l6, hmonth⟩ := exists_digits_two stamp.isDate.month_lt
  obtain ⟨d8, d9, l8, l9, hday⟩ := exists_digits_two stamp.isDate.day_lt
  obtain ⟨d11, d12, l11, l12, hhour⟩ := exists_digits_two (Nat.lt_trans stamp.hour_lt (by decide))
  obtain ⟨d14, d15, l14, l15, hminute⟩ := exists_digits_two (Nat.lt_trans stamp.minute_lt (by decide))
  obtain ⟨d17, d18, l17, l18, hsecond⟩ := exists_digits_two (Nat.lt_trans stamp.second_lt (by decide))
  have hdate := stamp.isDate
  have hmonths := hdate.month_le
  have hhours := stamp.hour_lt
  have hminutes := stamp.minute_lt
  have hseconds := stamp.second_lt
  rw [hmonth] at hmonths
  rw [hhour] at hhours
  rw [hminute] at hminutes
  rw [hsecond] at hseconds
  rw [hyear, hmonth, hday] at hdate
  have hbytes : bytes value = [digitByte d0, digitByte d1, digitByte d2, digitByte d3, ascii '-', digitByte d5,
      digitByte d6, ascii '-', digitByte d8, digitByte d9, ascii 'T', digitByte d11, digitByte d12, ascii ':',
      digitByte d14, digitByte d15, ascii ':', digitByte d17, digitByte d18] ++ UtcStamp.fractionText stamp.millis := by
    rw [h]
    unfold UtcStamp.text timestampBytes
    rw [hyear, hmonth, hday, hhour, hminute, hsecond, decimal_four l0 l1 l2 l3, decimal_two l5 l6, decimal_two l8 l9,
      decimal_two l11 l12, decimal_two l14 l15, decimal_two l17 l18]
    rfl
  have hcalendar : validDay (bytes value) = true := by
    refine (validDay_iff ?_ ?_ ?_).mpr hdate
    · rw [hbytes]
      show ((digitByte d0).toNat - 48) * 1000 + ((digitByte d1).toNat - 48) * 100 + ((digitByte d2).toNat - 48) * 10 +
        ((digitByte d3).toNat - 48) = _
      rw [toNat_digit l0, toNat_digit l1, toNat_digit l2, toNat_digit l3]
      omega
    · rw [hbytes]
      show ((digitByte d5).toNat - 48) * 10 + ((digitByte d6).toNat - 48) = _
      rw [toNat_digit l5, toNat_digit l6, Nat.mul_comm]
    · rw [hbytes]
      show ((digitByte d8).toNat - 48) * 10 + ((digitByte d9).toNat - 48) = _
      rw [toNat_digit l8, toNat_digit l9, Nat.mul_comm]
  have hchecks := (two_digit_checks d5 l5 d6 l6).1
  have hchecks' := (two_digit_checks d11 l11 d12 l12).2.1
  have hlow := (two_digit_checks d14 l14 d15 l15).2.2
  have hlow' := (two_digit_checks d17 l17 d18 l18).2.2
  rw [decide_eq_true hmonths] at hchecks
  rw [decide_eq_true hhours, isDecimalDigit_digitByte l12] at hchecks'
  rw [decide_eq_true hminutes] at hlow
  rw [decide_eq_true hseconds] at hlow'
  unfold validUtcStamp
  dsimp only
  rw [hcalendar, hbytes]
  cases hmillis : stamp.millis with
  | none =>
    unfold UtcStamp.fractionText
    simp only [List.cons_append, List.nil_append, List.length_cons, List.length_nil, List.getD_cons_zero,
      List.getD_cons_succ, List.all_cons, List.all_nil, isDecimalDigit_digitByte, hchecks, hchecks', hlow, hlow', l0,
      l1, l2, l3, l5, l6, l8, l9, l11, l12, l14, l15, l18]
    rfl
  | some ms =>
    obtain ⟨d20, d21, d22, l20, l21, l22, rfl⟩ := exists_digits_three (stamp.millis_lt ms hmillis)
    unfold UtcStamp.fractionText
    dsimp only
    rw [decimal_three l20 l21 l22]
    simp only [List.cons_append, List.nil_append, List.length_cons, List.length_nil, List.getD_cons_zero,
      List.getD_cons_succ, List.all_cons, List.all_nil, isDecimalDigit_digitByte, hchecks, hchecks', hlow, hlow', l0,
      l1, l2, l3, l5, l6, l8, l9, l11, l12, l14, l15, l18, l20, l21, l22]
    rfl

/-- The accepted texts are the timestamps. -/
theorem validUtcStamp_iff (value : String) :
    validUtcStamp value = true ↔ ∃ stamp : UtcStamp, bytes value = stamp.text :=
  ⟨exists_stamp_of_valid, fun ⟨_, h⟩ => valid_of_stamp h⟩

end Iweb.Keys
