import Iweb.Kernel.TimestampCodec
import Mathlib.Data.List.Induction

/-!
# The RFC 3339 codec is exact

The two day functions are inverse on the dates of all years, since both agree with the numbering of the calendar
within a cycle of 400 years. A text is parsed by its groups; each group read is the decimal of its number, so a text
whose groups can all be read is the text of a timestamp.
-/

namespace Iweb.Rfc3339

open Calendar Decimals

/-! ## Days of every year -/

theorem isLeapYear_add (year era : ℕ) : IsLeapYear (year + era * 400) ↔ IsLeapYear year := by
  unfold IsLeapYear
  omega

theorem monthDays_add (year era month : ℕ) : monthDays (year + era * 400) month = monthDays year month := by
  unfold monthDays
  simp only [isLeapYear_add]

theorem isDate_add {year era month day : ℕ} : IsDate (year + era * 400) month day ↔ IsDate year month day := by
  have hdays := monthDays_add year era month
  exact ⟨fun h => ⟨h.day_pos, hdays ▸ h.day_le⟩, fun h => ⟨h.day_pos, hdays.symm ▸ h.day_le⟩⟩

theorem daysBeforeMonth_add (year era month : ℕ) : daysBeforeMonth (year + era * 400) month = daysBeforeMonth year month := by
  induction month with
  | zero => rfl
  | succ month ih => rw [daysBeforeMonth, daysBeforeMonth, ih, monthDays_add]

/-- A cycle of 400 years moves the number of a date by its days. -/
theorem dayNumber_add (year era month day : ℕ) :
    dayNumber (year + era * 400) month day = dayNumber year month day + era * 146097 := by
  have hyear := daysBefore_march year
  have hlater := daysBefore_march (year + era * 400)
  rw [daysBeforeMonth_add, marchDays_add] at hlater
  unfold dayNumber
  rw [daysBeforeMonth_add]
  omega

/-- The number of a date of any year. -/
def civilNumber (year : ℤ) (month day : ℕ) : ℤ := year / 400 * 146097 + dayNumber (year % 400).toNat month day

theorem civilNumber_add (year : ℕ) (era : ℤ) (month day : ℕ) :
    civilNumber ((year : ℤ) + era * 400) month day = dayNumber year month day + era * 146097 := by
  have hdiv : ((year : ℤ) + era * 400) / 400 = (year / 400 : ℕ) + era := by omega
  have hmod : (((year : ℤ) + era * 400) % 400).toNat = year % 400 := by omega
  have hsplit : year = year % 400 + year / 400 * 400 := by omega
  have hnumber := dayNumber_add (year % 400) (year / 400) month day
  rw [← hsplit] at hnumber
  unfold civilNumber
  rw [hdiv, hmod]
  omega

theorem isCivilDate_add {year : ℕ} {era : ℤ} {month day : ℕ} :
    IsCivilDate ((year : ℤ) + era * 400) month day ↔ IsDate year month day := by
  have hmod : (((year : ℤ) + era * 400) % 400).toNat = year % 400 := by omega
  have hsplit : year = year % 400 + year / 400 * 400 := by omega
  unfold IsCivilDate
  rw [hmod, ← @isDate_add (year % 400) (year / 400), ← hsplit]

theorem daysFromCivil_eq {year : ℤ} {month day : ℕ} (h : IsCivilDate year month day) :
    daysFromCivil year month day = civilNumber year month day - 719528 := by
  obtain ⟨hpos, hle⟩ := IsDate.month_le h
  have hday := h.day_pos
  obtain ⟨y, hy⟩ : ∃ y : ℤ, y = if month ≤ 2 then year - 1 else year := ⟨_, rfl⟩
  obtain ⟨yoe, hyoe⟩ : ∃ yoe : ℕ, (yoe : ℤ) = y % 400 := ⟨(y % 400).toNat, by omega⟩
  obtain ⟨mp, hmp⟩ : ∃ mp : ℕ, mp = (month + 9) % 12 := ⟨_, rfl⟩
  have hera : (if y ≥ 0 then y else y - 399).tdiv 400 = y / 400 := by
    split
    · exact Int.tdiv_eq_ediv_of_nonneg ‹_›
    · have hneg : y - 399 = -(399 - y) := by omega
      rw [hneg, Int.neg_tdiv, Int.tdiv_eq_ediv_of_nonneg (by omega)]
      omega
  have hrest : y - y / 400 * 400 = (yoe : ℤ) := by omega
  have hdays : daysFromCivil year month day =
      y / 400 * 146097 + (((yoe * 365 + yoe / 4 - yoe / 100 : ℕ) : ℤ) + ((153 * mp + 2) / 5 : ℕ) + day - 1) - 719468 := by
    unfold daysFromCivil
    dsimp only
    rw [← hy, hera, hrest]
    have hmp' : ((month : ℤ) + 9) % 12 = (mp : ℤ) := by omega
    rw [hmp', Int.tdiv_eq_ediv_of_nonneg (by omega), Int.tdiv_eq_ediv_of_nonneg (by omega),
      Int.tdiv_eq_ediv_of_nonneg (by omega)]
    omega
  have hmonth := daysBefore_month yoe mp (by omega)
  have hmarch : marchDays yoe = yoe * 365 + yoe / 4 - yoe / 100 := by
    unfold marchDays
    omega
  have hnumber : civilNumber year month day = y / 400 * 146097 + (marchDays yoe + 60 + (153 * mp + 2) / 5 + (day - 1) : ℕ) := by
    by_cases hearly : month ≤ 2
    · rw [if_pos hearly] at hy
      have hshift : mp = month + 9 := hmp.trans (Nat.mod_eq_of_lt (by omega))
      clear hdays hera hmarch
      have hsplit : year = ((yoe + 1 : ℕ) : ℤ) + y / 400 * 400 := by omega
      rw [if_neg (by omega), if_neg (by omega), show mp - 9 = month by omega] at hmonth
      rw [hsplit, civilNumber_add]
      unfold dayNumber
      omega
    · rw [if_neg hearly] at hy
      have hshift : mp + 3 = month := by
        rw [hmp, show month + 9 = month - 3 + 12 by omega, Nat.add_mod_right, Nat.mod_eq_of_lt (by omega)]
        omega
      clear hdays hera hmarch
      have hsplit : year = (yoe : ℤ) + y / 400 * 400 := by omega
      rw [if_pos (by omega), if_pos (by omega), show mp + 3 = month by omega] at hmonth
      rw [hsplit, civilNumber_add]
      unfold dayNumber
      omega
  rw [hdays, hnumber, hmarch]
  omega

/-- The date computed for a day is a date, and it is that day. -/
theorem civilFromDaysInt_spec (days : ℤ) : ∃ year month day, civilFromDaysInt days = (year, month, day) ∧
    IsCivilDate year month day ∧ civilNumber year month day = days + 719528 := by
  obtain ⟨z, hz⟩ : ∃ z, z = days + 719468 := ⟨_, rfl⟩
  obtain ⟨doe, hdoe⟩ : ∃ doe : ℕ, (doe : ℤ) = z % 146097 := ⟨(z % 146097).toNat, by omega⟩
  have hera : (if z ≥ 0 then z else z - 146096).tdiv 146097 = z / 146097 := by
    split
    · exact Int.tdiv_eq_ediv_of_nonneg ‹_›
    · have hneg : z - 146096 = -(146096 - z) := by omega
      rw [hneg, Int.neg_tdiv, Int.tdiv_eq_ediv_of_nonneg (by omega)]
      omega
  have hrest : (z - z / 146097 * 146097).toNat = doe := by omega
  have hlt : doe < 146097 := by omega
  obtain ⟨hyear, hfirst, hnext⟩ := yearOfEra_spec hlt
  have hmarch : marchDays (yearOfEra doe) =
      365 * yearOfEra doe + yearOfEra doe / 4 - yearOfEra doe / 100 := by
    unfold marchDays
    omega
  rw [marchDays_succ] at hnext
  obtain ⟨year, month, day, hdate, hreal, hnumber⟩ :=
    @marchDate_spec (yearOfEra doe) (doe - marchDays (yearOfEra doe)) (by omega)
  have hyoe : (doe - doe / 1460 + doe / 36524 - doe / 146096) / 365 = yearOfEra doe := rfl
  have hcivil : civilFromDaysInt days = ((year : ℤ) + z / 146097 * 400, month, day) := by
    unfold civilFromDaysInt
    dsimp only
    rw [← hz, hera, hrest, hyoe, ← hmarch]
    unfold marchDate at hdate
    dsimp only at hdate
    generalize doe - marchDays (yearOfEra doe) = doy at hdate ⊢
    generalize (if (5 * doy + 2) / 153 < 10 then (5 * doy + 2) / 153 + 3 else (5 * doy + 2) / 153 - 9) = m at hdate ⊢
    simp only [Prod.mk.injEq] at hdate
    obtain ⟨rfl, rfl, rfl⟩ := hdate
    congr 1
    by_cases hearly : m ≤ 2
    · rw [if_pos hearly, if_pos hearly]
      omega
    · rw [if_neg hearly, if_neg hearly]
  exact ⟨_, _, _, hcivil, isCivilDate_add.mpr hreal, by rw [civilNumber_add]; omega⟩

/-- Dates are numbered injectively in all years. -/
theorem civilNumber_inj {year year' : ℤ} {month day month' day' : ℕ} (h : IsCivilDate year month day)
    (h' : IsCivilDate year' month' day') (heq : civilNumber year month day = civilNumber year' month' day') :
    (year, month, day) = (year', month', day') := by
  -- both dates are moved to the cycles from a common one on
  obtain ⟨era, hera⟩ : ∃ era, era = min (year / 400) (year' / 400) := ⟨_, rfl⟩
  obtain ⟨y, hy⟩ : ∃ y : ℕ, year = (y : ℤ) + era * 400 := ⟨(year - era * 400).toNat, by omega⟩
  obtain ⟨y', hy'⟩ : ∃ y' : ℕ, year' = (y' : ℤ) + era * 400 := ⟨(year' - era * 400).toNat, by omega⟩
  clear hera
  subst hy hy'
  rw [isCivilDate_add] at h h'
  rw [civilNumber_add, civilNumber_add] at heq
  obtain ⟨rfl, rfl, rfl⟩ := (dayNumber_inj h h').mp (by omega)
  rfl

theorem civilFromDaysInt_daysFromCivil {year : ℤ} {month day : ℕ} (h : IsCivilDate year month day) :
    civilFromDaysInt (daysFromCivil year month day) = (year, month, day) := by
  obtain ⟨year', month', day', hcivil, hdate, hnumber⟩ := civilFromDaysInt_spec (daysFromCivil year month day)
  rw [daysFromCivil_eq h, Int.sub_add_cancel] at hnumber
  rw [hcivil]
  exact civilNumber_inj hdate h hnumber

theorem daysFromCivil_civilFromDaysInt (days : ℤ) : ∃ year month day, civilFromDaysInt days = (year, month, day) ∧
    IsCivilDate year month day ∧ daysFromCivil year month day = days := by
  obtain ⟨year, month, day, hcivil, hdate, hnumber⟩ := civilFromDaysInt_spec days
  refine ⟨year, month, day, hcivil, hdate, ?_⟩
  rw [daysFromCivil_eq hdate, hnumber]
  omega

/-! ## Numbers -/

/-- The characters of a decimal. -/
def decimalChars (width n : ℕ) : List Char := (decimal width n).map Char.ofUInt8

theorem decimalChars_succ (width n : ℕ) :
    decimalChars (width + 1) n = decimalChars width (n / 10) ++ [Char.ofUInt8 (digitByte (n % 10))] := by
  unfold decimalChars
  rw [decimal, List.map_append]
  rfl

@[simp] theorem length_decimalChars (width n : ℕ) : (decimalChars width n).length = width := by
  unfold decimalChars
  rw [List.length_map, length_decimal]

theorem toNat_digitChar {digit : ℕ} (h : digit < 10) : (Char.ofUInt8 (digitByte digit)).toNat = 48 + digit := by
  rw [toNat_ofUInt8, toNat_digitByte h]

theorem isAsciiDigit_iff {c : Char} : isAsciiDigit c = true ↔ ∃ digit < 10, c = Char.ofUInt8 (digitByte digit) := by
  unfold isAsciiDigit
  rw [Bool.and_eq_true, decide_eq_true_eq, decide_eq_true_eq]
  constructor
  · rintro ⟨hlo, hhi⟩
    refine ⟨c.toNat - 48, by omega, Char.toNat_inj.mp ?_⟩
    rw [toNat_digitChar (by omega)]
    omega
  · rintro ⟨digit, hdigit, rfl⟩
    rw [toNat_digitChar hdigit]
    omega

theorem all_decimalChars (width n : ℕ) : (decimalChars width n).all isAsciiDigit = true := by
  induction width generalizing n with
  | zero => rfl
  | succ width ih =>
    rw [decimalChars_succ, List.all_append, ih, List.all_cons, List.all_nil,
      isAsciiDigit_iff.mpr ⟨n % 10, by omega, rfl⟩]
    rfl

theorem parseNumber_decimalChars {width n : ℕ} (h : n < 10 ^ width) : parseNumber (decimalChars width n) = some n := by
  unfold parseNumber
  rw [if_pos (all_decimalChars width n), Option.some_inj]
  induction width generalizing n with
  | zero =>
    obtain rfl : n = 0 := by omega
    rfl
  | succ width ih =>
    rw [Nat.pow_succ] at h
    rw [decimalChars_succ, List.foldl_append, ih (by omega), List.foldl_cons, List.foldl_nil,
      toNat_digitChar (by omega)]
    omega

/-- A number that is read is the decimal of the text. -/
theorem eq_decimalChars {text : List Char} {n : ℕ} (h : parseNumber text = some n) :
    text = decimalChars text.length n ∧ n < 10 ^ text.length := by
  unfold parseNumber at h
  split at h
  · rename_i hall
    rw [Option.some_inj] at h
    induction text using List.reverseRecOn generalizing n with
    | nil =>
      subst h
      exact ⟨rfl, Nat.one_pos⟩
    | append_singleton text c ih =>
      rw [List.all_append, Bool.and_eq_true, List.all_cons, List.all_nil, Bool.and_true] at hall
      obtain ⟨digit, hdigit, rfl⟩ := isAsciiDigit_iff.mp hall.2
      rw [List.foldl_append, List.foldl_cons, List.foldl_nil, toNat_digitChar hdigit] at h
      obtain ⟨htext, hlt⟩ := ih hall.1 rfl
      rw [List.length_append, List.length_singleton, decimalChars_succ, Nat.pow_succ]
      generalize text.foldl (fun n c => 10 * n + (c.toNat - 48)) 0 = m at h htext hlt
      refine ⟨?_, by omega⟩
      rw [show n / 10 = m by omega, show n % 10 = digit by omega, ← htext]
  · exact nomatch h

theorem parseNumber_eq_none {text : List Char} : parseNumber text = none ↔ text.all isAsciiDigit = false := by
  unfold parseNumber
  split
  · rename_i hall
    exact iff_of_false nofun (by rw [hall]; nofun)
  · rename_i hall
    exact iff_of_true rfl (Bool.eq_false_iff.mpr hall)

theorem exists_number {text : List Char} (h : text.all isAsciiDigit = true) : ∃ n, parseNumber text = some n := by
  unfold parseNumber
  rw [if_pos h]
  exact ⟨_, rfl⟩

/-! ## Fractions -/

theorem decimalChars_append_zeros (width n zeros : ℕ) :
    decimalChars width n ++ List.replicate zeros '0' = decimalChars (width + zeros) (n * 10 ^ zeros) := by
  induction zeros with
  | zero => rw [List.replicate_zero, List.append_nil, Nat.pow_zero, Nat.mul_one, Nat.add_zero]
  | succ zeros ih =>
    rw [List.replicate_succ', ← List.append_assoc, ih, ← Nat.add_assoc, decimalChars_succ, Nat.pow_succ,
      show n * (10 ^ zeros * 10) = n * 10 ^ zeros * 10 by rw [Nat.mul_assoc], Nat.mul_div_cancel _ (by decide),
      Nat.mul_mod_left]
    rfl

theorem take_decimalChars (width more n : ℕ) :
    (decimalChars (width + more) n).take width = decimalChars width (n / 10 ^ more) := by
  induction more generalizing n with
  | zero => rw [Nat.add_zero, Nat.pow_zero, Nat.div_one, List.take_of_length_le (by simp)]
  | succ more ih =>
    rw [← Nat.add_assoc, decimalChars_succ, List.take_append_of_le_length (by simp), ih, Nat.pow_succ,
      Nat.div_div_eq_div_mul, Nat.mul_comm]

/-- The first three characters of a padded fraction are its whole milliseconds. -/
theorem take_padFraction (width n : ℕ) :
    (padFraction (decimalChars width n)).take 3 = decimalChars 3 (n * 1000 / 10 ^ width) := by
  unfold padFraction
  rw [length_decimalChars, decimalChars_append_zeros]
  by_cases hshort : width ≤ 3
  · obtain ⟨zeros, hzeros⟩ := Nat.exists_eq_add_of_le hshort
    have hpow : (1000 : ℕ) = 10 ^ zeros * 10 ^ width := by
      rw [← Nat.pow_add, Nat.add_comm, ← hzeros]
    rw [show 3 - width = zeros by omega, ← hzeros, List.take_of_length_le (by simp), hpow, ← Nat.mul_assoc,
      Nat.mul_div_cancel _ (Nat.pow_pos (by decide))]
  · obtain ⟨more, hmore⟩ := Nat.exists_eq_add_of_le (Nat.le_of_not_le hshort)
    have hpow : 10 ^ width = 1000 * 10 ^ more := by
      rw [hmore, Nat.pow_add]
    rw [show 3 - width = 0 by omega, Nat.pow_zero, Nat.mul_one, Nat.add_zero, hmore, take_decimalChars, ← hmore, hpow,
      Nat.mul_comm n, Nat.mul_div_mul_left _ _ (by decide)]

theorem utf8Size_of_isAsciiDigit {c : Char} (h : isAsciiDigit c = true) : c.utf8Size = 1 := by
  obtain ⟨digit, hdigit, rfl⟩ := isAsciiDigit_iff.mp h
  have hall : ∀ d < 10, (Char.ofUInt8 (digitByte d)).utf8Size = 1 := by decide
  exact hall digit hdigit

/-- A cut of an ASCII text is at a character. -/
theorem sliceTo_ascii {text : List Char} (h : text.all isAsciiDigit = true) {n : ℕ} (hn : n ≤ text.length) :
    sliceTo n text = some (text.take n) := by
  induction text generalizing n with
  | nil =>
    obtain rfl : n = 0 := Nat.le_zero.mp hn
    rfl
  | cons c rest ih =>
    rw [List.all_cons, Bool.and_eq_true] at h
    rw [sliceTo]
    cases n with
    | zero => rfl
    | succ n =>
      rw [if_neg (Nat.succ_ne_zero n), utf8Size_of_isAsciiDigit h.1, if_pos (Nat.le_add_left 1 n), Nat.add_sub_cancel,
        ih h.2 (Nat.le_of_succ_le_succ hn)]
      rfl

/-- The milliseconds of an ASCII fraction. -/
theorem fractionMillis_ascii {width n : ℕ} (h : n < 10 ^ width) :
    fractionMillis (some (decimalChars width n)) = .ok (n * 1000 / 10 ^ width) := by
  have hall : (padFraction (decimalChars width n)).all isAsciiDigit = true := by
    unfold padFraction
    rw [length_decimalChars, decimalChars_append_zeros, all_decimalChars]
  have hlength : 3 ≤ (padFraction (decimalChars width n)).length := by
    unfold padFraction
    rw [List.length_append, List.length_replicate]
    omega
  have hlt : n * 1000 / 10 ^ width < 10 ^ 3 := by
    rw [Nat.div_lt_iff_lt_mul (Nat.pow_pos (by decide)), Nat.mul_comm (10 ^ 3)]
    exact Nat.mul_lt_mul_of_pos_right h (by decide)
  unfold fractionMillis
  dsimp only
  rw [sliceTo_ascii hall hlength, take_padFraction]
  dsimp only
  unfold number
  rw [parseNumber_decimalChars hlt]

theorem fractionMillis_map {fraction : Option (ℕ × ℕ)} (h : ∀ width n, fraction = some (width, n) → n < 10 ^ width) :
    fractionMillis (fraction.map fun f => decimalChars f.1 f.2) = .ok (Stamp.fractionValue fraction) := by
  cases fraction with
  | none => rfl
  | some f => exact fractionMillis_ascii (h f.1 f.2 rfl)

/-! ## Matches -/

section Matches

variable {digits : DigitClass}

theorem isDigit_of_isAsciiDigit {c : Char} (h : isAsciiDigit c = true) : digits.isDigit c = true := by
  unfold isAsciiDigit at h
  rw [Bool.and_eq_true, decide_eq_true_eq, decide_eq_true_eq] at h
  exact (digits.ascii c (by omega)).mpr h

theorem not_isDigit_z : digits.isDigit 'Z' = false := by
  by_contra hdigit
  have hrange := (digits.ascii 'Z' (by decide)).mp ((Bool.not_eq_false _).mp hdigit)
  exact absurd hrange (by decide)

/-- The text after the seconds. -/
def fractionChars : Option (List Char) → List Char
  | none => ['Z']
  | some fraction => '.' :: (fraction ++ ['Z'])

/-- A fraction that the pattern admits. -/
def FractionFits (digits : DigitClass) (fraction : Option (List Char)) : Prop :=
  ∀ text, fraction = some text → 1 ≤ text.length ∧ text.length ≤ 9 ∧ text.all digits.isDigit = true

theorem captureFraction_iff {rest : List Char} {fraction : Option (List Char)} :
    captureFraction digits rest = some fraction ↔ rest = fractionChars fraction ∧ FractionFits digits fraction := by
  constructor
  · intro h
    cases rest with
    | nil => exact nomatch h
    | cons c rest =>
      unfold captureFraction at h
      dsimp only at h
      split at h
      · rename_i hz
        cases h
        rw [hz.1, hz.2]
        exact ⟨rfl, nofun⟩
      split at h
      · rename_i hdot
        obtain ⟨rfl, hmin, hmax, htail⟩ := hdot
        cases h
        refine ⟨?_, ?_⟩
        · show '.' :: rest = '.' :: (rest.takeWhile digits.isDigit ++ ['Z'])
          rw [← htail, List.prefix_iff_eq_append.mp (List.takeWhile_prefix _)]
        · rintro text ⟨⟩
          exact ⟨hmin, hmax, List.all_takeWhile⟩
      · exact nomatch h
  · rintro ⟨rfl, hfits⟩
    cases fraction with
    | none => rfl
    | some fraction =>
      obtain ⟨hmin, hmax, hall⟩ := hfits fraction rfl
      have hwhile : (fraction ++ ['Z']).takeWhile digits.isDigit = fraction := by
        rw [List.takeWhile_append_of_pos (List.all_eq_true.mp hall), List.takeWhile_cons, not_isDigit_z]
        exact List.append_nil fraction
      unfold fractionChars captureFraction
      dsimp only
      rw [if_neg (by rintro ⟨hz, -⟩; exact absurd hz (by decide)), hwhile,
        if_pos ⟨rfl, hmin, hmax, List.drop_left⟩]

/-- The text of a match. -/
def Captures.text (c : Captures) : List Char :=
  c.year ++ '-' :: (c.month ++ '-' :: (c.day ++ 'T' :: (c.hour ++ ':' :: (c.minute ++ ':' :: (c.second ++
    fractionChars c.fraction)))))

/-- Groups of the lengths that the pattern asks for. -/
structure Captures.Fits (digits : DigitClass) (c : Captures) : Prop where
  year : c.year.length = 4 ∧ c.year.all digits.isDigit = true
  month : c.month.length = 2 ∧ c.month.all digits.isDigit = true
  day : c.day.length = 2 ∧ c.day.all digits.isDigit = true
  hour : c.hour.length = 2 ∧ c.hour.all digits.isDigit = true
  minute : c.minute.length = 2 ∧ c.minute.all digits.isDigit = true
  second : c.second.length = 2 ∧ c.second.all digits.isDigit = true
  fraction : FractionFits digits c.fraction

theorem list_length_two {α : Type} {l : List α} (h : l.length = 2) : ∃ a b, l = [a, b] := by
  obtain _ | ⟨a, _ | ⟨b, _ | ⟨c, l⟩⟩⟩ := l
  · exact nomatch h
  · exact nomatch h
  · exact ⟨a, b, rfl⟩
  · simp at h

theorem list_length_four {α : Type} {l : List α} (h : l.length = 4) : ∃ a b c d, l = [a, b, c, d] := by
  obtain _ | ⟨a, _ | ⟨b, l⟩⟩ := l
  · exact nomatch h
  · exact nomatch h
  · obtain ⟨c, d, rfl⟩ := list_length_two (show l.length = 2 by simpa using h)
    exact ⟨a, b, c, d, rfl⟩

/-- A text matches exactly when it is made of such groups. -/
theorem captures_iff {text : List Char} {c : Captures} :
    captures digits text = some c ↔ text = c.text ∧ c.Fits digits := by
  constructor
  · intro h
    unfold captures at h
    dsimp only at h
    split at h
    · rename_i hshape
      obtain ⟨hlength, hall⟩ := hshape
      rw [Option.map_eq_some_iff] at h
      obtain ⟨fraction, hfraction, rfl⟩ := h
      have hlist := eq_map_getD 'Z' (text.take 19)
      rw [hlength] at hlist
      obtain ⟨g, hg⟩ : ∃ g : ℕ → Char, g = fun i => (text.take 19).getD i 'Z' := ⟨_, rfl⟩
      rw [← hg] at hlist
      have hlist : text.take 19 = [g 0, g 1, g 2, g 3, g 4, g 5, g 6, g 7, g 8, g 9, g 10, g 11, g 12, g 13, g 14, g 15,
        g 16, g 17, g 18] := hlist
      rw [hlist] at hall ⊢
      simp only [timeShape, List.replicate, List.cons_append, List.nil_append, List.zip_cons_cons, List.zip_nil_left,
        List.all_cons, List.all_nil, Bool.and_true, Bool.and_eq_true, beq_iff_eq] at hall
      obtain ⟨hd0, hd1, hd2, hd3, h4, hd5, hd6, h7, hd8, hd9, h10, hd11, hd12, h13, hd14, hd15, h16, hd17, hd18⟩ := hall
      obtain ⟨hrest, hfits⟩ := captureFraction_iff.mp hfraction
      have hall : ∀ a b, digits.isDigit a = true → digits.isDigit b = true → [a, b].all digits.isDigit = true := by
        intro a b ha hb
        rw [List.all_cons, List.all_cons, ha, hb]
        rfl
      refine ⟨?_, ⟨rfl, ?_⟩, ⟨rfl, hall _ _ hd5 hd6⟩, ⟨rfl, hall _ _ hd8 hd9⟩, ⟨rfl, hall _ _ hd11 hd12⟩,
        ⟨rfl, hall _ _ hd14 hd15⟩, ⟨rfl, hall _ _ hd17 hd18⟩, hfits⟩
      · rw [← List.take_append_drop 19 text, hlist, hrest, h4, h7, h10, h13, h16]
        rfl
      · show [g 0, g 1, g 2, g 3].all digits.isDigit = true
        rw [List.all_cons, List.all_cons, hd0, hd1, hall _ _ hd2 hd3]
        rfl
    · exact nomatch h
  · rintro ⟨rfl, hfits⟩
    obtain ⟨y0, y1, y2, y3, hyear⟩ := list_length_four hfits.year.1
    obtain ⟨o0, o1, hmonth⟩ := list_length_two hfits.month.1
    obtain ⟨d0, d1, hday⟩ := list_length_two hfits.day.1
    obtain ⟨h0, h1, hhour⟩ := list_length_two hfits.hour.1
    obtain ⟨m0, m1, hminute⟩ := list_length_two hfits.minute.1
    obtain ⟨s0, s1, hsecond⟩ := list_length_two hfits.second.1
    obtain ⟨year, month, day, hour, minute, second, fraction⟩ := c
    dsimp only at hyear hmonth hday hhour hminute hsecond
    subst hyear hmonth hday hhour hminute hsecond
    have hfraction := captureFraction_iff.mpr ⟨rfl, hfits.fraction⟩
    have htwo : ∀ a b : Char, [a, b].all digits.isDigit = true → digits.isDigit a = true ∧ digits.isDigit b = true := by
      intro a b hall
      rw [List.all_cons, List.all_cons, List.all_nil, Bool.and_true, Bool.and_eq_true] at hall
      exact hall
    obtain ⟨ho0, ho1⟩ := htwo _ _ hfits.month.2
    obtain ⟨hd0, hd1⟩ := htwo _ _ hfits.day.2
    obtain ⟨hh0, hh1⟩ := htwo _ _ hfits.hour.2
    obtain ⟨hm0, hm1⟩ := htwo _ _ hfits.minute.2
    obtain ⟨hs0, hs1⟩ := htwo _ _ hfits.second.2
    have hyear := hfits.year.2
    rw [List.all_cons, List.all_cons, Bool.and_eq_true, Bool.and_eq_true] at hyear
    obtain ⟨hy0, hy1, hy23⟩ := hyear
    obtain ⟨hy2, hy3⟩ := htwo _ _ hy23
    unfold captures
    dsimp only
    rw [if_pos]
    · show (captureFraction digits (fractionChars fraction)).map _ = _
      rw [hfraction]
      rfl
    · refine ⟨rfl, ?_⟩
      show ([digits.isDigit, digits.isDigit, digits.isDigit, digits.isDigit, fun d => d == '-', digits.isDigit,
        digits.isDigit, fun d => d == '-', digits.isDigit, digits.isDigit, fun d => d == 'T', digits.isDigit,
        digits.isDigit, fun d => d == ':', digits.isDigit, digits.isDigit, fun d => d == ':', digits.isDigit,
        digits.isDigit].zip [y0, y1, y2, y3, '-', o0, o1, '-', d0, d1, 'T', h0, h1, ':', m0, m1, ':', s0, s1]).all
          (fun p => p.1 p.2) = true
      simp only [List.zip_cons_cons, List.zip_nil_left, List.all_cons, List.all_nil, hy0, hy1, hy2, hy3, ho0, ho1, hd0,
        hd1, hh0, hh1, hm0, hm1, hs0, hs1, beq_self_eq_true, Bool.and_self]

/-! ## Timestamps and matches -/

theorem decimal_ascii {width n : ℕ} : ∀ b ∈ decimal width n, b.toNat ≤ 0x7f := by
  induction width generalizing n with
  | zero => nofun
  | succ width ih =>
    intro b hb
    rw [decimal] at hb
    rcases List.mem_append.mp hb with hb | hb
    · exact ih b hb
    · obtain rfl := List.mem_singleton.mp hb
      rw [toNat_digitByte (Nat.mod_lt n (by decide))]
      omega

theorem bytes_eq_iff {value : String} {bs : List UInt8} (h : ∀ b ∈ bs, b.toNat ≤ 0x7f) :
    bytes value = bs ↔ value.toList = bs.map Char.ofUInt8 := by
  constructor
  · rintro rfl
    exact IsAscii.toList h
  · intro hlist
    have hvalue : value = String.ofList (bs.map Char.ofUInt8) := by
      rw [← hlist, String.ofList_toList]
    rw [hvalue, bytes_ofList_ascii, List.map_map]
    · have hid : ∀ b ∈ bs, (Iweb.ascii ∘ Char.ofUInt8) b = id b := fun b _ => ascii_ofUInt8 b
      rw [List.map_congr_left hid, List.map_id]
    · intro c hc
      obtain ⟨b, hb, rfl⟩ := List.mem_map.mp hc
      exact h b hb

/-- The groups of a timestamp. -/
def Stamp.groups (stamp : Stamp) : Captures where
  year := decimalChars 4 stamp.year
  month := decimalChars 2 stamp.month
  day := decimalChars 2 stamp.day
  hour := decimalChars 2 stamp.hour
  minute := decimalChars 2 stamp.minute
  second := decimalChars 2 stamp.second
  fraction := stamp.fraction.map fun f => decimalChars f.1 f.2

theorem Stamp.text_ascii (stamp : Stamp) : ∀ b ∈ stamp.text, b.toNat ≤ 0x7f := by
  have hmark : ∀ c ∈ ['-', 'T', ':', '.', 'Z'], (Iweb.ascii c).toNat ≤ 0x7f := by
    simp only [List.forall_mem_cons]
    exact ⟨by decide, by decide, by decide, by decide, by decide, List.forall_mem_nil _⟩
  have hcons : ∀ {c : Char} {bs : List UInt8}, c ∈ ['-', 'T', ':', '.', 'Z'] → (∀ b ∈ bs, b.toNat ≤ 0x7f) →
      ∀ b ∈ Iweb.ascii c :: bs, b.toNat ≤ 0x7f := by
    intro c bs hc hbs b hb
    rcases List.mem_cons.mp hb with rfl | hb
    · exact hmark c hc
    · exact hbs b hb
  have happend : ∀ {width n : ℕ} {bs : List UInt8}, (∀ b ∈ bs, b.toNat ≤ 0x7f) →
      ∀ b ∈ decimal width n ++ bs, b.toNat ≤ 0x7f := by
    intro width n bs hbs b hb
    rcases List.mem_append.mp hb with hb | hb
    · exact decimal_ascii b hb
    · exact hbs b hb
  have hend : ∀ b ∈ [Iweb.ascii 'Z'], b.toNat ≤ 0x7f := List.forall_mem_singleton.mpr (by decide)
  have hfraction : ∀ b ∈ fractionText stamp.fraction, b.toNat ≤ 0x7f := by
    cases stamp.fraction with
    | none => exact hend
    | some f => exact hcons (by decide) (happend hend)
  unfold Stamp.text timestampBytes
  exact happend (hcons (by decide) (happend (hcons (by decide) (happend (hcons (by decide) (happend
    (hcons (by decide) (happend (hcons (by decide) (happend hfraction))))))))))

theorem Stamp.map_text (stamp : Stamp) : stamp.text.map Char.ofUInt8 = stamp.groups.text := by
  have hmark : ∀ c ∈ ['-', 'T', ':', '.', 'Z'], Char.ofUInt8 (Iweb.ascii c) = c := by
    simp only [List.forall_mem_cons]
    exact ⟨rfl, rfl, rfl, rfl, rfl, List.forall_mem_nil _⟩
  have hfraction : (fractionText stamp.fraction).map Char.ofUInt8 = fractionChars stamp.groups.fraction := by
    unfold Stamp.groups
    dsimp only
    cases stamp.fraction with
    | none => rfl
    | some f =>
      unfold fractionText
      dsimp only
      rw [List.map_cons, List.map_append, List.map_singleton, hmark '.' (by decide), hmark 'Z' (by decide)]
      rfl
  unfold Stamp.text timestampBytes
  simp only [List.map_append, List.map_cons, hfraction, hmark '-' (by decide), hmark 'T' (by decide),
    hmark ':' (by decide)]
  rfl

theorem Stamp.groups_fits (stamp : Stamp) : stamp.groups.Fits digits := by
  have hgroup : ∀ width n, (decimalChars width n).all digits.isDigit = true := by
    intro width n
    rw [List.all_eq_true]
    exact fun c hc => isDigit_of_isAsciiDigit (List.all_eq_true.mp (all_decimalChars width n) c hc)
  refine ⟨⟨length_decimalChars .., hgroup ..⟩, ⟨length_decimalChars .., hgroup ..⟩, ⟨length_decimalChars .., hgroup ..⟩,
    ⟨length_decimalChars .., hgroup ..⟩, ⟨length_decimalChars .., hgroup ..⟩, ⟨length_decimalChars .., hgroup ..⟩, ?_⟩
  intro text htext
  unfold Stamp.groups at htext
  dsimp only at htext
  rw [Option.map_eq_some_iff] at htext
  obtain ⟨f, hf, rfl⟩ := htext
  obtain ⟨hmin, hmax, -⟩ := stamp.fraction_lt f.1 f.2 hf
  rw [length_decimalChars]
  exact ⟨hmin, hmax, hgroup ..⟩

theorem Stamp.numbers_groups (stamp : Stamp) : stamp.groups.numbers =
    some (stamp.year, stamp.month, stamp.day, stamp.hour, stamp.minute, stamp.second) := by
  have hhour := stamp.hour_lt
  have hminute := stamp.minute_lt
  have hsecond := stamp.second_lt
  unfold Captures.numbers Stamp.groups
  dsimp only
  rw [parseNumber_decimalChars stamp.year_lt, parseNumber_decimalChars stamp.isDate.month_lt,
    parseNumber_decimalChars stamp.isDate.day_lt, parseNumber_decimalChars (show stamp.hour < 10 ^ 2 by omega),
    parseNumber_decimalChars (show stamp.minute < 10 ^ 2 by omega),
    parseNumber_decimalChars (show stamp.second < 10 ^ 2 by omega)]
  rfl

/-- The match of a timestamp has its groups. -/
theorem captures_of_stamp {value : String} {stamp : Stamp} (h : bytes value = stamp.text) :
    captures digits value.toList = some stamp.groups := by
  rw [bytes_eq_iff stamp.text_ascii, stamp.map_text] at h
  exact captures_iff.mpr ⟨h, stamp.groups_fits⟩

/-- Groups whose numbers are written in ASCII, by their numbers. -/
theorem numbers_eq_some {c : Captures} {year month day hour minute second : ℕ} (hfits : c.Fits digits)
    (h : c.numbers = some (year, month, day, hour, minute, second)) :
    (parseNumber c.year = some year ∧ parseNumber c.month = some month ∧ parseNumber c.day = some day ∧
      parseNumber c.hour = some hour ∧ parseNumber c.minute = some minute ∧ parseNumber c.second = some second) ∧
    (c.year = decimalChars 4 year ∧ c.month = decimalChars 2 month ∧ c.day = decimalChars 2 day ∧
      c.hour = decimalChars 2 hour ∧ c.minute = decimalChars 2 minute ∧ c.second = decimalChars 2 second) ∧
    year < 10000 := by
  unfold Captures.numbers at h
  simp only [Option.bind_eq_bind, Option.bind_eq_some_iff, Option.pure_def, Option.some.injEq, Prod.mk.injEq] at h
  obtain ⟨_, hyear, _, hmonth, _, hday, _, hhour, _, hminute, _, hsecond, rfl, rfl, rfl, rfl, rfl, rfl⟩ := h
  obtain ⟨eyear, hlt⟩ := eq_decimalChars hyear
  have emonth := (eq_decimalChars hmonth).1
  have eday := (eq_decimalChars hday).1
  have ehour := (eq_decimalChars hhour).1
  have eminute := (eq_decimalChars hminute).1
  have esecond := (eq_decimalChars hsecond).1
  rw [hfits.year.1] at eyear hlt
  rw [hfits.month.1] at emonth
  rw [hfits.day.1] at eday
  rw [hfits.hour.1] at ehour
  rw [hfits.minute.1] at eminute
  rw [hfits.second.1] at esecond
  exact ⟨⟨hyear, hmonth, hday, hhour, hminute, hsecond⟩, ⟨eyear, emonth, eday, ehour, eminute, esecond⟩, hlt⟩

/-! ## Instants -/

theorem monthLength_eq {year month : ℕ} (h : 1 ≤ month ∧ month ≤ 12) :
    monthLength year month = some (monthDays year month) := by
  have hleap : ((year % 4 == 0 && year % 100 != 0) || year % 400 == 0) = true ↔ IsLeapYear year := by
    unfold IsLeapYear
    simp only [Bool.or_eq_true, Bool.and_eq_true, beq_iff_eq, bne_iff_ne]
    omega
  have hcases : month = 1 ∨ month = 2 ∨ month = 3 ∨ month = 4 ∨ month = 5 ∨ month = 6 ∨ month = 7 ∨ month = 8 ∨
      month = 9 ∨ month = 10 ∨ month = 11 ∨ month = 12 := by omega
  rcases hcases with rfl | rfl | rfl | rfl | rfl | rfl | rfl | rfl | rfl | rfl | rfl | rfl
  case inr.inl =>
    unfold monthLength monthDays
    simp only [hleap]
    rfl
  all_goals rfl

/-- The numbers of a real time of day are not before 1970 exactly when the year is not. -/
theorem epochSeconds_nonneg {year month day hour minute second : ℕ} (hdate : IsDate year month day) (hhour : hour < 24)
    (hminute : minute < 60) (hsecond : second < 60) :
    0 ≤ epochSeconds year month day hour minute second ↔ 1970 ≤ year := by
  have hstart : daysBeforeYear 1970 = 719528 := by decide
  unfold epochSeconds
  constructor
  · intro hle
    by_contra hearly
    have hlt := hdate.lt_year
    have hmono : daysBeforeYear (year + 1) ≤ daysBeforeYear 1970 := daysBeforeYear_mono (by omega)
    omega
  · intro hyear
    have hmono := daysBeforeYear_mono hyear
    unfold dayNumber
    omega

theorem daysFromCivil_nat {year month day : ℕ} (h : IsDate year month day) :
    daysFromCivil year month day = (dayNumber year month day : ℤ) - 719528 := by
  have hcivil : IsCivilDate ((year : ℤ) + 0 * 400) month day := isCivilDate_add.mpr h
  have hnumber := civilNumber_add year 0 month day
  rw [Int.zero_mul, Int.add_zero] at hcivil
  rw [Int.zero_mul, Int.add_zero, Int.zero_mul, Int.add_zero] at hnumber
  rw [daysFromCivil_eq hcivil, hnumber]

theorem epochMillis_of_instant {year month day hour minute second : ℕ} (millis : ℕ)
    (h : IsInstant year month day hour minute second) :
    epochMillis year month day hour minute second millis =
      .ok ((epochSeconds year month day hour minute second).toNat * 1000 + millis) := by
  obtain ⟨hyear, hdate, hhour, hminute, hsecond⟩ := h
  have hmonth := hdate.month_le
  have hpos := hdate.day_pos
  have hday := hdate.day_le
  have hnonneg := (epochSeconds_nonneg hdate hhour hminute hsecond).mpr hyear
  have hsecs : daysFromCivil year month day * 86400 + hour * 3600 + minute * 60 + second =
      epochSeconds year month day hour minute second := by
    rw [daysFromCivil_nat hdate]
    rfl
  unfold epochMillis
  rw [if_neg (by simp only [Bool.or_eq_true, decide_eq_true_eq, beq_iff_eq]; omega), monthLength_eq hmonth]
  dsimp only
  rw [if_neg (by omega), hsecs, if_neg (by omega)]

theorem epochMillis_of_not_instant {year month day hour minute second : ℕ} (millis : ℕ)
    (h : ¬IsInstant year month day hour minute second) :
    ∃ error, epochMillis year month day hour minute second millis = .refused error := by
  unfold epochMillis
  by_cases hrange : (month < 1 || 12 < month || day == 0 || 23 < hour || 59 < minute || 59 < second) = true
  · rw [if_pos hrange]
    exact ⟨_, rfl⟩
  rw [if_neg hrange]
  simp only [Bool.or_eq_true, decide_eq_true_eq, beq_iff_eq] at hrange
  rw [monthLength_eq (by omega)]
  dsimp only
  by_cases hlong : monthDays year month < day
  · rw [if_pos hlong]
    exact ⟨_, rfl⟩
  have hdate : IsDate year month day := ⟨by omega, by omega⟩
  have hsecs : daysFromCivil year month day * 86400 + hour * 3600 + minute * 60 + second =
      epochSeconds year month day hour minute second := by
    rw [daysFromCivil_nat hdate]
    rfl
  rw [if_neg hlong, hsecs, if_pos]
  · exact ⟨_, rfl⟩
  · rw [← Int.not_le, epochSeconds_nonneg hdate (by omega) (by omega) (by omega)]
    intro hyear
    exact h ⟨hyear, hdate, by omega, by omega, by omega⟩

/-! ## The parser -/

variable {value : String} {c : Captures} {year month day hour minute second : ℕ}

theorem parse_of_numbers (hc : captures digits value.toList = some c)
    (hn : c.numbers = some (year, month, day, hour, minute, second)) : parse digits value =
      (fractionMillis c.fraction).bind fun millis => epochMillis year month day hour minute second millis := by
  obtain ⟨⟨hyear, hmonth, hday, hhour, hminute, hsecond⟩, -, -⟩ := numbers_eq_some (captures_iff.mp hc).2 hn
  unfold parse number
  rw [hc]
  dsimp only
  rw [hyear, hmonth, hday, hhour, hminute, hsecond]
  rfl

theorem parse_of_no_numbers (hc : captures digits value.toList = some c) (hn : c.numbers = none) :
    ∃ error, parse digits value = .refused error := by
  unfold parse number
  rw [hc]
  dsimp only
  unfold Captures.numbers at hn
  cases hyear : parseNumber c.year with
  | none => exact ⟨_, rfl⟩
  | some year =>
  cases hmonth : parseNumber c.month with
  | none => exact ⟨_, rfl⟩
  | some month =>
  cases hday : parseNumber c.day with
  | none => exact ⟨_, rfl⟩
  | some day =>
  cases hhour : parseNumber c.hour with
  | none => exact ⟨_, rfl⟩
  | some hour =>
  cases hminute : parseNumber c.minute with
  | none => exact ⟨_, rfl⟩
  | some minute =>
  cases hsecond : parseNumber c.second with
  | none => exact ⟨_, rfl⟩
  | some second =>
    rw [hyear, hmonth, hday, hhour, hminute, hsecond] at hn
    exact nomatch hn

/-- A refusal is exact when the text is no timestamp not before 1970. -/
theorem parsesExactly_of_refused {error : KernelError} (h : parse digits value = .refused error)
    (hnone : ∀ ms, ¬Denotes value ms) : ParsesExactly digits value := by
  unfold ParsesExactly
  rw [h]
  exact ⟨nofun, fun ms => iff_of_false nofun (hnone ms)⟩

/-- Behind six numbers in ASCII, a fraction in ASCII makes a timestamp. -/
theorem exists_stamp (hc : captures digits value.toList = some c)
    (hn : c.numbers = some (year, month, day, hour, minute, second)) {fraction : Option (ℕ × ℕ)}
    (hfraction : c.fraction = fraction.map fun f => decimalChars f.1 f.2)
    (hlt : ∀ width n, fraction = some (width, n) → n < 10 ^ width) (hdate : IsDate year month day) (hhour : hour < 24)
    (hminute : minute < 60) (hsecond : second < 60) : ∃ stamp : Stamp, bytes value = stamp.text ∧
      stamp.seconds = epochSeconds year month day hour minute second ∧ stamp.fraction = fraction := by
  obtain ⟨htext, hfits⟩ := captures_iff.mp hc
  obtain ⟨-, ⟨eyear, emonth, eday, ehour, eminute, esecond⟩, hyear⟩ := numbers_eq_some hfits hn
  have hwidth : ∀ width n, fraction = some (width, n) → 1 ≤ width ∧ width ≤ 9 ∧ n < 10 ^ width := by
    intro width n hf
    rw [hf] at hfraction
    have hgroup := hfits.fraction _ hfraction
    rw [length_decimalChars] at hgroup
    exact ⟨hgroup.1, hgroup.2.1, hlt width n hf⟩
  refine ⟨⟨year, month, day, hour, minute, second, fraction, hyear, hdate, hhour, hminute, hsecond, hwidth⟩, ?_, rfl,
    rfl⟩
  rw [bytes_eq_iff (Stamp.text_ascii _), Stamp.map_text, htext]
  unfold Captures.text Stamp.groups
  dsimp only
  rw [eyear, emonth, eday, ehour, eminute, esecond, hfraction]

/-- Such a text is parsed exactly. -/
theorem parsesExactly_of_ascii (hc : captures digits value.toList = some c)
    (hn : c.numbers = some (year, month, day, hour, minute, second)) {fraction : Option (ℕ × ℕ)}
    (hfraction : c.fraction = fraction.map fun f => decimalChars f.1 f.2)
    (hlt : ∀ width n, fraction = some (width, n) → n < 10 ^ width) : ParsesExactly digits value := by
  have hsame : ∀ stamp : Stamp, bytes value = stamp.text → IsDate year month day ∧ hour < 24 ∧ minute < 60 ∧ second < 60 ∧
      stamp.seconds = epochSeconds year month day hour minute second := by
    intro stamp htext
    have hgroups := @captures_of_stamp digits _ _ htext
    rw [hc, Option.some_inj] at hgroups
    have hnumbers := stamp.numbers_groups
    rw [← hgroups, hn, Option.some_inj] at hnumbers
    simp only [Prod.mk.injEq] at hnumbers
    obtain ⟨rfl, rfl, rfl, rfl, rfl, rfl⟩ := hnumbers
    exact ⟨stamp.isDate, stamp.hour_lt, stamp.minute_lt, stamp.second_lt, rfl⟩
  obtain ⟨millis, hmillis⟩ : ∃ millis, millis = Stamp.fractionValue fraction := ⟨_, rfl⟩
  have hparse := parse_of_numbers hc hn
  rw [hfraction, fractionMillis_map hlt, ← hmillis] at hparse
  change parse digits value = epochMillis year month day hour minute second millis at hparse
  by_cases hinstant : IsInstant year month day hour minute second
  · obtain ⟨hyear, hdate, hhour, hminute, hsecond⟩ := hinstant
    have hnonneg := (epochSeconds_nonneg hdate hhour hminute hsecond).mpr hyear
    obtain ⟨stamp, htext, hseconds, hstamp⟩ := exists_stamp hc hn hfraction hlt hdate hhour hminute hsecond
    have hms : stamp.millis = millis := by
      unfold Stamp.millis
      rw [hstamp, hmillis]
    rw [epochMillis_of_instant millis ⟨hyear, hdate, hhour, hminute, hsecond⟩] at hparse
    unfold ParsesExactly
    rw [hparse]
    refine ⟨nofun, fun ms => ?_⟩
    constructor
    · rintro ⟨⟩
      refine ⟨stamp, htext, ?_, by rw [hseconds]; exact hnonneg⟩
      rw [hseconds, hms]
      omega
    · rintro ⟨stamp', htext', hms', -⟩
      have hseconds' := (hsame stamp' htext').2.2.2.2
      have hmillis' : stamp'.millis = millis := by
        have hgroups := @captures_of_stamp digits _ _ htext'
        rw [hc, Option.some_inj] at hgroups
        have hvalue := fractionMillis_map fun width n hs => (stamp'.fraction_lt width n hs).2.2
        have hvalue' := fractionMillis_map hlt
        rw [← hfraction, hgroups] at hvalue'
        injection hvalue.symm.trans hvalue' with heq
        exact heq.trans hmillis.symm
      rw [hseconds', hmillis'] at hms'
      congr 1
      omega
  · obtain ⟨error, herror⟩ := epochMillis_of_not_instant millis hinstant
    refine parsesExactly_of_refused (hparse.trans herror) ?_
    rintro ms ⟨stamp, htext, -, hnonneg⟩
    obtain ⟨hdate, hhour, hminute, hsecond, hseconds⟩ := hsame stamp htext
    rw [hseconds, epochSeconds_nonneg hdate hhour hminute hsecond] at hnonneg
    exact hinstant ⟨hnonneg, hdate, hhour, hminute, hsecond⟩

/-- A text with a fraction that is not in ASCII is no timestamp. -/
theorem not_denotes_of_foreign (hc : captures digits value.toList = some c) {fraction : List Char}
    (hfraction : c.fraction = some fraction) (hforeign : fraction.all isAsciiDigit = false) (ms : ℕ) :
    ¬Denotes value ms := by
  rintro ⟨stamp, htext, -⟩
  have hgroups := @captures_of_stamp digits _ _ htext
  rw [hc, Option.some_inj] at hgroups
  rw [hgroups] at hfraction
  unfold Stamp.groups at hfraction
  dsimp only at hfraction
  rw [Option.map_eq_some_iff] at hfraction
  obtain ⟨f, -, rfl⟩ := hfraction
  rw [all_decimalChars] at hforeign
  exact nomatch hforeign

theorem parsesExactly_foreign (hc : captures digits value.toList = some c)
    (hn : c.numbers = some (year, month, day, hour, minute, second)) {fraction : List Char}
    (hfraction : c.fraction = some fraction) (hforeign : fraction.all isAsciiDigit = false) :
    ParsesExactly digits value ↔ ∃ head, sliceTo 3 (padFraction fraction) = some head ∧
      (head.all isAsciiDigit = false ∨ ¬IsInstant year month day hour minute second) := by
  have hnone := not_denotes_of_foreign hc hfraction hforeign
  have hparse := parse_of_numbers hc hn
  rw [hfraction] at hparse
  unfold fractionMillis at hparse
  dsimp only at hparse
  constructor
  · rintro ⟨hpanic, haccept⟩
    cases hslice : sliceTo 3 (padFraction fraction) with
    | none =>
      rw [hslice] at hparse
      exact absurd hparse hpanic
    | some head =>
      refine ⟨head, rfl, ?_⟩
      by_contra hbad
      rw [not_or, Bool.not_eq_false, Classical.not_not] at hbad
      obtain ⟨millis, hmillis⟩ := exists_number hbad.1
      rw [hslice] at hparse
      unfold number at hparse
      dsimp only at hparse
      rw [hmillis] at hparse
      exact hnone _ ((haccept _).mp (hparse.trans (epochMillis_of_instant millis hbad.2)))
  · rintro ⟨head, hslice, hbad⟩
    rw [hslice] at hparse
    unfold number at hparse
    dsimp only at hparse
    cases hmillis : parseNumber head with
    | none =>
      rw [hmillis] at hparse
      exact parsesExactly_of_refused hparse hnone
    | some millis =>
      have hinstant : ¬IsInstant year month day hour minute second := by
        rcases hbad with hforeign' | hinstant
        · rw [parseNumber_eq_none.mpr hforeign'] at hmillis
          exact nomatch hmillis
        · exact hinstant
      obtain ⟨error, herror⟩ := epochMillis_of_not_instant millis hinstant
      rw [hmillis] at hparse
      exact parsesExactly_of_refused (hparse.trans herror) hnone

/-- The parser is exact on a text exactly when it refuses a foreign fraction there. -/
theorem parsesExactly_iff (digits : DigitClass) (value : String) :
    ParsesExactly digits value ↔ ForeignFractionRefused digits value := by
  cases hc : captures digits value.toList with
  | none =>
    have hparse : parse digits value = refuse "timestamp must be RFC3339 UTC ending in Z" := by
      unfold parse
      rw [hc]
    refine iff_of_true (parsesExactly_of_refused hparse ?_) ?_
    · rintro ms ⟨stamp, htext, -⟩
      have hgroups := @captures_of_stamp digits _ _ htext
      rw [hc] at hgroups
      exact nomatch hgroups
    · intro c fraction year month day hour minute second hsome
      rw [hc] at hsome
      exact nomatch hsome
  | some c =>
    cases hn : c.numbers with
    | none =>
      obtain ⟨error, hparse⟩ := parse_of_no_numbers hc hn
      refine iff_of_true (parsesExactly_of_refused hparse ?_) ?_
      · rintro ms ⟨stamp, htext, -⟩
        have hgroups := @captures_of_stamp digits _ _ htext
        rw [hc, Option.some_inj] at hgroups
        have hnumbers := stamp.numbers_groups
        rw [← hgroups, hn] at hnumbers
        exact nomatch hnumbers
      · rintro c' fraction year month day hour minute second hsome - hnumbers
        rw [hc, Option.some_inj] at hsome
        rw [← hsome, hn] at hnumbers
        exact nomatch hnumbers
    | some numbers =>
      obtain ⟨year, month, day, hour, minute, second⟩ := numbers
      have hvacuous : ∀ text, c.fraction = some text → text.all isAsciiDigit = true →
          ForeignFractionRefused digits value := by
        rintro text hfraction hascii c' text' _ _ _ _ _ _ hsome htext' - hforeign
        rw [hc, Option.some_inj] at hsome
        rw [← hsome, hfraction, Option.some_inj] at htext'
        rw [← htext', hascii] at hforeign
        exact nomatch hforeign
      cases hfraction : c.fraction with
      | none =>
        refine iff_of_true (@parsesExactly_of_ascii _ _ _ _ _ _ _ _ _ hc hn none hfraction nofun) ?_
        rintro c' text' _ _ _ _ _ _ hsome htext' - -
        rw [hc, Option.some_inj] at hsome
        rw [← hsome, hfraction] at htext'
        exact nomatch htext'
      | some text =>
        by_cases hascii : text.all isAsciiDigit = true
        · obtain ⟨n, hnumber⟩ := exists_number hascii
          obtain ⟨htext, hlt⟩ := eq_decimalChars hnumber
          refine iff_of_true (@parsesExactly_of_ascii _ _ _ _ _ _ _ _ _ hc hn (some (text.length, n)) ?_ ?_)
            (hvacuous text hfraction hascii)
          · rw [hfraction, Option.map_some, ← htext]
          · rintro _ _ ⟨⟩
            exact hlt
        · have hforeign := Bool.eq_false_iff.mpr hascii
          rw [parsesExactly_foreign hc hn hfraction hforeign]
          constructor
          · rintro hrefused c' text' _ _ _ _ _ _ hsome htext' hnumbers -
            rw [hc, Option.some_inj] at hsome
            rw [← hsome, hfraction, Option.some_inj] at htext'
            rw [← hsome, hn] at hnumbers
            simp only [Option.some.injEq, Prod.mk.injEq] at hnumbers
            obtain ⟨rfl, rfl, rfl, rfl, rfl, rfl⟩ := hnumbers
            rw [← htext']
            exact hrefused
          · intro hrefused
            exact hrefused c text year month day hour minute second hc hfraction hn hforeign

theorem parse_format {ms : ℕ} (h : (civilFromDays (ms / 1000 / 86400)).1 ≤ 9999) :
    parse digits (formatRfc3339UtcMillis ms) = .ok ms := by
  obtain ⟨year, month, day, hyear, hdate, hbytes, hseconds⟩ := format_spec (Nat.lt_succ_of_le h)
  have hfraction : ∀ width n, some (3, ms % 1000) = some (width, n) → 1 ≤ width ∧ width ≤ 9 ∧ n < 10 ^ width := by
    rintro width n ⟨⟩
    exact ⟨by decide, by decide, Nat.mod_lt ms (by decide)⟩
  obtain ⟨stamp, hstamp⟩ : ∃ stamp : Stamp, stamp = ⟨year, month, day, ms / 1000 % 86400 / 3600,
      ms / 1000 % 86400 % 3600 / 60, ms / 1000 % 86400 % 60, some (3, ms % 1000), hyear, hdate, by omega, by omega,
      by omega, hfraction⟩ := ⟨_, rfl⟩
  have htext : bytes (formatRfc3339UtcMillis ms) = stamp.text := by
    rw [hstamp]
    exact hbytes
  have hexact := @parsesExactly_of_ascii digits _ _ _ _ _ _ _ _ (captures_of_stamp htext) stamp.numbers_groups
    stamp.fraction rfl fun width n hf => (stamp.fraction_lt width n hf).2.2
  refine (hexact.2 ms).mpr ⟨stamp, htext, ?_, ?_⟩
  · rw [hstamp]
    show epochSeconds year month day _ _ _ * 1000 + ((ms % 1000 * 1000 / 10 ^ 3 : ℕ) : ℤ) = (ms : ℤ)
    rw [hseconds]
    omega
  · rw [hstamp]
    show 0 ≤ epochSeconds year month day _ _ _
    rw [hseconds]
    omega

end Matches

/-- On the days from 1970 on, the two models of `civil_from_days` agree. -/
theorem civilFromDaysInt_nat (days : ℕ) : ∃ year month day, civilFromDays days = (year, month, day) ∧
    civilFromDaysInt days = ((year : ℤ), month, day) := by
  obtain ⟨year, month, day, hcivil, hdate, hnumber⟩ := civilFromDays_spec days
  obtain ⟨year', month', day', hcivil', hdate', hnumber'⟩ := civilFromDaysInt_spec days
  have hcast : IsCivilDate ((year : ℤ) + 0 * 400) month day := isCivilDate_add.mpr hdate
  have hvalue := civilNumber_add year 0 month day
  rw [Int.zero_mul, Int.add_zero] at hcast
  rw [Int.zero_mul, Int.add_zero, Int.zero_mul, Int.add_zero] at hvalue
  refine ⟨year, month, day, hcivil, hcivil'.trans ?_⟩
  exact civilNumber_inj hdate' hcast (by omega)

/-- What is written is read back, up to the year 9999; the day functions are inverse on all dates; and a text is
parsed exactly, if and only if a foreign fraction in it is refused. -/
theorem rfc3339_codec_exact (digits : DigitClass) :
    (∀ ms, (civilFromDays (ms / 1000 / 86400)).1 ≤ 9999 → parse digits (formatRfc3339UtcMillis ms) = .ok ms) ∧
    (∀ year month day, IsCivilDate year month day →
      civilFromDaysInt (daysFromCivil year month day) = (year, month, day)) ∧
    (∀ days, ∃ year month day, civilFromDaysInt days = (year, month, day) ∧ IsCivilDate year month day ∧
      daysFromCivil year month day = days) ∧
    ∀ value, ParsesExactly digits value ↔ ForeignFractionRefused digits value :=
  ⟨fun _ => parse_format, fun _ _ _ => civilFromDaysInt_daysFromCivil, daysFromCivil_civilFromDaysInt,
    parsesExactly_iff digits⟩

/-- The ASCII digits and the fullwidth ones. -/
def fullwidthDigits : DigitClass where
  isDigit c := 48 ≤ c.toNat && c.toNat ≤ 57 || 0xff10 ≤ c.toNat && c.toNat ≤ 0xff19
  ascii c h := by
    simp only [Bool.or_eq_true, Bool.and_eq_true, decide_eq_true_eq]
    omega

/-- A fullwidth digit at the third place of the fraction is cut in two. -/
theorem rfc3339_parse_panics : ¬ParsesExactly fullwidthDigits "2026-09-21T14:13:20.12\uff12Z" := by
  have hpanic : parse fullwidthDigits "2026-09-21T14:13:20.12\uff12Z" = .panicked := by decide +kernel
  exact fun hexact => hexact.1 hpanic

end Iweb.Rfc3339
