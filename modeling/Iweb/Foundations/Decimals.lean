import Mathlib.Algebra.GroupWithZero.Nat
import Mathlib.Data.List.Basic

/-!
# Decimal numbers of a fixed width

Numbers are written with leading zeros, so that texts of one width are in the order of their numbers.
-/

namespace Iweb.Decimals

/-- The byte of a digit. -/
def digitByte (digit : ℕ) : UInt8 := UInt8.ofNat (48 + digit)

/-- The last digits of a number, as many as the width. -/
def decimal : ℕ → ℕ → List UInt8
  | 0, _ => []
  | width + 1, n => decimal width (n / 10) ++ [digitByte (n % 10)]

@[simp] theorem length_decimal (width n : ℕ) : (decimal width n).length = width := by
  induction width generalizing n with
  | zero => rfl
  | succ width ih =>
    rw [decimal, List.length_append, ih]
    rfl

theorem toNat_digitByte {digit : ℕ} (h : digit < 10) : (digitByte digit).toNat = 48 + digit := by
  unfold digitByte
  rw [UInt8.toNat_ofNat']
  omega

theorem digitByte_lt_iff {digit digit' : ℕ} (h : digit < 10) (h' : digit' < 10) :
    digitByte digit < digitByte digit' ↔ digit < digit' := by
  rw [UInt8.lt_iff_toNat_lt, toNat_digitByte h, toNat_digitByte h']
  omega

theorem digitByte_inj {digit digit' : ℕ} (h : digit < 10) (h' : digit' < 10) :
    digitByte digit = digitByte digit' ↔ digit = digit' := by
  rw [← UInt8.toNat_inj, toNat_digitByte h, toNat_digitByte h']
  omega

/-- Texts that start with numbers of one width are ordered by the numbers first. -/
theorem decimal_append_lt_iff {width n n' : ℕ} (h : n < 10 ^ width) (h' : n' < 10 ^ width) {rest rest' : List UInt8} :
    decimal width n ++ rest < decimal width n' ++ rest' ↔ n < n' ∨ n = n' ∧ rest < rest' := by
  induction width generalizing n n' rest rest' with
  | zero =>
    obtain rfl : n = 0 := by omega
    obtain rfl : n' = 0 := by omega
    simp [decimal]
  | succ width ih =>
    rw [Nat.pow_succ] at h h'
    rw [decimal, decimal, List.append_assoc, List.append_assoc, ih (by omega) (by omega), List.singleton_append,
      List.singleton_append, List.cons_lt_cons_iff, digitByte_lt_iff (by omega) (by omega),
      digitByte_inj (by omega) (by omega)]
    constructor
    · rintro (hlt | ⟨heq, hlt | ⟨heq', hrest⟩⟩)
      · exact .inl (by omega)
      · exact .inl (by omega)
      · exact .inr ⟨by omega, hrest⟩
    · rintro (hlt | ⟨rfl, hrest⟩)
      · by_cases heq : n / 10 = n' / 10
        · exact .inr ⟨heq, .inl (by omega)⟩
        · exact .inl (by omega)
      · exact .inr ⟨rfl, .inr ⟨rfl, hrest⟩⟩

theorem decimal_succ {width n digit : ℕ} (h : digit < 10) :
    decimal (width + 1) (10 * n + digit) = decimal width n ++ [digitByte digit] := by
  rw [decimal, show (10 * n + digit) / 10 = n by omega, show (10 * n + digit) % 10 = digit by omega]

theorem decimal_two {a b : ℕ} (ha : a < 10) (hb : b < 10) :
    decimal 2 (10 * a + b) = [digitByte a, digitByte b] := by
  rw [decimal_succ hb, show a = 10 * 0 + a by omega, decimal_succ ha]
  simp [decimal]

theorem decimal_three {a b c : ℕ} (ha : a < 10) (hb : b < 10) (hc : c < 10) :
    decimal 3 (10 * (10 * a + b) + c) = [digitByte a, digitByte b, digitByte c] := by
  rw [decimal_succ hc, decimal_two ha hb]
  rfl

theorem decimal_four {a b c d : ℕ} (ha : a < 10) (hb : b < 10) (hc : c < 10) (hd : d < 10) :
    decimal 4 (10 * (10 * (10 * a + b) + c) + d) = [digitByte a, digitByte b, digitByte c, digitByte d] := by
  rw [decimal_succ hd, decimal_three ha hb hc]
  rfl

/-- A number within a width, by its digits. -/
theorem exists_digits_two {n : ℕ} (h : n < 100) : ∃ a b, a < 10 ∧ b < 10 ∧ n = 10 * a + b :=
  ⟨n / 10, n % 10, by omega, by omega, by omega⟩

theorem exists_digits_three {n : ℕ} (h : n < 1000) :
    ∃ a b c, a < 10 ∧ b < 10 ∧ c < 10 ∧ n = 10 * (10 * a + b) + c :=
  ⟨n / 100, n / 10 % 10, n % 10, by omega, by omega, by omega, by omega⟩

theorem exists_digits_four {n : ℕ} (h : n < 10000) :
    ∃ a b c d, a < 10 ∧ b < 10 ∧ c < 10 ∧ d < 10 ∧ n = 10 * (10 * (10 * a + b) + c) + d :=
  ⟨n / 1000, n / 100 % 10, n / 10 % 10, n % 10, by omega, by omega, by omega, by omega, by omega⟩

end Iweb.Decimals
