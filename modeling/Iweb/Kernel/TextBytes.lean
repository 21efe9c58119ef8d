import Iweb.Foundations.StableSort
import Iweb.Kernel.Wire

/-!
# The bytes of a text

Digests are taken over texts that a NUL byte ends, in the order of the UTF-8 bytes of one of them.
-/

namespace Iweb

/-! ## NUL -/

theorem bytes_eq_flatMap (s : String) : bytes s = s.toList.flatMap String.utf8EncodeChar := by
  obtain ⟨text, rfl⟩ : ∃ text, s = String.ofList text := ⟨s.toList, String.ofList_toList.symm⟩
  unfold bytes
  rw [String.toByteArray_ofList, List.utf8Encode, String.toList_ofList]
  simp

theorem zero_mem_utf8EncodeChar {c : Char} : (0 : UInt8) ∈ String.utf8EncodeChar c ↔ c.toNat = 0 := by
  have hbyte : ∀ n : ℕ, (0 : UInt8) = UInt8.ofNat n ↔ n % 256 = 0 := by
    intro n
    rw [← UInt8.toNat_inj, UInt8.toNat_ofNat', UInt8.toNat_zero]
    exact eq_comm
  have hlt : c.val.toNat < 0x110000 := c.valid.elim (fun h => by omega) fun h => h.2
  show _ ↔ c.val.toNat = 0
  unfold String.utf8EncodeChar
  dsimp only
  generalize c.val.toNat = v at hlt ⊢
  split_ifs with h₁ h₂ h₃ <;> simp only [List.mem_cons, List.not_mem_nil, or_false, hbyte] <;> omega

/-- A text has a NUL byte when it has a NUL character. -/
theorem zero_mem_bytes {s : String} : (0 : UInt8) ∈ bytes s ↔ ∃ c ∈ s.toList, c.toNat = 0 := by
  rw [bytes_eq_flatMap, List.mem_flatMap]
  exact exists_congr fun c => and_congr_right fun _ => zero_mem_utf8EncodeChar

/-- A number can be read off its decimal text. -/
theorem repr_inj {m n : ℕ} : m.repr = n.repr ↔ m = n := by
  refine ⟨fun h => ?_, congrArg _⟩
  have hdigits := congrArg (fun text : String => Nat.ofDigitChars 10 text.toList 0) h
  rwa [Nat.toList_repr, Nat.toList_repr, Nat.ofDigitChars_toDigits (by decide) (by decide),
    Nat.ofDigitChars_toDigits (by decide) (by decide)] at hdigits

theorem zero_notMem_bytes_repr (n : ℕ) : (0 : UInt8) ∉ bytes n.repr := by
  rw [zero_mem_bytes, Nat.toList_repr]
  rintro ⟨c, hc, hzero⟩
  have hdigit := Nat.isDigit_of_mem_toDigits (by decide) (by decide) hc
  rw [Char.isDigit, Bool.and_eq_true, decide_eq_true_iff] at hdigit
  have hlow : 48 ≤ c.toNat := hdigit.1
  omega

/-! ## The order of the bytes -/

variable {α : Type} {key : α → List UInt8}

/-- The order of the bytes of a key. -/
def BytesLe (key : α → List UInt8) (a b : α) : Prop := key a ≤ key b

instance : DecidableRel (BytesLe key) := fun a b => inferInstanceAs (Decidable (key a ≤ key b))

instance : Std.Total (BytesLe key) := ⟨fun _ _ => List.le_total _ _⟩

instance : IsTrans α (BytesLe key) := ⟨fun _ _ _ => List.le_trans⟩

theorem BytesLe.antisymm {a b : α} (h : BytesLe key a b) (h' : BytesLe key b a) : key a = key b := List.le_antisymm h h'

end Iweb
