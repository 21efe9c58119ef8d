import Iweb.Foundations.Lexicographic
import Iweb.Kernel.Wire

/-!
# ASCII texts and their bytes

The order of texts is the order of their code points; on ASCII texts it is the order of their bytes, and the
bytes of a text are its characters.
-/

namespace Iweb

/-- Every byte of the text is ASCII. -/
def IsAscii (s : String) : Prop := ∀ b ∈ bytes s, b.toNat ≤ 0x7f

/-- The bytes of a list of ASCII characters. -/
theorem bytes_ofList_ascii {text : List Char} (h : ∀ c ∈ text, c.toNat ≤ 0x7f) :
    bytes (String.ofList text) = text.map ascii := by
  have hencode : text.flatMap String.utf8EncodeChar = text.map ascii := by
    induction text with
    | nil => rfl
    | cons c rest ih =>
      have hc : String.utf8EncodeChar c = [ascii c] := if_pos (h c (.head _))
      rw [List.flatMap_cons, ih fun d hd => h d (.tail _ hd), hc]
      rfl
  unfold bytes
  rw [String.toByteArray_ofList, List.utf8Encode, hencode]
  simp

theorem toNat_ofUInt8 (b : UInt8) : (Char.ofUInt8 b).toNat = b.toNat := rfl

theorem ascii_ofUInt8 (b : UInt8) : ascii (Char.ofUInt8 b) = b := by
  unfold ascii
  rw [toNat_ofUInt8, UInt8.ofNat_toNat]

theorem ofUInt8_injective : Function.Injective Char.ofUInt8 := by
  intro a b hab
  rw [← ascii_ofUInt8 a, hab, ascii_ofUInt8]

/-- An ASCII text has one character for each byte. -/
theorem IsAscii.toList {s : String} (h : IsAscii s) : s.toList = (bytes s).map Char.ofUInt8 := by
  have hbytes : bytes (String.ofList ((bytes s).map Char.ofUInt8)) = bytes s := by
    rw [bytes_ofList_ascii, List.map_map]
    · have hid : ∀ b ∈ bytes s, (ascii ∘ Char.ofUInt8) b = id b := fun b _ => ascii_ofUInt8 b
      rw [List.map_congr_left hid, List.map_id]
    · intro c hc
      obtain ⟨b, hb, rfl⟩ := List.mem_map.mp hc
      exact h b hb
  rw [← bytes_injective hbytes, String.toList_ofList, hbytes]

theorem IsAscii.append {s t : String} (hs : IsAscii s) (ht : IsAscii t) : IsAscii (s ++ t) := by
  intro b hb
  rw [bytes_append] at hb
  exact (List.mem_append.mp hb).elim (hs b) (ht b)

theorem IsAscii.lt_iff {s t : String} (hs : IsAscii s) (ht : IsAscii t) : s < t ↔ bytes s < bytes t := by
  have hlt : ∀ a b : UInt8, Char.ofUInt8 a < Char.ofUInt8 b ↔ a < b := fun _ _ => UInt8.lt_iff_toNat_lt.symm
  rw [String.lt_iff, hs.toList, ht.toList, Lexicographic.map_lt_map_iff hlt ofUInt8_injective]

/-- The texts from `s` on and below `s` followed by a byte above those of `t` are the texts that start with
`s`. -/
theorem IsAscii.prefix_iff_between {s t above : String} {top : UInt8} (hs : IsAscii s) (ht : IsAscii t)
    (htop : ∀ b ∈ bytes t, b < top) (habove : IsAscii above) (hbytes : bytes above = bytes s ++ [top]) :
    bytes s <+: bytes t ↔ s ≤ t ∧ t < above := by
  rw [Lexicographic.prefix_iff_between htop, ← hbytes, ← ht.lt_iff hs, ← ht.lt_iff habove, String.not_lt]

end Iweb
