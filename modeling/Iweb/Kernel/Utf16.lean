import Iweb.Kernel.TextBytes

/-!
# Texts of UTF-16 units

A text of the contracts is any list of UTF-16 units. Its UTF-8 bytes are those of its characters, where a surrogate
without its partner stands for the replacement character; for a text that comes from Unicode characters they are the
bytes of these.
-/

namespace Iweb

abbrev JsString : Type := List UInt16

namespace JsString

def isHighSurrogate (u : UInt16) : Bool := 0xd800 ≤ u.toNat && u.toNat < 0xdc00
def isLowSurrogate (u : UInt16) : Bool := 0xdc00 ≤ u.toNat && u.toNat < 0xe000

/-- The character of a unit on its own. -/
def ofUnit (u : UInt16) : Char :=
  if isHighSurrogate u || isLowSurrogate u then '\ufffd' else Char.ofNat u.toNat

def ofSurrogates (high low : UInt16) : Char :=
  Char.ofNat (0x10000 + (high.toNat - 0xd800) * 0x400 + (low.toNat - 0xdc00))

/-- The characters of a text. -/
def characters : JsString → List Char
  | [] => []
  | [u] => [ofUnit u]
  | u :: v :: rest =>
    if isHighSurrogate u && isLowSurrogate v then ofSurrogates u v :: characters rest
    else ofUnit u :: characters (v :: rest)

/-- The bytes that a text is hashed by. -/
def utf8 (text : JsString) : List UInt8 := text.characters.flatMap String.utf8EncodeChar

def unitsOfChar (c : Char) : JsString :=
  if c.toNat < 0x10000 then [UInt16.ofNat c.toNat]
  else [UInt16.ofNat (0xd800 + (c.toNat - 0x10000) / 0x400), UInt16.ofNat (0xdc00 + (c.toNat - 0x10000) % 0x400)]

def ofString (s : String) : JsString := s.toList.flatMap unitsOfChar

theorem valid_toNat (c : Char) : c.toNat < 0xd800 ∨ 0xdfff < c.toNat ∧ c.toNat < 0x110000 := c.valid

theorem characters_unit {u : UInt16} (h : isHighSurrogate u = false) (rest : JsString) :
    characters (u :: rest) = ofUnit u :: characters rest := by
  cases rest with
  | nil => rfl
  | cons v rest => rw [characters, h, Bool.false_and, if_neg Bool.false_ne_true]

theorem characters_unitsOfChar (c : Char) (rest : JsString) :
    characters (unitsOfChar c ++ rest) = c :: characters rest := by
  have hvalid := valid_toNat c
  unfold unitsOfChar
  split
  · rename_i hlow
    have hunit : (UInt16.ofNat c.toNat).toNat = c.toNat := by
      rw [UInt16.toNat_ofNat']
      omega
    have hhigh : isHighSurrogate (UInt16.ofNat c.toNat) = false := by
      unfold isHighSurrogate
      rw [hunit, Bool.and_eq_false_iff, decide_eq_false_iff_not, decide_eq_false_iff_not]
      omega
    have hlow : isLowSurrogate (UInt16.ofNat c.toNat) = false := by
      unfold isLowSurrogate
      rw [hunit, Bool.and_eq_false_iff, decide_eq_false_iff_not, decide_eq_false_iff_not]
      omega
    rw [List.singleton_append, characters_unit hhigh]
    unfold ofUnit
    rw [hhigh, hlow, Bool.or_false, if_neg Bool.false_ne_true, hunit, Char.ofNat_toNat]
  · rename_i hpair
    have hhighNat : (UInt16.ofNat (0xd800 + (c.toNat - 0x10000) / 0x400)).toNat =
        0xd800 + (c.toNat - 0x10000) / 0x400 := by
      rw [UInt16.toNat_ofNat']
      omega
    have hlowNat : (UInt16.ofNat (0xdc00 + (c.toNat - 0x10000) % 0x400)).toNat =
        0xdc00 + (c.toNat - 0x10000) % 0x400 := by
      rw [UInt16.toNat_ofNat']
      omega
    have hsurrogates : (isHighSurrogate (UInt16.ofNat (0xd800 + (c.toNat - 0x10000) / 0x400)) &&
        isLowSurrogate (UInt16.ofNat (0xdc00 + (c.toNat - 0x10000) % 0x400))) = true := by
      unfold isHighSurrogate isLowSurrogate
      rw [hhighNat, hlowNat]
      simp only [Bool.and_eq_true, decide_eq_true_iff]
      omega
    rw [List.cons_append, List.singleton_append, characters, if_pos hsurrogates]
    unfold ofSurrogates
    rw [hhighNat, hlowNat, show 0x10000 + (0xd800 + (c.toNat - 0x10000) / 0x400 - 0xd800) * 0x400 +
      (0xdc00 + (c.toNat - 0x10000) % 0x400 - 0xdc00) = c.toNat by omega, Char.ofNat_toNat]

theorem characters_ofString (s : String) : characters (ofString s) = s.toList := by
  unfold ofString
  induction s.toList with
  | nil => rfl
  | cons c rest ih => rw [List.flatMap_cons, characters_unitsOfChar, ih]

/-- A Unicode text has the same bytes on both sides. -/
theorem utf8_ofString (s : String) : utf8 (ofString s) = bytes s := by
  unfold utf8
  rw [characters_ofString, bytes_eq_flatMap]

/-- A unit that is no surrogate is a character by itself. -/
theorem unitsOfChar_ofUnit {u : UInt16} (hhigh : isHighSurrogate u = false) (hlow : isLowSurrogate u = false) :
    unitsOfChar (ofUnit u) = [u] := by
  have hbound := u.toNat_lt
  have hunit : ofUnit u = Char.ofNat u.toNat := by
    unfold ofUnit
    rw [hhigh, hlow, Bool.or_false, if_neg Bool.false_ne_true]
  unfold isHighSurrogate at hhigh
  unfold isLowSurrogate at hlow
  rw [Bool.and_eq_false_iff, decide_eq_false_iff_not, decide_eq_false_iff_not] at hhigh hlow
  have hvalid : u.toNat.isValidChar := by
    rcases Nat.lt_or_ge u.toNat 0xd800 with h | h
    · exact .inl h
    · exact .inr ⟨by omega, by omega⟩
  have hval : (Char.ofNat u.toNat).toNat = u.toNat := by
    rw [Char.ofNat, dif_pos hvalid]
    rfl
  unfold unitsOfChar
  rw [hunit, hval, if_pos hbound, UInt16.ofNat_toNat]

/-- Two surrogates that fit are one character. -/
theorem unitsOfChar_ofSurrogates {u v : UInt16} (hhigh : isHighSurrogate u = true) (hlow : isLowSurrogate v = true) :
    unitsOfChar (ofSurrogates u v) = [u, v] := by
  unfold isHighSurrogate at hhigh
  unfold isLowSurrogate at hlow
  rw [Bool.and_eq_true, decide_eq_true_iff, decide_eq_true_iff] at hhigh hlow
  have hvalid : (0x10000 + (u.toNat - 0xd800) * 0x400 + (v.toNat - 0xdc00)).isValidChar := .inr ⟨by omega, by omega⟩
  have hval : (ofSurrogates u v).toNat = 0x10000 + (u.toNat - 0xd800) * 0x400 + (v.toNat - 0xdc00) := by
    unfold ofSurrogates
    rw [Char.ofNat, dif_pos hvalid]
    rfl
  have hu : 0xd800 + ((ofSurrogates u v).toNat - 0x10000) / 0x400 = u.toNat := by omega
  have hv : 0xdc00 + ((ofSurrogates u v).toNat - 0x10000) % 0x400 = v.toNat := by omega
  unfold unitsOfChar
  rw [if_neg (by omega), hu, hv, UInt16.ofNat_toNat, UInt16.ofNat_toNat]

/-! ## ASCII texts -/

theorem characters_ascii {text : JsString} (h : ∀ u ∈ text, u.toNat < 0x80) :
    characters text = text.map fun u => Char.ofNat u.toNat := by
  induction text with
  | nil => rfl
  | cons u text ih =>
    have hu := h u List.mem_cons_self
    have hhigh : isHighSurrogate u = false := by
      unfold isHighSurrogate
      rw [Bool.and_eq_false_iff, decide_eq_false_iff_not]
      omega
    have hlow : isLowSurrogate u = false := by
      unfold isLowSurrogate
      rw [Bool.and_eq_false_iff, decide_eq_false_iff_not]
      omega
    rw [characters_unit hhigh, ih fun v hv => h v (List.mem_cons_of_mem _ hv), List.map_cons]
    unfold ofUnit
    rw [hhigh, hlow, Bool.or_false, if_neg Bool.false_ne_true]

/-- An ASCII text has one byte for each unit. -/
theorem utf8_ascii {text : JsString} (h : ∀ u ∈ text, u.toNat < 0x80) :
    utf8 text = text.map fun u => UInt8.ofNat u.toNat := by
  have hchar : ∀ u ∈ text, String.utf8EncodeChar (Char.ofNat u.toNat) = [UInt8.ofNat u.toNat] := by
    intro u hu
    have hvalid : u.toNat.isValidChar := .inl (Nat.lt_trans (h u hu) (by decide))
    have hval : (Char.ofNat u.toNat).val.toNat = u.toNat := by
      rw [Char.ofNat, dif_pos hvalid]
      rfl
    unfold String.utf8EncodeChar
    rw [hval]
    exact if_pos (Nat.le_of_lt_succ (h u hu))
  unfold utf8
  rw [characters_ascii h, List.flatMap_map]
  exact (List.flatMap_congr hchar).trans (List.flatMap_pure_eq_map _ text)

theorem utf8_inj_ascii {text text' : JsString} (h : ∀ u ∈ text, u.toNat < 0x80) (h' : ∀ u ∈ text', u.toNat < 0x80) :
    utf8 text = utf8 text' ↔ text = text' := by
  refine ⟨fun heq => ?_, congrArg _⟩
  rw [utf8_ascii h, utf8_ascii h'] at heq
  have hback : ∀ l : JsString, (∀ u ∈ l, u.toNat < 0x80) →
      ((l.map fun u => UInt8.ofNat u.toNat).map fun b => UInt16.ofNat b.toNat) = l := by
    intro l hl
    rw [List.map_map]
    refine (List.map_congr_left fun u hu => ?_).trans (List.map_id l)
    have hu' := hl u hu
    rw [Function.comp_apply, UInt8.toNat_ofNat', Nat.mod_eq_of_lt (by omega), UInt16.ofNat_toNat]
    rfl
  rw [← hback text h, heq, hback text' h']

end JsString

end Iweb
