import Iweb.Contracts.Proofs.StrictJsonProofs
import Iweb.Foundations.StableSort

/-!
# Canonical texts read back

A canonical text says the value it was written from, with the members of its objects in order. So a value is known from
its canonical text up to that order, and a canonical text belongs to the values of one order only.
-/

namespace Iweb.StrictJson

variable {ν : Type} {N : JsNumbers ν}

/-! ## The order of names -/

theorem compareJcsKeys_le_iff {l r : JsString} : compareJcsKeys l r ≤ 0 ↔ l ≤ r := by
  induction l generalizing r with
  | nil =>
    unfold compareJcsKeys
    simp
  | cons u l ih =>
    cases r with
    | nil =>
      unfold compareJcsKeys
      simp
    | cons v r =>
      have hsame : u = v ↔ u.toNat = v.toNat := UInt16.toNat_inj.symm
      rw [compareJcsKeys, List.cons_le_cons_iff, UInt16.lt_iff_toNat_lt, hsame]
      by_cases hdelta : (u.toNat : Int) - v.toNat ≠ 0
      · rw [if_pos hdelta]
        constructor
        · intro h
          exact .inl (by omega)
        · rintro (h | h)
          · omega
          · exact absurd h.1 (by omega)
      · rw [if_neg hdelta, ih]
        constructor
        · intro h
          exact .inr ⟨by omega, h⟩
        · rintro (h | h)
          · omega
          · exact h.2

instance {γ : Type} : Std.Total (@KeyLe γ) where
  total a b := by
    unfold KeyLe
    rw [compareJcsKeys_le_iff, compareJcsKeys_le_iff]
    exact List.le_total a.1 b.1

instance {γ : Type} : IsTrans (JsString × γ) KeyLe where
  trans a b c := by
    unfold KeyLe
    rw [compareJcsKeys_le_iff, compareJcsKeys_le_iff, compareJcsKeys_le_iff]
    exact List.le_trans

/-! ## The parts of a value -/

theorem serializeJcsItems_eq_map (items : List (JsValue ν)) :
    serializeJcsItems N items = items.map (serializeJcsValue N) := by
  induction items with
  | nil => rfl
  | cons item items ih => rw [serializeJcsItems, ih, List.map_cons]

theorem serializeJcsMembers_eq_map (members : List (JsString × JsValue ν)) :
    serializeJcsMembers N members = members.map fun m => (m.1, serializeJcsValue N m.2) := by
  induction members with
  | nil => rfl
  | cons member members ih => rw [serializeJcsMembers, ih, List.map_cons]

theorem sortedItems_eq_map (items : List (JsValue ν)) : sortedItems items = items.map JsValue.sorted := by
  induction items with
  | nil => rfl
  | cons item items ih => rw [sortedItems, ih, List.map_cons]

theorem sortedMembers_eq_map (members : List (JsString × JsValue ν)) :
    sortedMembers members = members.map fun m => (m.1, m.2.sorted) := by
  induction members with
  | nil => rfl
  | cons member members ih => rw [sortedMembers, ih, List.map_cons]

theorem distinctItems_iff {items : List (JsValue ν)} : DistinctItems items ↔ ∀ item ∈ items, item.Distinct := by
  induction items with
  | nil => simp [DistinctItems]
  | cons item items ih => rw [DistinctItems, ih, List.forall_mem_cons]

theorem distinctMembers_iff {members : List (JsString × JsValue ν)} :
    DistinctMembers members ↔ ∀ m ∈ members, m.2.Distinct := by
  induction members with
  | nil => simp [DistinctMembers]
  | cons member members ih => rw [DistinctMembers, ih, List.forall_mem_cons]

/-- A function of the values of the members commutes with sorting by their names. -/
theorem sortMembers_map {γ δ : Type} (f : γ → δ) (members : List (JsString × γ)) :
    sortMembers (members.map fun m => (m.1, f m.2)) = (sortMembers members).map fun m => (m.1, f m.2) :=
  (List.map_insertionSort KeyLe KeyLe (fun m : JsString × γ => (m.1, f m.2)) members fun _ _ _ _ => Iff.rfl).symm

theorem sortMembers_perm {γ : Type} (members : List (JsString × γ)) : (sortMembers members).Perm members :=
  List.perm_insertionSort KeyLe members

theorem sortMembers_sortMembers {γ : Type} (members : List (JsString × γ)) :
    sortMembers (sortMembers members) = sortMembers members :=
  (List.pairwise_insertionSort KeyLe members).insertionSort_eq

/-- Induction on values. -/
theorem JsValue.induct {P : JsValue ν → Prop} (null : P .null) (bool : ∀ value, P (.bool value))
    (number : ∀ value, P (.number value)) (string : ∀ value, P (.string value))
    (array : ∀ items, (∀ item ∈ items, P item) → P (.array items))
    (object : ∀ members, (∀ m ∈ members, P m.2) → P (.object members)) (value : JsValue ν) : P value :=
  @JsValue.rec ν P (fun items => ∀ item ∈ items, P item) (fun members => ∀ m ∈ members, P m.2) (fun m => P m.2)
    null bool number string array object (fun _ h => absurd h List.not_mem_nil)
    (fun _ _ hitem hitems => List.forall_mem_cons.mpr ⟨hitem, hitems⟩) (fun _ h => absurd h List.not_mem_nil)
    (fun _ _ hmember hmembers => List.forall_mem_cons.mpr ⟨hmember, hmembers⟩) (fun _ _ h => h) value

/-! ## Strings -/

theorem hexDigit_hexUnit {digit : Nat} (h : digit < 16) : hexDigit (hexUnit digit) = some digit := by
  unfold hexUnit
  by_cases hdecimal : digit < 10
  · have hunit : (UInt16.ofNat (0x30 + digit)).toNat = 0x30 + digit := by
      rw [UInt16.toNat_ofNat']
      omega
    unfold hexDigit
    rw [if_pos hdecimal, hunit, if_pos (by omega)]
    congr
    omega
  · have hunit : (UInt16.ofNat (0x57 + digit)).toNat = 0x57 + digit := by
      rw [UInt16.toNat_ofNat']
      omega
    unfold hexDigit
    rw [if_neg hdecimal, hunit, if_neg (by omega), if_pos (by omega)]
    congr
    omega

theorem plain_of_surrogate {unit : UInt16} (h : isSurrogate unit = true) : IsPiece [unit] [unit] := by
  unfold isSurrogate JsString.isHighSurrogate JsString.isLowSurrogate at h
  simp only [Bool.or_eq_true, Bool.and_eq_true, decide_eq_true_eq] at h
  refine .plain (by omega) ?_ ?_
  · rintro rfl
    revert h
    decide
  · rintro rfl
    revert h
    decide

/-- What a unit is written as stands for the unit. -/
theorem isPiece_serializeJcsUnit (unit : UInt16) : IsPiece (serializeJcsUnit unit) [unit] := by
  unfold serializeJcsUnit
  split_ifs with h1 h2 h3 h4 h5 h6 h7 hcontrol
  · exact .short (by rw [h1]; rfl)
  · exact .short (by rw [h2]; rfl)
  · exact .short (by rw [h3]; rfl)
  · exact .short (by rw [h4]; rfl)
  · exact .short (by rw [h5]; rfl)
  · exact .short (by rw [h6]; rfl)
  · exact .short (by rw [h7]; rfl)
  · have hdigits := IsHex4.digits (a := 0x30) (b := 0x30) (p := 0) (q := 0) rfl rfl
      (hexDigit_hexUnit (show unit.toNat / 16 < 16 by omega)) (hexDigit_hexUnit (show unit.toNat % 16 < 16 by omega))
    rw [show ((0 * 16 + 0) * 16 + unit.toNat / 16) * 16 + unit.toNat % 16 = unit.toNat by omega] at hdigits
    have hpiece := IsPiece.unit hdigits (by omega)
    rw [UInt16.ofNat_toNat] at hpiece
    exact hpiece
  · exact .plain (by omega) h1 h2

/-! ## Texts of characters -/

/-- A text of whole characters. -/
def WellFormed (text : JsString) : Prop := ∃ chars : List Char, text = chars.flatMap JsString.unitsOfChar

theorem WellFormed.nil : WellFormed [] := ⟨[], rfl⟩

theorem WellFormed.append {text text' : JsString} (h : WellFormed text) (h' : WellFormed text') :
    WellFormed (text ++ text') := by
  obtain ⟨chars, rfl⟩ := h
  obtain ⟨chars', rfl⟩ := h'
  exact ⟨chars ++ chars', List.flatMap_append.symm⟩

theorem WellFormed.unit {unit : UInt16} (h : isSurrogate unit = false) : WellFormed [unit] := by
  obtain ⟨hhigh, hlow⟩ := Bool.or_eq_false_iff.mp h
  refine ⟨[JsString.ofUnit unit], ?_⟩
  rw [List.flatMap_singleton, JsString.unitsOfChar_ofUnit hhigh hlow]

theorem WellFormed.pair {high low : UInt16} (hhigh : JsString.isHighSurrogate high = true)
    (hlow : JsString.isLowSurrogate low = true) : WellFormed [high, low] := by
  refine ⟨[JsString.ofSurrogates high low], ?_⟩
  rw [List.flatMap_singleton, JsString.unitsOfChar_ofSurrogates hhigh hlow]

theorem isSurrogate_ascii {unit : UInt16} (h : unit.toNat < 0x80) : isSurrogate unit = false := by
  unfold isSurrogate JsString.isHighSurrogate JsString.isLowSurrogate
  simp only [Bool.or_eq_false_iff, Bool.and_eq_false_iff, decide_eq_false_iff_not]
  omega

theorem WellFormed.ascii {text : JsString} (h : ∀ u ∈ text, u.toNat < 0x80) : WellFormed text := by
  induction text with
  | nil => exact .nil
  | cons u text ih =>
    obtain ⟨hu, hrest⟩ := List.forall_mem_cons.mp h
    exact (WellFormed.unit (isSurrogate_ascii hu)).append (ih hrest)

theorem WellFormed.of_all {text : JsString} (h : text.all (fun u => decide (u.toNat < 0x80)) = true) : WellFormed text :=
  .ascii fun u hu => of_decide_eq_true (List.all_eq_true.mp h u hu)

theorem WellFormed.cons {unit : UInt16} {text : JsString} (hunit : unit.toNat < 0x80) (h : WellFormed text) :
    WellFormed (unit :: text) := (WellFormed.unit (isSurrogate_ascii hunit)).append h

theorem wellFormed_serializeJcsUnit {unit : UInt16} (h : isSurrogate unit = false) :
    WellFormed (serializeJcsUnit unit) := by
  have hhex : ∀ digit, digit < 16 → (hexUnit digit).toNat < 0x80 := by
    intro digit hdigit
    unfold hexUnit
    split_ifs
    · rw [UInt16.toNat_ofNat']
      omega
    · rw [UInt16.toNat_ofNat']
      omega
  unfold serializeJcsUnit
  split_ifs with h1 h2 h3 h4 h5 h6 h7 hcontrol
  · exact .of_all rfl
  · exact .of_all rfl
  · exact .of_all rfl
  · exact .of_all rfl
  · exact .of_all rfl
  · exact .of_all rfl
  · exact .of_all rfl
  · exact .cons (by decide) (.cons (by decide) (.cons (by decide) (.cons (by decide)
      (.cons (hhex _ (by omega)) (.cons (hhex _ (by omega)) .nil)))))
  · exact .unit h

/-- The inside of a written string stands for its units, and has whole characters only. -/
theorem serializeJcsUnits_spec {value out : JsString} (h : serializeJcsUnits value = .ok out) :
    IsBody out value ∧ WellFormed out := by
  induction value using serializeJcsUnits.induct generalizing out with
  | case1 =>
    cases h
    exact ⟨.nil, .nil⟩
  | case2 unit hsurrogate =>
    rw [serializeJcsUnits, if_pos hsurrogate] at h
    cases h
  | case3 unit hsurrogate next rest hpair ih =>
    rw [serializeJcsUnits, if_pos hsurrogate, if_pos hpair] at h
    obtain ⟨hhigh, hlow⟩ := Bool.and_eq_true_iff.mp hpair
    cases hrest : serializeJcsUnits rest with
    | error e =>
      rw [hrest] at h
      cases h
    | ok more =>
      rw [hrest] at h
      cases h
      obtain ⟨hbody, hwhole⟩ := ih hrest
      have hnext : isSurrogate next = true := by
        unfold isSurrogate
        rw [hlow, Bool.or_true]
      exact ⟨.cons (plain_of_surrogate hsurrogate) (.cons (plain_of_surrogate hnext) hbody),
        (WellFormed.pair hhigh hlow).append hwhole⟩
  | case4 unit hsurrogate next rest hpair =>
    rw [serializeJcsUnits, if_pos hsurrogate, if_neg hpair] at h
    cases h
  | case5 unit rest hsurrogate ih =>
    rw [serializeJcsUnits.eq_def] at h
    dsimp only at h
    rw [if_neg hsurrogate] at h
    have hunit := Bool.eq_false_iff.mpr hsurrogate
    cases hrest : serializeJcsUnits rest with
    | error e =>
      rw [hrest] at h
      cases h
    | ok more =>
      rw [hrest] at h
      cases h
      obtain ⟨hbody, hwhole⟩ := ih hrest
      exact ⟨.cons (isPiece_serializeJcsUnit _) hbody, (wellFormed_serializeJcsUnit hunit).append hwhole⟩

theorem serializeJcsString_spec {value text : JsString} (h : serializeJcsString value = .ok text) :
    IsString text value ∧ WellFormed text := by
  unfold serializeJcsString at h
  cases hunits : serializeJcsUnits value with
  | error e =>
    rw [hunits] at h
    cases h
  | ok out =>
    rw [hunits] at h
    cases h
    obtain ⟨hbody, hwhole⟩ := serializeJcsUnits_spec hunits
    exact ⟨⟨out, hbody, rfl⟩, .cons (by decide) (hwhole.append (.of_all rfl))⟩

/-! ## Joined texts -/

/-- A joined text starts with a text, and the others follow a comma. -/
theorem joinTexts_cons_eq_ok {text : Except String JsString} {texts : List (Except String JsString)} {out : JsString}
    (h : joinTexts (text :: texts) = .ok out) : ∃ first, text = .ok first ∧
      (texts = [] ∧ out = first ∨ ∃ more, texts ≠ [] ∧ joinTexts texts = .ok more ∧ out = first ++ 0x2c :: more) := by
  cases texts with
  | nil => exact ⟨out, h, .inl ⟨rfl, rfl⟩⟩
  | cons text' texts =>
    rw [joinTexts.eq_def] at h
    cases text with
    | error e => cases h
    | ok first =>
      dsimp only at h
      cases hmore : joinTexts (text' :: texts) with
      | error e =>
        rw [hmore] at h
        cases h
      | ok more =>
        rw [hmore] at h
        cases h
        exact ⟨first, rfl, .inr ⟨more, List.cons_ne_nil _ _, rfl, rfl⟩⟩

theorem joinTexts_wellFormed {texts : List (Except String JsString)} {out : JsString}
    (htexts : ∀ text ∈ texts, ∀ t, text = .ok t → WellFormed t) (h : joinTexts texts = .ok out) : WellFormed out := by
  induction texts generalizing out with
  | nil =>
    cases h
    exact .nil
  | cons text texts ih =>
    obtain ⟨hfirst, hrest⟩ := List.forall_mem_cons.mp htexts
    obtain ⟨first, htext, ⟨-, rfl⟩ | ⟨more, -, hmore, rfl⟩⟩ := joinTexts_cons_eq_ok h
    · exact hfirst _ htext
    · exact (hfirst first htext).append (.cons (by decide) (ih hrest hmore))

/-! ## Values -/

theorem IsDigits.ascii {digits : JsString} (h : IsDigits digits) : ∀ u ∈ digits, u.toNat < 0x80 := by
  intro u hu
  have hdigit := h.2 u hu
  unfold isDigit at hdigit
  simp only [Bool.and_eq_true, decide_eq_true_eq] at hdigit
  omega

theorem IsNumberToken.wellFormed {token : JsString} (h : IsNumberToken token) : WellFormed token := by
  obtain ⟨sign, integer, fraction, exponent, hsign, hinteger, hfraction, hexponent, rfl⟩ := h
  have hsignText : WellFormed sign := by
    rcases hsign with rfl | rfl
    · exact .nil
    · exact .of_all rfl
  have hintegerText : WellFormed integer := by
    rcases hinteger with rfl | ⟨hdigits, -⟩
    · exact .of_all rfl
    · exact .ascii hdigits.ascii
  have hfractionText : WellFormed fraction := by
    rcases hfraction with rfl | ⟨digits, hdigits, rfl⟩
    · exact .nil
    · exact .cons (by decide) (.ascii hdigits.ascii)
  have hexponentText : WellFormed exponent := by
    rcases hexponent with rfl | ⟨mark, sign, digits, hmark, hsign, hdigits, rfl⟩
    · exact .nil
    · have hmarkText : mark.toNat < 0x80 := by rcases hmark with rfl | rfl <;> decide
      have hsignText : WellFormed sign := by
        rcases hsign with rfl | rfl | rfl
        · exact .nil
        · exact .of_all rfl
        · exact .of_all rfl
      exact .cons hmarkText (hsignText.append (.ascii hdigits.ascii))
  exact hsignText.append (hintegerText.append (hfractionText.append hexponentText))

theorem IsBlank.nil : IsBlank [] := fun _ h => absurd h List.not_mem_nil

theorem saysItems_of_join {items : List (JsValue ν)} {out : JsString} (hne : items ≠ [])
    (hitems : ∀ item ∈ items, ∀ t, serializeJcsValue N item = .ok t → Says N t item.sorted)
    (h : joinTexts (items.map (serializeJcsValue N)) = .ok out) :
    SaysItems N (out ++ [0x5d]) (items.map JsValue.sorted) := by
  induction items generalizing out with
  | nil => exact absurd rfl hne
  | cons item items ih =>
    obtain ⟨hitem, hrest⟩ := List.forall_mem_cons.mp hitems
    obtain ⟨first, htext, ⟨hnil, rfl⟩ | ⟨more, hmoreNe, hmore, rfl⟩⟩ := joinTexts_cons_eq_ok h
    · rw [List.map_eq_nil_iff.mp hnil]
      exact .last .nil (hitem _ htext) .nil
    · rw [List.append_assoc]
      exact .more .nil (hitem first htext) .nil (ih (fun hnil => hmoreNe (by rw [hnil]; rfl)) hrest hmore)

theorem serializeJcsMember_eq_ok {member : JsString × Except String JsString} {text : JsString}
    (h : serializeJcsMember member = .ok text) :
    ∃ name value, serializeJcsString member.1 = .ok name ∧ member.2 = .ok value ∧ text = name ++ 0x3a :: value := by
  unfold serializeJcsMember at h
  cases hname : serializeJcsString member.1 with
  | error e =>
    rw [hname] at h
    cases h
  | ok name =>
    rw [hname] at h
    dsimp only at h
    cases hvalue : member.2 with
    | error e =>
      rw [hvalue] at h
      cases h
    | ok value =>
      rw [hvalue] at h
      cases h
      exact ⟨name, value, rfl, rfl, rfl⟩

theorem saysMembers_of_join {members : List (JsString × JsValue ν)} {out : JsString} (hne : members ≠ [])
    (hmembers : ∀ m ∈ members, ∀ t, serializeJcsValue N m.2 = .ok t → Says N t m.2.sorted)
    (h : joinTexts (members.map fun m => serializeJcsMember (m.1, serializeJcsValue N m.2)) = .ok out) :
    SaysMembers N (out ++ [0x7d]) (members.map fun m => (m.1, m.2.sorted)) := by
  induction members generalizing out with
  | nil => exact absurd rfl hne
  | cons member members ih =>
    obtain ⟨hmember, hrest⟩ := List.forall_mem_cons.mp hmembers
    obtain ⟨first, htext, hend⟩ := joinTexts_cons_eq_ok h
    obtain ⟨name, value, hname, hvalue, rfl⟩ := serializeJcsMember_eq_ok htext
    have hgrammar : SaysMember N (name ++ 0x3a :: value) (member.1, member.2.sorted) :=
      .mk (serializeJcsString_spec hname).1 .nil .nil (hmember value hvalue)
    rcases hend with ⟨hnil, rfl⟩ | ⟨more, hmoreNe, hmore, rfl⟩
    · rw [List.map_eq_nil_iff.mp hnil]
      exact .last .nil hgrammar .nil
    · rw [List.append_assoc]
      exact .more .nil hgrammar .nil (ih (fun hnil => hmoreNe (by rw [hnil]; rfl)) hrest hmore)

/-- The texts of the members, in the order of their names. -/
theorem memberTexts_eq (members : List (JsString × JsValue ν)) :
    (sortMembers (serializeJcsMembers N members)).map serializeJcsMember =
      (sortMembers members).map fun m => serializeJcsMember (m.1, serializeJcsValue N m.2) := by
  rw [serializeJcsMembers_eq_map, sortMembers_map, List.map_map]
  rfl

theorem sortedMembers_sort (members : List (JsString × JsValue ν)) :
    sortMembers (sortedMembers members) = (sortMembers members).map fun m => (m.1, m.2.sorted) := by
  rw [sortedMembers_eq_map, sortMembers_map]

/-- A canonical text says its value with the members in order, and has whole characters only. -/
theorem serializeJcsValue_spec (hN : N.Lawful) {value : JsValue ν} (hdistinct : value.Distinct) {text : JsString}
    (h : serializeJcsValue N value = .ok text) : Says N text value.sorted ∧ WellFormed text := by
  induction value using JsValue.induct generalizing text with
  | null =>
    cases h
    exact ⟨.null, .of_all rfl⟩
  | bool value =>
    cases h
    refine ⟨.bool value, ?_⟩
    cases value with
    | true => exact .of_all rfl
    | false => exact .of_all rfl
  | number value =>
    rw [serializeJcsValue, serializeJcsNumber] at h
    cases hfinite : N.isFinite value with
    | false =>
      rw [hfinite] at h
      cases h
    | true =>
      rw [hfinite] at h
      cases h
      have htoken := hN.token value hfinite
      have hback := hN.number value hfinite
      have hgrammar : Says N (N.text value) (.number (N.number (N.text value))) :=
        .number htoken (by rw [hback, hfinite])
      rw [hback] at hgrammar
      exact ⟨hgrammar, htoken.wellFormed⟩
  | string value =>
    obtain ⟨hstring, hwhole⟩ := serializeJcsString_spec h
    exact ⟨.string hstring, hwhole⟩
  | array items ih =>
    rw [JsValue.Distinct, distinctItems_iff] at hdistinct
    rw [serializeJcsValue, serializeJcsItems_eq_map] at h
    rw [JsValue.sorted, sortedItems_eq_map]
    cases hjoin : joinTexts (items.map (serializeJcsValue N)) with
    | error e =>
      rw [hjoin] at h
      cases h
    | ok out =>
      rw [hjoin] at h
      cases h
      have hwhole : WellFormed out := by
        refine joinTexts_wellFormed (fun text htext t ht => ?_) hjoin
        obtain ⟨item, hitem, rfl⟩ := List.mem_map.mp htext
        exact (ih item hitem (hdistinct item hitem) ht).2
      refine ⟨?_, .cons (by decide) (hwhole.append (.of_all rfl))⟩
      by_cases hne : items = []
      · subst hne
        cases hjoin
        exact .emptyArray .nil
      · exact .array (saysItems_of_join hne (fun item hitem t ht => (ih item hitem (hdistinct item hitem) ht).1) hjoin)
  | object members ih =>
    rw [JsValue.Distinct, distinctMembers_iff] at hdistinct
    rw [serializeJcsValue, memberTexts_eq] at h
    rw [JsValue.sorted, sortedMembers_sort]
    have hperm := sortMembers_perm members
    have hparts : ∀ m ∈ sortMembers members, ∀ t, serializeJcsValue N m.2 = .ok t →
        Says N t m.2.sorted ∧ WellFormed t :=
      fun m hm t ht => ih m (hperm.mem_iff.mp hm) (hdistinct.2 m (hperm.mem_iff.mp hm)) ht
    cases hjoin : joinTexts ((sortMembers members).map fun m => serializeJcsMember (m.1, serializeJcsValue N m.2)) with
    | error e =>
      rw [hjoin] at h
      cases h
    | ok out =>
      rw [hjoin] at h
      cases h
      have hwhole : WellFormed out := by
        refine joinTexts_wellFormed (fun text htext t ht => ?_) hjoin
        obtain ⟨member, hmember, rfl⟩ := List.mem_map.mp htext
        obtain ⟨name, value, hname, hvalue, rfl⟩ := serializeJcsMember_eq_ok ht
        exact (serializeJcsString_spec hname).2.append (.cons (by decide) (hparts member hmember value hvalue).2)
      refine ⟨?_, .cons (by decide) (hwhole.append (.of_all rfl))⟩
      by_cases hne : sortMembers members = []
      · rw [hne] at hjoin ⊢
        cases hjoin
        exact .emptyObject .nil
      · refine .object (saysMembers_of_join hne (fun m hm t ht => (hparts m hm t ht).1) hjoin) ?_
        rw [List.map_map]
        exact (hperm.map Prod.fst).nodup_iff.mpr hdistinct.1

/-! ## Values in order -/

/-- The order of the members makes no difference to the canonical text. -/
theorem serializeJcsValue_sorted (value : JsValue ν) : serializeJcsValue N value.sorted = serializeJcsValue N value := by
  induction value using JsValue.induct with
  | null => rfl
  | bool value => rfl
  | number value => rfl
  | string value => rfl
  | array items ih =>
    have hitems : items.map (serializeJcsValue N ∘ JsValue.sorted) = items.map (serializeJcsValue N) :=
      List.map_congr_left ih
    rw [JsValue.sorted, serializeJcsValue, serializeJcsValue, serializeJcsItems_eq_map, serializeJcsItems_eq_map,
      sortedItems_eq_map, List.map_map, hitems]
  | object members ih =>
    have hmembers : (sortMembers members).map ((fun m => serializeJcsMember (m.1, serializeJcsValue N m.2)) ∘
        fun m : JsString × JsValue ν => (m.1, m.2.sorted)) =
        (sortMembers members).map fun m => serializeJcsMember (m.1, serializeJcsValue N m.2) :=
      List.map_congr_left fun m hm => by
        rw [Function.comp_apply, ih m ((sortMembers_perm members).mem_iff.mp hm)]
    rw [JsValue.sorted, serializeJcsValue, serializeJcsValue, memberTexts_eq, memberTexts_eq, sortMembers_sortMembers,
      sortedMembers_sort, List.map_map, hmembers]

mutual

/-- A value that a text says has no two members of one name. -/
theorem Says.distinct {text : JsString} {value : JsValue ν} (h : Says N text value) : value.Distinct := by
  cases h with
  | null => exact trivial
  | bool value => exact trivial
  | number htoken hfinite => exact trivial
  | string hstring => exact trivial
  | emptyArray hblank => exact trivial
  | array hitems => exact distinctItems_iff.mpr hitems.distinct
  | emptyObject hblank => exact ⟨List.nodup_nil, trivial⟩
  | object hmembers hnames => exact ⟨hnames, distinctMembers_iff.mpr hmembers.distinct⟩

theorem SaysItems.distinct {text : JsString} {items : List (JsValue ν)} (h : SaysItems N text items) :
    ∀ item ∈ items, item.Distinct := by
  cases h with
  | last hbefore hvalue hafter => exact List.forall_mem_singleton.mpr hvalue.distinct
  | more hbefore hvalue hafter hrest => exact List.forall_mem_cons.mpr ⟨hvalue.distinct, hrest.distinct⟩

theorem SaysMembers.distinct {text : JsString} {members : List (JsString × JsValue ν)} (h : SaysMembers N text members) :
    ∀ m ∈ members, m.2.Distinct := by
  cases h with
  | last hbefore hmember hafter => exact List.forall_mem_singleton.mpr hmember.distinct
  | more hbefore hmember hafter hrest => exact List.forall_mem_cons.mpr ⟨hmember.distinct, hrest.distinct⟩

theorem SaysMember.distinct {text : JsString} {member : JsString × JsValue ν} (h : SaysMember N text member) :
    member.2.Distinct := by
  cases h with
  | mk hname hblank hblank' hvalue => exact hvalue.distinct

end

theorem Says.whole {text : JsString} {value : JsValue ν} (h : Says N text value) : SaysText N text value :=
  ⟨[], text, [], .nil, h, .nil, (List.append_nil text).symm⟩

/-- A canonical text is read as its value with the members in order. -/
theorem parse_canonical (hN : N.Lawful) {value : JsValue ν} (hdistinct : value.Distinct) {text : JsString}
    (h : jcsCanonicalize N value = .ok text) : parseStrictJson N text = .ok value.sorted :=
  parseStrictJson_of_grammar (serializeJcsValue_spec hN hdistinct h).1.whole

/-- Members in another order sort to the same list. -/
theorem sortMembers_eq_of_perm {γ : Type} {members members' : List (JsString × γ)} (h : members.Perm members')
    (hnames : (members.map Prod.fst).Nodup) : sortMembers members = sortMembers members' := by
  refine StableSort.insertionSort_eq_of_perm h fun a ha b hb hab hba => ?_
  have hname : a.1 = b.1 := List.le_antisymm (compareJcsKeys_le_iff.mp hab) (compareJcsKeys_le_iff.mp hba)
  exact List.inj_on_of_nodup_map hnames ha hb hname

/-- The numbers of the language where a text only counts. -/
def countingNumbers : JsNumbers Nat where
  isFinite _ := true
  number token := Nat.ofDigitChars 10 (token.map fun u => Char.ofNat u.toNat) 0
  text value := (Nat.toDigits 10 value).map fun c => UInt16.ofNat c.toNat

theorem digit_unit {c : Char} (h : c.isDigit = true) :
    isDigit (UInt16.ofNat c.toNat) = true ∧ Char.ofNat (UInt16.ofNat c.toNat).toNat = c := by
  rw [Char.isDigit, Bool.and_eq_true, decide_eq_true_iff, decide_eq_true_iff] at h
  have hlow : 48 ≤ c.toNat := h.1
  have hhigh : c.toNat ≤ 57 := h.2
  have hunit : (UInt16.ofNat c.toNat).toNat = c.toNat := by
    rw [UInt16.toNat_ofNat']
    omega
  unfold isDigit
  rw [hunit, Char.ofNat_toNat]
  refine ⟨?_, rfl⟩
  simp only [Bool.and_eq_true, decide_eq_true_eq]
  omega

/-- Only zero starts with a zero. -/
theorem toDigits_head {n : Nat} (h : 0 < n) : ∃ c more, Nat.toDigits 10 n = c :: more ∧ UInt16.ofNat c.toNat ≠ 0x30 := by
  induction n using Nat.strongRecOn with
  | ind n ih =>
    by_cases hsmall : n < 10
    · have hdigit : ∀ d : Fin 10, 0 < d.val → UInt16.ofNat (Nat.digitChar d.val).toNat ≠ 0x30 := by decide
      rw [Nat.toDigits_of_lt_base hsmall]
      exact ⟨_, [], rfl, hdigit ⟨n, hsmall⟩ h⟩
    · obtain ⟨c, more, hdigits, hc⟩ := ih (n / 10) (by omega) (by omega)
      rw [Nat.toDigits_of_base_le (by decide) (by omega), hdigits]
      exact ⟨c, _, rfl, hc⟩

theorem countingNumbers_lawful : countingNumbers.Lawful where
  token value _ := by
    have hdigits : ∀ u ∈ countingNumbers.text value, isDigit u = true := by
      intro u hu
      obtain ⟨c, hc, rfl⟩ := List.mem_map.mp hu
      exact (digit_unit (Nat.isDigit_of_mem_toDigits (by decide) (by decide) hc)).1
    have hinteger : IsInteger (countingNumbers.text value) := by
      rcases Nat.eq_zero_or_pos value with rfl | hpos
      · exact .inl rfl
      · obtain ⟨c, more, hmore, hc⟩ := toDigits_head hpos
        have htext : countingNumbers.text value = UInt16.ofNat c.toNat :: more.map fun c => UInt16.ofNat c.toNat := by
          show (Nat.toDigits 10 value).map _ = _
          rw [hmore, List.map_cons]
        refine .inr ⟨⟨?_, hdigits⟩, ?_⟩
        · rw [htext]
          exact List.cons_ne_nil _ _
        · rw [htext]
          exact fun hhead => hc (Option.some.inj hhead)
    exact ⟨[], _, [], [], .inl rfl, hinteger, .inl rfl, .inl rfl, by rw [List.append_nil, List.append_nil]; rfl⟩
  number value _ := by
    have hback : ((Nat.toDigits 10 value).map fun c => UInt16.ofNat c.toNat).map (fun u => Char.ofNat u.toNat) =
        Nat.toDigits 10 value := by
      rw [List.map_map]
      refine (List.map_congr_left fun c hc => ?_).trans (List.map_id _)
      exact (digit_unit (Nat.isDigit_of_mem_toDigits (by decide) (by decide) hc)).2
    show Nat.ofDigitChars 10 (((Nat.toDigits 10 value).map fun c => UInt16.ofNat c.toNat).map _) 0 = value
    rw [hback, Nat.ofDigitChars_toDigits (by decide) (by decide)]

end Iweb.StrictJson
