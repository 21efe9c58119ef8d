import Iweb.Contracts.JsonGrammar

/-!
# Numbers and strings of a JSON text

The scanner of numbers takes the longest token, and the scanner of strings ends at the first quote that no escape
covers: both read exactly what the grammar says.
-/

namespace Iweb.StrictJson

open Readers

variable {ν : Type}

/-! ## Numbers -/

/-- The symbols that a number may go on with. -/
def numberSymbol (u : UInt16) : Bool := isDigit u || u == 0x2e || u == 0x65 || u == 0x45

/-- A text that no number goes on with. -/
def EndsNumber (rest : JsString) : Prop := NotNext numberSymbol rest

theorem EndsNumber.digit {rest : JsString} (h : EndsNumber rest) : NotNext isDigit rest := by
  intro u hu
  have hu := h u hu
  unfold numberSymbol at hu
  simp only [Bool.or_eq_false_iff] at hu
  exact hu.1.1.1

theorem EndsNumber.head {rest : JsString} (h : EndsNumber rest) {u : UInt16} (hu : numberSymbol u = true) :
    rest.head? ≠ some u := by
  intro hhead
  rw [h u hhead] at hu
  cases hu

theorem scanDigits_append {error : String} {digits rest : JsString} (h : IsDigits digits)
    (hrest : NotNext isDigit rest) : scanDigits error (digits ++ rest) = .ok (digits, rest) := by
  have hspan := span_append h.2 hrest
  unfold scanDigits
  rw [hspan.1, hspan.2]
  exact if_neg h.1

theorem scanDigits_eq_ok {error : String} {text digits rest : JsString}
    (h : scanDigits error text = .ok (digits, rest)) : IsDigits digits ∧ text = digits ++ rest := by
  unfold scanDigits at h
  by_cases hnone : text.takeWhile isDigit = []
  · rw [if_pos hnone] at h
    cases h
  · rw [if_neg hnone] at h
    cases h
    exact ⟨⟨hnone, fun u hu => List.mem_takeWhile_imp hu⟩, List.takeWhile_append_dropWhile.symm⟩

theorem scanSign_append {sign rest : JsString} (h : sign = [] ∨ sign = [0x2d]) (hrest : rest.head? ≠ some 0x2d) :
    scanSign (sign ++ rest) = (sign, rest) := by
  rcases h with rfl | rfl
  · cases rest with
    | nil => rfl
    | cons c rest => exact if_neg fun hc => hrest (by rw [hc]; rfl)
  · rfl

theorem scanSign_spec (text : JsString) :
    ((scanSign text).1 = [] ∨ (scanSign text).1 = [0x2d]) ∧ text = (scanSign text).1 ++ (scanSign text).2 := by
  cases text with
  | nil => exact ⟨.inl rfl, rfl⟩
  | cons c text =>
    rw [scanSign]
    by_cases hc : c = 0x2d
    · rw [if_pos hc, hc]
      exact ⟨.inr rfl, rfl⟩
    · rw [if_neg hc]
      exact ⟨.inl rfl, rfl⟩

theorem scanInteger_append {integer rest : JsString} (h : IsInteger integer) (hrest : NotNext isDigit rest) :
    scanInteger (integer ++ rest) = .ok (integer, rest) := by
  rcases h with rfl | ⟨hdigits, hzero⟩
  · rfl
  · have hspan := span_append hdigits.2 hrest
    cases integer with
    | nil => exact absurd rfl hdigits.1
    | cons c integer =>
      have hc : c ≠ 0x30 := fun heq => hzero (by rw [heq]; rfl)
      rw [List.cons_append] at hspan ⊢
      rw [scanInteger, if_neg hc, if_pos (hdigits.2 c List.mem_cons_self), hspan.1, hspan.2]

theorem scanInteger_eq_ok {text integer rest : JsString} (h : scanInteger text = .ok (integer, rest)) :
    IsInteger integer ∧ text = integer ++ rest := by
  cases text with
  | nil => cases h
  | cons c text =>
    rw [scanInteger] at h
    by_cases hzero : c = 0x30
    · rw [if_pos hzero, hzero] at h
      cases h
      exact ⟨.inl rfl, by rw [hzero]; rfl⟩
    · rw [if_neg hzero] at h
      by_cases hdigit : isDigit c = true
      · rw [if_pos hdigit, List.takeWhile_cons_of_pos hdigit] at h
        cases h
        refine ⟨.inr ⟨⟨List.cons_ne_nil _ _, fun u hu => ?_⟩, fun hhead => hzero (Option.some.inj hhead)⟩, ?_⟩
        · rcases List.mem_cons.mp hu with rfl | hu
          · exact hdigit
          · exact List.mem_takeWhile_imp hu
        · rw [List.dropWhile_cons_of_pos hdigit, List.cons_append, List.takeWhile_append_dropWhile]
      · rw [if_neg hdigit] at h
        cases h

theorem scanFraction_append {fraction rest : JsString} (h : IsFraction fraction) (hrest : NotNext isDigit rest)
    (hpoint : rest.head? ≠ some 0x2e) : scanFraction (fraction ++ rest) = .ok (fraction, rest) := by
  rcases h with rfl | ⟨digits, hdigits, rfl⟩
  · cases rest with
    | nil => rfl
    | cons c rest => exact if_neg fun hc => hpoint (by rw [hc]; rfl)
  · rw [List.cons_append, scanFraction, if_pos rfl, scanDigits_append hdigits hrest]

theorem scanFraction_eq_ok {text fraction rest : JsString} (h : scanFraction text = .ok (fraction, rest)) :
    IsFraction fraction ∧ text = fraction ++ rest := by
  cases text with
  | nil =>
    cases h
    exact ⟨.inl rfl, rfl⟩
  | cons c text =>
    rw [scanFraction] at h
    by_cases hc : c = 0x2e
    · rw [if_pos hc] at h
      cases hdigits : scanDigits "invalid number fraction" text with
      | error e =>
        rw [hdigits] at h
        cases h
      | ok next =>
        obtain ⟨digits, left⟩ := next
        rw [hdigits] at h
        cases h
        obtain ⟨his, rfl⟩ := scanDigits_eq_ok hdigits
        exact ⟨.inr ⟨digits, his, by rw [hc]⟩, rfl⟩
    · rw [if_neg hc] at h
      cases h
      exact ⟨.inl rfl, rfl⟩

theorem scanExponentSign_append {sign rest : JsString} (h : sign = [] ∨ sign = [0x2b] ∨ sign = [0x2d])
    (hdigit : ∃ u, rest.head? = some u ∧ isDigit u = true) : scanExponentSign (sign ++ rest) = (sign, rest) := by
  rcases h with rfl | rfl | rfl
  · obtain ⟨u, hu, hdigit⟩ := hdigit
    cases rest with
    | nil => cases hu
    | cons c rest =>
      cases hu
      refine if_neg ?_
      rintro (rfl | rfl) <;> cases hdigit
  · rfl
  · rfl

theorem scanExponentSign_spec (text : JsString) :
    ((scanExponentSign text).1 = [] ∨ (scanExponentSign text).1 = [0x2b] ∨ (scanExponentSign text).1 = [0x2d]) ∧
      text = (scanExponentSign text).1 ++ (scanExponentSign text).2 := by
  cases text with
  | nil => exact ⟨.inl rfl, rfl⟩
  | cons c text =>
    rw [scanExponentSign]
    by_cases hc : c = 0x2b ∨ c = 0x2d
    · rw [if_pos hc]
      rcases hc with rfl | rfl
      · exact ⟨.inr (.inl rfl), rfl⟩
      · exact ⟨.inr (.inr rfl), rfl⟩
    · rw [if_neg hc]
      exact ⟨.inl rfl, rfl⟩

theorem IsDigits.head {digits : JsString} (h : IsDigits digits) (rest : JsString) :
    ∃ u, (digits ++ rest).head? = some u ∧ isDigit u = true := by
  cases digits with
  | nil => exact absurd rfl h.1
  | cons u digits => exact ⟨u, rfl, h.2 u List.mem_cons_self⟩

theorem scanExponent_append {exponent rest : JsString} (h : IsExponent exponent) (hrest : EndsNumber rest) :
    scanExponent (exponent ++ rest) = .ok (exponent, rest) := by
  rcases h with rfl | ⟨mark, sign, digits, hmark, hsign, hdigits, rfl⟩
  · cases rest with
    | nil => rfl
    | cons c rest =>
      refine if_neg ?_
      rintro (rfl | rfl)
      · exact hrest.head rfl rfl
      · exact hrest.head rfl rfl
  · rw [List.cons_append, List.append_assoc, scanExponent, if_pos hmark,
      scanExponentSign_append hsign (hdigits.head rest)]
    dsimp only
    rw [scanDigits_append hdigits hrest.digit]

theorem scanExponent_eq_ok {text exponent rest : JsString} (h : scanExponent text = .ok (exponent, rest)) :
    IsExponent exponent ∧ text = exponent ++ rest := by
  cases text with
  | nil =>
    cases h
    exact ⟨.inl rfl, rfl⟩
  | cons c text =>
    rw [scanExponent] at h
    by_cases hc : c = 0x65 ∨ c = 0x45
    · rw [if_pos hc] at h
      obtain ⟨hsign, htext⟩ := scanExponentSign_spec text
      cases hdigits : scanDigits "invalid number exponent" (scanExponentSign text).2 with
      | error e =>
        rw [hdigits] at h
        cases h
      | ok next =>
        obtain ⟨digits, left⟩ := next
        rw [hdigits] at h
        cases h
        obtain ⟨his, hleft⟩ := scanDigits_eq_ok hdigits
        refine ⟨.inr ⟨c, _, digits, hc, hsign, his, rfl⟩, ?_⟩
        rw [List.cons_append, List.append_assoc, ← hleft, ← htext]
    · rw [if_neg hc] at h
      cases h
      exact ⟨.inl rfl, rfl⟩

theorem IsFraction.notNext {fraction rest : JsString} (h : IsFraction fraction) (hrest : NotNext isDigit rest) :
    NotNext isDigit (fraction ++ rest) := by
  rcases h with rfl | ⟨digits, -, rfl⟩
  · exact hrest
  · exact NotNext.cons rfl

theorem IsExponent.notNext {exponent rest : JsString} (h : IsExponent exponent) (hrest : EndsNumber rest) :
    NotNext isDigit (exponent ++ rest) ∧ (exponent ++ rest).head? ≠ some 0x2e := by
  rcases h with rfl | ⟨mark, sign, digits, hmark, -, -, rfl⟩
  · exact ⟨hrest.digit, hrest.head rfl⟩
  · rcases hmark with rfl | rfl
    · exact ⟨NotNext.cons rfl, by rintro ⟨⟩⟩
    · exact ⟨NotNext.cons rfl, by rintro ⟨⟩⟩

theorem IsInteger.notMinus {integer : JsString} (h : IsInteger integer) (rest : JsString) :
    (integer ++ rest).head? ≠ some 0x2d := by
  rcases h with rfl | ⟨hdigits, -⟩
  · intro h
    cases h
  · obtain ⟨u, hhead, hdigit⟩ := hdigits.head rest
    rw [hhead]
    rintro ⟨⟩
    cases hdigit

/-- A token is scanned to its end. -/
theorem scanNumber_append {token rest : JsString} (h : IsNumberToken token) (hrest : EndsNumber rest) :
    scanNumber (token ++ rest) = .ok (token, rest) := by
  obtain ⟨sign, integer, fraction, exponent, hsign, hinteger, hfraction, hexponent, rfl⟩ := h
  have hafter := hexponent.notNext hrest
  unfold scanNumber
  rw [List.append_assoc, List.append_assoc, List.append_assoc, scanSign_append hsign (hinteger.notMinus _),
    scanInteger_append hinteger (hfraction.notNext hafter.1)]
  dsimp only
  rw [scanFraction_append hfraction hafter.1 hafter.2]
  dsimp only
  rw [scanExponent_append hexponent hrest]

/-- What is scanned is a token. -/
theorem scanNumber_eq_ok {text token rest : JsString} (h : scanNumber text = .ok (token, rest)) :
    IsNumberToken token ∧ text = token ++ rest := by
  unfold scanNumber at h
  obtain ⟨hsign, htext⟩ := scanSign_spec text
  cases hinteger : scanInteger (scanSign text).2 with
  | error e =>
    rw [hinteger] at h
    cases h
  | ok next =>
    obtain ⟨integer, left⟩ := next
    rw [hinteger] at h
    dsimp only at h
    obtain ⟨hisInteger, hleft⟩ := scanInteger_eq_ok hinteger
    cases hfraction : scanFraction left with
    | error e =>
      rw [hfraction] at h
      cases h
    | ok next' =>
      obtain ⟨fraction, left'⟩ := next'
      rw [hfraction] at h
      dsimp only at h
      obtain ⟨hisFraction, hleft'⟩ := scanFraction_eq_ok hfraction
      cases hexponent : scanExponent left' with
      | error e =>
        rw [hexponent] at h
        cases h
      | ok next'' =>
        obtain ⟨exponent, left''⟩ := next''
        rw [hexponent] at h
        cases h
        obtain ⟨hisExponent, hleft''⟩ := scanExponent_eq_ok hexponent
        refine ⟨⟨_, integer, fraction, exponent, hsign, hisInteger, hisFraction, hisExponent, rfl⟩, ?_⟩
        rw [List.append_assoc, List.append_assoc, List.append_assoc, ← hleft'', ← hleft', ← hleft, ← htext]

/-- Numbers are read to their ends. -/
theorem parseNumber_append {N : JsNumbers ν} {token rest : JsString} (h : IsNumberToken token)
    (hfinite : N.isFinite (N.number token) = true) (hrest : EndsNumber rest) :
    parseNumber N (token ++ rest) = .ok (.number (N.number token), rest) := by
  unfold parseNumber
  rw [scanNumber_append h hrest]
  dsimp only
  rw [hfinite]
  rfl

theorem parseNumber_eq_ok {N : JsNumbers ν} {text rest : JsString} {value : JsValue ν}
    (h : parseNumber N text = .ok (value, rest)) : ∃ token, Says N token value ∧ text = token ++ rest := by
  unfold parseNumber at h
  cases hscan : scanNumber text with
  | error e =>
    rw [hscan] at h
    cases h
  | ok next =>
    obtain ⟨token, left⟩ := next
    rw [hscan] at h
    dsimp only at h
    cases hfinite : N.isFinite (N.number token) with
    | false =>
      rw [hfinite] at h
      cases h
    | true =>
      rw [hfinite] at h
      cases h
      obtain ⟨htoken, htext⟩ := scanNumber_eq_ok hscan
      exact ⟨token, .number htoken hfinite, htext⟩

/-! ## Escapes -/

theorem readHex_cons {n value digit : Nat} {c : UInt16} {text : JsString} (h : hexDigit c = some digit) :
    readHex (n + 1) value (c :: text) = readHex n (value * 16 + digit) text := by
  rw [readHex, h]

theorem readHex_succ_eq_ok {n value n' : Nat} {text rest : JsString} (h : readHex (n + 1) value text = .ok (n', rest)) :
    ∃ c text' digit, text = c :: text' ∧ hexDigit c = some digit ∧
      readHex n (value * 16 + digit) text' = .ok (n', rest) := by
  cases text with
  | nil => cases h
  | cons c text =>
    rw [readHex] at h
    cases hdigit : hexDigit c with
    | none =>
      rw [hdigit] at h
      cases h
    | some digit =>
      rw [hdigit] at h
      exact ⟨c, text, digit, rfl, hdigit, h⟩

theorem readHex4_append {digits : JsString} {n : Nat} (h : IsHex4 digits n) (rest : JsString) :
    readHex4 (digits ++ rest) = .ok (n, rest) := by
  cases h with
  | digits ha hb hc hd =>
    unfold readHex4
    rw [List.cons_append, readHex_cons ha, List.cons_append, readHex_cons hb, List.cons_append, readHex_cons hc,
      List.cons_append, readHex_cons hd, Nat.zero_mul, Nat.zero_add]
    rfl

theorem readHex4_eq_ok {text rest : JsString} {n : Nat} (h : readHex4 text = .ok (n, rest)) :
    ∃ digits, IsHex4 digits n ∧ text = digits ++ rest := by
  obtain ⟨a, text₁, p, rfl, ha, h⟩ := readHex_succ_eq_ok h
  obtain ⟨b, text₂, q, rfl, hb, h⟩ := readHex_succ_eq_ok h
  obtain ⟨c, text₃, r, rfl, hc, h⟩ := readHex_succ_eq_ok h
  obtain ⟨d, text₄, s, rfl, hd, h⟩ := readHex_succ_eq_ok h
  rw [Nat.zero_mul, Nat.zero_add] at h
  cases h
  exact ⟨[a, b, c, d], .digits ha hb hc hd, rfl⟩

theorem parseUnicodeEscape_unit {digits : JsString} {n : Nat} (h : IsHex4 digits n)
    (hunit : ¬(0xd800 ≤ n ∧ n ≤ 0xdfff)) (rest : JsString) :
    parseUnicodeEscape (digits ++ rest) = .ok ([UInt16.ofNat n], rest) := by
  unfold parseUnicodeEscape
  rw [readHex4_append h]
  dsimp only
  rw [if_neg (by omega), if_neg (by omega)]

theorem parseUnicodeEscape_pair {digits digits' : JsString} {high low : Nat} (h : IsHex4 digits high)
    (h' : IsHex4 digits' low) (hhigh : 0xd800 ≤ high ∧ high ≤ 0xdbff) (hlow : 0xdc00 ≤ low ∧ low ≤ 0xdfff)
    (rest : JsString) : parseUnicodeEscape (digits ++ (0x5c :: 0x75 :: (digits' ++ rest))) =
      .ok ([UInt16.ofNat high, UInt16.ofNat low], rest) := by
  have hletters : ¬((0x5c : UInt16) ≠ 0x5c ∨ (0x75 : UInt16) ≠ 0x75) := by simp
  unfold parseUnicodeEscape
  rw [readHex4_append h]
  dsimp only
  rw [if_pos hhigh, parseLowEscape, if_neg hletters, readHex4_append h']
  exact if_neg (by omega)

theorem parseLowEscape_eq_ok {unit : Nat} {text units rest : JsString}
    (h : parseLowEscape unit text = .ok (units, rest)) : ∃ digits low, IsHex4 digits low ∧
      (0xdc00 ≤ low ∧ low ≤ 0xdfff) ∧ text = 0x5c :: 0x75 :: (digits ++ rest) ∧
      units = [UInt16.ofNat unit, UInt16.ofNat low] := by
  rcases text with - | ⟨c, - | ⟨c', text⟩⟩
  · cases h
  · cases h
  · rw [parseLowEscape] at h
    by_cases hletters : c ≠ 0x5c ∨ c' ≠ 0x75
    · rw [if_pos hletters] at h
      cases h
    · rw [if_neg hletters] at h
      obtain ⟨hc, hc'⟩ := not_or.mp hletters
      cases hhex : readHex4 text with
      | error e =>
        rw [hhex] at h
        cases h
      | ok next =>
        obtain ⟨low, left⟩ := next
        rw [hhex] at h
        dsimp only at h
        by_cases hlow : low < 0xdc00 ∨ 0xdfff < low
        · rw [if_pos hlow] at h
          cases h
        · rw [if_neg hlow] at h
          cases h
          obtain ⟨digits, his, rfl⟩ := readHex4_eq_ok hhex
          refine ⟨digits, low, his, by omega, ?_, rfl⟩
          rw [not_not.mp hc, not_not.mp hc']

theorem parseUnicodeEscape_eq_ok {text units rest : JsString} (h : parseUnicodeEscape text = .ok (units, rest)) :
    ∃ piece, IsPiece (0x5c :: 0x75 :: piece) units ∧ text = piece ++ rest := by
  unfold parseUnicodeEscape at h
  cases hhex : readHex4 text with
  | error e =>
    rw [hhex] at h
    cases h
  | ok next =>
    obtain ⟨unit, left⟩ := next
    rw [hhex] at h
    dsimp only at h
    obtain ⟨digits, his, rfl⟩ := readHex4_eq_ok hhex
    by_cases hhigh : 0xd800 ≤ unit ∧ unit ≤ 0xdbff
    · rw [if_pos hhigh] at h
      obtain ⟨digits', low, his', hlow, rfl, rfl⟩ := parseLowEscape_eq_ok h
      refine ⟨_, .pair his his' hhigh hlow, ?_⟩
      rw [List.append_assoc]
      rfl
    · rw [if_neg hhigh] at h
      by_cases hlow : 0xdc00 ≤ unit ∧ unit ≤ 0xdfff
      · rw [if_pos hlow] at h
        cases h
      · rw [if_neg hlow] at h
        cases h
        exact ⟨digits, .unit his (by omega), rfl⟩

theorem parseEscape_short {c u : UInt16} (h : shortEscape c = some u) (rest : JsString) :
    parseEscape (c :: rest) = .ok ([u], rest) := by
  rw [parseEscape, h]

theorem parseEscape_unicode (text : JsString) : parseEscape (0x75 :: text) = parseUnicodeEscape text := rfl

/-- An escape is read to its end. -/
theorem parseEscape_append {piece units : JsString} (h : IsPiece (0x5c :: piece) units) (rest : JsString) :
    parseEscape (piece ++ rest) = .ok (units, rest) := by
  cases h with
  | plain hcontrol hquote hbackslash => exact absurd rfl hbackslash
  | short hshort => exact parseEscape_short hshort rest
  | unit hdigits hunit => exact parseUnicodeEscape_unit hdigits hunit rest
  | pair hdigits hdigits' hhigh hlow =>
    rw [List.cons_append, parseEscape_unicode, List.append_assoc]
    exact parseUnicodeEscape_pair hdigits hdigits' hhigh hlow rest

theorem parseEscape_eq_ok {text units rest : JsString} (h : parseEscape text = .ok (units, rest)) :
    ∃ piece, IsPiece (0x5c :: piece) units ∧ text = piece ++ rest := by
  cases text with
  | nil => cases h
  | cons c text =>
    rw [parseEscape] at h
    cases hshort : shortEscape c with
    | some unit =>
      rw [hshort] at h
      cases h
      exact ⟨[c], .short hshort, rfl⟩
    | none =>
      rw [hshort] at h
      dsimp only at h
      by_cases hc : c = 0x75
      · rw [if_pos hc] at h
        obtain ⟨piece, hpiece, rfl⟩ := parseUnicodeEscape_eq_ok h
        rw [hc]
        exact ⟨0x75 :: piece, hpiece, rfl⟩
      · rw [if_neg hc] at h
        cases h

/-! ## Strings -/

/-- One piece of a string that has not ended. -/
theorem parseStringFrom_piece {piece units : JsString} (h : IsPiece piece units) (fuel : Nat) (out rest : JsString) :
    parseStringFrom (fuel + 1) out (piece ++ rest) = parseStringFrom fuel (out ++ units) rest := by
  have hescape : ∀ escape, IsPiece (0x5c :: escape) units →
      parseStringFrom (fuel + 1) out (0x5c :: escape ++ rest) = parseStringFrom fuel (out ++ units) rest := by
    intro escape hpiece
    rw [List.cons_append, parseStringFrom, if_neg (by decide), if_pos rfl, parseEscape_append hpiece]
  cases h with
  | plain hcontrol hquote hbackslash =>
    rw [List.singleton_append, parseStringFrom, if_neg hquote, if_neg hbackslash, if_neg (by omega)]
  | short hshort => exact hescape _ (.short hshort)
  | unit hdigits hunit => exact hescape _ (.unit hdigits hunit)
  | pair hdigits hdigits' hhigh hlow => exact hescape _ (.pair hdigits hdigits' hhigh hlow)

theorem IsPiece.length_pos {piece units : JsString} (h : IsPiece piece units) : 0 < piece.length := by
  cases h <;> exact Nat.succ_pos _

theorem parseStringFrom_append {body value : JsString} (h : IsBody body value) {fuel : Nat} {out rest : JsString}
    (hfuel : body.length < fuel) :
    parseStringFrom fuel out (body ++ 0x22 :: rest) = .ok (out ++ value, rest) := by
  induction h generalizing fuel out with
  | nil =>
    obtain ⟨fuel, rfl⟩ : ∃ f, fuel = f + 1 := ⟨fuel - 1, by have : 0 < fuel := hfuel; omega⟩
    rw [List.append_nil]
    rfl
  | cons hpiece hrest ih =>
    have hpos := hpiece.length_pos
    rw [List.length_append] at hfuel
    obtain ⟨fuel, rfl⟩ : ∃ f, fuel = f + 1 := ⟨fuel - 1, by omega⟩
    rw [List.append_assoc, parseStringFrom_piece hpiece, ih (by omega), List.append_assoc]

theorem parseStringFrom_eq_ok {fuel : Nat} {out text value rest : JsString}
    (h : parseStringFrom fuel out text = .ok (value, rest)) :
    ∃ body units, IsBody body units ∧ text = body ++ 0x22 :: rest ∧ value = out ++ units := by
  induction fuel generalizing out text with
  | zero => cases h
  | succ fuel ih =>
    cases text with
    | nil => cases h
    | cons c text =>
      rw [parseStringFrom] at h
      by_cases hquote : c = 0x22
      · rw [if_pos hquote] at h
        cases h
        exact ⟨[], [], .nil, by rw [hquote]; rfl, (List.append_nil _).symm⟩
      · rw [if_neg hquote] at h
        by_cases hbackslash : c = 0x5c
        · rw [if_pos hbackslash] at h
          cases hescape : parseEscape text with
          | error e =>
            rw [hescape] at h
            cases h
          | ok next =>
            obtain ⟨units, left⟩ := next
            rw [hescape] at h
            obtain ⟨piece, hpiece, rfl⟩ := parseEscape_eq_ok hescape
            obtain ⟨body, more, hbody, rfl, rfl⟩ := ih h
            refine ⟨_, _, .cons hpiece hbody, ?_, List.append_assoc ..⟩
            rw [hbackslash, List.append_assoc]
            rfl
        · rw [if_neg hbackslash] at h
          by_cases hcontrol : c.toNat < 0x20
          · rw [if_pos hcontrol] at h
            cases h
          · rw [if_neg hcontrol] at h
            obtain ⟨body, more, hbody, rfl, rfl⟩ := ih h
            exact ⟨_, _, .cons (.plain (by omega) hquote hbackslash) hbody, rfl, List.append_assoc ..⟩

/-- A string is read to its closing quote. -/
theorem parseString_append {text value : JsString} (h : IsString text value) (rest : JsString) :
    parseString (text ++ rest) = .ok (value, rest) := by
  obtain ⟨body, hbody, rfl⟩ := h
  unfold parseString
  rw [List.cons_append, List.append_assoc, List.tail_cons]
  refine parseStringFrom_append hbody ?_
  rw [List.length_cons, List.length_append]
  omega

theorem parseString_eq_ok {text value rest : JsString} (hquote : text.head? = some 0x22)
    (h : parseString text = .ok (value, rest)) : ∃ front, IsString front value ∧ text = front ++ rest := by
  obtain ⟨body, units, hbody, htail, rfl⟩ := parseStringFrom_eq_ok h
  refine ⟨_, ⟨body, hbody, rfl⟩, ?_⟩
  rw [List.cons_append, List.append_assoc, List.singleton_append, ← htail]
  cases text with
  | nil => cases hquote
  | cons c text =>
    cases hquote
    rfl

end Iweb.StrictJson
