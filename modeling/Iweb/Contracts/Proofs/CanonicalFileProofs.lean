import Iweb.Contracts.CanonicalFile
import Iweb.Contracts.Proofs.CanonicalJsonProofs

/-!
# Files that are canonical

A file is accepted if and only if it is the canonical form of a value, and then the value is read with the members of
its objects in order.
-/

namespace Iweb.StrictJson

variable {ν : Type} {N : JsNumbers ν}

/-! ## Bytes and characters -/

theorem utf8_wellFormed {text : JsString} (h : WellFormed text) :
    ∃ s : String, text = JsString.ofString s ∧ JsString.utf8 text = bytes s := by
  obtain ⟨chars, rfl⟩ := h
  have htext : chars.flatMap JsString.unitsOfChar = JsString.ofString (String.ofList chars) := by
    unfold JsString.ofString
    rw [String.toList_ofList]
  exact ⟨String.ofList chars, htext, by rw [htext, JsString.utf8_ofString]⟩

theorem fromUTF8_bytes (s : String) : String.fromUTF8? ⟨(bytes s).toArray⟩ = some s := by
  have hbytes : (⟨(bytes s).toArray⟩ : ByteArray) = s.toByteArray := by
    unfold bytes
    rw [Array.toArray_toList]
  rw [hbytes]
  exact dif_pos s.isValidUTF8

/-- A text that starts with an ASCII symbol has no byte-order mark. -/
theorem utf8_notMark {c : UInt16} {more : JsString} (hc : c.toNat < 0x80) :
    (JsString.utf8 (c :: more)).take 3 ≠ [0xef, 0xbb, 0xbf] := by
  have hhigh : JsString.isHighSurrogate c = false := by
    unfold JsString.isHighSurrogate
    rw [Bool.and_eq_false_iff, decide_eq_false_iff_not]
    omega
  have hfirst : JsString.utf8 [c] = [UInt8.ofNat c.toNat] := by
    rw [JsString.utf8_ascii (List.forall_mem_singleton.mpr hc)]
    rfl
  have hsplit : JsString.utf8 (c :: more) = JsString.utf8 [c] ++ JsString.utf8 more := by
    unfold JsString.utf8
    rw [JsString.characters_unit hhigh, List.flatMap_cons]
    exact congrArg (· ++ _) (List.flatMap_singleton _ _).symm
  rw [hsplit, hfirst, List.singleton_append, List.take_succ_cons]
  intro h
  have hbyte := congrArg UInt8.toNat (List.cons.inj h).1
  rw [UInt8.toNat_ofNat'] at hbyte
  have hvalue : c.toNat % 2 ^ 8 = 0xef := hbyte
  omega

/-- What the bytes of a text of whole characters are decoded to. -/
theorem decodeUtf8_utf8 {c : UInt16} {more : JsString} (hc : c.toNat < 0x80) (h : WellFormed (c :: more)) :
    decodeUtf8 (JsString.utf8 (c :: more)) = some (c :: more) := by
  obtain ⟨s, htext, hbytes⟩ := utf8_wellFormed h
  unfold decodeUtf8
  rw [if_neg (utf8_notMark hc), hbytes, fromUTF8_bytes, Option.map_some, htext]

/-! ## Canonical bytes -/

theorem jcsCanonicalBytes_eq_ok {value : JsValue ν} {canonical : List UInt8}
    (h : jcsCanonicalBytes N value = .ok canonical) :
    ∃ text, jcsCanonicalize N value = .ok text ∧ JsString.utf8 text = canonical := by
  unfold jcsCanonicalBytes at h
  cases htext : jcsCanonicalize N value with
  | error e =>
    rw [htext] at h
    cases h
  | ok text =>
    rw [htext] at h
    exact ⟨text, rfl, Except.ok.inj h⟩

/-- The canonical bytes of a value are decoded to its canonical text. -/
theorem decodeUtf8_canonical (hN : N.Lawful) {value : JsValue ν} (hdistinct : value.Distinct) {text : JsString}
    (h : jcsCanonicalize N value = .ok text) : decodeUtf8 (JsString.utf8 text) = some text := by
  obtain ⟨hgrammar, hwhole⟩ := serializeJcsValue_spec hN hdistinct h
  obtain ⟨c, more, rfl, -, -, hc⟩ := hgrammar.head
  exact decodeUtf8_utf8 hc hwhole

theorem parseCanonicalJson_of_canonical (hN : N.Lawful) {value : JsValue ν} (hdistinct : value.Distinct)
    {canonical : List UInt8} (h : jcsCanonicalBytes N value = .ok canonical) (path : String) :
    parseCanonicalJson N canonical path = .ok value.sorted := by
  obtain ⟨text, htext, rfl⟩ := jcsCanonicalBytes_eq_ok h
  have hsame : jcsCanonicalBytes N value.sorted = .ok (JsString.utf8 text) := by
    unfold jcsCanonicalBytes jcsCanonicalize
    rw [serializeJcsValue_sorted]
    exact h
  unfold parseCanonicalJson
  rw [decodeUtf8_canonical hN hdistinct htext]
  dsimp only
  rw [parse_canonical hN hdistinct htext]
  dsimp only
  rw [hsame]
  exact if_neg (not_not.mpr rfl)

/-- What is accepted was decoded, read, and written back as the same bytes. -/
theorem parseCanonicalJson_steps {canonical : List UInt8} {path : String} {value : JsValue ν}
    (h : parseCanonicalJson N canonical path = .ok value) :
    ∃ text, decodeUtf8 canonical = some text ∧ parseStrictJson N text = .ok value ∧
      jcsCanonicalBytes N value = .ok canonical := by
  unfold parseCanonicalJson at h
  cases hdecode : decodeUtf8 canonical with
  | none =>
    rw [hdecode] at h
    cases h
  | some text =>
    rw [hdecode] at h
    dsimp only at h
    cases hparse : parseStrictJson N text with
    | error e =>
      rw [hparse] at h
      cases h
    | ok parsed =>
      rw [hparse] at h
      dsimp only at h
      cases hbytes : jcsCanonicalBytes N parsed with
      | error e =>
        rw [hbytes] at h
        cases h
      | ok canonical' =>
        rw [hbytes] at h
        dsimp only at h
        by_cases hsame : canonical' = canonical
        · rw [if_neg (not_not.mpr hsame)] at h
          cases h
          exact ⟨text, rfl, hparse, hbytes.trans (congrArg _ hsame)⟩
        · rw [if_pos hsame] at h
          cases h

/-- What is accepted has canonical bytes, and is in order. -/
theorem parseCanonicalJson_eq_ok (hN : N.Lawful) {canonical : List UInt8} {path : String} {value : JsValue ν}
    (h : parseCanonicalJson N canonical path = .ok value) :
    value.Distinct ∧ jcsCanonicalBytes N value = .ok canonical ∧ value = value.sorted := by
  obtain ⟨text, hdecode, hparse, hbytes⟩ := parseCanonicalJson_steps h
  obtain ⟨before, inner, after, -, hgrammar, -, -⟩ := grammar_of_parseStrictJson hparse
  have hdistinct := hgrammar.distinct
  -- The bytes are those of the canonical text, which is therefore the text that was read.
  obtain ⟨text', htext', hutf8⟩ := jcsCanonicalBytes_eq_ok hbytes
  have hdecode' := decodeUtf8_canonical hN hdistinct htext'
  rw [hutf8, hdecode] at hdecode'
  have hread := parse_canonical hN hdistinct htext'
  rw [← Option.some.inj hdecode', hparse] at hread
  exact ⟨hdistinct, hbytes, Except.ok.inj hread⟩

end Iweb.StrictJson
