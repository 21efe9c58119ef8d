import Iweb.Ingress.SandboxExchange

/-!
# What the chunks of a response change

The loop of a sandbox response counts the body from the start of the header terminator, the cut from its end: a read
that ends in between ends the loop four bytes early. A response without a tunnel is cut at the read that completes the
head.
-/

namespace Iweb

namespace Ingress

open ChunkedReading

/-! ## Bytes -/

/-- A byte of a class given by its bounds is none of the separators. -/
theorem isTokenByte_ne {b : UInt8} (h : isTokenByte b = true) :
    b ≠ 10 ∧ b ≠ 13 ∧ b ≠ 58 ∧ b ≠ 47 ∧ isSpace b = false := by
  have hfalse : isTokenByte 10 = false ∧ isTokenByte 13 = false ∧ isTokenByte 58 = false ∧ isTokenByte 47 = false := by
    decide
  refine ⟨?_, ?_, ?_, ?_, ?_⟩
  · rintro rfl
    rw [hfalse.1] at h
    cases h
  · rintro rfl
    rw [hfalse.2.1] at h
    cases h
  · rintro rfl
    rw [hfalse.2.2.1] at h
    cases h
  · rintro rfl
    rw [hfalse.2.2.2] at h
    cases h
  · cases hspace : isSpace b with
    | false => rfl
    | true =>
      have hnone : ([9, 10, 11, 12, 13, 32] : List UInt8).all (fun c => !isTokenByte c) = true := by decide
      unfold isSpace at hspace
      simp only [Bool.or_eq_true, Bool.and_eq_true, decide_eq_true_eq, beq_iff_eq] at hspace
      have hmem : b ∈ [9, 10, 11, 12, 13, 32] := by
        simp only [List.mem_cons, List.not_mem_nil, or_false, ← UInt8.toNat_inj, UInt8.le_iff_toNat_le] at hspace ⊢
        have : (9 : UInt8).toNat = 9 := rfl
        have : (13 : UInt8).toNat = 13 := rfl
        have : (10 : UInt8).toNat = 10 := rfl
        have : (11 : UInt8).toNat = 11 := rfl
        have : (12 : UInt8).toNat = 12 := rfl
        have : (32 : UInt8).toNat = 32 := rfl
        omega
      have hfalse := List.all_eq_true.mp hnone b hmem
      rw [h] at hfalse
      cases hfalse

theorem isFieldByte_ne {b : UInt8} (h : isFieldByte b = true) : b ≠ 10 ∧ b ≠ 13 := by
  constructor
  · rintro rfl
    exact absurd h (by decide)
  · rintro rfl
    exact absurd h (by decide)

theorem isDecimalDigit_ne {b : UInt8} (h : isDecimalDigit b = true) : isTokenByte b = true := by
  unfold isTokenByte isLabelEdge
  rw [h, Bool.or_true, Bool.true_or, Bool.true_or, Bool.true_or]

theorem isSpace_toLower (b : UInt8) : isSpace (toLower b) = isSpace b := by
  unfold toLower
  by_cases hupper : (decide (65 ≤ b) && decide (b ≤ 90)) = true
  · rw [if_pos hupper]
    simp only [Bool.and_eq_true, decide_eq_true_eq, UInt8.le_iff_toNat_le] at hupper
    have hlower : (b + 32).toNat = b.toNat + 32 := by
      rw [UInt8.toNat_add]
      have : (90 : UInt8).toNat = 90 := rfl
      have : (32 : UInt8).toNat = 32 := rfl
      omega
    have : (90 : UInt8).toNat = 90 := rfl
    have : (65 : UInt8).toNat = 65 := rfl
    have : (13 : UInt8).toNat = 13 := rfl
    have : (32 : UInt8).toNat = 32 := rfl
    have hspace : ∀ c : UInt8, 33 ≤ c.toNat → isSpace c = false := by
      intro c hc
      unfold isSpace
      simp only [Bool.or_eq_false_iff, Bool.and_eq_false_iff, decide_eq_false_iff_not, beq_eq_false_iff_ne, ne_eq,
        ← UInt8.toNat_inj, UInt8.le_iff_toNat_le]
      omega
    rw [hspace (b + 32) (by omega), hspace b (by omega)]
  · rw [if_neg hupper]

/-- A digit has no other case. -/
theorem toLower_digit {b : UInt8} (h : isDecimalDigit b = true) : toLower b = b := by
  unfold isDecimalDigit inRange at h
  rw [Bool.and_eq_true, decide_eq_true_eq, decide_eq_true_eq] at h
  refine if_neg fun hupper => ?_
  simp only [Bool.and_eq_true, decide_eq_true_eq, UInt8.le_iff_toNat_le] at hupper
  have : ('9' : Char).toNat = 57 := rfl
  have : (65 : UInt8).toNat = 65 := rfl
  omega

/-! ## Trimming -/

/-- A text without spaces at its ends is its own trim. -/
theorem trim_eq_self {text : List UInt8} (h : ∀ b ∈ text, isSpace b = false) : trim text = text := by
  have hdrop : ∀ other : List UInt8, (∀ b ∈ other, isSpace b = false) → other.dropWhile isSpace = other := by
    intro other hother
    cases other with
    | nil => rfl
    | cons b rest => exact List.dropWhile_cons_of_neg (by rw [hother b (.head _)]; exact Bool.false_ne_true)
  unfold trim
  rw [hdrop text h, hdrop text.reverse fun b hb => h b (List.mem_reverse.mp hb), List.reverse_reverse]

/-- Trimming does not depend on the case of a text. -/
theorem trim_map_toLower (text : List UInt8) : trim (text.map toLower) = (trim text).map toLower := by
  have hdrop : ∀ other : List UInt8, (other.map toLower).dropWhile isSpace = (other.dropWhile isSpace).map toLower := by
    intro other
    rw [List.dropWhile_map]
    congr 2
    exact funext isSpace_toLower
  unfold trim
  rw [hdrop, ← List.map_reverse, hdrop, ← List.map_reverse]

/-- The digits of a number give its value. -/
theorem parseUnsigned_digits {limit : Nat} {digits : List UInt8} (hne : digits ≠ [])
    (hdigits : digits.all isDecimalDigit = true) (hlimit : decimalValue digits < limit) :
    parseUnsigned limit digits = some (decimalValue digits) := by
  have hplus : ¬ digits.head? = some (ascii '+') := by
    intro hhead
    have hdigit := List.all_eq_true.mp hdigits _ (List.mem_of_mem_head? hhead)
    exact absurd hdigit (by decide)
  unfold parseUnsigned
  rw [if_neg hplus]
  dsimp only
  rw [hdigits, decide_eq_false hne, decide_eq_false (Nat.not_le.mpr hlimit)]
  rfl

theorem decimalValue_lt {digits : List UInt8} (h : digits.all isDecimalDigit = true) :
    decimalValue digits < 10 ^ digits.length := by
  have hfold : ∀ (ds : List UInt8) (n : Nat), ds.all isDecimalDigit = true →
      ds.foldl (fun n b => 10 * n + (b.toNat - 48)) n < (n + 1) * 10 ^ ds.length := by
    intro ds
    induction ds with
    | nil => exact fun n _ => by rw [List.foldl_nil, List.length_nil, Nat.pow_zero, Nat.mul_one]; exact Nat.lt_succ_self n
    | cons d ds ih =>
      intro n hall
      rw [List.all_cons, Bool.and_eq_true] at hall
      have hd := hall.1
      unfold isDecimalDigit inRange at hd
      rw [Bool.and_eq_true, decide_eq_true_eq, decide_eq_true_eq] at hd
      have : ('9' : Char).toNat = 57 := rfl
      have hstep := ih (10 * n + (d.toNat - 48)) hall.2
      rw [List.foldl_cons, List.length_cons, Nat.pow_succ]
      refine Nat.lt_of_lt_of_le hstep ?_
      rw [Nat.mul_comm (10 ^ ds.length) 10, ← Nat.mul_assoc]
      exact Nat.mul_le_mul_right _ (by omega)
  have hbound := hfold digits 0 h
  rw [Nat.zero_add, Nat.one_mul] at hbound
  exact hbound

/-! ## Lines -/

/-- A line that is not empty and has no separator in it. -/
structure IsLine (line : List UInt8) : Prop where
  ne_nil : line ≠ []
  feed : 10 ∉ line
  carriage : 13 ∉ line

/-- The first of some lines. -/
theorem textLines_append {line : List UInt8} (h : IsLine line) (rest : List UInt8) :
    textLines (line ++ 13 :: 10 :: rest) = line :: textLines rest := by
  have hsplit : (line ++ 13 :: 10 :: rest).splitOn 10 = (line ++ [13]) :: rest.splitOn 10 := by
    have hfeed : (10 : UInt8) ∉ line ++ [13] := by
      rw [List.mem_append, List.mem_singleton]
      exact fun hmem => hmem.elim h.feed (by decide)
    have hshape : line ++ 13 :: 10 :: rest = (line ++ [13]) ++ 10 :: rest := by rw [List.append_assoc]; rfl
    rw [hshape, List.splitOn_append_cons_self_of_not_mem hfeed]
  have hne := List.splitOn_ne_nil 10 rest
  have hstrip : stripReturn (line ++ [13]) = line := by
    unfold stripReturn
    rw [if_pos List.getLast?_concat, List.dropLast_concat]
  unfold textLines
  dsimp only
  rw [hsplit, List.dropLast_cons_of_ne_nil hne, List.map_cons, hstrip, List.getLast?_cons_of_ne_nil hne]
  rfl

theorem textLines_self {line : List UInt8} (h : IsLine line) : textLines line = [line] := by
  unfold textLines
  rw [List.splitOn_eq_singleton h.feed]
  show [line].filter (· ≠ []) = [line]
  exact List.filter_cons_of_pos (decide_eq_true h.ne_nil)

theorem textLines_joinLines {lines : List (List UInt8)} (h : ∀ line ∈ lines, IsLine line) (hne : lines ≠ []) :
    textLines (HttpResponse.joinLines lines) = lines := by
  induction lines with
  | nil => exact absurd rfl hne
  | cons line lines ih =>
    obtain ⟨hline, hlines⟩ := List.forall_mem_cons.mp h
    cases lines with
    | nil => exact textLines_self hline
    | cons next others =>
      show textLines (line ++ 13 :: 10 :: HttpResponse.joinLines (next :: others)) = _
      rw [textLines_append hline, ih hlines (List.cons_ne_nil _ _)]

/-! ## The header terminator -/

/-- No terminator starts in a text without carriage returns. -/
theorem position_append {text : List UInt8} (h : 13 ∉ text) (rest : List UInt8) :
    position headerTerminator (text ++ rest) = (position headerTerminator rest).map (· + text.length) := by
  induction text with
  | nil =>
    show position headerTerminator rest = (position headerTerminator rest).map (· + 0)
    cases position headerTerminator rest <;> rfl
  | cons b text ih =>
    rw [List.mem_cons, not_or] at h
    have hhere : headerTerminator.isPrefixOf (b :: (text ++ rest)) = false := by
      have hb : ((13 : UInt8) == b) = false := beq_eq_false_iff_ne.mpr h.1
      show (((13 : UInt8) == b) && _) = false
      rw [hb, Bool.false_and]
    rw [List.cons_append, position, hhere, if_neg Bool.false_ne_true, ih h.2, Option.map_map]
    rfl

/-- The terminator of a head follows its last line. -/
theorem position_joinLines {lines : List (List UInt8)} (h : ∀ line ∈ lines, IsLine line) (hne : lines ≠ [])
    (body : List UInt8) : position headerTerminator (HttpResponse.joinLines lines ++ headerTerminator ++ body) =
      some (HttpResponse.joinLines lines).length := by
  induction lines with
  | nil => exact absurd rfl hne
  | cons line lines ih =>
    obtain ⟨hline, hlines⟩ := List.forall_mem_cons.mp h
    cases lines with
    | nil =>
      show position headerTerminator (line ++ headerTerminator ++ body) = some line.length
      rw [List.append_assoc, position_append hline.carriage]
      have hhere : position headerTerminator (headerTerminator ++ body) = some 0 := rfl
      rw [hhere, Option.map_some, Nat.zero_add]
    | cons next others =>
      have hnext : ∃ b rest, HttpResponse.joinLines (next :: others) = b :: rest ∧ b ≠ 13 := by
        obtain ⟨hfirst, -⟩ := List.forall_mem_cons.mp hlines
        obtain ⟨b, tail, rfl⟩ := List.exists_cons_of_ne_nil hfirst.ne_nil
        have hb : b ≠ 13 := fun heq => hfirst.carriage (heq ▸ List.mem_cons_self)
        cases others with
        | nil => exact ⟨b, tail, rfl, hb⟩
        | cons _ _ => exact ⟨b, _, rfl, hb⟩
      obtain ⟨b, rest, hjoin, hb⟩ := hnext
      have htail := ih hlines (List.cons_ne_nil _ _)
      show position headerTerminator
        ((line ++ 13 :: 10 :: HttpResponse.joinLines (next :: others)) ++ headerTerminator ++ body) =
          some (line ++ 13 :: 10 :: HttpResponse.joinLines (next :: others)).length
      have hshape : (line ++ 13 :: 10 :: HttpResponse.joinLines (next :: others)) ++ headerTerminator ++ body =
          line ++ 13 :: 10 :: (HttpResponse.joinLines (next :: others) ++ headerTerminator ++ body) := by
        rw [List.append_assoc, List.append_assoc, List.append_assoc]
        rfl
      have hskip : position headerTerminator
          (13 :: 10 :: (HttpResponse.joinLines (next :: others) ++ headerTerminator ++ body)) =
            (position headerTerminator (HttpResponse.joinLines (next :: others) ++ headerTerminator ++ body)).map
              (· + 2) := by
        have hb' : ((13 : UInt8) == b) = false := beq_eq_false_iff_ne.mpr (Ne.symm hb)
        have hhere : headerTerminator.isPrefixOf
            (13 :: 10 :: (HttpResponse.joinLines (next :: others) ++ headerTerminator ++ body)) = false := by
          rw [hjoin]
          show (true && (true && (((13 : UInt8) == b) && _))) = false
          rw [hb']
          rfl
        rw [position, hhere, if_neg Bool.false_ne_true, position]
        have hthere : headerTerminator.isPrefixOf
            (10 :: (HttpResponse.joinLines (next :: others) ++ headerTerminator ++ body)) = false := rfl
        rw [hthere, if_neg Bool.false_ne_true, Option.map_map]
        rfl
      rw [hshape, position_append hline.carriage, hskip, htail, Option.map_some, Option.map_some, List.length_append,
        List.length_cons, List.length_cons]
      congr 1
      omega

/-! ## The lines of a response -/

namespace HeaderLine

theorem isLine (line : HeaderLine) : IsLine line.text := by
  have hname : ∀ b ∈ line.name, b ≠ 10 ∧ b ≠ 13 := fun b hb =>
    let h := isTokenByte_ne (List.all_eq_true.mp line.name_token b hb)
    ⟨h.1, h.2.1⟩
  have hcontent : ∀ b ∈ line.content, b ≠ 10 ∧ b ≠ 13 := fun b hb =>
    isFieldByte_ne (List.all_eq_true.mp line.content_field b hb)
  have hmem : ∀ b, b ∈ line.text → b ∈ line.name ∨ b = 58 ∨ b ∈ line.content := by
    intro b hb
    rcases List.mem_append.mp hb with hb | hb
    · exact .inl hb
    · exact .inr (List.mem_cons.mp hb)
  refine ⟨List.append_ne_nil_of_left_ne_nil line.name_ne_nil _, fun hb => ?_, fun hb => ?_⟩
  · rcases hmem _ hb with hb | hb | hb
    · exact (hname _ hb).1 rfl
    · exact absurd hb (by decide)
    · exact (hcontent _ hb).1 rfl
  · rcases hmem _ hb with hb | hb | hb
    · exact (hname _ hb).2 rfl
    · exact absurd hb (by decide)
    · exact (hcontent _ hb).2 rfl

theorem colon_notMem (line : HeaderLine) : 58 ∉ line.name := fun hb =>
  (isTokenByte_ne (List.all_eq_true.mp line.name_token _ hb)).2.2.1 rfl

theorem trim_name (line : HeaderLine) : trim line.name = line.name :=
  trim_eq_self fun b hb => (isTokenByte_ne (List.all_eq_true.mp line.name_token b hb)).2.2.2.2

/-- The name of a header line, and what stands after the colon. -/
theorem splitColon_text (line : HeaderLine) : splitColon line.text = some (line.name, line.content) := by
  have hname : ∀ b ∈ line.name, decide (b ≠ 58) = true := fun b hb =>
    decide_eq_true fun heq => line.colon_notMem (heq ▸ hb)
  have hcontains : line.text.contains 58 = true :=
    List.contains_iff_mem.mpr (List.mem_append_right _ List.mem_cons_self)
  unfold splitColon
  rw [if_pos hcontains]
  unfold text
  rw [List.takeWhile_append_of_pos hname, List.dropWhile_append_of_pos hname]
  have htake : (58 :: line.content).takeWhile (· ≠ 58) = [] := rfl
  have hdrop : ((58 :: line.content).dropWhile (· ≠ 58)).tail = line.content := rfl
  rw [htake, hdrop, List.append_nil]

end HeaderLine

/-- A text with a colon after it starts a line exactly if it is the name of the line. -/
theorem isPrefixOf_colon {lower name content : List UInt8} (hlower : 58 ∉ lower) (hname : 58 ∉ name) :
    (lower ++ [58]).isPrefixOf (name ++ 58 :: content) = (name == lower) := by
  induction lower generalizing name with
  | nil =>
    cases name with
    | nil => rfl
    | cons b name =>
      rw [List.mem_cons, not_or] at hname
      have hb : ((58 : UInt8) == b) = false := beq_eq_false_iff_ne.mpr hname.1
      show (((58 : UInt8) == b) && _) = false
      rw [hb, Bool.false_and]
  | cons l lower ih =>
    rw [List.mem_cons, not_or] at hlower
    cases name with
    | nil =>
      have hl : (l == (58 : UInt8)) = false := beq_eq_false_iff_ne.mpr (Ne.symm hlower.1)
      show ((l == (58 : UInt8)) && _) = false
      rw [hl, Bool.false_and]
    | cons b name =>
      rw [List.mem_cons, not_or] at hname
      show ((l == b) && (lower ++ [58]).isPrefixOf (name ++ 58 :: content)) = ((b == l) && (name == lower))
      rw [ih hlower.2 hname.2, BEq.comm]

/-- The letters of a name are no colon in lower case either. -/
theorem colon_notMem_toLower {name : List UInt8} (h : 58 ∉ name) : 58 ∉ name.map toLower := by
  rw [List.mem_map]
  rintro ⟨b, hb, heq⟩
  by_cases hupper : (decide (65 ≤ b) && decide (b ≤ 90)) = true
  · have hlower : toLower b = b + 32 := if_pos hupper
    simp only [Bool.and_eq_true, decide_eq_true_eq, UInt8.le_iff_toNat_le] at hupper
    rw [hlower, ← UInt8.toNat_inj, UInt8.toNat_add] at heq
    have : (58 : UInt8).toNat = 58 := rfl
    have : (32 : UInt8).toNat = 32 := rfl
    have : (90 : UInt8).toNat = 90 := rfl
    have : (65 : UInt8).toNat = 65 := rfl
    omega
  · have hsame : toLower b = b := if_neg hupper
    rw [hsame] at heq
    exact h (heq ▸ hb)

namespace HttpResponse

variable (response : HttpResponse)

theorem bytes_version : bytes "HTTP/1.1 " = [72, 84, 84, 80, 47, 49, 46, 49, 32] := by decide

theorem bytes_contentLength : bytes "content-length" = [99, 111, 110, 116, 101, 110, 116, 45, 108, 101, 110, 103, 116, 104] := by
  decide

theorem bytes_contentLength_colon : bytes "content-length:" = bytes "content-length" ++ [58] := by decide

theorem isLine_statusLine : IsLine response.statusLine := by
  have hcode : ∀ b ∈ response.code, b ≠ 10 ∧ b ≠ 13 := fun b hb =>
    let h := isTokenByte_ne (isDecimalDigit_ne (List.all_eq_true.mp response.code_digits.2.1 b hb))
    ⟨h.1, h.2.1⟩
  have hreason : ∀ b ∈ response.reason, b ≠ 10 ∧ b ≠ 13 := fun b hb =>
    isFieldByte_ne (List.all_eq_true.mp response.reason_field b hb)
  have hmem : ∀ b, b ∈ response.statusLine →
      b ∈ bytes "HTTP/1.1 " ∨ b ∈ response.code ∨ b = 32 ∨ b ∈ response.reason := by
    intro b hb
    rcases List.mem_append.mp hb with hb | hb
    · rcases List.mem_append.mp hb with hb | hb
      · exact .inl hb
      · exact .inr (.inl hb)
    · exact .inr (.inr (List.mem_cons.mp hb))
  refine ⟨?_, fun hb => ?_, fun hb => ?_⟩
  · unfold statusLine
    rw [bytes_version]
    exact List.cons_ne_nil _ _
  · rcases hmem _ hb with hb | hb | hb | hb
    · rw [bytes_version] at hb
      exact absurd hb (by decide)
    · exact (hcode _ hb).1 rfl
    · exact absurd hb (by decide)
    · exact (hreason _ hb).1 rfl
  · rcases hmem _ hb with hb | hb | hb | hb
    · rw [bytes_version] at hb
      exact absurd hb (by decide)
    · exact (hcode _ hb).2 rfl
    · exact absurd hb (by decide)
    · exact (hreason _ hb).2 rfl

theorem isLine_lines : ∀ line ∈ response.statusLine :: response.headers.map HeaderLine.text, IsLine line := by
  refine List.forall_mem_cons.mpr ⟨response.isLine_statusLine, fun line hline => ?_⟩
  obtain ⟨header, -, rfl⟩ := List.mem_map.mp hline
  exact header.isLine

theorem textLines_head : textLines response.head = response.statusLine :: response.headers.map HeaderLine.text :=
  textLines_joinLines response.isLine_lines (List.cons_ne_nil _ _)

theorem findHeaderEnd_render : findHeaderEnd response.render = some response.head.length :=
  position_joinLines response.isLine_lines (List.cons_ne_nil _ _) response.body

/-- The head is found in a part of the response as soon as it is complete. -/
theorem findHeaderEnd_take (n : Nat) : findHeaderEnd (response.render.take n) =
    if response.head.length + 4 ≤ n then some response.head.length else none :=
  position_take (by decide) response.findHeaderEnd_render n

theorem length_render : response.render.length = response.head.length + 4 + response.body.length := by
  unfold render
  rw [List.length_append, List.length_append]
  rfl

theorem take_head {n : Nat} (h : response.head.length ≤ n) : (response.render.take n).take response.head.length =
    response.head := by
  rw [List.take_take, Nat.min_eq_left h]
  unfold render
  rw [List.append_assoc, List.take_left]

/-! ## The status -/

/-- The word after the version. -/
theorem words_statusLine : (words response.statusLine)[1]? = some response.code := by
  have hcode : ∀ b ∈ response.code, isSpace b = false := fun b hb =>
    (isTokenByte_ne (isDecimalDigit_ne (List.all_eq_true.mp response.code_digits.2.1 b hb))).2.2.2.2
  have hne : response.code ≠ [] := by
    intro hnil
    have hlength := response.code_digits.1
    rw [hnil] at hlength
    cases hlength
  have hshape : response.statusLine =
      [72, 84, 84, 80, 47, 49, 46, 49] ++ 32 :: (response.code ++ 32 :: response.reason) := by
    unfold statusLine
    rw [bytes_version, List.append_assoc]
    rfl
  have hversion : ∀ b ∈ ([72, 84, 84, 80, 47, 49, 46, 49] : List UInt8), isSpace b = false := by
    simp only [List.forall_mem_cons]
    refine ⟨rfl, rfl, rfl, rfl, rfl, rfl, rfl, rfl, List.forall_mem_nil _⟩
  unfold words
  rw [hshape, List.splitOnP_append_cons_of_forall_mem hversion 32 (by decide),
    List.splitOnP_append_cons_of_forall_mem hcode 32 (by decide), List.filter_cons_of_pos (by decide),
    List.filter_cons_of_pos (p := fun piece => decide (piece ≠ [])) (decide_eq_true hne)]
  rfl

theorem status_bounds : 100 ≤ response.status ∧ response.status ≤ 999 := by
  obtain ⟨hlength, hdigits, hmin⟩ := response.code_digits
  have hmax := decimalValue_lt hdigits
  rw [hlength] at hmax
  exact ⟨hmin, Nat.le_of_lt_succ hmax⟩

theorem status_parsed : (words response.statusLine)[1]?.bind (parseUnsigned (2 ^ 16)) = some response.status := by
  have hmax := response.status_bounds.2
  have hne : response.code ≠ [] := by
    intro hnil
    have hlength := response.code_digits.1
    rw [hnil] at hlength
    cases hlength
  rw [words_statusLine]
  exact parseUnsigned_digits hne response.code_digits.2.1 (Nat.lt_of_le_of_lt hmax (by decide))

/-! ## The content length -/

/-- What the response declares. -/
def declared : Option Nat := if response.declaresLength then some response.body.length else none

theorem declared_eq {limit : Nat} (hlimit : response.body.length < limit) :
    (response.headers.filter (HeaderLine.named "content-length")).getLast?.bind
      (fun line => parseUnsigned limit (trim line.content)) = response.declared := by
  unfold declared declaresLength
  rcases response.framing with hnone | ⟨line, hone, hne, hdigits, hvalue⟩
  · have hany : response.headers.any (HeaderLine.named "content-length") = false := by
      rw [List.any_eq_false]
      exact List.filter_eq_nil_iff.mp hnone
    rw [hnone, hany]
    rfl
  · have hmem : line ∈ response.headers.filter (HeaderLine.named "content-length") := by
      rw [hone]
      exact List.mem_singleton_self _
    have hany : response.headers.any (HeaderLine.named "content-length") = true :=
      List.any_eq_true.mpr ⟨line, (List.mem_filter.mp hmem).1, (List.mem_filter.mp hmem).2⟩
    have hlast : [line].getLast? = some line := rfl
    rw [hone, hlast, Option.bind_some, hany, if_pos rfl, ← hvalue]
    exact parseUnsigned_digits hne hdigits (hvalue ▸ hlimit)

/-- A line starts with the name of the content length exactly if that is the name of its header. -/
theorem starts_contentLength (line : HeaderLine) :
    (bytes "content-length:").isPrefixOf (line.text.map toLower) = line.named "content-length" := by
  unfold HeaderLine.text HeaderLine.named isNamed
  rw [List.map_append, List.map_cons, bytes_contentLength_colon]
  exact isPrefixOf_colon (by rw [bytes_contentLength]; decide) (colon_notMem_toLower line.colon_notMem)

/-- The length the loop reads from the head is that of the body. -/
theorem headerContentLength_head (h : response.body.length < 2 ^ 64) :
    headerContentLength response.head = response.declared := by
  have hstatus : (bytes "content-length:").isPrefixOf (response.statusLine.map toLower) = false := by
    unfold statusLine
    rw [bytes_version, bytes_contentLength_colon, bytes_contentLength]
    rfl
  have hfind : (textLines response.head).find? (fun line => (bytes "content-length:").isPrefixOf (line.map toLower)) =
      (response.headers.find? (HeaderLine.named "content-length")).map HeaderLine.text := by
    rw [response.textLines_head, List.find?_cons_of_neg (by rw [hstatus]; exact Bool.false_ne_true), List.find?_map]
    congr 1
    exact congrArg (fun p => List.find? p response.headers) (funext starts_contentLength)
  have hdeclared := response.declared_eq h
  unfold headerContentLength
  rw [hfind, ← List.head?_filter]
  rcases response.framing with hnone | ⟨line, hone, hne, hdigits, hvalue⟩
  · rw [hnone] at hdeclared ⊢
    exact hdeclared
  · rw [hone] at hdeclared ⊢
    have hnamed : line.name.map toLower = bytes "content-length" := by
      have hmem : line ∈ response.headers.filter (HeaderLine.named "content-length") := by
        rw [hone]
        exact List.mem_singleton_self _
      exact beq_iff_eq.mp (List.mem_filter.mp hmem).2
    have hrest : (line.text.map toLower).drop (bytes "content-length:").length = line.content.map toLower := by
      unfold HeaderLine.text
      rw [List.map_append, List.map_cons, hnamed, bytes_contentLength_colon, bytes_contentLength]
      rfl
    have hsame : (trim line.content).map toLower = trim line.content := by
      have hid : ∀ b ∈ trim line.content, toLower b = id b := fun b hb =>
        toLower_digit (List.all_eq_true.mp hdigits b hb)
      rw [List.map_congr_left hid, List.map_id]
    rw [List.head?_cons, Option.map_some]
    dsimp only
    rw [hrest, trim_map_toLower, hsame]
    exact hdeclared

/-! ## The headers -/

/-- The fields of a head after some of its lines. -/
theorem foldl_readHeader (framing : List String) (lines : List HeaderLine) (fields : HeadFields) :
    (lines.map HeaderLine.text).foldl (readHeader framing) fields =
      ⟨fields.headers ++ (lines.filter (HeaderLine.outside ("content-length" :: framing))).map
          (fun line => (line.name, trim line.content)),
        match (lines.filter (HeaderLine.named "content-length")).getLast? with
        | none => fields.declaredLength
        | some line => parseUnsigned (2 ^ 64) (trim line.content)⟩ := by
  induction lines generalizing fields with
  | nil =>
    show fields = _
    rw [List.filter_nil, List.filter_nil, List.map_nil, List.append_nil]
    rfl
  | cons line lines ih =>
    have hread : readHeader framing fields line.text =
        if isNamed line.name "content-length" then
          { fields with declaredLength := parseUnsigned (2 ^ 64) (trim line.content) }
        else if framing.any (isNamed line.name) then fields
        else { fields with headers := fields.headers ++ [(line.name, trim line.content)] } := by
      unfold readHeader
      rw [line.splitColon_text]
      dsimp only
      rw [line.trim_name]
    rw [List.map_cons, List.foldl_cons, hread, ih]
    by_cases hlength : isNamed line.name "content-length" = true
    · have hnamed : line.named "content-length" = true := hlength
      have hdrop : ¬ line.outside ("content-length" :: framing) = true := by
        unfold HeaderLine.outside
        rw [List.any_cons, hlength, Bool.true_or]
        exact Bool.false_ne_true
      rw [if_pos hlength, List.filter_cons_of_neg hdrop, List.filter_cons_of_pos hnamed, List.getLast?_cons]
      congr 1
      cases (lines.filter (HeaderLine.named "content-length")).getLast? <;> rfl
    · have hnamed : ¬ line.named "content-length" = true := hlength
      rw [if_neg hlength, List.filter_cons_of_neg hnamed]
      by_cases hframing : framing.any (isNamed line.name) = true
      · have hdrop : ¬ line.outside ("content-length" :: framing) = true := by
          unfold HeaderLine.outside
          rw [List.any_cons, hframing, Bool.or_true]
          exact Bool.false_ne_true
        rw [if_pos hframing, List.filter_cons_of_neg hdrop]
      · have hkeep : line.outside ("content-length" :: framing) = true := by
          unfold HeaderLine.outside
          rw [List.any_cons, Bool.eq_false_iff.mpr hlength, Bool.eq_false_iff.mpr hframing]
          rfl
        rw [if_neg hframing, List.filter_cons_of_pos hkeep, List.map_cons]
        dsimp only
        rw [List.append_assoc, List.singleton_append]

/-- A header line is no status line. -/
theorem not_status (line : HeaderLine) : (bytes "HTTP/").isPrefixOf line.text = false := by
  have hslash : 47 ∉ line.name := fun hb =>
    (isTokenByte_ne (List.all_eq_true.mp line.name_token _ hb)).2.2.2.1 rfl
  have hhttp : bytes "HTTP/" = [72, 84, 84, 80, 47] := by decide
  rw [hhttp, Bool.eq_false_iff, ne_eq, List.isPrefixOf_iff_prefix]
  rintro ⟨rest, heq⟩
  unfold HeaderLine.text at heq
  rcases List.append_eq_append_iff.mp heq with ⟨tail, hname, -⟩ | ⟨tail, hhead, hrest⟩
  · rw [hname] at hslash
    exact hslash (List.mem_append_left _ (by decide))
  · cases tail with
    | nil =>
      rw [List.append_nil] at hhead
      rw [← hhead] at hslash
      exact hslash (by decide)
    | cons b tail =>
      obtain ⟨rfl, -⟩ := List.cons.inj hrest
      have hcolon : (58 : UInt8) ∈ [72, 84, 84, 80, 47] := hhead ▸ List.mem_append_right _ List.mem_cons_self
      exact absurd hcolon (by decide)

/-- The head of a tunnel after some of its header lines. -/
theorem foldl_readTunnelLine (lines : List HeaderLine) (head : TunnelHead) :
    (lines.map HeaderLine.text).foldl readTunnelLine head =
      { head with headers := head.headers ++ (lines.filter (HeaderLine.outside
        ["content-length", "transfer-encoding"])).map (fun line => (line.name, trim line.content)) } := by
  induction lines generalizing head with
  | nil =>
    show head = _
    rw [List.filter_nil, List.map_nil, List.append_nil]
  | cons line lines ih =>
    have hany : line.outside ["content-length", "transfer-encoding"] =
        !(isNamed line.name "content-length" || isNamed line.name "transfer-encoding") := by
      unfold HeaderLine.outside
      rw [List.any_cons, List.any_cons, List.any_nil, Bool.or_false]
    have hread : readTunnelLine head line.text =
        if (isNamed line.name "content-length" || isNamed line.name "transfer-encoding") = true then head
        else { head with headers := head.headers ++ [(line.name, trim line.content)] } := by
      unfold readTunnelLine
      rw [not_status, if_neg Bool.false_ne_true, line.splitColon_text]
      dsimp only
      rw [line.trim_name]
    rw [List.map_cons, List.foldl_cons, hread, ih]
    by_cases hframing : (isNamed line.name "content-length" || isNamed line.name "transfer-encoding") = true
    · have hdrop : ¬ line.outside ["content-length", "transfer-encoding"] = true := by
        rw [hany, hframing]
        exact Bool.false_ne_true
      rw [if_pos hframing, List.filter_cons_of_neg hdrop]
    · have hkeep : line.outside ["content-length", "transfer-encoding"] = true := by
        rw [hany, Bool.eq_false_iff.mpr hframing]
        rfl
      rw [if_neg hframing, List.filter_cons_of_pos hkeep, List.map_cons]
      dsimp only
      rw [List.append_assoc, List.singleton_append]

/-! ## A part of a response -/

variable {response} {builds : Nat → List (List UInt8 × List UInt8) → Bool} {reads : List (List UInt8)} {closed : Bool}

/-- The fields the head of a response gives. -/
theorem fields_head (h : response.body.length < 2 ^ 64) :
    (response.headers.map HeaderLine.text).foldl (readHeader ["transfer-encoding", "connection"]) ⟨[], none⟩ =
      ⟨response.headersWithout ["content-length", "transfer-encoding", "connection"], response.declared⟩ := by
  rw [foldl_readHeader, ← response.declared_eq h]
  dsimp only
  rw [List.nil_append]
  congr 1
  cases (response.headers.filter (HeaderLine.named "content-length")).getLast? <;> rfl

/-- A part with the whole head gives its status and headers, and the part of the body that is there. -/
theorem respond_take {n : Nat} (hn : response.head.length + 4 ≤ n) (h : response.body.length < 2 ^ 64)
    (hbuilds : builds response.status
      (response.headersWithout ["content-length", "transfer-encoding", "connection"]) = true) :
    respond builds (response.render.take n) =
      match (match response.declared with
        | none => some (response.render.take n).length
        | some length =>
          if response.head.length + 4 + length ≤ (response.render.take n).length then
            some (response.head.length + 4 + length)
          else none) with
      | none => .failed "sandbox response body is shorter than its content-length"
      | some stop => .responded response.status
          (response.headersWithout ["content-length", "transfer-encoding", "connection"])
          (((response.render.take n).take stop).drop (response.head.length + 4)) := by
  unfold respond
  rw [findHeaderEnd_take, if_pos hn]
  dsimp only
  rw [take_head response (by omega), textLines_head]
  dsimp only
  rw [status_parsed]
  dsimp only
  rw [if_neg (not_not.mpr response.status_bounds), fields_head h]
  dsimp only
  rw [hbuilds]
  rfl

theorem drop_render : response.render.drop (response.head.length + 4) = response.body := by
  have hlength : (response.head ++ headerTerminator).length = response.head.length + 4 := List.length_append
  unfold render
  rw [← hlength, List.drop_left]

/-- The whole response gives all of it. -/
theorem respond_render (h : response.body.length < 2 ^ 64) (hbuilds : builds response.status
    (response.headersWithout ["content-length", "transfer-encoding", "connection"]) = true) :
    respond builds response.render = .responded response.status
      (response.headersWithout ["content-length", "transfer-encoding", "connection"]) response.body := by
  have hlength := response.length_render
  have hwhole : response.render.take response.render.length = response.render := List.take_length
  have hrespond := respond_take (n := response.render.length) (by omega) h hbuilds
  rw [hwhole] at hrespond
  rw [hrespond]
  unfold declared
  by_cases hdeclares : response.declaresLength = true
  · rw [if_pos hdeclares]
    dsimp only
    rw [if_pos (by omega)]
    dsimp only
    rw [← hlength, hwhole, drop_render]
  · rw [if_neg hdeclares]
    dsimp only
    rw [hwhole, drop_render]

/-- A part with the whole head and not the whole body is refused if the response declares its length. -/
theorem respond_cut {n : Nat} (hn : response.head.length + 4 ≤ n) (hless : n < response.render.length)
    (h : response.body.length < 2 ^ 64) (hdeclares : response.declaresLength = true)
    (hbuilds : builds response.status
      (response.headersWithout ["content-length", "transfer-encoding", "connection"]) = true) :
    respond builds (response.render.take n) =
      .failed "sandbox response body is shorter than its content-length" := by
  have hlength := response.length_render
  have hshort : ¬ response.head.length + 4 + response.body.length ≤ (response.render.take n).length := by
    rw [List.length_take]
    omega
  rw [respond_take hn h hbuilds]
  unfold declared
  rw [if_pos hdeclares]
  dsimp only
  rw [if_neg hshort]

/-- A part is complete for the loop if it has the head, and of the body all but the length of the terminator. -/
theorem isComplete_take {n : Nat} (hn : n ≤ response.render.length) (h : response.body.length < 2 ^ 64) :
    isComplete (response.render.take n) = true ↔ response.declaresLength = true ∧ response.head.length + 4 ≤ n ∧
      response.head.length + response.body.length ≤ n := by
  unfold isComplete
  rw [findHeaderEnd_take]
  by_cases hhead : response.head.length + 4 ≤ n
  · rw [if_pos hhead]
    dsimp only
    rw [take_head response (by omega), headerContentLength_head response h, List.length_take, Nat.min_eq_left hn]
    unfold declared
    by_cases hdeclares : response.declaresLength = true
    · rw [if_pos hdeclares]
      dsimp only
      rw [decide_eq_true_eq]
      exact ⟨fun hle => ⟨hdeclares, hhead, hle⟩, fun hall => hall.2.2⟩
    · rw [if_neg hdeclares]
      exact ⟨fun hfalse => (nomatch hfalse), fun hall => absurd hall.1 hdeclares⟩
  · rw [if_neg hhead]
    exact ⟨fun hfalse => (nomatch hfalse), fun hall => absurd hall.2.1 hhead⟩

/-! ## The reads -/

namespace ReadAs

theorem length_body (h : response.ReadAs reads closed) : response.body.length < 2 ^ 64 := by
  have hlength := response.length_render
  have hbudget := h.budget
  have hsmall : sandboxMaxBodyBytes < 2 ^ 64 := by decide
  omega

theorem reads_ne_nil (h : response.ReadAs reads closed) : reads ≠ [] := by
  rintro rfl
  have hlength := response.length_render
  have hflatten := congrArg List.length h.flatten
  rw [List.flatten_nil, List.length_nil] at hflatten
  omega

/-- The bytes of the first reads are a part of the response. -/
theorem flatten_take (h : response.ReadAs reads closed) {first rest : List (List UInt8)} (hreads : reads = first ++ rest) :
    first.flatten = response.render.take first.flatten.length ∧ first.flatten.length ≤ response.render.length := by
  have hwhole : first.flatten ++ rest.flatten = response.render := by
    rw [← List.flatten_append, ← hreads]
    exact h.flatten
  rw [← hwhole, List.take_left, List.length_append]
  exact ⟨rfl, Nat.le_add_right _ _⟩

/-- Reads before others are not all of the response. -/
theorem before_lt (h : response.ReadAs reads closed) {first : List (List UInt8)} (hbefore : Before reads first) :
    first.flatten.length < response.render.length := by
  obtain ⟨rest, hrest, rfl⟩ := hbefore
  obtain ⟨chunk, chunks, rfl⟩ := List.exists_cons_of_ne_nil hrest
  have hchunk := List.length_pos_iff.mpr
    (h.nonempty chunk (List.mem_append_right _ List.mem_cons_self))
  rw [← h.flatten, List.flatten_append, List.length_append, List.flatten_cons, List.length_append]
  omega

end ReadAs

/-- Within the budget, the loop reads until the buffer is complete, or to the end. -/
theorem fill_eq_readUntil (closed : Bool) {buffer : List UInt8}
    (hbudget : (buffer ++ reads.flatten).length ≤ sandboxMaxBodyBytes) :
    fill closed buffer reads =
      match readUntil isComplete buffer reads with
      | some stopped => .filled stopped
      | none => if closed then .filled (buffer ++ reads.flatten) else .waits := by
  induction reads generalizing buffer with
  | nil =>
    rw [List.flatten_nil, List.append_nil]
    rfl
  | cons chunk chunks ih =>
    rw [List.flatten_cons, ← List.append_assoc] at hbudget ⊢
    have hsmall : ¬ sandboxMaxBodyBytes < (buffer ++ chunk).length := by
      rw [List.length_append] at hbudget
      omega
    unfold fill readUntil
    dsimp only
    rw [if_neg hsmall]
    by_cases hcomplete : isComplete (buffer ++ chunk) = true
    · rw [if_pos hcomplete, if_pos hcomplete]
    · rw [if_neg hcomplete, if_neg hcomplete, ih hbudget]

/-- A response of a sandbox comes through as it is exactly if no read but the last ends the loop. -/
theorem sandboxExchange_eq (h : response.ReadAs reads closed) (hbuilds : builds response.status
    (response.headersWithout ["content-length", "transfer-encoding", "connection"]) = true) :
    sandboxExchange builds closed reads = .responded response.status
        (response.headersWithout ["content-length", "transfer-encoding", "connection"]) response.body ↔
      ¬ response.CutAtEnd reads := by
  have hbody := h.length_body
  have hlength := response.length_render
  have hall : [] ++ reads.flatten = response.render := h.flatten
  have hwhole : response.render.take response.render.length = response.render := List.take_length
  unfold sandboxExchange
  rw [fill_eq_readUntil closed (hall ▸ h.budget), hall]
  by_cases hdeclares : response.declaresLength = true
  · have hcomplete : isComplete ([] ++ reads.flatten) = true := by
      rw [hall, ← hwhole]
      exact (isComplete_take (Nat.le_refl _) hbody).mpr ⟨hdeclares, by omega, by omega⟩
    have hiff := readUntil_eq_flatten h.nonempty h.reads_ne_nil hcomplete
    obtain ⟨stopped, hstopped⟩ := Option.isSome_iff_exists.mp (readUntil_isSome h.reads_ne_nil hcomplete)
    obtain ⟨hstop, first, rest, hreads, hfirst⟩ := readUntil_eq_some hstopped
    rw [List.nil_append] at hfirst
    obtain ⟨htake, hle⟩ := h.flatten_take hreads
    rw [hstopped]
    dsimp only
    constructor
    · rintro hresponded ⟨-, cut, hcut, hhead, hend⟩
      have hsome : readUntil isComplete [] reads = some ([] ++ reads.flatten) := by
        by_cases hless : first.flatten.length < response.render.length
        · have hcuts : response.head.length + 4 ≤ first.flatten.length := by
            rw [hfirst, htake] at hstop
            exact ((isComplete_take hle hbody).mp hstop).2.1
          rw [hfirst, htake, respond_cut hcuts hless hbody hdeclares hbuilds] at hresponded
          cases hresponded
        · rw [hstopped, hall, hfirst, htake, Nat.le_antisymm hle (Nat.le_of_not_lt hless), hwhole]
      have hcutne : cut ≠ [] := by
        rintro rfl
        rw [List.flatten_nil, List.length_nil] at hhead
        omega
      have hfalse := hiff.mp hsome cut hcutne hcut
      obtain ⟨rest', -, hcutreads⟩ := hcut
      obtain ⟨hcuttake, hcutle⟩ := h.flatten_take hcutreads
      rw [List.nil_append, hcuttake, (isComplete_take hcutle hbody).mpr ⟨hdeclares, hhead, hend⟩] at hfalse
      cases hfalse
    · intro hnocut
      have hsome := hiff.mpr fun cut hcutne hcut => by
        have hlt := h.before_lt hcut
        have hcutreads := hcut
        obtain ⟨rest', -, hcutreads⟩ := hcutreads
        obtain ⟨hcuttake, hcutle⟩ := h.flatten_take hcutreads
        rw [List.nil_append, hcuttake, Bool.eq_false_iff]
        intro htrue
        obtain ⟨-, hhead, hend⟩ := (isComplete_take hcutle hbody).mp htrue
        exact hnocut ⟨hdeclares, cut, hcut, hhead, hend⟩
      rw [hstopped, hall] at hsome
      rw [Option.some.inj hsome]
      exact respond_render hbody hbuilds
  · have hnone : readUntil isComplete [] reads = none := by
      cases hread : readUntil isComplete [] reads with
      | none => rfl
      | some stopped =>
        obtain ⟨hstop, first, rest, hreads, hfirst⟩ := readUntil_eq_some hread
        obtain ⟨htake, hle⟩ := h.flatten_take hreads
        rw [hfirst, List.nil_append, htake] at hstop
        exact absurd ((isComplete_take hle hbody).mp hstop).1 hdeclares
    have hclosed : closed = true := h.closed.resolve_left hdeclares
    rw [hnone, hclosed, if_pos rfl]
    dsimp only
    refine ⟨fun _ hcut => hdeclares hcut.1, fun _ => respond_render hbody hbuilds⟩

/-! ## The tunnel -/

/-- The response of a tunnel at the end of the head, with what is there of the body. -/
theorem tunnelRespond_take {n : Nat} (hn : response.head.length + 4 ≤ n) (hstatus : response.status ≠ 101)
    (hbuilds : builds response.status (response.headersWithout ["content-length", "transfer-encoding"]) = true) :
    tunnelRespond builds (response.render.take n) = .responded response.status
      (response.headersWithout ["content-length", "transfer-encoding"])
      ((response.render.take n).drop (response.head.length + 4)) := by
  have hlines : (response.statusLine :: response.headers.map HeaderLine.text).filter (· ≠ []) =
      response.statusLine :: response.headers.map HeaderLine.text :=
    List.filter_eq_self.mpr fun line hline => decide_eq_true (response.isLine_lines line hline).ne_nil
  have hline : readTunnelLine ⟨none, []⟩ response.statusLine = ⟨some response.status, []⟩ := by
    have hstart : (bytes "HTTP/").isPrefixOf response.statusLine = true := by
      have hhttp : bytes "HTTP/" = [72, 84, 84, 80, 47] := by decide
      unfold statusLine
      rw [hhttp, bytes_version]
      rfl
    unfold readTunnelLine
    rw [hstart, if_pos rfl, status_parsed]
  have hhead : ((response.statusLine :: response.headers.map HeaderLine.text).filter (· ≠ [])).foldl readTunnelLine
      ⟨none, []⟩ =
        ⟨some response.status, response.headersWithout ["content-length", "transfer-encoding"]⟩ := by
    rw [hlines, List.foldl_cons, hline, foldl_readTunnelLine]
    dsimp only
    rw [List.nil_append]
    rfl
  obtain ⟨hmin, hmax⟩ := response.status_bounds
  unfold tunnelRespond
  rw [findHeaderEnd_take, if_pos hn]
  dsimp only
  rw [take_head response (by omega), textLines_head, hhead]
  dsimp only
  rw [if_neg (fun heq => hstatus (Option.some.inj heq)), Option.getD_some, decide_eq_true hmin, decide_eq_true hmax,
    hbuilds]
  rfl

/-- A response without a tunnel comes through as it is exactly if the read that completes the head is the last. -/
theorem upgradeTunnel_eq (h : response.ReadAs reads closed) (hstatus : response.status ≠ 101)
    (hbuilds : builds response.status (response.headersWithout ["content-length", "transfer-encoding"]) = true) :
    upgradeTunnel builds closed reads = .responded response.status
        (response.headersWithout ["content-length", "transfer-encoding"]) response.body ↔
      ¬ response.CutInBody reads := by
  have hlength := response.length_render
  have hall : [] ++ reads.flatten = response.render := h.flatten
  have hwhole : response.render.take response.render.length = response.render := List.take_length
  have hfound : ∀ {n : Nat}, headComplete (response.render.take n) = true ↔ response.head.length + 4 ≤ n := by
    intro n
    unfold headComplete
    rw [findHeaderEnd_take]
    by_cases hn : response.head.length + 4 ≤ n
    · rw [if_pos hn]
      exact ⟨fun _ => hn, fun _ => rfl⟩
    · rw [if_neg hn]
      exact ⟨fun hnone => (nomatch hnone), fun hle => absurd hle hn⟩
  have hcomplete : headComplete ([] ++ reads.flatten) = true := by
    unfold headComplete
    rw [hall, findHeaderEnd_render]
    rfl
  have hiff := readUntil_eq_flatten h.nonempty h.reads_ne_nil hcomplete
  obtain ⟨stopped, hstopped⟩ := Option.isSome_iff_exists.mp (readUntil_isSome h.reads_ne_nil hcomplete)
  obtain ⟨hstop, first, rest, hreads, hfirst⟩ := readUntil_eq_some hstopped
  rw [List.nil_append] at hfirst
  obtain ⟨htake, hle⟩ := h.flatten_take hreads
  rw [hfirst, htake] at hstop
  have hhead := hfound.mp hstop
  unfold upgradeTunnel
  rw [hstopped]
  dsimp only
  rw [hfirst, htake, tunnelRespond_take hhead hstatus hbuilds]
  constructor
  · rintro hresponded ⟨cut, hcut, hcuthead⟩
    have hbody : (response.render.take first.flatten.length).drop (response.head.length + 4) = response.body := by
      injection hresponded
    have hlen := congrArg List.length hbody
    rw [List.length_drop, List.length_take] at hlen
    have hsome : readUntil headComplete [] reads = some ([] ++ reads.flatten) := by
      rw [hstopped, hall, hfirst, htake, show first.flatten.length = response.render.length by omega, hwhole]
    have hcutne : cut ≠ [] := by
      rintro rfl
      rw [List.flatten_nil, List.length_nil] at hcuthead
      omega
    have hfalse := hiff.mp hsome cut hcutne hcut
    obtain ⟨rest', -, hcutreads⟩ := hcut
    obtain ⟨hcuttake, -⟩ := h.flatten_take hcutreads
    rw [List.nil_append, hcuttake, hfound.mpr hcuthead] at hfalse
    cases hfalse
  · intro hnocut
    have hsome := hiff.mpr fun cut hcutne hcut => by
      have hcutreads := hcut
      obtain ⟨rest', -, hcutreads⟩ := hcutreads
      obtain ⟨hcuttake, -⟩ := h.flatten_take hcutreads
      rw [List.nil_append, hcuttake, Bool.eq_false_iff]
      exact fun htrue => hnocut ⟨cut, hcut, hfound.mp htrue⟩
    rw [hstopped, hall, hfirst] at hsome
    rw [← htake, Option.some.inj hsome, drop_render]

end HttpResponse

/-- For every response and every way of reading it: the response of a sandbox comes through as it is if and only if no
read but the last ends where the head is complete and at most four bytes of the declared body are missing, and one to
an upgrade request if and only if no read but the last ends where the head is complete. -/
theorem response_whole_iff (response : HttpResponse) (builds : Nat → List (List UInt8 × List UInt8) → Bool)
    (reads : List (List UInt8)) (closed : Bool) (h : response.ReadAs reads closed) :
    (builds response.status (response.headersWithout ["content-length", "transfer-encoding", "connection"]) = true →
      (sandboxExchange builds closed reads = .responded response.status
        (response.headersWithout ["content-length", "transfer-encoding", "connection"]) response.body ↔
          ¬ response.CutAtEnd reads)) ∧
    (response.status ≠ 101 →
      builds response.status (response.headersWithout ["content-length", "transfer-encoding"]) = true →
      (upgradeTunnel builds closed reads = .responded response.status
        (response.headersWithout ["content-length", "transfer-encoding"]) response.body ↔
          ¬ response.CutInBody reads)) :=
  ⟨HttpResponse.sandboxExchange_eq h, HttpResponse.upgradeTunnel_eq h⟩

/-- A response with a body of two bytes. -/
def shortResponse : HttpResponse where
  code := [50, 48, 48]
  reason := [79, 75]
  headers := [⟨[67, 111, 110, 116, 101, 110, 116, 45, 76, 101, 110, 103, 116, 104], [32, 50], by decide, by decide +kernel,
    by decide⟩]
  body := [104, 105]
  code_digits := by decide
  reason_field := by decide
  framing := .inr ⟨_, rfl, by decide, by decide, by decide⟩

theorem shortResponse_readAs {reads : List (List UInt8)} (hnonempty : ∀ chunk ∈ reads, chunk ≠ [])
    (hflatten : reads.flatten = shortResponse.render) : shortResponse.ReadAs reads false :=
  ⟨hnonempty, hflatten, .inl (by decide +kernel), by decide +kernel⟩

theorem response_whole_iff_one_read :
    (sandboxExchange (fun _ _ => true) false [shortResponse.render] = .responded 200 [] [104, 105] ↔
        ¬ shortResponse.CutAtEnd [shortResponse.render]) ∧
      (upgradeTunnel (fun _ _ => true) false [shortResponse.render] = .responded 200 [] [104, 105] ↔
        ¬ shortResponse.CutInBody [shortResponse.render]) := by
  have hreads : shortResponse.ReadAs [shortResponse.render] false := shortResponse_readAs (by decide +kernel) (by decide +kernel)
  obtain ⟨hsandbox, htunnel⟩ := response_whole_iff shortResponse (fun _ _ => true) _ false hreads
  exact ⟨hsandbox rfl, htunnel (by decide +kernel) rfl⟩

/-- The head in one read and the body in the next: an error from the sandbox, and no body from the tunnel. -/
theorem response_cut_after_head :
    shortResponse.ReadAs [shortResponse.head ++ headerTerminator, [104, 105]] false ∧
      sandboxExchange (fun _ _ => true) false [shortResponse.head ++ headerTerminator, [104, 105]] =
        .failed "sandbox response body is shorter than its content-length" ∧
      upgradeTunnel (fun _ _ => true) false [shortResponse.head ++ headerTerminator, [104, 105]] =
        .responded 200 [] [] :=
  ⟨shortResponse_readAs (by decide +kernel) (by decide +kernel), by decide +kernel, by decide +kernel⟩

end Ingress

end Iweb
