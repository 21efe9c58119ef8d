import Iweb.HostServices.SqliteLexer
import Mathlib.Data.List.TakeWhile

/-!
# The gate sees the tokens SQLite reads

A statement without the texts that the two lexers read differently has the same tokens for both. The proof
follows the gate's lexer: each of its steps is a step of SQLite's, or part of one that reads a run of white
space or an operator of several characters.
-/

namespace Iweb

namespace SqliteToken

open SqlToken (isWhitespace isWordStart isWordChar isHexDigit isHexMark isPunct isNumberStart dropDigits afterFraction
  afterExponent afterQuote splitAtByte afterComment afterNewline)

/-! ## Classes of bytes -/

/-- What the bytes are for both lexers: white space, the starts of words and numbers, the classes of bytes that
contain one another, and the starts of tokens. -/
theorem byte_classes : ∀ b : UInt8,
    ((isWhitespace b = true → isSpace b = true) ∧ (isWhitespace b = true → b ≠ verticalTab → charClass b = .space) ∧
      (isWhitespace b = false → isSpace b = false)) ∧
    ((isHexMark b = true → charClass b = .x) ∧
      (isWordStart b = true → isHexMark b = false → charClass b = .identifier) ∧
      (isDecimalDigit b = true → charClass b = .digit) ∧
      (b.toNat < 128 → b ≠ ascii '$' → isWordChar b = false → isIdChar b = false)) ∧
    ((isDecimalDigit b = true → isWordChar b = true) ∧ (isDecimalDigit b = true → isHexDigit b = true) ∧
      (isHexMark b = true → isWordStart b = true) ∧ (isWordChar b = true → isIdChar b = true)) ∧
    ((isWhitespace b || isHexMark b || isDecimalDigit b || isWordStart b) = true → b.toNat < 128 ∧ b ≠ ascii '$') := by
  intro b
  refine ⟨?_, ?_, ?_, ?_⟩ <;> revert b <;> exact forall_byte (by decide +kernel)

theorem isSpace_of_isWhitespace (b : UInt8) : isWhitespace b = true → isSpace b = true := (byte_classes b).1.1

theorem charClass_of_isWhitespace (b : UInt8) : isWhitespace b = true → b ≠ verticalTab → charClass b = .space :=
  (byte_classes b).1.2.1

theorem isSpace_eq_false (b : UInt8) : isWhitespace b = false → isSpace b = false := (byte_classes b).1.2.2

theorem charClass_of_isHexMark (b : UInt8) : isHexMark b = true → charClass b = .x := (byte_classes b).2.1.1

theorem charClass_of_isWordStart (b : UInt8) : isWordStart b = true → isHexMark b = false → charClass b = .identifier :=
  (byte_classes b).2.1.2.1

theorem charClass_of_isDecimalDigit (b : UInt8) : isDecimalDigit b = true → charClass b = .digit :=
  (byte_classes b).2.1.2.2.1

/-- A byte at which a token of the gate starts is no byte of an identifier, unless it starts a word or a
number. -/
theorem isIdChar_eq_false (b : UInt8) : b.toNat < 128 → b ≠ ascii '$' → isWordChar b = false → isIdChar b = false :=
  (byte_classes b).2.1.2.2.2

/-- The classes of bytes that contain one another. -/
theorem word_byte (b : UInt8) : (isDecimalDigit b = true → isWordChar b = true) ∧
    (isDecimalDigit b = true → isHexDigit b = true) ∧ (isHexMark b = true → isWordStart b = true) ∧
    (isWordChar b = true → isIdChar b = true) :=
  (byte_classes b).2.2.1

/-- An ASCII byte that is not the start of a named parameter. -/
structure StartsToken (b : UInt8) : Prop where
  isAscii : b.toNat < 128
  ne_dollar : b ≠ ascii '$'

theorem forall_punct {P : UInt8 → Prop} (h : ∀ b ∈ bytes "(),.*+-/%=<>!~&|^", P b) (b : UInt8) (hb : isPunct b = true) :
    P b :=
  h b (List.contains_iff_mem.mp hb)

/-- What the punctuation marks of the gate are for SQLite. -/
theorem punct_classes : ∀ b : UInt8, isPunct b = true →
    (b ≠ ascii '^' → b ≠ ascii '!' → operators.contains [b] = true) ∧
    (b ≠ ascii '^' → (charClass b = .minus ∧ b = ascii '-') ∨ (charClass b = .slash ∧ b = ascii '/') ∨
      (charClass b = .dot ∧ b = ascii '.') ∨ charClass b = .operator) ∧
    b.toNat < 128 ∧ b ≠ ascii '$' :=
  forall_punct (by decide +kernel)

/-- Every punctuation mark of the gate but two is an operator. -/
theorem contains_operators (b : UInt8) (h : isPunct b = true) :
    b ≠ ascii '^' → b ≠ ascii '!' → operators.contains [b] = true :=
  (punct_classes b h).1

theorem charClass_of_isPunct (b : UInt8) (h : isPunct b = true) : b ≠ ascii '^' →
    (charClass b = .minus ∧ b = ascii '-') ∨ (charClass b = .slash ∧ b = ascii '/') ∨
      (charClass b = .dot ∧ b = ascii '.') ∨ charClass b = .operator :=
  (punct_classes b h).2.1

/-- The bytes that continue an operator are punctuation marks of the gate wherever they stand. -/
def continuesOperator (b : UInt8) : Bool := (bytes "><=|").contains b

theorem bytes_marks : bytes "><=|" = [ascii '>', ascii '<', ascii '=', ascii '|'] := by decide +kernel

theorem operators_tail : ∀ text ∈ operators, text ≠ [] ∧ text.tail.all continuesOperator = true := by
  unfold continuesOperator
  rw [bytes_marks]
  decide

/-- A punctuation mark that starts no comment, number, word or white space, and that both lexers read. -/
structure IsPlain (b : UInt8) : Prop where
  not_space : isWhitespace b = false
  isPunct : SqlToken.isPunct b = true
  ne_minus : b ≠ ascii '-'
  ne_slash : b ≠ ascii '/'
  ne_dot : b ≠ ascii '.'
  ne_bang : b ≠ ascii '!'
  ne_caret : b ≠ ascii '^'
  ne_zero : b ≠ ascii '0'
  not_digit : isDecimalDigit b = false
  not_word : isWordStart b = false

theorem isPlain_of_continuesOperator (b : UInt8) (hb : continuesOperator b = true) : IsPlain b := by
  have hall : ∀ b ∈ bytes "><=|", isWhitespace b = false ∧ isPunct b = true ∧ b ≠ ascii '-' ∧ b ≠ ascii '/' ∧
      b ≠ ascii '.' ∧ b ≠ ascii '!' ∧ b ≠ ascii '^' ∧ b ≠ ascii '0' ∧ isDecimalDigit b = false ∧
      isWordStart b = false := by
    rw [bytes_marks]
    simp only [List.forall_mem_cons, List.not_mem_nil, false_implies, implies_true, and_true]
    decide
  obtain ⟨h1, h2, h3, h4, h5, h6, h7, h8, h9, h10⟩ := hall b (List.contains_iff_mem.mp hb)
  exact ⟨h1, h2, h3, h4, h5, h6, h7, h8, h9, h10⟩

/-! ## The text that is left -/

theorem startsToken_of_class (b : UInt8) (h : (isWhitespace b || isHexMark b || isDecimalDigit b || isWordStart b) = true) :
    StartsToken b := by
  obtain ⟨hascii, hdollar⟩ := (byte_classes b).2.2.2 h
  exact ⟨hascii, hdollar⟩

theorem startsToken_of_isPunct (b : UInt8) (h : isPunct b = true) : StartsToken b := by
  obtain ⟨hascii, hdollar⟩ := (punct_classes b h).2.2
  exact ⟨hascii, hdollar⟩

/-- A token of the gate starts with an ASCII byte that is not the start of a named parameter. -/
theorem ascii_of_step {byte : UInt8} {rest : List UInt8} {tokens : List SqlToken} {rest' : List UInt8}
    (h : SqlToken.Step byte rest tokens rest') : StartsToken byte := by
  cases h with
  | whitespace h => exact startsToken_of_class byte (by rw [h]; rfl)
  | lineComment hbyte => exact hbyte ▸ startsToken_of_isPunct _ (by decide)
  | blockComment hbyte => exact hbyte ▸ startsToken_of_isPunct _ (by decide)
  | string hbyte => exact hbyte ▸ ⟨by decide, by decide⟩
  | blob hbyte => exact startsToken_of_class byte (by rw [hbyte, Bool.or_true]; rfl)
  | quoted hbyte => rcases hbyte with rfl | rfl <;> exact ⟨by decide, by decide⟩
  | bracket hbyte => exact hbyte ▸ ⟨by decide, by decide⟩
  | bareParameter hbyte => exact hbyte ▸ ⟨by decide, by decide⟩
  | parameter hbyte => exact hbyte ▸ ⟨by decide, by decide⟩
  | semicolon hbyte => exact hbyte ▸ ⟨by decide, by decide⟩
  | number hnumber =>
    unfold isNumberStart at hnumber
    rcases Bool.or_eq_true_iff.mp hnumber with h | h
    · exact startsToken_of_class byte (by rw [h, Bool.or_true]; rfl)
    · exact beq_iff_eq.mp (Bool.and_eq_true_iff.mp h).1 ▸ startsToken_of_isPunct _ (by decide)
  | word _ h => exact startsToken_of_class byte (by rw [h, Bool.or_true])
  | punct _ _ _ h => exact startsToken_of_isPunct byte h

/-- The text after a token of the gate does not continue an identifier, unless it starts with a byte of a
word. -/
theorem any_isIdChar_eq_false {rest : List UInt8} {more : List SqlToken} (hmore : SqlToken.lexer.scan rest = .ok more)
    (h : rest.head?.any isWordChar = false) : rest.head?.any isIdChar = false := by
  cases rest with
  | nil => rfl
  | cons b tail =>
    obtain ⟨first, rest', _, hnext, -, -⟩ := Lexer.scan_cons_eq_ok hmore
    obtain ⟨hascii, hdollar⟩ := ascii_of_step (SqlToken.step_of_next hnext)
    rw [List.head?_cons, Option.any_some] at h ⊢
    exact isIdChar_eq_false b hascii hdollar h

/-- A byte outside a class is outside each smaller class. -/
theorem any_eq_false_of_imp {p q : UInt8 → Bool} (hpq : ∀ b, p b = true → q b = true) {o : Option UInt8}
    (h : o.any q = false) : o.any p = false := by
  cases o with
  | none => rfl
  | some b =>
    rw [Option.any_some] at h ⊢
    rw [Bool.eq_false_iff] at h ⊢
    exact fun hb => h (hpq b hb)

/-- What follows a run does not start with a byte of its class. -/
theorem any_head?_dropWhile (p : UInt8 → Bool) (l : List UInt8) : (l.dropWhile p).head?.any p = false := by
  induction l with
  | nil => rfl
  | cons b l ih =>
    by_cases hb : p b = true
    · rw [List.dropWhile_cons_of_pos hb]
      exact ih
    · rw [List.dropWhile_cons_of_neg hb, List.head?_cons, Option.any_some]
      exact Bool.eq_false_iff.mpr hb

/-- A run ends where a smaller class of bytes ends, if the next byte is in neither. -/
theorem takeWhile_eq_of_head {p q : UInt8 → Bool} (hpq : ∀ b, p b = true → q b = true) {l : List UInt8}
    (h : (l.dropWhile p).head?.any q = false) : l.takeWhile q = l.takeWhile p ∧ l.dropWhile q = l.dropWhile p := by
  induction l with
  | nil => exact ⟨rfl, rfl⟩
  | cons b l ih =>
    by_cases hb : p b = true
    · rw [List.dropWhile_cons_of_pos hb] at h ⊢
      rw [List.takeWhile_cons_of_pos hb, List.takeWhile_cons_of_pos (hpq b hb),
        List.dropWhile_cons_of_pos (hpq b hb), (ih h).1, (ih h).2]
      exact ⟨rfl, rfl⟩
    · rw [List.dropWhile_cons_of_neg hb] at h ⊢
      have hq : ¬ q b = true := by simpa using h
      rw [List.takeWhile_cons_of_neg hb, List.takeWhile_cons_of_neg hq, List.dropWhile_cons_of_neg hq]
      exact ⟨rfl, rfl⟩

/-- A comment in which none opens before it closes ends for both lexers at the same mark. -/
theorem afterFirstClose_eq {bs rest : List UInt8} (hnested : opensNested bs = false)
    (h : afterComment 1 bs = some rest) : afterFirstClose bs = rest := by
  induction bs using opensNested.induct with
  | case1 => cases h
  | case2 => cases h
  | case3 a b tail hopen =>
    rw [opensNested, if_pos hopen] at hnested
    cases hnested
  | case4 a b tail hopen hclose =>
    rw [afterComment, if_neg hopen, if_pos hclose, if_pos rfl] at h
    rw [afterFirstClose, if_pos hclose]
    exact Option.some.inj h
  | case5 a b tail hopen hclose ih =>
    rw [opensNested, if_neg hopen, if_neg hclose] at hnested
    rw [afterComment, if_neg hopen, if_neg hclose] at h
    rw [afterFirstClose, if_neg hclose]
    exact ih hnested h

/-- A line comment ends before its newline for SQLite and after it for the gate. -/
theorem dropWhile_newline (bs : List UInt8) :
    (bs.dropWhile (· != ascii '\n') = [] ∧ afterNewline bs = []) ∨
      bs.dropWhile (· != ascii '\n') = ascii '\n' :: afterNewline bs := by
  induction bs with
  | nil => exact .inl ⟨rfl, rfl⟩
  | cons b rest ih =>
    unfold afterNewline
    by_cases hb : b = ascii '\n'
    · subst hb
      exact .inr (by rw [List.dropWhile_cons_of_neg (by simp), if_pos rfl])
    · rw [List.dropWhile_cons_of_pos (by simpa using hb), if_neg hb]
      exact ih

/-- The digits of a blob literal end at its closing quote. -/
theorem takeWhile_isHexDigit {bs hex rest : List UInt8} (h : splitAtByte (ascii '\'') bs = some (hex, rest))
    (hhex : hex.all isHexDigit = true) :
    bs.takeWhile isHexDigit = hex ∧ bs.dropWhile isHexDigit = ascii '\'' :: rest := by
  induction bs generalizing hex with
  | nil => cases h
  | cons b bs ih =>
    unfold splitAtByte at h
    split at h
    · rename_i hb
      cases h
      subst hb
      exact ⟨rfl, rfl⟩
    · obtain ⟨⟨hex', rest'⟩, hsplit, heq⟩ := Option.map_eq_some_iff.mp h
      cases heq
      rw [List.all_cons, Bool.and_eq_true] at hhex
      obtain ⟨htake, hdrop⟩ := ih hsplit hhex.2
      rw [List.takeWhile_cons_of_pos hhex.1, List.dropWhile_cons_of_pos hhex.1, htake, hdrop]
      exact ⟨rfl, rfl⟩

/-- A bounded run that is followed by no further byte of its class is the whole run. -/
theorem take_takeWhile {p : UInt8 → Bool} {n : Nat} {l : List UInt8}
    (h : (l.drop ((l.takeWhile p).take n).length).head?.any p = false) :
    (l.takeWhile p).take n = l.takeWhile p ∧ l.drop ((l.takeWhile p).take n).length = l.dropWhile p := by
  induction l generalizing n with
  | nil => exact ⟨by cases n <;> rfl, by cases n <;> rfl⟩
  | cons b l ih =>
    by_cases hb : p b = true
    · rw [List.takeWhile_cons_of_pos hb] at h ⊢
      rw [List.dropWhile_cons_of_pos hb]
      cases n with
      | zero =>
        rw [List.take_zero, List.length_nil, List.drop_zero, List.head?_cons, Option.any_some, hb] at h
        cases h
      | succ n =>
        rw [List.take_succ_cons, List.length_cons, List.drop_succ_cons] at h ⊢
        exact ⟨by rw [(ih h).1], (ih h).2⟩
    · rw [List.takeWhile_cons_of_neg hb, List.dropWhile_cons_of_neg hb, List.take_nil]
      exact ⟨rfl, rfl⟩

/-- The digits of a parameter that no byte of a word follows are all the digits there are. -/
theorem take_digits {bs : List UInt8}
    (h : (bs.drop ((bs.takeWhile isDecimalDigit).take 6).length).head?.any isWordChar = false) :
    (bs.takeWhile isDecimalDigit).take 6 = bs.takeWhile isDecimalDigit ∧
      bs.drop ((bs.takeWhile isDecimalDigit).take 6).length = dropDigits bs := by
  have hword : ∀ b : UInt8, isDecimalDigit b = true → isWordChar b = true := fun b => (word_byte b).1
  exact take_takeWhile (any_eq_false_of_imp hword h)

/-! ## Numbers -/

theorem any_isDecimalDigit_dropDigits (bs : List UInt8) : (dropDigits bs).head?.any isDecimalDigit = false :=
  any_head?_dropWhile isDecimalDigit bs

theorem any_isDecimalDigit_afterFraction {bs : List UInt8} (h : bs.head?.any isDecimalDigit = false) :
    (afterFraction bs).head?.any isDecimalDigit = false := by
  cases bs with
  | nil => rfl
  | cons b rest =>
    rw [afterFraction]
    split
    · exact any_isDecimalDigit_dropDigits rest
    · exact h

theorem any_isDecimalDigit_afterExponent {bs : List UInt8} (h : bs.head?.any isDecimalDigit = false) :
    (afterExponent bs).head?.any isDecimalDigit = false := by
  cases bs with
  | nil => rfl
  | cons b rest =>
    rw [afterExponent]
    split
    · exact any_isDecimalDigit_dropDigits _
    · exact h

/-- No digit follows a number of the gate. -/
theorem any_isDecimalDigit_afterNumber (byte : UInt8) (rest : List UInt8) :
    (SqlToken.afterNumber byte rest).head?.any isDecimalDigit = false := by
  have hhex : ∀ b : UInt8, isDecimalDigit b = true → isHexDigit b = true := fun b => (word_byte b).2.1
  unfold SqlToken.afterNumber
  split
  · exact any_eq_false_of_imp hhex (any_head?_dropWhile isHexDigit _)
  · exact any_isDecimalDigit_afterExponent
      (any_isDecimalDigit_afterFraction (any_isDecimalDigit_dropDigits rest))

theorem afterFraction_of_head {bs : List UInt8} (h : bs.head? ≠ some (ascii '.')) : afterFraction bs = bs := by
  cases bs with
  | nil => rfl
  | cons b rest =>
    rw [afterFraction, if_neg]
    rintro rfl
    exact h rfl

/-- Both lexers end a number at the same byte, unless it is one of the texts they read differently. -/
theorem afterNumber_eq {byte : UInt8} {rest : List UInt8} (hstart : isNumberStart byte rest = true)
    (hparts : partsAt byte rest = false) : afterNumber byte rest = SqlToken.afterNumber byte rest := by
  simp only [partsAt, Bool.or_eq_false_iff] at hparts
  obtain ⟨⟨-, hhex⟩, hpoint⟩ := hparts
  unfold afterNumber SqlToken.afterNumber
  by_cases hmark : byte = ascii '0' ∧ rest.head?.any isHexMark = true
  · have hdigit : (rest.drop 1).head?.any isHexDigit = true := by
      simpa [hmark.1, hmark.2] using hhex
    rw [if_pos ⟨hmark.1, hmark.2, hdigit⟩, if_pos hmark]
  · rw [if_neg fun h => hmark ⟨h.1, h.2.1⟩, if_neg hmark]
    by_cases hbyte : byte = ascii '.'
    · subst hbyte
      have hdigit : rest.head?.any isDecimalDigit = true := by
        unfold isNumberStart at hstart
        simpa [show isDecimalDigit (ascii '.') = false by decide] using hstart
      have hhead : (dropDigits rest).head? ≠ some (ascii '.') := by
        simpa [hdigit] using hpoint
      rw [if_pos rfl, afterFraction_of_head hhead]
    · rw [if_neg hbyte]

/-! ## One token -/

theorem tokensOf_cons {byte : UInt8} {rest rest' : List UInt8} {tokens : List SqliteToken} {more : List SqlToken}
    (h : next byte rest = .ok (tokens, rest')) (hmore : tokensOf rest' = .ok more) :
    tokensOf (byte :: rest) = .ok (tokens.flatMap gateTokens ++ more) := by
  unfold tokensOf at hmore ⊢
  rw [Lexer.scan_cons (L := lexer) h]
  cases hscan : lexer.scan rest' with
  | error e =>
    rw [hscan] at hmore
    cases hmore
  | ok more' =>
    rw [hscan] at hmore
    cases hmore
    show Except.ok ((tokens ++ more').flatMap gateTokens) = _
    rw [List.flatMap_append]

/-- An operator of SQLite at a punctuation mark of the gate, and the marks it goes on with. -/
theorem operatorAt_eq {byte : UInt8} {rest : List UInt8} (hpunct : isPunct byte = true)
    (hparts : partsAt byte rest = false) :
    ∃ tail rest', rest = tail ++ rest' ∧ tail.all continuesOperator = true ∧
      operatorAt byte rest = .ok ([.operator (byte :: tail)], rest') := by
  simp only [partsAt, Bool.or_eq_false_iff] at hparts
  obtain ⟨⟨⟨⟨-, hcaret⟩, hbang⟩, -⟩, -⟩ := hparts
  have hcaret : byte ≠ ascii '^' := by simpa using hcaret
  have hsome : ∃ text ∈ operators, text.isPrefixOf (byte :: rest) = true := by
    by_cases hb : byte = ascii '!'
    · subst hb
      have hhead : rest.head? = some (ascii '=') := by simpa using hbang
      obtain ⟨tail, rfl⟩ : ∃ tail, rest = ascii '=' :: tail := by
        cases rest with
        | nil => cases hhead
        | cons b tail => exact ⟨tail, by rw [Option.some.inj hhead]⟩
      refine ⟨bytes "!=", by decide +kernel, List.isPrefixOf_iff_prefix.mpr ⟨tail, ?_⟩⟩
      rw [show bytes "!=" = [ascii '!', ascii '='] by decide +kernel]
      rfl
    · refine ⟨[byte], List.contains_iff_mem.mp (contains_operators byte hpunct hcaret hb), ?_⟩
      exact List.isPrefixOf_iff_prefix.mpr ⟨rest, rfl⟩
  unfold operatorAt
  cases hfind : operators.find? (·.isPrefixOf (byte :: rest)) with
  | none =>
    obtain ⟨text, hmem, hstarts⟩ := hsome
    exact absurd hstarts (List.find?_eq_none.mp hfind text hmem)
  | some text =>
    obtain ⟨hne, htail⟩ := operators_tail text (List.mem_of_find?_eq_some hfind)
    have hstarts := List.find?_some hfind
    obtain ⟨rest', hrest⟩ := List.isPrefixOf_iff_prefix.mp hstarts
    cases text with
    | nil => exact absurd rfl hne
    | cons b tail =>
      rw [List.cons_append, List.cons.injEq] at hrest
      obtain ⟨rfl, hrest⟩ := hrest
      refine ⟨tail, rest', hrest.symm, htail, ?_⟩
      rw [← hrest]
      show Except.ok ([operator (b :: tail)], (b :: tail ++ rest').drop (b :: tail).length) = _
      rw [List.drop_left]

/-- The marks an operator goes on with are tokens of the gate, one each. -/
theorem scan_operator_tail {tail rest : List UInt8} (htail : tail.all continuesOperator = true) {fuel : Nat}
    {tokens : List SqlToken} (hlength : (tail ++ rest).length ≤ fuel)
    (hstays : staysTogether fuel false (tail ++ rest) = true)
    (hscan : SqlToken.lexer.scan (tail ++ rest) = .ok tokens) :
    ∃ fuel' more, fuel' ≤ fuel ∧ rest.length ≤ fuel' ∧ staysTogether fuel' false rest = true ∧
      SqlToken.lexer.scan rest = .ok more ∧ tokens = tail.map .punct ++ more := by
  induction tail generalizing fuel tokens with
  | nil => exact ⟨fuel, tokens, Nat.le_refl _, hlength, hstays, hscan, rfl⟩
  | cons b tail ih =>
    rw [List.all_cons, Bool.and_eq_true] at htail
    obtain ⟨hspace, hpunct, hminus, hslash, hpoint, hbang, hcaret, hzero, hdigit, hword⟩ :=
      isPlain_of_continuesOperator b htail.1
    obtain ⟨first, rest', more, hnext, hmore, rfl⟩ := Lexer.scan_cons_eq_ok hscan
    have hstep : first = [.punct b] ∧ rest' = tail ++ rest := by
      cases SqlToken.step_of_next hnext with
      | whitespace h => rw [hspace] at h; cases h
      | lineComment h => exact absurd h hminus
      | blockComment h => exact absurd h hslash
      | string h => subst h; cases hpunct
      | blob h =>
        have hmark : ∀ b : UInt8, isHexMark b = true → isWordStart b = true := fun b => (word_byte b).2.2.1
        rw [hmark b h] at hword
        cases hword
      | quoted h => rcases h with rfl | rfl <;> cases hpunct
      | bracket h => subst h; cases hpunct
      | bareParameter h => subst h; cases hpunct
      | parameter h => subst h; cases hpunct
      | semicolon h => subst h; cases hpunct
      | number h => simp [isNumberStart, hdigit, hpoint] at h
      | word _ h => rw [hword] at h; cases h
      | punct => exact ⟨rfl, rfl⟩
    obtain ⟨rfl, rfl⟩ := hstep
    have hsame : SqlToken.next b (tail ++ rest) = .ok ([.punct b], tail ++ rest) := hnext
    rw [List.cons_append, List.length_cons] at hlength
    obtain ⟨fuel, rfl⟩ : ∃ f, fuel = f + 1 := ⟨fuel - 1, by omega⟩
    rw [List.cons_append, staysTogether, if_neg (by rw [hspace]; exact Bool.false_ne_true),
      if_neg (fun h => hminus h.1), Bool.and_eq_true, hsame] at hstays
    obtain ⟨fuel', more', hfuel, hlength', hstays', hscan', rfl⟩ := ih htail.2 (by omega) hstays.2 hmore
    exact ⟨fuel', more', by omega, hlength', hstays', hscan', rfl⟩

/-- Outside white space, a run that starts there starts nowhere else. -/
theorem dropWhile_isSpace_of_not {byte : UInt8} {rest : List UInt8} (h : isWhitespace byte = false) :
    (byte :: rest).dropWhile isSpace = byte :: rest :=
  List.dropWhile_cons_of_neg (by rw [isSpace_eq_false byte h]; exact Bool.false_ne_true)

/-- A step of the gate that is no white space and no line comment is a step of SQLite, or the first mark of an
operator. -/
theorem next_of_step {byte : UInt8} {rest rest' : List UInt8} {first more : List SqlToken}
    (hstep : SqlToken.Step byte rest first rest') (hspace : isWhitespace byte = false)
    (hline : ¬ (byte = ascii '-' ∧ rest.head? = some (ascii '-'))) (hparts : partsAt byte rest = false)
    (hmore : SqlToken.lexer.scan rest' = .ok more) :
    (∃ tokens, next byte rest = .ok (tokens, rest') ∧ tokens.flatMap gateTokens = first) ∨
      ∃ tail rest'', rest' = tail ++ rest'' ∧ tail.all continuesOperator = true ∧ first = [.punct byte] ∧
        next byte rest = .ok ([.operator (byte :: tail)], rest'') := by
  unfold next
  cases hstep with
  | whitespace h =>
    rw [hspace] at h
    cases h
  | lineComment hbyte hrest => exact absurd ⟨hbyte, hrest⟩ hline
  | blockComment hbyte hrest h =>
    subst hbyte
    have hnested : opensNested (rest.drop 1) = false := by
      simp only [partsAt, Bool.or_eq_false_iff] at hparts
      simpa [hrest] using hparts.1.1.1.1
    have hbody : rest.drop 1 ≠ [] := by
      intro hnil
      rw [hnil] at h
      cases h
    refine .inl ⟨[], ?_, rfl⟩
    rw [show charClass (ascii '/') = .slash by decide]
    dsimp only
    rw [if_pos ⟨hrest, hbody⟩, afterFirstClose_eq hnested h]
  | string hbyte h =>
    subst hbyte
    refine .inl ⟨[.string (quotedText (ascii '\'') rest)], ?_, rfl⟩
    rw [show charClass (ascii '\'') = .quote by decide]
    dsimp only
    rw [h]
    rfl
  | @blob hex _ hbyte hrest h heven hhex =>
    obtain ⟨htake, hdrop⟩ := takeWhile_isHexDigit h hhex
    refine .inl ⟨[.blob], ?_, rfl⟩
    rw [charClass_of_isHexMark byte hbyte]
    dsimp only
    rw [if_pos hrest]
    unfold blobAt
    rw [hdrop, htake, if_pos ⟨rfl, heven⟩]
    rfl
  | quoted hbyte h =>
    refine .inl ⟨[.quotedIdentifier (quotedText byte rest)], ?_, rfl⟩
    have hclass : charClass byte = .quote ∧ byte ≠ ascii '\'' := by rcases hbyte with rfl | rfl <;> decide
    rw [hclass.1]
    dsimp only
    rw [h, if_neg hclass.2]
    rfl
  | @bracket name _ hbyte h =>
    subst hbyte
    refine .inl ⟨[.quotedIdentifier name], ?_, rfl⟩
    rw [show charClass (ascii '[') = .bracket by decide]
    dsimp only
    rw [h]
  | bareParameter hbyte h =>
    subst hbyte
    have hnone : rest.takeWhile isDecimalDigit = [] := by
      cases htake : rest.takeWhile isDecimalDigit with
      | nil => rfl
      | cons d ds =>
        rw [htake] at h
        cases h
    have hrest : dropDigits rest = rest := by
      have hsplit := List.takeWhile_append_dropWhile (p := isDecimalDigit) (l := rest)
      rw [hnone, List.nil_append] at hsplit
      exact hsplit
    refine .inl ⟨[.parameter []], ?_, rfl⟩
    rw [show charClass (ascii '?') = .question by decide]
    dsimp only
    rw [hnone, hrest]
  | parameter hbyte hdigits hend =>
    subst hbyte
    obtain ⟨htake, hdrop⟩ := take_digits hend
    rw [htake] at hdigits
    refine .inl ⟨[.parameter (rest.takeWhile isDecimalDigit)], ?_, ?_⟩
    · rw [show charClass (ascii '?') = .question by decide, hdrop]
    · rw [htake]
      show [SqlToken.placeholder (if rest.takeWhile isDecimalDigit = [] then none else _)] = _
      rw [if_neg hdigits]
  | semicolon hbyte =>
    subst hbyte
    exact .inl ⟨[.semicolon], by rw [show charClass (ascii ';') = .semicolon by decide], rfl⟩
  | number hstart hend =>
    have hend' : (SqlToken.afterNumber byte rest).head?.any isIdChar = false := by
      refine any_isIdChar_eq_false hmore ?_
      have hdigit := any_isDecimalDigit_afterNumber byte rest
      cases hhead : (SqlToken.afterNumber byte rest).head? with
      | none => rfl
      | some b =>
        rw [hhead, Option.any_some] at hend hdigit
        rw [Option.any_some, isWordChar, hend, hdigit]
        rfl
    have hnumeral : numeralAt byte rest = .ok ([.number], SqlToken.afterNumber byte rest) := by
      unfold numeralAt
      dsimp only
      rw [afterNumber_eq hstart hparts, hend']
      rfl
    refine .inl ⟨[.number], ?_, rfl⟩
    rcases Bool.or_eq_true_iff.mp hstart with hdigit | hpoint
    · rw [charClass_of_isDecimalDigit byte hdigit]
      exact hnumeral
    · obtain ⟨hbyte, hdigit⟩ := Bool.and_eq_true_iff.mp hpoint
      obtain rfl := beq_iff_eq.mp hbyte
      rw [show charClass (ascii '.') = .dot by decide]
      dsimp only
      rw [if_pos hdigit]
      exact hnumeral
  | word hblob hstart =>
    have hchar : ∀ b : UInt8, isWordChar b = true → isIdChar b = true := fun b => (word_byte b).2.2.2
    have hend := any_isIdChar_eq_false hmore (any_head?_dropWhile isWordChar rest)
    obtain ⟨htake, hdrop⟩ := takeWhile_eq_of_head hchar hend
    have hidentifier : identifierAt byte rest =
        .ok ([.identifier (byte :: rest.takeWhile isWordChar)], rest.dropWhile isWordChar) := by
      unfold identifierAt
      rw [htake, hdrop]
    refine .inl ⟨[.identifier (byte :: rest.takeWhile isWordChar)], ?_, rfl⟩
    by_cases hmark : isHexMark byte = true
    · rw [charClass_of_isHexMark byte hmark]
      dsimp only
      rw [if_neg fun h => hblob ⟨hmark, h⟩]
      exact hidentifier
    · rw [charClass_of_isWordStart byte hstart (Bool.eq_false_iff.mpr hmark)]
      exact hidentifier
  | punct _ hblock hnumber hpunct =>
    obtain ⟨tail, rest'', hrest, htail, hoperator⟩ := operatorAt_eq hpunct hparts
    have hcaret : byte ≠ ascii '^' := by
      simp only [partsAt, Bool.or_eq_false_iff] at hparts
      simpa using hparts.1.1.1.2
    refine .inr ⟨tail, rest'', hrest, htail, rfl, ?_⟩
    rcases charClass_of_isPunct byte hpunct hcaret with ⟨hclass, hbyte⟩ | ⟨hclass, hbyte⟩ | ⟨hclass, hbyte⟩ | hclass
    · rw [hclass]
      dsimp only
      rw [if_neg fun h => hline ⟨hbyte, h⟩]
      exact hoperator
    · rw [hclass]
      dsimp only
      rw [if_neg fun h => hblock ⟨hbyte, h.1⟩]
      exact hoperator
    · have hdigit : ¬ rest.head?.any isDecimalDigit = true := by
        intro h
        rw [isNumberStart, hbyte, h] at hnumber
        cases hnumber
      rw [hclass]
      dsimp only
      rw [if_neg hdigit]
      exact hoperator
    · rw [hclass]
      exact hoperator

/-- From a text that stays together on, the two lexers read the same tokens. After white space, SQLite has
already read the rest of its run. -/
theorem tokensOf_of_staysTogether (fuel : Nat) : ∀ (spaced : Bool) (text : List UInt8) (tokens : List SqlToken),
    text.length ≤ fuel → staysTogether fuel spaced text = true → SqlToken.lexer.scan text = .ok tokens →
      tokensOf (if spaced then text.dropWhile isSpace else text) = .ok tokens := by
  induction fuel using Nat.strong_induction_on with
  | _ fuel ih =>
    intro spaced text tokens hlength hstays hscan
    cases text with
    | nil =>
      cases hscan
      cases spaced <;> rfl
    | cons byte rest =>
      rw [List.length_cons] at hlength
      obtain ⟨fuel, rfl⟩ : ∃ f, fuel = f + 1 := ⟨fuel - 1, by omega⟩
      obtain ⟨first, rest', more, hnext, hmore, rfl⟩ := Lexer.scan_cons_eq_ok hscan
      replace hnext : SqlToken.next byte rest = .ok (first, rest') := hnext
      have hshort := SqlToken.length_le_of_next hnext
      have hstep := SqlToken.step_of_next hnext
      rw [staysTogether] at hstays
      by_cases hspace : isWhitespace byte = true
      · rw [if_pos hspace, Bool.and_eq_true] at hstays
        obtain ⟨rfl, rfl⟩ : [] = first ∧ rest = rest' := by
          have hwhite : SqlToken.next byte rest = .ok ([], rest) := if_pos hspace
          rw [hwhite] at hnext
          exact Prod.mk.inj (Except.ok.inj hnext)
        have hrest := ih fuel (Nat.lt_succ_self _) true rest more (by omega) hstays.2 hmore
        rw [if_pos rfl] at hrest
        rw [List.nil_append]
        cases spaced with
        | true =>
          rw [if_pos rfl, List.dropWhile_cons_of_pos (isSpace_of_isWhitespace byte hspace)]
          exact hrest
        | false =>
          have htab : byte ≠ verticalTab := by simpa using hstays.1
          have hspaces : next byte rest = .ok ([], rest.dropWhile isSpace) := by
            unfold next
            rw [charClass_of_isWhitespace byte hspace htab]
          exact tokensOf_cons hspaces hrest
      · have hspace' : isWhitespace byte = false := Bool.eq_false_iff.mpr hspace
        rw [if_neg hspace] at hstays
        have hsame : (if spaced then (byte :: rest).dropWhile isSpace else byte :: rest) = byte :: rest := by
          rw [dropWhile_isSpace_of_not hspace', ite_self]
        rw [hsame]
        by_cases hline : byte = ascii '-' ∧ rest.head? = some (ascii '-')
        · rw [if_pos hline] at hstays
          obtain ⟨rfl, rfl⟩ : [] = first ∧ afterNewline rest = rest' := by
            have hcomment : SqlToken.next byte rest = .ok ([], afterNewline rest) := by
              unfold SqlToken.next
              rw [if_neg hspace, if_pos hline]
            rw [hcomment] at hnext
            exact Prod.mk.inj (Except.ok.inj hnext)
          have hcomment : next byte rest = .ok ([], rest.dropWhile (· != ascii '\n')) := by
            unfold next
            rw [hline.1, show charClass (ascii '-') = .minus by decide]
            dsimp only
            rw [if_pos hline.2]
          have hrest := ih fuel (Nat.lt_succ_self _) true (afterNewline rest) more (by omega) hstays hmore
          refine tokensOf_cons hcomment ?_
          rcases dropWhile_newline rest with ⟨hdrop, hafter⟩ | hdrop
          · rw [hdrop]
            rw [hafter] at hmore
            cases hmore
            rfl
          · have hspaces : next (ascii '\n') (afterNewline rest) =
                .ok ([], (afterNewline rest).dropWhile isSpace) := by
              unfold next
              rw [show charClass (ascii '\n') = .space by decide]
            rw [hdrop]
            exact tokensOf_cons hspaces hrest
        · rw [if_neg hline, Bool.and_eq_true, Bool.not_eq_true', hnext] at hstays
          obtain ⟨tokens, hnext', rfl⟩ | ⟨tail, rest'', rfl, htail, rfl, hnext'⟩ :=
            next_of_step hstep hspace' hline hstays.1 hmore
          · have hrest := ih fuel (Nat.lt_succ_self _) false rest' more (by omega) hstays.2 hmore
            exact tokensOf_cons hnext' hrest
          · obtain ⟨fuel', more', hfuel, hlength', hstays', hscan', rfl⟩ :=
              scan_operator_tail htail (by omega) hstays.2 hmore
            have hrest := ih fuel' (by omega) false rest'' more' hlength' hstays' hscan'
            have htokens : [operator (byte :: tail)].flatMap gateTokens = [.punct byte] ++ tail.map .punct := by
              simp [gateTokens]
            rw [← List.append_assoc, ← htokens]
            exact tokensOf_cons hnext' hrest

theorem tokensOf_of_readAlike {statement : List UInt8} {tokens : List SqlToken}
    (h : SqlToken.tokenizeStatement statement = .ok tokens) (halike : readAlike statement = true) :
    tokensOf statement = .ok tokens := by
  unfold SqlToken.tokenizeStatement at h
  split at h
  · cases h
  · have htokens := tokensOf_of_staysTogether statement.length false statement tokens (Nat.le_refl _) halike h
    rwa [if_neg Bool.false_ne_true] at htokens

end SqliteToken

/-- The tokens of an accepted statement without the texts that the two lexers read differently are the tokens
SQLite reads. -/
theorem gate_tokens_are_sqlite_tokens (statement : List UInt8) (tokens : List SqlToken)
    (h : SqlToken.tokenizeStatement statement = .ok tokens) (halike : SqliteToken.readAlike statement = true) :
    SqliteToken.tokensOf statement = .ok tokens :=
  SqliteToken.tokensOf_of_readAlike h halike

/-- A statement with a comment, operators, literals and parameters. -/
def alikeStatement : List UInt8 := bytes "select a->>'k', x'0F' /* \"c\" */ from [t] where b <> ?2 -- end"

theorem gate_tokens_are_sqlite_tokens_alikeStatement :
    ∃ tokens, SqlToken.tokenizeStatement alikeStatement = .ok tokens ∧
      SqliteToken.tokensOf alikeStatement = .ok tokens := by
  have haccepted : (SqlToken.tokenizeStatement alikeStatement).isOk = true := by decide +kernel
  cases htokens : SqlToken.tokenizeStatement alikeStatement with
  | error code =>
    rw [htokens] at haccepted
    cases haccepted
  | ok tokens => exact ⟨tokens, rfl, gate_tokens_are_sqlite_tokens alikeStatement tokens htokens (by decide +kernel)⟩

/-- The gate takes the second half of the statement for a comment; SQLite ends the comment before it and reads
a call. -/
theorem nested_comment_hides_call :
    SqlToken.tokenizeStatement (bytes "select 1 /* /* */, load_extension(?1) -- */") =
        .ok [.word (bytes "select"), .number] ∧
      SqliteToken.tokensOf (bytes "select 1 /* /* */, load_extension(?1) -- */") =
        .ok [.word (bytes "select"), .number, .punct (ascii ','), .word (bytes "load_extension"),
          .punct (ascii '('), .placeholder (some 1), .punct (ascii ')')] := by
  decide +kernel

end Iweb
