import Iweb.Foundations.Lexer
import Iweb.Kernel.Wire

/-!
# The tokens of a SQL statement

The gate in front of the SQL backend splits a statement into tokens before it decides whether SQLite may see
it. The statement is its UTF-8 bytes; outside literals, quoted identifiers and comments only ASCII is
accepted.
-/

namespace Iweb

/-- `Token`. -/
inductive SqlToken
  | word (text : List UInt8)
  | quotedIdentifier
  | stringLiteral
  | blobLiteral
  | number
  | placeholder (index : Option Nat)
  | punct (byte : UInt8)
  | semicolon
deriving DecidableEq

/-- `SqlLexicalCode`. -/
inductive SqlLexicalCode
  | nulByte
  | unterminated
  | blobLiteralInvalid
  | placeholderIndexInvalid
  | namedPlaceholderDenied
  | tokenInvalid
deriving DecidableEq

/-- A fact about every byte. -/
theorem forall_byte {P : UInt8 → Prop} (h : ∀ n < 256, P (UInt8.ofNat n)) (b : UInt8) : P b := by
  have := h b.toNat b.toNat_lt
  rwa [UInt8.ofNat_toNat] at this

namespace SqlToken

/-- `ASCII_WHITESPACE` -/
def isWhitespace (b : UInt8) : Bool := [32, 9, 10, 13, 12, 11].contains b.toNat

/-- `PUNCT_CHARS` -/
def isPunct (b : UInt8) : Bool := (bytes "(),.*+-/%=<>!~&|^").contains b

def isWordStart (b : UInt8) : Bool := inRange 'a' 'z' b || inRange 'A' 'Z' b || b == ascii '_'

def isWordChar (b : UInt8) : Bool := isWordStart b || isDecimalDigit b

/-- `u8::is_ascii_hexdigit` -/
def isHexDigit (b : UInt8) : Bool := isHexLower b || inRange 'A' 'F' b

/-- What follows the newline of a line comment. -/
def afterNewline : List UInt8 → List UInt8
  | [] => []
  | b :: rest => if b = ascii '\n' then rest else afterNewline rest

/-- What follows a block comment that is still open `depth` times. -/
def afterComment : Nat → List UInt8 → Option (List UInt8)
  | _, [] => none
  | _, [_] => none
  | depth, a :: b :: rest =>
    if a = ascii '/' ∧ b = ascii '*' then afterComment (depth + 1) rest
    else if a = ascii '*' ∧ b = ascii '/' then
      if depth = 1 then some rest else afterComment (depth - 1) rest
    else afterComment depth (b :: rest)

/-- What follows the closing quote; a doubled quote does not close. -/
def afterQuote (quote : UInt8) : List UInt8 → Option (List UInt8)
  | [] => none
  | [b] => if b = quote then some [] else none
  | b :: c :: rest =>
    if b = quote then if c = quote then afterQuote quote rest else some (c :: rest)
    else afterQuote quote (c :: rest)

/-- What precedes and what follows the first occurrence of a byte. -/
def splitAtByte (stop : UInt8) : List UInt8 → Option (List UInt8 × List UInt8)
  | [] => none
  | b :: rest => if b = stop then some ([], rest) else (splitAtByte stop rest).map fun s => (b :: s.1, s.2)

def dropDigits (bs : List UInt8) : List UInt8 := bs.dropWhile isDecimalDigit

/-- What follows an optional fraction. -/
def afterFraction : List UInt8 → List UInt8
  | [] => []
  | b :: rest => if b = ascii '.' then dropDigits rest else b :: rest

/-- What follows the sign of an exponent. -/
def afterSign : List UInt8 → List UInt8
  | [] => []
  | b :: rest => if b = ascii '+' ∨ b = ascii '-' then rest else b :: rest

/-- What follows an optional exponent; without digits it is none. -/
def afterExponent : List UInt8 → List UInt8
  | [] => []
  | b :: rest =>
    if (b = ascii 'e' ∨ b = ascii 'E') ∧ (afterSign rest).head?.any isDecimalDigit then dropDigits (afterSign rest)
    else b :: rest

def isHexMark (b : UInt8) : Bool := b == ascii 'x' || b == ascii 'X'

/-- What follows a number with this first byte. -/
def afterNumber (byte : UInt8) (rest : List UInt8) : List UInt8 :=
  if byte = ascii '0' ∧ rest.head?.any isHexMark then (rest.drop 1).dropWhile isHexDigit
  else afterExponent (afterFraction (dropDigits rest))

/-- The token of a literal, a quoted identifier or a comment (no token) that must be terminated. -/
def terminated (tokens : List SqlToken) : Option (List UInt8) → Except SqlLexicalCode (List SqlToken × List UInt8)
  | none => .error .unterminated
  | some rest => .ok (tokens, rest)

/-- A blob literal after its opening quote. -/
def blob (rest : List UInt8) : Except SqlLexicalCode (List SqlToken × List UInt8) :=
  match splitAtByte (ascii '\'') rest with
  | none => .error .unterminated
  | some (hex, rest) =>
    if hex.length % 2 ≠ 0 ∨ hex.all isHexDigit = false then .error .blobLiteralInvalid
    else .ok ([.blobLiteral], rest)

/-- A parameter after its question mark: at most six digits are its index. -/
def parameter (rest : List UInt8) : Except SqlLexicalCode (List SqlToken × List UInt8) :=
  let digits := (rest.takeWhile isDecimalDigit).take 6
  let rest := rest.drop digits.length
  if digits = [] then .ok ([.placeholder none], rest)
  else if decimalValue digits < 1 ∨ rest.head?.any isWordChar then .error .placeholderIndexInvalid
  else .ok ([.placeholder (some (decimalValue digits))], rest)

/-- A number with this first byte; no word may follow it directly. -/
def numeral (byte : UInt8) (rest : List UInt8) : Except SqlLexicalCode (List SqlToken × List UInt8) :=
  let rest := afterNumber byte rest
  if rest.head?.any isWordStart then .error .tokenInvalid else .ok ([.number], rest)

/-- A number starts here. -/
def isNumberStart (byte : UInt8) (rest : List UInt8) : Bool :=
  isDecimalDigit byte || (byte == ascii '.' && rest.head?.any isDecimalDigit)

/-- One turn of the loop of `tokenize_statement`: the token at this byte, if any, and what follows it. -/
def next (byte : UInt8) (rest : List UInt8) : Except SqlLexicalCode (List SqlToken × List UInt8) :=
  if isWhitespace byte then .ok ([], rest)
  else if byte = ascii '-' ∧ rest.head? = some (ascii '-') then .ok ([], afterNewline rest)
  else if byte = ascii '/' ∧ rest.head? = some (ascii '*') then terminated [] (afterComment 1 (rest.drop 1))
  else if byte = ascii '\'' then terminated [.stringLiteral] (afterQuote byte rest)
  else if isHexMark byte ∧ rest.head? = some (ascii '\'') then blob (rest.drop 1)
  else if byte = ascii '"' ∨ byte = 96 then terminated [.quotedIdentifier] (afterQuote byte rest)
  else if byte = ascii '[' then terminated [.quotedIdentifier] ((splitAtByte (ascii ']') rest).map (·.2))
  else if byte = ascii '?' then parameter rest
  else if byte = ascii ':' ∨ byte = ascii '@' ∨ byte = ascii '$' then .error .namedPlaceholderDenied
  else if byte = ascii ';' then .ok ([.semicolon], rest)
  else if isNumberStart byte rest then numeral byte rest
  else if isWordStart byte then
    .ok ([.word (byte :: rest.takeWhile isWordChar)], rest.dropWhile isWordChar)
  else if isPunct byte then .ok ([.punct byte], rest)
  else .error .tokenInvalid

theorem length_afterNewline_le (bs : List UInt8) : (afterNewline bs).length ≤ bs.length := by
  induction bs with
  | nil => exact Nat.le_refl _
  | cons b rest ih =>
    unfold afterNewline
    rw [List.length_cons]
    split <;> omega

theorem length_le_of_afterComment {depth : Nat} {bs rest : List UInt8} (h : afterComment depth bs = some rest) :
    rest.length ≤ bs.length := by
  induction depth, bs using afterComment.induct with
  | case1 => cases h
  | case2 => cases h
  | case3 depth a b tail hopen ih =>
    rw [afterComment, if_pos hopen] at h
    have := ih h
    simp only [List.length_cons]
    omega
  | case4 a b tail hopen hclose =>
    rw [afterComment, if_neg hopen, if_pos hclose, if_pos rfl] at h
    cases h
    simp only [List.length_cons]
    omega
  | case5 depth a b tail hopen hclose hdepth ih =>
    rw [afterComment, if_neg hopen, if_pos hclose, if_neg hdepth] at h
    have := ih h
    simp only [List.length_cons]
    omega
  | case6 depth a b tail hopen hclose ih =>
    rw [afterComment, if_neg hopen, if_neg hclose] at h
    have := ih h
    simp only [List.length_cons] at this ⊢
    omega

theorem length_le_of_afterQuote {quote : UInt8} {bs rest : List UInt8} (h : afterQuote quote bs = some rest) :
    rest.length ≤ bs.length := by
  induction bs using afterQuote.induct quote with
  | case1 => cases h
  | case2 =>
    rw [afterQuote, if_pos rfl] at h
    cases h
    exact Nat.zero_le _
  | case3 b hne =>
    rw [afterQuote, if_neg hne] at h
    cases h
  | case4 tail ih =>
    rw [afterQuote, if_pos rfl, if_pos rfl] at h
    have := ih h
    simp only [List.length_cons]
    omega
  | case5 c tail hne =>
    rw [afterQuote, if_pos rfl, if_neg hne] at h
    cases h
    simp only [List.length_cons]
    omega
  | case6 b c tail hne ih =>
    rw [afterQuote, if_neg hne] at h
    have := ih h
    simp only [List.length_cons] at this ⊢
    omega

theorem length_le_of_splitAtByte {stop : UInt8} {bs before after : List UInt8}
    (h : splitAtByte stop bs = some (before, after)) : after.length ≤ bs.length := by
  induction bs generalizing before with
  | nil => cases h
  | cons b rest ih =>
    unfold splitAtByte at h
    rw [List.length_cons]
    split at h
    · cases h
      omega
    · obtain ⟨⟨p, q⟩, hsplit, heq⟩ := Option.map_eq_some_iff.mp h
      cases heq
      have := ih hsplit
      omega

theorem length_dropDigits_le (bs : List UInt8) : (dropDigits bs).length ≤ bs.length :=
  (List.dropWhile_sublist _).length_le

theorem length_afterFraction_le (bs : List UInt8) : (afterFraction bs).length ≤ bs.length := by
  cases bs with
  | nil => exact Nat.le_refl _
  | cons b rest =>
    have := length_dropDigits_le rest
    simp only [afterFraction]
    split <;> simp only [List.length_cons] <;> omega

theorem length_afterExponent_le (bs : List UInt8) : (afterExponent bs).length ≤ bs.length := by
  cases bs with
  | nil => exact Nat.le_refl _
  | cons b rest =>
    have hsign : (afterSign rest).length ≤ rest.length := by
      cases rest with
      | nil => exact Nat.le_refl _
      | cons c tail =>
        simp only [afterSign]
        split <;> simp only [List.length_cons] <;> omega
    have := length_dropDigits_le (afterSign rest)
    simp only [afterExponent]
    split <;> simp only [List.length_cons] <;> omega

theorem length_afterNumber_le (byte : UInt8) (rest : List UInt8) :
    (afterNumber byte rest).length ≤ rest.length := by
  unfold afterNumber
  split
  · have := (List.dropWhile_sublist (l := rest.drop 1) isHexDigit).length_le
    rw [List.length_drop] at this
    omega
  · have h1 := length_dropDigits_le rest
    have h2 := length_afterFraction_le (dropDigits rest)
    have h3 := length_afterExponent_le (afterFraction (dropDigits rest))
    omega

theorem terminated_eq_ok {tokens tokens' : List SqlToken} {found : Option (List UInt8)} {rest : List UInt8} :
    terminated tokens found = .ok (tokens', rest) ↔ found = some rest ∧ tokens' = tokens := by
  cases found <;> simp [terminated, eq_comm, and_comm]

theorem blob_eq_ok {bs rest : List UInt8} {tokens : List SqlToken} (h : blob bs = .ok (tokens, rest)) :
    tokens = [.blobLiteral] ∧ ∃ hex, splitAtByte (ascii '\'') bs = some (hex, rest) ∧ hex.length % 2 = 0 ∧
      hex.all isHexDigit = true := by
  unfold blob at h
  split at h
  · cases h
  · rename_i hex rest' hsplit
    split at h
    · cases h
    · rename_i hvalid
      cases h
      obtain ⟨heven, hhex⟩ := not_or.mp hvalid
      exact ⟨rfl, hex, hsplit, not_not.mp heven, by simpa using hhex⟩

theorem parameter_eq_ok {bs rest : List UInt8} {tokens : List SqlToken} (h : parameter bs = .ok (tokens, rest)) :
    rest = bs.drop ((bs.takeWhile isDecimalDigit).take 6).length ∧
      (((bs.takeWhile isDecimalDigit).take 6 = [] ∧ tokens = [.placeholder none]) ∨
        ((bs.takeWhile isDecimalDigit).take 6 ≠ [] ∧ rest.head?.any isWordChar = false ∧
          tokens = [.placeholder (some (decimalValue ((bs.takeWhile isDecimalDigit).take 6)))])) := by
  unfold parameter at h
  dsimp only at h
  by_cases hnone : (bs.takeWhile isDecimalDigit).take 6 = []
  · rw [if_pos hnone] at h
    cases h
    exact ⟨rfl, .inl ⟨hnone, rfl⟩⟩
  · rw [if_neg hnone] at h
    split at h
    · cases h
    · rename_i hvalid
      cases h
      exact ⟨rfl, .inr ⟨hnone, by simpa using (not_or.mp hvalid).2, rfl⟩⟩

theorem numeral_eq_ok {byte : UInt8} {bs rest : List UInt8} {tokens : List SqlToken}
    (h : numeral byte bs = .ok (tokens, rest)) :
    tokens = [.number] ∧ rest = afterNumber byte bs ∧ rest.head?.any isWordStart = false := by
  unfold numeral at h
  dsimp only at h
  split at h
  · cases h
  · rename_i hword
    cases h
    exact ⟨rfl, rfl, by simpa using hword⟩

/-- What one turn of the loop may accept. -/
inductive Step (byte : UInt8) (rest : List UInt8) : List SqlToken → List UInt8 → Prop
  | whitespace (h : isWhitespace byte = true) : Step byte rest [] rest
  | lineComment (hbyte : byte = ascii '-') (hrest : rest.head? = some (ascii '-')) :
      Step byte rest [] (afterNewline rest)
  | blockComment {rest' : List UInt8} (hbyte : byte = ascii '/') (hrest : rest.head? = some (ascii '*'))
      (h : afterComment 1 (rest.drop 1) = some rest') : Step byte rest [] rest'
  | string {rest' : List UInt8} (hbyte : byte = ascii '\'') (h : afterQuote byte rest = some rest') :
      Step byte rest [.stringLiteral] rest'
  | blob {hex rest' : List UInt8} (hbyte : isHexMark byte = true) (hrest : rest.head? = some (ascii '\''))
      (h : splitAtByte (ascii '\'') (rest.drop 1) = some (hex, rest')) (heven : hex.length % 2 = 0)
      (hhex : hex.all isHexDigit = true) : Step byte rest [.blobLiteral] rest'
  | quoted {rest' : List UInt8} (hbyte : byte = ascii '"' ∨ byte = 96) (h : afterQuote byte rest = some rest') :
      Step byte rest [.quotedIdentifier] rest'
  | bracket {name rest' : List UInt8} (hbyte : byte = ascii '[')
      (h : splitAtByte (ascii ']') rest = some (name, rest')) : Step byte rest [.quotedIdentifier] rest'
  | bareParameter (hbyte : byte = ascii '?') (h : (rest.takeWhile isDecimalDigit).take 6 = []) :
      Step byte rest [.placeholder none] rest
  | parameter (hbyte : byte = ascii '?') (hdigits : (rest.takeWhile isDecimalDigit).take 6 ≠ [])
      (hend : (rest.drop ((rest.takeWhile isDecimalDigit).take 6).length).head?.any isWordChar = false) :
      Step byte rest [.placeholder (some (decimalValue ((rest.takeWhile isDecimalDigit).take 6)))]
        (rest.drop ((rest.takeWhile isDecimalDigit).take 6).length)
  | semicolon (hbyte : byte = ascii ';') : Step byte rest [.semicolon] rest
  | number (hstart : isNumberStart byte rest = true)
      (hend : (afterNumber byte rest).head?.any isWordStart = false) :
      Step byte rest [.number] (afterNumber byte rest)
  | word (hblob : ¬ (isHexMark byte = true ∧ rest.head? = some (ascii '\''))) (hstart : isWordStart byte = true) :
      Step byte rest [.word (byte :: rest.takeWhile isWordChar)] (rest.dropWhile isWordChar)
  | punct (hline : ¬ (byte = ascii '-' ∧ rest.head? = some (ascii '-')))
      (hblock : ¬ (byte = ascii '/' ∧ rest.head? = some (ascii '*')))
      (hnumber : isNumberStart byte rest = false) (hpunct : isPunct byte = true) :
      Step byte rest [.punct byte] rest

theorem step_of_next {byte : UInt8} {rest : List UInt8} {tokens : List SqlToken} {rest' : List UInt8}
    (h : next byte rest = .ok (tokens, rest')) : Step byte rest tokens rest' := by
  unfold next at h
  by_cases hspace : isWhitespace byte = true
  · rw [if_pos hspace] at h
    cases h
    exact .whitespace hspace
  rw [if_neg hspace] at h
  by_cases hline : byte = ascii '-' ∧ rest.head? = some (ascii '-')
  · rw [if_pos hline] at h
    cases h
    exact .lineComment hline.1 hline.2
  rw [if_neg hline] at h
  by_cases hblock : byte = ascii '/' ∧ rest.head? = some (ascii '*')
  · rw [if_pos hblock] at h
    obtain ⟨hfound, rfl⟩ := terminated_eq_ok.mp h
    exact .blockComment hblock.1 hblock.2 hfound
  rw [if_neg hblock] at h
  by_cases hstring : byte = ascii '\''
  · rw [if_pos hstring] at h
    obtain ⟨hfound, rfl⟩ := terminated_eq_ok.mp h
    exact .string hstring hfound
  rw [if_neg hstring] at h
  by_cases hblob : isHexMark byte = true ∧ rest.head? = some (ascii '\'')
  · rw [if_pos hblob] at h
    obtain ⟨rfl, hex, hsplit, heven, hhex⟩ := blob_eq_ok h
    exact .blob hblob.1 hblob.2 hsplit heven hhex
  rw [if_neg hblob] at h
  by_cases hquoted : byte = ascii '"' ∨ byte = 96
  · rw [if_pos hquoted] at h
    obtain ⟨hfound, rfl⟩ := terminated_eq_ok.mp h
    exact .quoted hquoted hfound
  rw [if_neg hquoted] at h
  by_cases hbracket : byte = ascii '['
  · rw [if_pos hbracket] at h
    obtain ⟨hfound, rfl⟩ := terminated_eq_ok.mp h
    obtain ⟨⟨name, after⟩, hsplit, rfl⟩ := Option.map_eq_some_iff.mp hfound
    exact .bracket hbracket hsplit
  rw [if_neg hbracket] at h
  by_cases hparameter : byte = ascii '?'
  · rw [if_pos hparameter] at h
    obtain ⟨rfl, ⟨hnone, rfl⟩ | ⟨hdigits, hend, rfl⟩⟩ := parameter_eq_ok h
    · rw [hnone]
      exact .bareParameter hparameter hnone
    · exact .parameter hparameter hdigits hend
  rw [if_neg hparameter] at h
  by_cases hnamed : byte = ascii ':' ∨ byte = ascii '@' ∨ byte = ascii '$'
  · rw [if_pos hnamed] at h
    cases h
  rw [if_neg hnamed] at h
  by_cases hsemicolon : byte = ascii ';'
  · rw [if_pos hsemicolon] at h
    cases h
    exact .semicolon hsemicolon
  rw [if_neg hsemicolon] at h
  by_cases hnumber : isNumberStart byte rest = true
  · rw [if_pos hnumber] at h
    obtain ⟨rfl, rfl, hend⟩ := numeral_eq_ok h
    exact .number hnumber hend
  rw [if_neg hnumber] at h
  by_cases hword : isWordStart byte = true
  · rw [if_pos hword] at h
    cases h
    exact .word hblob hword
  rw [if_neg hword] at h
  by_cases hpunct : isPunct byte = true
  · rw [if_pos hpunct] at h
    cases h
    exact .punct hline hblock (Bool.eq_false_iff.mpr hnumber) hpunct
  · rw [if_neg hpunct] at h
    cases h

theorem length_le_of_next {byte : UInt8} {rest : List UInt8} {tokens : List SqlToken} {rest' : List UInt8}
    (h : next byte rest = .ok (tokens, rest')) : rest'.length ≤ rest.length := by
  have hdrop : ∀ n, (rest.drop n).length ≤ rest.length := by
    intro n
    rw [List.length_drop]
    omega
  cases step_of_next h with
  | whitespace => exact Nat.le_refl _
  | lineComment => exact length_afterNewline_le rest
  | blockComment _ _ hfound => exact Nat.le_trans (length_le_of_afterComment hfound) (hdrop 1)
  | string _ hfound => exact length_le_of_afterQuote hfound
  | blob _ _ hsplit => exact Nat.le_trans (length_le_of_splitAtByte hsplit) (hdrop 1)
  | quoted _ hfound => exact length_le_of_afterQuote hfound
  | bracket _ hsplit => exact length_le_of_splitAtByte hsplit
  | bareParameter => exact Nat.le_refl _
  | parameter => exact hdrop _
  | semicolon => exact Nat.le_refl _
  | number => exact length_afterNumber_le byte rest
  | word => exact (List.dropWhile_sublist _).length_le
  | punct => exact Nat.le_refl _

/-- The tokenizer of the gate. -/
def lexer : Lexer UInt8 SqlToken SqlLexicalCode := ⟨next, length_le_of_next⟩

/-- `tokenize_statement`. -/
def tokenizeStatement (statement : List UInt8) : Except SqlLexicalCode (List SqlToken) :=
  if statement.contains 0 then .error .nulByte else lexer.scan statement

example : tokenizeStatement (bytes "select a.b, ?2 from [t] where x = 'it''s' -- \n;") =
    .ok [.word (bytes "select"), .word (bytes "a"), .punct (ascii '.'), .word (bytes "b"), .punct (ascii ','),
      .placeholder (some 2), .word (bytes "from"), .quotedIdentifier, .word (bytes "where"), .word (bytes "x"),
      .punct (ascii '='), .stringLiteral, .semicolon] := by
  decide +kernel

end SqlToken

end Iweb
