import Iweb.HostServices.SqlDialect

/-!
# The lexer of the contract for SQL statements

The contract splits a statement into tokens with a lexer driven by regular expressions. A statement is ASCII, so a
code unit is a byte. The lexer differs from the one of the gate in the extent of some numbers only.
-/

namespace Iweb

open SqlToken (isWhitespace isHexDigit isHexMark isWordStart isWordChar isPunct splitAtByte)

/-- `IwebSqlTokenKind` -/
inductive IwebSqlTokenKind
  | word
  | quotedIdentifier
  | string
  | blob
  | number
  | placeholder
  | punct
  | semicolon
deriving DecidableEq

/-- `IwebSqlToken` -/
structure IwebSqlToken where
  kind : IwebSqlTokenKind
  text : List UInt8
  placeholderIndex : Option Nat
deriving DecidableEq

/-- `IwebSqlWireError`; its cases are those of `SqlError`. -/
structure IwebSqlWireError where
  case : SqlError
  code : String
  message : String
deriving DecidableEq

namespace SqlContract

/-! ## The tokens -/

/-- An `invalid-sql` error of the lexer. -/
def lexicalError (code message : String) : IwebSqlWireError := ⟨.invalidSql, code, message⟩

def tokenInvalid (message : String) : IwebSqlWireError := lexicalError "IWEB_SQL_TOKEN_INVALID" message

def literalUnterminated (message : String) : IwebSqlWireError :=
  lexicalError "IWEB_SQL_LITERAL_UNTERMINATED" message

/-- The text up to where the rest starts. -/
def sliceTo (text rest : List UInt8) : List UInt8 := text.take (text.length - rest.length)

/-- What follows the first newline; the end of the text without one. -/
def skipLine (text : List UInt8) : List UInt8 :=
  match splitAtByte (ascii '\n') text with
  | none => []
  | some (_, rest) => rest

/-- What follows the end of the outermost of `depth` open block comments. -/
def skipComment : Nat → List UInt8 → Option (List UInt8)
  | 0, text => some text
  | _ + 1, [] => none
  | _ + 1, [_] => none
  | depth + 1, a :: b :: rest =>
    if a = ascii '/' ∧ b = ascii '*' then skipComment (depth + 2) rest
    else if a = ascii '*' ∧ b = ascii '/' then skipComment depth rest
    else skipComment (depth + 1) (b :: rest)

/-- What follows the first quote that is not doubled; `fuel` bounds the quotes. -/
def closeQuote (quote : UInt8) : Nat → List UInt8 → Option (List UInt8)
  | 0, _ => none
  | fuel + 1, text =>
    match splitAtByte quote text with
    | none => none
    | some (_, []) => some []
    | some (_, c :: rest) => if c = quote then closeQuote quote fuel rest else some (c :: rest)

/-- The digits at the start of a text, and what follows them. -/
def digits (text : List UInt8) : List UInt8 × List UInt8 :=
  (text.takeWhile isDecimalDigit, text.dropWhile isDecimalDigit)

/-- `(?:\.\d*)?` -/
def optionalFraction (text : List UInt8) : List UInt8 :=
  match text with
  | [] => []
  | b :: rest => if b = ascii '.' then (digits rest).2 else b :: rest

/-- `[+-]?` -/
def optionalSign (text : List UInt8) : List UInt8 :=
  match text with
  | [] => []
  | b :: rest => if b = ascii '+' ∨ b = ascii '-' then rest else b :: rest

/-- `(?:[eE][+-]?\d+)?` -/
def optionalExponent (text : List UInt8) : List UInt8 :=
  match text with
  | [] => []
  | b :: rest =>
    if b = ascii 'e' ∨ b = ascii 'E' then
      match digits (optionalSign rest) with
      | ([], _) => b :: rest
      | (_, after) => after
    else b :: rest

/-- `0[xX][0-9A-Fa-f]+` -/
def matchHex (text : List UInt8) : Option (List UInt8) :=
  match text with
  | zero :: x :: rest =>
    if zero = ascii '0' ∧ isHexMark x then
      match rest.takeWhile isHexDigit with
      | [] => none
      | _ => some (rest.dropWhile isHexDigit)
    else none
  | _ => none

/-- `\d+(?:\.\d*)?(?:[eE][+-]?\d+)?` -/
def matchDecimal (text : List UInt8) : Option (List UInt8) :=
  match digits text with
  | ([], _) => none
  | (_, after) => some (optionalExponent (optionalFraction after))

/-- `\.\d+(?:[eE][+-]?\d+)?` -/
def matchDotted (text : List UInt8) : Option (List UInt8) :=
  match text with
  | [] => none
  | b :: rest =>
    if b = ascii '.' then
      match digits rest with
      | ([], _) => none
      | (_, after) => some (optionalExponent after)
    else none

/-- `SQL_NUMBER_PATTERN` at the start of a text: what follows its first alternative that matches. -/
def matchNumber (text : List UInt8) : Option (List UInt8) :=
  (matchHex text).or ((matchDecimal text).or (matchDotted text))

abbrev Turn : Type := Except IwebSqlWireError (List IwebSqlToken × List UInt8)

/-- A token from the start of a text up to the rest. -/
def tokenTo (kind : IwebSqlTokenKind) (text rest : List UInt8) : Turn := .ok ([⟨kind, sliceTo text rest, none⟩], rest)

/-- A literal or a quoted identifier that must be closed. -/
def closed (kind : IwebSqlTokenKind) (text : List UInt8) (message : String) : Option (List UInt8) → Turn
  | none => .error (literalUnterminated message)
  | some rest => tokenTo kind text rest

/-- A blob literal after its opening quote. -/
def blobLiteral (text rest : List UInt8) : Turn :=
  match splitAtByte (ascii '\'') rest with
  | none => .error (literalUnterminated "blob literal is not terminated")
  | some (hex, after) =>
    if hex.length % 2 ≠ 0 || !hex.all isHexDigit then
      .error (lexicalError "IWEB_SQL_BLOB_LITERAL_INVALID" "blob literal must contain an even number of hex digits")
    else tokenTo .blob text after

/-- A parameter after its question mark. -/
def placeholder (text rest : List UInt8) : Turn :=
  -- `[0-9]{1,6}`
  match (rest.takeWhile isDecimalDigit).take 6 with
  | [] => .ok ([⟨.placeholder, [ascii '?'], none⟩], rest)
  | d :: ds =>
    let explicit := decimalValue (d :: ds)
    let after := rest.drop (d :: ds).length
    if explicit < 1 || after.head?.any isWordChar then
      .error (lexicalError "IWEB_SQL_PLACEHOLDER_INDEX_INVALID"
        "explicit parameter index must be 1..999999 digits and stand alone")
    else .ok ([⟨.placeholder, sliceTo text after, some explicit⟩], after)

/-- A number at the start of a text. -/
def number (text : List UInt8) : Turn :=
  match matchNumber text with
  | none => .error (tokenInvalid "numeric literal is malformed")
  | some after =>
    if after.head?.any isWordStart then
      .error (tokenInvalid "numeric literal is followed by an identifier character")
    else tokenTo .number text after

/-- One turn of the loop of `tokenizeIwebSqlStatement`. -/
def next (ch : UInt8) (rest : List UInt8) : Turn :=
  if isWhitespace ch then .ok ([], rest)
  else if ch = ascii '-' ∧ rest.head? = some (ascii '-') then .ok ([], skipLine rest)
  else if ch = ascii '/' ∧ rest.head? = some (ascii '*') then
    match skipComment 1 (rest.drop 1) with
    | none => .error (lexicalError "IWEB_SQL_COMMENT_UNTERMINATED" "block comment is not terminated")
    | some rest => .ok ([], rest)
  else if ch = ascii '\'' then
    closed .string (ch :: rest) "string literal is not terminated" (closeQuote ch (rest.length + 1) rest)
  else if isHexMark ch ∧ rest.head? = some (ascii '\'') then blobLiteral (ch :: rest) (rest.drop 1)
  else if ch = ascii '"' ∨ ch = 96 then
    closed .quotedIdentifier (ch :: rest) "quoted identifier is not terminated"
      (closeQuote ch (rest.length + 1) rest)
  else if ch = ascii '[' then
    closed .quotedIdentifier (ch :: rest) "bracket identifier is not terminated"
      ((splitAtByte (ascii ']') rest).map Prod.snd)
  else if ch = ascii '?' then placeholder (ch :: rest) rest
  else if ch = ascii ':' ∨ ch = ascii '@' ∨ ch = ascii '$' then
    .error (lexicalError "IWEB_SQL_NAMED_PLACEHOLDER_DENIED"
      "minimal-sqlite-v1 accepts only ? and ?NNN positional placeholders")
  else if ch = ascii ';' then .ok ([⟨.semicolon, [ch], none⟩], rest)
  else if isDecimalDigit ch ∨ (ch = ascii '.' ∧ rest.head?.any isDecimalDigit) then number (ch :: rest)
  else if isWordStart ch then
    .ok ([⟨.word, ch :: rest.takeWhile isWordChar, none⟩], rest.dropWhile isWordChar)
  else if isPunct ch then .ok ([⟨.punct, [ch], none⟩], rest)
  else .error (tokenInvalid "statement contains a character outside the minimal-sqlite-v1 lexical grammar")

/-! ## The parts of the two lexers that agree -/

open SqlToken (afterNewline afterComment afterQuote dropDigits afterFraction afterSign afterExponent)

theorem skipLine_eq (text : List UInt8) : skipLine text = afterNewline text := by
  unfold skipLine
  induction text with
  | nil => rfl
  | cons b rest ih =>
    unfold splitAtByte afterNewline
    by_cases hb : b = ascii '\n'
    · rw [if_pos hb, if_pos hb]
    · rw [if_neg hb, if_neg hb, ← ih]
      cases splitAtByte (ascii '\n') rest with
      | none => rfl
      | some parts => rfl

theorem skipComment_eq (depth : Nat) (text : List UInt8) :
    skipComment (depth + 1) text = afterComment (depth + 1) text := by
  generalize hn : text.length = n
  induction n using Nat.strongRecOn generalizing depth text with
  | ind n ih =>
    match text with
    | [] => rfl
    | [_] => rfl
    | a :: b :: rest =>
      simp only [List.length_cons] at hn
      unfold skipComment afterComment
      split
      · exact ih rest.length (by omega) (depth + 1) rest rfl
      · split
        · cases depth with
          | zero => rw [skipComment, if_pos rfl]
          | succ depth =>
            rw [if_neg (by omega)]
            exact ih rest.length (by omega) depth rest rfl
        · exact ih (b :: rest).length (by simp only [List.length_cons]; omega) depth (b :: rest) rfl

/-- The quote that closes is the first that is not doubled. -/
theorem afterQuote_eq_split (quote : UInt8) (text : List UInt8) :
    afterQuote quote text = match splitAtByte quote text with
      | none => none
      | some (_, []) => some []
      | some (_, c :: rest) => if c = quote then afterQuote quote rest else some (c :: rest) := by
  match text with
  | [] => rfl
  | [b] =>
    rw [afterQuote, splitAtByte]
    by_cases hb : b = quote
    · rw [if_pos hb, if_pos hb]
    · rw [if_neg hb, if_neg hb]
      rfl
  | b :: c :: rest =>
    rw [afterQuote, splitAtByte]
    by_cases hb : b = quote
    · rw [if_pos hb, if_pos hb]
    · rw [if_neg hb, if_neg hb, afterQuote_eq_split quote (c :: rest)]
      cases splitAtByte quote (c :: rest) with
      | none => rfl
      | some parts =>
        obtain ⟨before, after⟩ := parts
        cases after with
        | nil => rfl
        | cons d tail => rfl

theorem closeQuote_eq {quote : UInt8} {fuel : Nat} {text : List UInt8} (h : text.length < fuel) :
    closeQuote quote fuel text = afterQuote quote text := by
  induction fuel generalizing text with
  | zero => omega
  | succ fuel ih =>
    rw [afterQuote_eq_split]
    unfold closeQuote
    cases hsplit : splitAtByte quote text with
    | none => rfl
    | some parts =>
      obtain ⟨before, after⟩ := parts
      have hshort := SqlToken.length_le_of_splitAtByte hsplit
      cases after with
      | nil => rfl
      | cons c rest =>
        dsimp only
        rw [List.length_cons] at hshort
        rw [ih (by omega)]

theorem optionalFraction_eq (text : List UInt8) : optionalFraction text = afterFraction text := by
  cases text <;> rfl

theorem optionalSign_eq (text : List UInt8) : optionalSign text = afterSign text := by
  cases text <;> rfl

theorem digits_cases (text : List UInt8) :
    (text.head?.any isDecimalDigit = false ∧ digits text = ([], text)) ∨
      (text.head?.any isDecimalDigit = true ∧ ∃ d ds, digits text = (d :: ds, dropDigits text)) := by
  cases text with
  | nil => exact .inl ⟨rfl, rfl⟩
  | cons b rest =>
    unfold digits
    cases hb : isDecimalDigit b with
    | false => exact .inl ⟨hb, by rw [List.takeWhile_cons_of_neg (by simp [hb]), List.dropWhile_cons_of_neg (by simp [hb])]⟩
    | true => exact .inr ⟨hb, b, rest.takeWhile isDecimalDigit, by rw [List.takeWhile_cons_of_pos hb]; rfl⟩

theorem optionalExponent_eq (text : List UInt8) : optionalExponent text = afterExponent text := by
  cases text with
  | nil => rfl
  | cons b rest =>
    unfold optionalExponent afterExponent
    dsimp only
    rw [optionalSign_eq]
    by_cases hmark : b = ascii 'e' ∨ b = ascii 'E'
    · rw [if_pos hmark]
      rcases digits_cases (afterSign rest) with ⟨hnone, hdigits⟩ | ⟨hsome, d, ds, hdigits⟩
      · rw [hdigits, if_neg]
        rintro ⟨-, hdigit⟩
        rw [hnone] at hdigit
        cases hdigit
      · rw [hdigits, if_pos ⟨hmark, hsome⟩]
    · rw [if_neg hmark, if_neg fun h => hmark h.1]

theorem takeWhile_cases (p : UInt8 → Bool) (text : List UInt8) :
    (text.head?.any p = false ∧ text.takeWhile p = []) ∨
      (text.head?.any p = true ∧ ∃ d ds, text.takeWhile p = d :: ds) := by
  cases text with
  | nil => exact .inl ⟨rfl, rfl⟩
  | cons b rest =>
    cases hb : p b with
    | false => exact .inl ⟨hb, List.takeWhile_cons_of_neg (by simp [hb])⟩
    | true => exact .inr ⟨hb, b, rest.takeWhile p, List.takeWhile_cons_of_pos hb⟩

/-- A hex prefix without a digit: no alternative of the number pattern reads the prefix. -/
def isEmptyHex (ch : UInt8) (rest : List UInt8) : Bool :=
  ch == ascii '0' && rest.head?.any isHexMark && !(rest.drop 1).head?.any isHexDigit

/-- What the number pattern reads at the start of a number. -/
theorem matchNumber_digit {ch : UInt8} {rest : List UInt8} (hdigit : isDecimalDigit ch = true)
    (hhex : isEmptyHex ch rest = false) : matchNumber (ch :: rest) = some (SqlToken.afterNumber ch rest) := by
  have hdecimal : matchDecimal (ch :: rest) = some (afterExponent (afterFraction (dropDigits rest))) := by
    unfold matchDecimal digits
    rw [List.takeWhile_cons_of_pos hdigit, List.dropWhile_cons_of_pos hdigit]
    dsimp only
    rw [optionalFraction_eq, optionalExponent_eq]
    rfl
  unfold matchNumber SqlToken.afterNumber
  by_cases hstarts : ch = ascii '0' ∧ rest.head?.any isHexMark = true
  · rw [if_pos hstarts]
    obtain ⟨hzero, hmark⟩ := hstarts
    cases rest with
    | nil => cases hmark
    | cons x rest =>
      have hx : isHexMark x = true := hmark
      have hdigits : rest.head?.any isHexDigit = true := by
        unfold isEmptyHex at hhex
        simpa [hzero, hx] using hhex
      unfold matchHex
      dsimp only
      rw [if_pos ⟨hzero, hx⟩]
      rcases takeWhile_cases isHexDigit rest with ⟨hnone, -⟩ | ⟨-, d, ds, htake⟩
      · rw [hnone] at hdigits
        cases hdigits
      · rw [htake]
        rfl
  · have hnone : matchHex (ch :: rest) = none := by
      unfold matchHex
      cases rest with
      | nil => rfl
      | cons x rest => exact if_neg fun h => hstarts h
    rw [if_neg hstarts, hnone, hdecimal]
    rfl

/-- At an empty hex number the pattern reads the zero, and the mark that follows it is refused. -/
theorem matchNumber_emptyHex {ch : UInt8} {rest : List UInt8} (hhex : isEmptyHex ch rest = true) :
    matchNumber (ch :: rest) = some rest ∧ rest.head?.any isWordStart = true := by
  unfold isEmptyHex at hhex
  simp only [Bool.and_eq_true, beq_iff_eq, Bool.not_eq_true'] at hhex
  obtain ⟨⟨rfl, hmark⟩, hempty⟩ := hhex
  cases rest with
  | nil => cases hmark
  | cons x rest =>
    have hx : x = ascii 'x' ∨ x = ascii 'X' := by simpa [isHexMark] using hmark
    have hhexNone : matchHex (ascii '0' :: x :: rest) = none := by
      unfold matchHex
      dsimp only
      rw [if_pos ⟨rfl, hmark⟩]
      rcases takeWhile_cases isHexDigit rest with ⟨-, htake⟩ | ⟨hsome, -⟩
      · rw [htake]
      · rw [show rest.head?.any isHexDigit = false from hempty] at hsome
        cases hsome
    have hdecimal : matchDecimal (ascii '0' :: x :: rest) = some (x :: rest) := by
      unfold matchDecimal digits
      rw [List.takeWhile_cons_of_pos (by decide), List.dropWhile_cons_of_pos (by decide)]
      rcases hx with rfl | rfl <;> rfl
    unfold matchNumber
    rw [hhexNone, hdecimal]
    exact ⟨rfl, by rcases hx with rfl | rfl <;> rfl⟩

theorem matchNumber_dot {rest : List UInt8} (hdigit : rest.head?.any isDecimalDigit = true) :
    matchNumber (ascii '.' :: rest) = some (afterExponent (dropDigits rest)) := by
  have hhex : matchHex (ascii '.' :: rest) = none := by
    unfold matchHex
    cases rest with
    | nil => rfl
    | cons x rest => exact if_neg fun h => absurd h.1 (by decide)
  have hdecimal : matchDecimal (ascii '.' :: rest) = none := by
    unfold matchDecimal digits
    rw [List.takeWhile_cons_of_neg (by decide)]
  unfold matchNumber matchDotted
  dsimp only
  rw [hhex, hdecimal, if_pos rfl]
  rcases digits_cases rest with ⟨hnone, -⟩ | ⟨-, d, ds, hdigits⟩
  · rw [hnone] at hdigit
    cases hdigit
  · rw [hdigits]
    show some (optionalExponent (dropDigits rest)) = _
    rw [optionalExponent_eq]

/-! ## One turn of each lexer -/

/-- A token as each lexer keeps it. -/
inductive SameToken : SqlToken → IwebSqlToken → Prop
  | word (text : List UInt8) : SameToken (.word text) ⟨.word, text, none⟩
  | quotedIdentifier (text : List UInt8) : SameToken .quotedIdentifier ⟨.quotedIdentifier, text, none⟩
  | string (text : List UInt8) : SameToken .stringLiteral ⟨.string, text, none⟩
  | blob (text : List UInt8) : SameToken .blobLiteral ⟨.blob, text, none⟩
  | number (text : List UInt8) : SameToken .number ⟨.number, text, none⟩
  | placeholder (text : List UInt8) (index : Option Nat) : SameToken (.placeholder index) ⟨.placeholder, text, index⟩
  | punct (byte : UInt8) : SameToken (.punct byte) ⟨.punct, [byte], none⟩
  | semicolon (text : List UInt8) : SameToken .semicolon ⟨.semicolon, text, none⟩

/-- Both lexers refuse, or they read at most one token, the same, and leave the same text. -/
inductive SameTurn : Except SqlLexicalCode (List SqlToken × List UInt8) → Turn → Prop
  | refused (e : SqlLexicalCode) (code message : String) : SameTurn (.error e) (.error (lexicalError code message))
  | skipped (rest : List UInt8) : SameTurn (.ok ([], rest)) (.ok ([], rest))
  | read {token : SqlToken} {token' : IwebSqlToken} (rest : List UInt8) (h : SameToken token token') :
      SameTurn (.ok ([token], rest)) (.ok ([token'], rest))

theorem sameTurn_closed {kind : IwebSqlTokenKind} {token : SqlToken} {text : List UInt8} {message : String}
    (hkind : ∀ text, SameToken token ⟨kind, text, none⟩) (found : Option (List UInt8)) :
    SameTurn (SqlToken.terminated [token] found) (closed kind text message found) := by
  cases found with
  | none => exact .refused _ _ _
  | some rest => exact .read rest (hkind _)

theorem sameTurn_blob (text rest : List UInt8) : SameTurn (SqlToken.blob rest) (blobLiteral text rest) := by
  unfold SqlToken.blob blobLiteral
  cases splitAtByte (ascii '\'') rest with
  | none => exact .refused _ _ _
  | some parts =>
    obtain ⟨hex, after⟩ := parts
    dsimp only
    by_cases hvalid : hex.length % 2 ≠ 0 ∨ hex.all isHexDigit = false
    · rw [if_pos hvalid, if_pos (by simpa using hvalid)]
      exact .refused _ _ _
    · rw [if_neg hvalid, if_neg (by simpa using hvalid)]
      exact .read after (.blob _)

theorem sameTurn_placeholder (text rest : List UInt8) :
    SameTurn (SqlToken.parameter rest) (placeholder text rest) := by
  unfold SqlToken.parameter placeholder
  dsimp only
  cases hdigits : (rest.takeWhile isDecimalDigit).take 6 with
  | nil => exact .read rest (.placeholder _ none)
  | cons d ds =>
    rw [if_neg (List.cons_ne_nil d ds)]
    dsimp only
    by_cases hinvalid : decimalValue (d :: ds) < 1 ∨ (rest.drop (d :: ds).length).head?.any isWordChar = true
    · rw [if_pos hinvalid, if_pos (by simpa using hinvalid)]
      exact .refused _ _ _
    · rw [if_neg hinvalid, if_neg (by simpa using hinvalid)]
      exact .read _ (.placeholder _ _)

theorem sameTurn_number {ch : UInt8} {rest : List UInt8}
    (h : matchNumber (ch :: rest) = some (SqlToken.afterNumber ch rest)) :
    SameTurn (SqlToken.numeral ch rest) (number (ch :: rest)) := by
  unfold SqlToken.numeral number
  rw [h]
  dsimp only
  cases (SqlToken.afterNumber ch rest).head?.any isWordStart with
  | true => exact .refused _ _ _
  | false => exact .read _ (.number _)

/-- The lexers differ in their numbers at most. -/
theorem sameTurn_next {ch : UInt8} {rest : List UInt8}
    (hnumber : SqlToken.isNumberStart ch rest = true → SameTurn (SqlToken.numeral ch rest) (number (ch :: rest))) :
    SameTurn (SqlToken.next ch rest) (next ch rest) := by
  unfold SqlToken.next next
  by_cases hspace : isWhitespace ch = true
  · rw [if_pos hspace, if_pos hspace]
    exact .skipped rest
  rw [if_neg hspace, if_neg hspace]
  by_cases hline : ch = ascii '-' ∧ rest.head? = some (ascii '-')
  · rw [if_pos hline, if_pos hline, skipLine_eq]
    exact .skipped _
  rw [if_neg hline, if_neg hline]
  by_cases hblock : ch = ascii '/' ∧ rest.head? = some (ascii '*')
  · rw [if_pos hblock, if_pos hblock, skipComment_eq]
    cases afterComment 1 (rest.drop 1) with
    | none => exact .refused _ _ _
    | some rest => exact .skipped rest
  rw [if_neg hblock, if_neg hblock]
  by_cases hstring : ch = ascii '\''
  · rw [if_pos hstring, if_pos hstring, closeQuote_eq (Nat.lt_succ_self _)]
    exact sameTurn_closed .string _
  rw [if_neg hstring, if_neg hstring]
  by_cases hblob : isHexMark ch = true ∧ rest.head? = some (ascii '\'')
  · rw [if_pos hblob, if_pos hblob]
    exact sameTurn_blob _ _
  rw [if_neg hblob, if_neg hblob]
  by_cases hquoted : ch = ascii '"' ∨ ch = 96
  · rw [if_pos hquoted, if_pos hquoted, closeQuote_eq (Nat.lt_succ_self _)]
    exact sameTurn_closed .quotedIdentifier _
  rw [if_neg hquoted, if_neg hquoted]
  by_cases hbracket : ch = ascii '['
  · rw [if_pos hbracket, if_pos hbracket]
    exact sameTurn_closed .quotedIdentifier _
  rw [if_neg hbracket, if_neg hbracket]
  by_cases hplaceholder : ch = ascii '?'
  · rw [if_pos hplaceholder, if_pos hplaceholder]
    exact sameTurn_placeholder _ _
  rw [if_neg hplaceholder, if_neg hplaceholder]
  by_cases hnamed : ch = ascii ':' ∨ ch = ascii '@' ∨ ch = ascii '$'
  · rw [if_pos hnamed, if_pos hnamed]
    exact .refused _ _ _
  rw [if_neg hnamed, if_neg hnamed]
  by_cases hsemicolon : ch = ascii ';'
  · rw [if_pos hsemicolon, if_pos hsemicolon]
    exact .read rest (.semicolon _)
  rw [if_neg hsemicolon, if_neg hsemicolon]
  have hstart : SqlToken.isNumberStart ch rest = true ↔
      (isDecimalDigit ch = true ∨ (ch = ascii '.' ∧ rest.head?.any isDecimalDigit = true)) := by
    unfold SqlToken.isNumberStart
    rw [Bool.or_eq_true, Bool.and_eq_true, beq_iff_eq]
  by_cases hdigit : SqlToken.isNumberStart ch rest = true
  · rw [if_pos hdigit, if_pos (hstart.mp hdigit)]
    exact hnumber hdigit
  rw [if_neg hdigit, if_neg fun h => hdigit (hstart.mpr h)]
  by_cases hword : isWordStart ch = true
  · rw [if_pos hword, if_pos hword]
    exact .read _ (.word _)
  rw [if_neg hword, if_neg hword]
  by_cases hpunct : isPunct ch = true
  · rw [if_pos hpunct, if_pos hpunct]
    exact .read rest (.punct ch)
  · rw [if_neg hpunct, if_neg hpunct]
    exact .refused _ _ _

/-! ## The lexer -/

/-- Where a number starts, no space, comment or literal does. -/
theorem no_literal_of_numberStart : ∀ b : UInt8, (isDecimalDigit b || b == ascii '.') = true →
    isWhitespace b = false ∧ b ≠ ascii '-' ∧ b ≠ ascii '/' ∧ b ≠ ascii '\'' ∧ isHexMark b = false ∧ b ≠ ascii '"' :=
  forall_byte (by decide +kernel)

/-- Where a number starts, no quoted identifier, parameter or end of a statement does. -/
theorem no_mark_of_numberStart : ∀ b : UInt8, (isDecimalDigit b || b == ascii '.') = true →
    b ≠ 96 ∧ b ≠ ascii '[' ∧ b ≠ ascii '?' ∧ b ≠ ascii ':' ∧ b ≠ ascii '@' ∧ b ≠ ascii '$' ∧ b ≠ ascii ';' :=
  forall_byte (by decide +kernel)

theorem next_of_numberStart {ch : UInt8} {rest : List UInt8} (h : SqlToken.isNumberStart ch rest = true) :
    SqlToken.next ch rest = SqlToken.numeral ch rest ∧ next ch rest = number (ch :: rest) := by
  have hbyte : (isDecimalDigit ch || ch == ascii '.') = true := by
    unfold SqlToken.isNumberStart at h
    rw [Bool.or_eq_true, Bool.and_eq_true] at h
    rcases h with h | h
    · rw [h, Bool.true_or]
    · rw [h.1, Bool.or_true]
  obtain ⟨h1, h2, h3, h4, h5, h6⟩ := no_literal_of_numberStart ch hbyte
  obtain ⟨h7, h8, h9, h10, h11, h12, h13⟩ := no_mark_of_numberStart ch hbyte
  have hstart : isDecimalDigit ch = true ∨ (ch = ascii '.' ∧ rest.head?.any isDecimalDigit = true) := by
    unfold SqlToken.isNumberStart at h
    rwa [Bool.or_eq_true, Bool.and_eq_true, beq_iff_eq] at h
  constructor
  · simp only [SqlToken.next, h, h1, h2, h3, h4, h5, h6, h7, h8, h9, h10, h11, h12, h13, Bool.false_eq_true,
      false_and, or_self, if_false, if_true]
  · simp only [next, hstart, h1, h2, h3, h4, h5, h6, h7, h8, h9, h10, h11, h12, h13, Bool.false_eq_true,
      false_and, or_self, if_false, if_true]

theorem number_eq_ok {text rest : List UInt8} {tokens : List IwebSqlToken} (h : number text = .ok (tokens, rest)) :
    matchNumber text = some rest ∧ rest.head?.any isWordStart = false ∧
      tokens = [⟨.number, sliceTo text rest, none⟩] := by
  unfold number at h
  split at h
  · cases h
  · rename_i after hmatch
    split at h
    · cases h
    · rename_i hword
      cases h
      exact ⟨hmatch, by simpa using hword, rfl⟩

theorem number_eq_error {text : List UInt8} {e : IwebSqlWireError} (h : number text = .error e) :
    e.case = .invalidSql := by
  unfold number at h
  split at h
  · cases h
    rfl
  · split at h
    · cases h
      rfl
    · cases h

/-- A number that starts at a byte ends after it. -/
theorem length_le_of_matchNumber {ch : UInt8} {rest after : List UInt8}
    (hstart : SqlToken.isNumberStart ch rest = true) (h : matchNumber (ch :: rest) = some after) :
    after.length ≤ rest.length := by
  unfold SqlToken.isNumberStart at hstart
  rw [Bool.or_eq_true, Bool.and_eq_true, beq_iff_eq] at hstart
  rcases hstart with hdigit | ⟨rfl, hdigit⟩
  · cases hhex : isEmptyHex ch rest with
    | true =>
      rw [(matchNumber_emptyHex hhex).1] at h
      cases h
      exact Nat.le_refl _
    | false =>
      rw [matchNumber_digit hdigit hhex] at h
      cases h
      exact SqlToken.length_afterNumber_le ch rest
  · rw [matchNumber_dot hdigit] at h
    cases h
    exact Nat.le_trans (SqlToken.length_afterExponent_le _) (SqlToken.length_dropDigits_le _)

theorem length_le_of_next {ch : UInt8} {rest rest' : List UInt8} {tokens : List IwebSqlToken}
    (h : next ch rest = .ok (tokens, rest')) : rest'.length ≤ rest.length := by
  cases hstart : SqlToken.isNumberStart ch rest with
  | true =>
    rw [(next_of_numberStart hstart).2] at h
    exact length_le_of_matchNumber hstart (number_eq_ok h).1
  | false =>
    have hturn : SameTurn (SqlToken.next ch rest) (next ch rest) :=
      sameTurn_next fun h => absurd h (by rw [hstart]; exact Bool.false_ne_true)
    rw [h] at hturn
    generalize hgate : SqlToken.next ch rest = turn at hturn
    cases hturn with
    | skipped => exact SqlToken.length_le_of_next hgate
    | read => exact SqlToken.length_le_of_next hgate

theorem next_eq_error {ch : UInt8} {rest : List UInt8} {e : IwebSqlWireError} (h : next ch rest = .error e) :
    e.case = .invalidSql := by
  cases hstart : SqlToken.isNumberStart ch rest with
  | true =>
    rw [(next_of_numberStart hstart).2] at h
    exact number_eq_error h
  | false =>
    have hturn : SameTurn (SqlToken.next ch rest) (next ch rest) :=
      sameTurn_next fun h => absurd h (by rw [hstart]; exact Bool.false_ne_true)
    rw [h] at hturn
    generalize SqlToken.next ch rest = turn at hturn
    cases hturn
    rfl

/-- The tokenizer of the contract. -/
def lexer : Lexer UInt8 IwebSqlToken IwebSqlWireError := ⟨next, length_le_of_next⟩

end SqlContract

end Iweb
