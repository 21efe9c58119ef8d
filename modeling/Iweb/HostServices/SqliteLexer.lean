import Iweb.HostServices.SqlTokens

/-!
# The tokens SQLite reads

SQLite splits a statement by its own lexer: white space and comments separate tokens, a block comment ends
at the first closing mark, and operators are read as far as they go. The tokens are compared with those of
the gate, which knows no operators of several characters: such an operator is compared character by
character.
-/

namespace Iweb

/-- A token SQLite's parser sees. -/
inductive SqliteToken
  | identifier (text : List UInt8)
  | quotedIdentifier (name : List UInt8)
  | string (text : List UInt8)
  | blob
  | number
  | parameter (digits : List UInt8)
  | operator (text : List UInt8)
  | semicolon
deriving DecidableEq

namespace SqliteToken

open SqlToken (isWordStart isWordChar isHexDigit isHexMark dropDigits afterFraction afterExponent afterQuote
  splitAtByte)

/-- What the lexer decides on at the first byte of a token. -/
inductive CharClass
  | space
  | minus
  | slash
  | operator
  | quote
  | dot
  | digit
  | bracket
  | question
  | semicolon
  | x
  | identifier
  /-- No token starts here. A parameter with a name (`:` `@` `$` `#`) is one the gate has no token for. -/
  | illegal
deriving DecidableEq

/-- The vertical tab. -/
def verticalTab : UInt8 := 11

/-- A byte of a run of white space. -/
def isSpace (b : UInt8) : Bool := [9, 10, 11, 12, 13, 32].contains b.toNat

/-- A byte of an identifier. -/
def isIdChar (b : UInt8) : Bool := isWordChar b || b == ascii '$' || decide (128 ≤ b.toNat)

/-- The operators, each after those it is the start of. -/
def operators : List (List UInt8) :=
  ["->>", "->", "-", "/", ".", "==", "=", "<=", "<>", "<<", "<", ">=", ">>", ">", "!=", "||", "|", "(", ")", ",",
    "*", "+", "&", "~", "%"].map bytes

def charClass (b : UInt8) : CharClass :=
  if isSpace b then if b = verticalTab then .illegal else .space
  else if b = ascii '-' then .minus
  else if b = ascii '/' then .slash
  else if b = ascii '\'' ∨ b = ascii '"' ∨ b = 96 then .quote
  else if b = ascii '.' then .dot
  else if isDecimalDigit b then .digit
  else if b = ascii '[' then .bracket
  else if b = ascii '?' then .question
  else if b = ascii ';' then .semicolon
  else if isHexMark b then .x
  else if isWordStart b ∨ 128 ≤ b.toNat then .identifier
  else if (bytes "=<>!|(),*+&~%").contains b then .operator
  else .illegal

/-- What follows the first mark that closes a block comment; an open one takes the rest of the text. -/
def afterFirstClose : List UInt8 → List UInt8
  | [] => []
  | [_] => []
  | a :: b :: rest => if a = ascii '*' ∧ b = ascii '/' then rest else afterFirstClose (b :: rest)

def operatorAt (byte : UInt8) (rest : List UInt8) : Except Unit (List SqliteToken × List UInt8) :=
  match operators.find? (·.isPrefixOf (byte :: rest)) with
  | none => .error ()
  | some text => .ok ([.operator text], (byte :: rest).drop text.length)

/-- What follows a number with this first byte. A leading point is its only one. -/
def afterNumber (byte : UInt8) (rest : List UInt8) : List UInt8 :=
  if byte = ascii '0' ∧ rest.head?.any isHexMark ∧ (rest.drop 1).head?.any isHexDigit then
    (rest.drop 1).dropWhile isHexDigit
  else if byte = ascii '.' then afterExponent (dropDigits rest)
  else afterExponent (afterFraction (dropDigits rest))

def numeralAt (byte : UInt8) (rest : List UInt8) : Except Unit (List SqliteToken × List UInt8) :=
  let rest := afterNumber byte rest
  if rest.head?.any isIdChar then .error () else .ok ([.number], rest)

/-- The text before the closing quote; a doubled quote stands for one. -/
def quotedText (quote : UInt8) : List UInt8 → List UInt8
  | [] => []
  | [b] => if b = quote then [] else [b]
  | b :: c :: rest =>
    if b = quote then if c = quote then quote :: quotedText quote rest else []
    else b :: quotedText quote (c :: rest)

/-- A literal or a quoted identifier; an open one is no token. -/
def quotedAt (token : SqliteToken) : Option (List UInt8) → Except Unit (List SqliteToken × List UInt8)
  | none => .error ()
  | some rest => .ok ([token], rest)

/-- A blob literal after its opening quote: an even number of hexadecimal digits. -/
def blobAt (rest : List UInt8) : Except Unit (List SqliteToken × List UInt8) :=
  if (rest.dropWhile isHexDigit).head? = some (ascii '\'') ∧ (rest.takeWhile isHexDigit).length % 2 = 0 then
    .ok ([.blob], (rest.dropWhile isHexDigit).drop 1)
  else .error ()

def identifierAt (byte : UInt8) (rest : List UInt8) : Except Unit (List SqliteToken × List UInt8) :=
  .ok ([.identifier (byte :: rest.takeWhile isIdChar)], rest.dropWhile isIdChar)

/-- The token at this byte, if any, and what follows it. -/
def next (byte : UInt8) (rest : List UInt8) : Except Unit (List SqliteToken × List UInt8) :=
  match charClass byte with
  | .space => .ok ([], rest.dropWhile isSpace)
  | .minus =>
    if rest.head? = some (ascii '-') then .ok ([], rest.dropWhile (· != ascii '\n')) else operatorAt byte rest
  | .slash =>
    if rest.head? = some (ascii '*') ∧ rest.drop 1 ≠ [] then .ok ([], afterFirstClose (rest.drop 1))
    else operatorAt byte rest
  | .operator => operatorAt byte rest
  | .quote =>
    let text := quotedText byte rest
    quotedAt (if byte = ascii '\'' then .string text else .quotedIdentifier text) (afterQuote byte rest)
  | .dot => if rest.head?.any isDecimalDigit then numeralAt byte rest else operatorAt byte rest
  | .digit => numeralAt byte rest
  | .bracket =>
    match splitAtByte (ascii ']') rest with
    | none => .error ()
    | some (name, rest) => .ok ([.quotedIdentifier name], rest)
  | .question => .ok ([.parameter (rest.takeWhile isDecimalDigit)], dropDigits rest)
  | .semicolon => .ok ([.semicolon], rest)
  | .x => if rest.head? = some (ascii '\'') then blobAt (rest.drop 1) else identifierAt byte rest
  | .identifier => identifierAt byte rest
  | .illegal => .error ()

theorem length_afterFirstClose_le (bs : List UInt8) : (afterFirstClose bs).length ≤ bs.length := by
  induction bs using afterFirstClose.induct with
  | case1 => exact Nat.le_refl _
  | case2 => exact Nat.zero_le _
  | case3 a b rest hclose =>
    rw [afterFirstClose, if_pos hclose]
    simp only [List.length_cons]
    omega
  | case4 a b rest hclose ih =>
    rw [afterFirstClose, if_neg hclose]
    simp only [List.length_cons] at ih ⊢
    omega

theorem length_afterNumber_le (byte : UInt8) (rest : List UInt8) :
    (afterNumber byte rest).length ≤ rest.length := by
  have hdigits := SqlToken.length_dropDigits_le rest
  unfold afterNumber
  split
  · have := (List.dropWhile_sublist (l := rest.drop 1) isHexDigit).length_le
    rw [List.length_drop] at this
    omega
  · split
    · exact Nat.le_trans (SqlToken.length_afterExponent_le _) hdigits
    · have := SqlToken.length_afterFraction_le (dropDigits rest)
      have := SqlToken.length_afterExponent_le (afterFraction (dropDigits rest))
      omega

theorem length_le_of_operatorAt {byte : UInt8} {rest rest' : List UInt8} {tokens : List SqliteToken}
    (h : operatorAt byte rest = .ok (tokens, rest')) : rest'.length ≤ rest.length := by
  have hpos : ∀ text ∈ operators, 0 < text.length := by decide
  unfold operatorAt at h
  split at h
  · cases h
  · rename_i text hfind
    cases h
    have := hpos text (List.mem_of_find?_eq_some hfind)
    rw [List.length_drop, List.length_cons]
    omega

theorem quotedAt_eq_ok {token : SqliteToken} {found : Option (List UInt8)} {tokens : List SqliteToken}
    {rest : List UInt8} (h : quotedAt token found = .ok (tokens, rest)) : found = some rest := by
  cases found <;> cases h
  rfl

theorem length_le_of_numeralAt {byte : UInt8} {rest rest' : List UInt8} {tokens : List SqliteToken}
    (h : numeralAt byte rest = .ok (tokens, rest')) : rest'.length ≤ rest.length := by
  unfold numeralAt at h
  dsimp only at h
  split at h <;> cases h
  exact length_afterNumber_le byte rest

theorem length_le_of_identifierAt {byte : UInt8} {rest rest' : List UInt8} {tokens : List SqliteToken}
    (h : identifierAt byte rest = .ok (tokens, rest')) : rest'.length ≤ rest.length := by
  cases h
  exact (List.dropWhile_sublist _).length_le

theorem length_le_of_next {byte : UInt8} {rest rest' : List UInt8} {tokens : List SqliteToken}
    (h : next byte rest = .ok (tokens, rest')) : rest'.length ≤ rest.length := by
  unfold next at h
  cases hclass : charClass byte <;> rw [hclass] at h <;> dsimp only at h
  case space =>
    cases h
    exact (List.dropWhile_sublist _).length_le
  case minus =>
    split at h
    · cases h
      exact (List.dropWhile_sublist _).length_le
    · exact length_le_of_operatorAt h
  case slash =>
    split at h
    · cases h
      refine Nat.le_trans (length_afterFirstClose_le _) ?_
      rw [List.length_drop]
      omega
    · exact length_le_of_operatorAt h
  case operator => exact length_le_of_operatorAt h
  case quote => exact SqlToken.length_le_of_afterQuote (quotedAt_eq_ok h)
  case dot =>
    split at h
    · exact length_le_of_numeralAt h
    · exact length_le_of_operatorAt h
  case digit => exact length_le_of_numeralAt h
  case bracket =>
    split at h <;> cases h
    exact SqlToken.length_le_of_splitAtByte ‹_›
  case question =>
    cases h
    exact SqlToken.length_dropDigits_le rest
  case semicolon =>
    cases h
    exact Nat.le_refl _
  case x =>
    split at h
    · unfold blobAt at h
      split at h <;> cases h
      have := (List.dropWhile_sublist (l := rest.drop 1) isHexDigit).length_le
      simp only [List.length_drop] at this ⊢
      omega
    · exact length_le_of_identifierAt h
  case identifier => exact length_le_of_identifierAt h
  case illegal => cases h

def lexer : Lexer UInt8 SqliteToken Unit := ⟨next, length_le_of_next⟩

/-- The tokens of the gate that say the same as a token of SQLite. -/
def gateTokens : SqliteToken → List SqlToken
  | .identifier text => [.word text]
  | .quotedIdentifier _ => [.quotedIdentifier]
  | .string _ => [.stringLiteral]
  | .blob => [.blobLiteral]
  | .number => [.number]
  | .parameter digits => [.placeholder (if digits = [] then none else some (decimalValue digits))]
  | .operator text => text.map .punct
  | .semicolon => [.semicolon]

/-- What SQLite reads, in the vocabulary of the gate. -/
def tokensOf (statement : List UInt8) : Except Unit (List SqlToken) :=
  (lexer.scan statement).map (·.flatMap gateTokens)

/-! ## Where the two lexers part -/

/-- A further block comment opens before the first one closes. -/
def opensNested : List UInt8 → Bool
  | [] => false
  | [_] => false
  | a :: b :: rest =>
    if a = ascii '/' ∧ b = ascii '*' then true
    else if a = ascii '*' ∧ b = ascii '/' then false
    else opensNested (b :: rest)

/-- The token at this byte is one that SQLite reads differently: a comment with a nested opening mark, a `^`,
a `!` that is not part of `!=`, a `0x` without digits, a number with a leading and a second point. -/
def partsAt (byte : UInt8) (rest : List UInt8) : Bool :=
  (byte == ascii '/' && rest.head? == some (ascii '*') && opensNested (rest.drop 1)) ||
    byte == ascii '^' || (byte == ascii '!' && rest.head? != some (ascii '=')) ||
    (byte == ascii '0' && rest.head?.any isHexMark && !(rest.drop 1).head?.any isHexDigit) ||
    (byte == ascii '.' && rest.head?.any isDecimalDigit && (dropDigits rest).head? == some (ascii '.'))

/-- No token of the gate is one that SQLite reads differently, and no vertical tab begins a run of white
space. -/
def staysTogether : Nat → Bool → List UInt8 → Bool
  | 0, _, _ => true
  | _ + 1, _, [] => true
  | fuel + 1, spaced, byte :: rest =>
    if SqlToken.isWhitespace byte then (byte != verticalTab || spaced) && staysTogether fuel true rest
    else if byte = ascii '-' ∧ rest.head? = some (ascii '-') then
      staysTogether fuel true (SqlToken.afterNewline rest)
    else !partsAt byte rest &&
      match SqlToken.next byte rest with
      | .ok (_, rest) => staysTogether fuel false rest
      | .error _ => true

/-- The statement has none of the texts that the gate and SQLite read differently. -/
def readAlike (statement : List UInt8) : Bool := staysTogether statement.length false statement

end SqliteToken

end Iweb
