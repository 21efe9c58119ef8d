import Iweb.HostServices.ContractLexer

/-!
# The contract's gate for SQL statements

The contract checks a request before it is sent and reports each refusal with its case, a code and a message. It
does so for itself, next to the gate of the host.
-/

namespace Iweb

/-- A statement in which every character is one byte. -/
structure AsciiStatement where
  text : List UInt8
  isAscii : ∀ b ∈ text, b.toNat ≤ 0x7f

/-- `IwebSqlExecuteAnalysis` -/
structure IwebSqlExecuteAnalysis where
  kind : SqlStatementKind
  parameterCount : Nat
  parameterValues : List SqlValue
  parameterBytes : Nat

namespace SqlContract

open SqlDialect (lowercase kindOf)

/-- `iwebUtf8ByteLength` of a statement. -/
def utf8ByteLength (statement : AsciiStatement) : Nat := statement.text.length

/-- `tokenizeIwebSqlStatement` -/
def tokenizeIwebSqlStatement (statement : AsciiStatement) : Except IwebSqlWireError (List IwebSqlToken) :=
  if statement.text.contains 0 then .error (tokenInvalid "statement contains a NUL byte")
  else lexer.scan statement.text

/-! ## The statement -/

/-- `SQL_STATEMENT_KEYWORD_DENYLIST` -/
def sqlStatementKeywordDenylist : List (List UInt8) := ["attach", "detach", "pragma"].map bytes

/-- `SQL_EXTENSION_FUNCTION_DENYLIST` -/
def sqlExtensionFunctionDenylist : List (List UInt8) := ["load_extension", "fts3_tokenizer"].map bytes

/-- `SQL_FILE_FUNCTION_DENYLIST` -/
def sqlFileFunctionDenylist : List (List UInt8) := ["readfile", "writefile", "edit"].map bytes

def isWord (token : IwebSqlToken) : Bool := token.kind == .word

def isSemicolon (token : IwebSqlToken) : Bool := token.kind == .semicolon

/-- An open parenthesis follows. -/
def inCallPosition (after : List IwebSqlToken) : Bool :=
  after.head?.any fun next => next.kind == .punct && next.text == bytes "("

/-- Why a word is denied, in a call position or not. -/
def denialOf (word : List UInt8) (inCallPosition : Bool) : Option IwebSqlWireError :=
  if sqlStatementKeywordDenylist.contains word then
    some ⟨.invalidSql, "IWEB_SQL_KEYWORD_DENIED", "attach, detach and pragma keywords are denied in every position"⟩
  else if !inCallPosition then none
  else if sqlExtensionFunctionDenylist.contains word then
    some ⟨.invalidSql, "IWEB_SQL_EXTENSION_FUNCTION_DENIED", "extension loading functions are denied"⟩
  else if sqlFileFunctionDenylist.contains word then
    some ⟨.invalidSql, "IWEB_SQL_FILE_FUNCTION_DENIED", "arbitrary file path functions are denied"⟩
  else if (bytes "pragma_").isPrefixOf word then
    some ⟨.invalidSql, "IWEB_SQL_PRAGMA_FUNCTION_DENIED", "pragma table functions are denied"⟩
  else none

/-- The denylist loop: the first denied word. -/
def firstDenial : List IwebSqlToken → Option IwebSqlWireError
  | [] => none
  | token :: rest =>
    if isWord token then (denialOf (lowercase token.text) (inCallPosition rest)).or (firstDenial rest)
    else firstDenial rest

/-- `countStatementParameters` -/
def countStatementParameters (tokens : List IwebSqlToken) : Nat :=
  tokens.foldl (fun largest token =>
    if token.kind = .placeholder then
      match token.placeholderIndex with
      | none => largest + 1
      | some index => max largest index
    else largest) 0

/-- The body of a single statement: the first semicolon may only be its last token. -/
def singleBody (tokens : List IwebSqlToken) : Except IwebSqlWireError (List IwebSqlToken) :=
  match tokens.findIdx? isSemicolon with
  | none => .ok tokens
  | some firstSemicolon =>
    if firstSemicolon ≠ tokens.length - 1 then
      .error ⟨.invalidSql, "IWEB_SQL_MULTIPLE_STATEMENTS",
        "exactly one statement per call; semicolon-separated scripts are rejected"⟩
    else .ok tokens.dropLast

def emptyStatement : IwebSqlWireError :=
  ⟨.invalidSql, "IWEB_SQL_EMPTY_STATEMENT", "statement must contain one SQL statement"⟩

/-- `analyzeIwebSqlTokens` -/
def analyzeIwebSqlTokens (tokens : List IwebSqlToken) (limits : SqlLimitsV2) :
    Except IwebSqlWireError StatementAnalysis :=
  match singleBody tokens with
  | .error e => .error e
  | .ok [] => .error emptyStatement
  | .ok (first :: rest) =>
    if !isWord first then
      .error ⟨.invalidSql, "IWEB_SQL_STATEMENT_KIND_DENIED", "statement must begin with an ordinary DML keyword"⟩
    else if lowercase first.text = bytes "with" then
      .error ⟨.invalidSql, "IWEB_SQL_WITH_DENIED", "WITH/CTE statements are outside the minimal-sqlite-v1 dialect"⟩
    else
      match kindOf (lowercase first.text) with
      | none =>
        .error ⟨.invalidSql, "IWEB_SQL_STATEMENT_KIND_DENIED",
          "only ordinary select, insert, update and delete are accepted; the bounded DDL subset awaits the owner freeze"⟩
      | some kind =>
        match firstDenial (first :: rest) with
        | some e => .error e
        | none =>
          if countStatementParameters (first :: rest) > limits.maxParameters then
            .error ⟨.limitExceeded, "IWEB_SQL_PARAMETER_COUNT_EXCEEDED",
              "statement parameter count exceeds the profile maximum"⟩
          else .ok ⟨kind, countStatementParameters (first :: rest)⟩

/-- `validateIwebSqlStatement` -/
def validateIwebSqlStatement (statement : AsciiStatement) (limits : SqlLimitsV2) :
    Except IwebSqlWireError StatementAnalysis :=
  if utf8ByteLength statement = 0 then .error emptyStatement
  else if utf8ByteLength statement > limits.statementMaxBytes then
    .error ⟨.limitExceeded, "IWEB_SQL_STATEMENT_BYTES_EXCEEDED", "statement exceeds the profile statement byte maximum"⟩
  else
    match tokenizeIwebSqlStatement statement with
    | .error e => .error e
    | .ok tokens => analyzeIwebSqlTokens tokens limits

/-! ## The request -/

/-- `Number.isSafeInteger` -/
def isSafeInteger (value : Int) : Bool := -9007199254740991 ≤ value && value ≤ 9007199254740991

/-- `Number.isFinite`: the exponent of a number is not all ones. -/
def isFinite (bits : UInt64) : Bool := bits.toNat / 2 ^ 52 % 2 ^ 11 != 2 ^ 11 - 1

def valueInvalid (message : String) : IwebSqlWireError :=
  ⟨.invalidParameter, "IWEB_SQL_PARAMETER_VALUE_INVALID", message⟩

/-- `parseIwebSqlValue` of a value of one of the five kinds. -/
def parseIwebSqlValue : SqlValue → Except IwebSqlWireError SqlValue
  | .null => .ok .null
  | .integer value =>
    if !isSafeInteger value then .error (valueInvalid "integer must be a safe integer within the s64 projection")
    else .ok (.integer value)
  | .real bits => if !isFinite bits then .error (valueInvalid "real must be finite") else .ok (.real bits)
  | .text content => .ok (.text content)
  | .blob content => .ok (.blob content)

/-- The contract has this value: its integers are safe and its real numbers finite. -/
def isExpressible : SqlValue → Bool
  | .integer value => isSafeInteger value
  | .real bits => isFinite bits
  | _ => true

/-- The loop over the parameters: their values and bytes, up to the one that exceeds the limit. -/
def collectValues (limits : SqlLimitsV2) : Nat → List SqlValue → Except IwebSqlWireError (List SqlValue × Nat)
  | parameterBytes, [] => .ok ([], parameterBytes)
  | parameterBytes, entry :: rest =>
    match parseIwebSqlValue entry with
    | .error e => .error e
    | .ok value =>
      if parameterBytes + value.wireBytes > limits.parameterMaxBytes then
        .error ⟨.limitExceeded, "IWEB_SQL_PARAMETER_BYTES_EXCEEDED", "bound parameter bytes exceed the profile maximum"⟩
      else (collectValues limits (parameterBytes + value.wireBytes) rest).map fun found => (value :: found.1, found.2)

/-- `validateIwebSqlExecuteRequest` -/
def validateIwebSqlExecuteRequest (statement : AsciiStatement) (parameters : List SqlValue) (limits : SqlLimitsV2) :
    Except IwebSqlWireError IwebSqlExecuteAnalysis :=
  match validateIwebSqlStatement statement limits with
  | .error e => .error e
  | .ok analysis =>
    if parameters.length > limits.maxParameters then
      .error ⟨.limitExceeded, "IWEB_SQL_PARAMETER_COUNT_EXCEEDED", "bound parameter count exceeds the profile maximum"⟩
    else
      match collectValues limits 0 parameters with
      | .error e => .error e
      | .ok (values, parameterBytes) =>
        if values.length ≠ analysis.parameterCount then
          .error ⟨.invalidParameter, "IWEB_SQL_PARAMETER_COUNT_MISMATCH",
            "bound parameter count must equal the statement placeholder count"⟩
        else .ok ⟨analysis.kind, analysis.parameterCount, values, parameterBytes⟩

/-! ## What both gates answer -/

/-- The answer of the contract in the terms of the host: the kind and the parameter count, or the error case. -/
def answerOf (outcome : Except IwebSqlWireError IwebSqlExecuteAnalysis) : Except SqlError StatementAnalysis :=
  match outcome with
  | .error e => .error e.case
  | .ok analysis => .ok ⟨analysis.kind, analysis.parameterCount⟩

/-- A leading-dot decimal before a dot and a word. -/
def isDottedTwice (ch : UInt8) (rest : List UInt8) : Bool :=
  ch == ascii '.' && rest.head?.any isDecimalDigit &&
    match SqlToken.dropDigits rest with
    | [] => false
    | b :: after => b == ascii '.' && after.head?.any SqlToken.isWordStart

/-- A hex prefix without a digit that no word continues, or a leading-dot decimal before a dot and a word. -/
def isReadDifferently (ch : UInt8) (rest : List UInt8) : Bool :=
  (isEmptyHex ch rest && !(rest.drop 1).head?.any SqlToken.isWordStart) || isDottedTwice ch rest

/-- The statement has no token that only one of the two lexers reads, or none is read of it. -/
def readsAlike (statement : AsciiStatement) (limits : SqlLimitsV2) : Bool :=
  statement.text.length > limits.statementMaxBytes || statement.text.contains 0 ||
    SqlToken.lexer.avoids isReadDifferently statement.text

end SqlContract

end Iweb
