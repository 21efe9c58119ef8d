import Iweb.HostServices.SqliteLexer

/-!
# The dialect gate of the SQL host service

A statement is one ordinary `select`, `insert`, `update` or `delete`. The gate works on its tokens: some
keywords are denied wherever they stand, some function names where an open parenthesis follows them.
-/

namespace Iweb

/-- `SqlLimitsV2`, as far as a request is checked against it. -/
structure SqlLimitsV2 where
  maxParameters : Nat
  parameterMaxBytes : Nat
  statementMaxBytes : Nat

/-- `SqlError`, as far as a request is refused with it. -/
inductive SqlError
  | invalidSql
  | invalidParameter
  | limitExceeded
deriving DecidableEq

/-- `SqlValue`; a real number is its bits. -/
inductive SqlValue
  | null
  | integer (value : Int)
  | real (bits : UInt64)
  | text (content : List UInt8)
  | blob (content : List UInt8)

/-- `sql_value_wire_bytes` -/
def SqlValue.wireBytes : SqlValue → Nat
  | .null => 0
  | .integer _ | .real _ => 8
  | .text content => content.length
  | .blob content => content.length

/-- `SqlStatementKind` -/
inductive SqlStatementKind
  | select
  | insert
  | update
  | delete
deriving DecidableEq

/-- `StatementAnalysis` -/
structure StatementAnalysis where
  kind : SqlStatementKind
  parameterCount : Nat
deriving DecidableEq

namespace SqlDialect

/-- `u8::to_ascii_lowercase` -/
def toLower (b : UInt8) : UInt8 := if inRange 'A' 'Z' b then b + 32 else b

/-- `to_ascii_lowercase` -/
def lowercase (word : List UInt8) : List UInt8 := word.map toLower

/-- `STATEMENT_KEYWORD_DENYLIST` -/
def statementKeywordDenylist : List (List UInt8) := ["attach", "detach", "pragma"].map bytes

/-- `EXTENSION_FUNCTION_DENYLIST` -/
def extensionFunctionDenylist : List (List UInt8) := ["load_extension", "fts3_tokenizer"].map bytes

/-- `FILE_FUNCTION_DENYLIST` -/
def fileFunctionDenylist : List (List UInt8) := ["readfile", "writefile", "edit"].map bytes

/-- A keyword that is denied wherever it stands. -/
def isDeniedKeyword (word : List UInt8) : Bool := statementKeywordDenylist.contains (lowercase word)

/-- A name that may not be called. -/
def isDeniedFunction (word : List UInt8) : Bool :=
  extensionFunctionDenylist.contains (lowercase word) || fileFunctionDenylist.contains (lowercase word) ||
    (bytes "pragma_").isPrefixOf (lowercase word)

/-- The denylist loop: a denied keyword anywhere, or a denied name directly before an open parenthesis. -/
def deniesAny : List SqlToken → Bool
  | [] => false
  | .word word :: rest =>
    isDeniedKeyword word || (rest.head? == some (.punct (ascii '(')) && isDeniedFunction word) || deniesAny rest
  | _ :: rest => deniesAny rest

/-- The number of parameters: a bare mark is the next one, an explicit index names its own. -/
def countParameters (body : List SqlToken) : Nat :=
  body.foldl (fun largest token =>
    match token with
    | .placeholder none => largest + 1
    | .placeholder (some index) => max largest index
    | _ => largest) 0

/-- The position of the leading keyword in `DML_KINDS`. -/
def kindOf (leading : List UInt8) : Option SqlStatementKind :=
  if leading = bytes "select" then some .select
  else if leading = bytes "insert" then some .insert
  else if leading = bytes "update" then some .update
  else if leading = bytes "delete" then some .delete
  else none

/-- The body of a single statement: the first semicolon may only be its last token. -/
def singleBody (tokens : List SqlToken) : Except SqlError (List SqlToken) :=
  match tokens.findIdx? (· == .semicolon) with
  | none => .ok tokens
  | some position => if position ≠ tokens.length - 1 then .error .invalidSql else .ok tokens.dropLast

/-- `analyze_statement` -/
def analyzeStatement (tokens : List SqlToken) (limits : SqlLimitsV2) : Except SqlError StatementAnalysis :=
  match singleBody tokens with
  | .error e => .error e
  | .ok [] => .error .invalidSql
  | .ok (.word word :: rest) =>
    if lowercase word = bytes "with" then .error .invalidSql
    else
      match kindOf (lowercase word) with
      | none => .error .invalidSql
      | some kind =>
        if deniesAny (.word word :: rest) then .error .invalidSql
        else if countParameters (.word word :: rest) > limits.maxParameters then .error .limitExceeded
        else .ok ⟨kind, countParameters (.word word :: rest)⟩
  | .ok _ => .error .invalidSql

/-- The parameters fit, summed up to the one that exceeds the limit. -/
def parametersFit (maxBytes : Nat) : Nat → List SqlValue → Bool
  | _, [] => true
  | total, value :: rest =>
    if total + value.wireBytes > maxBytes then false else parametersFit maxBytes (total + value.wireBytes) rest

/-- `validate_execute_request` -/
def validateExecuteRequest (statement : List UInt8) (parameters : List SqlValue) (limits : SqlLimitsV2) :
    Except SqlError StatementAnalysis :=
  if statement = [] then .error .invalidSql
  else if statement.length > limits.statementMaxBytes then .error .limitExceeded
  else
    match SqlToken.tokenizeStatement statement with
    | .error _ => .error .invalidSql
    | .ok tokens =>
      match analyzeStatement tokens limits with
      | .error e => .error e
      | .ok analysis =>
        if parameters.length > limits.maxParameters then .error .limitExceeded
        else if parametersFit limits.parameterMaxBytes 0 parameters = false then .error .limitExceeded
        else if parameters.length ≠ analysis.parameterCount then .error .invalidParameter
        else .ok analysis

/-! ## The names SQLite resolves

Which positions of a statement SQLite's grammar resolves as a function or a table-valued function is a
parameter. Identifiers name them in each form, and a string does where a table may stand.
-/

/-- The name a token may stand for. -/
def nameOf : SqliteToken → Option (List UInt8)
  | .identifier text => some text
  | .quotedIdentifier name => some name
  | .string text => some text
  | _ => none

/-- The tokens SQLite resolves names in; it resolves none in a text it cannot read. -/
def sqliteTokens (statement : List UInt8) : List SqliteToken :=
  match SqliteToken.lexer.scan statement with
  | .error _ => []
  | .ok tokens => tokens

/-- The token at this position names a denied function. -/
def namesDenied (tokens : List SqliteToken) (position : Nat) : Bool :=
  (tokens[position]?.bind nameOf).any isDeniedFunction

/-- The token at this position is a bare name directly before an open parenthesis. -/
def isBareCall (tokens : List SqliteToken) (position : Nat) : Bool :=
  match tokens[position]?, tokens[position + 1]? with
  | some (.identifier _), some (.operator text) => text == bytes "("
  | _, _ => false

variable (functions : List SqliteToken → List Nat)

/-- SQLite resolves no denied function in the statement. -/
def denylistHolds (statement : List UInt8) : Bool :=
  (functions (sqliteTokens statement)).all fun position => !namesDenied (sqliteTokens statement) position

/-- No name of a denied function is quoted, and none stands without an argument list. -/
def noneSpelledAround (statement : List UInt8) : Bool :=
  (functions (sqliteTokens statement)).all fun position =>
    isBareCall (sqliteTokens statement) position || !namesDenied (sqliteTokens statement) position

/-- No bare name of a denied function is directly before an open parenthesis. -/
def noneCalledBare (statement : List UInt8) : Bool :=
  (functions (sqliteTokens statement)).all fun position =>
    !(isBareCall (sqliteTokens statement) position && namesDenied (sqliteTokens statement) position)

end SqlDialect

end Iweb
