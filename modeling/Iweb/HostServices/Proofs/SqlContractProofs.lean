import Iweb.HostServices.Proofs.SqlDialectProofs
import Iweb.HostServices.SqlContract

/-!
# The two gates for SQL statements give the same answer

The lexers take the same step at every position but where a hex prefix has no digit, or a leading-dot decimal has
another dot after it: there the host goes on with the fraction where the contract starts a new token. As long as no
word follows that dot, the tokens differ by a number and its dot only, and no check looks at these.
-/

namespace Iweb

namespace SqlContract

open SqlToken (isWordStart isPunct dropDigits afterFraction afterExponent)

/-! ## The tokens -/

/-- The tokens of the two lexers: the same, but that one number may be two tokens of the contract. -/
inductive SameTokens : List SqlToken → List IwebSqlToken → Prop
  | nil : SameTokens [] []
  | cons {token : SqlToken} {token' : IwebSqlToken} {tokens : List SqlToken} {tokens' : List IwebSqlToken}
      (h : SameToken token token') (hrest : SameTokens tokens tokens') :
      SameTokens (token :: tokens) (token' :: tokens')
  | split {first second : IwebSqlToken} {tokens : List SqlToken} {tokens' : List IwebSqlToken}
      (hfirst : SameToken .number first) (hsecond : SameToken .number second ∨ SameToken (.punct (ascii '.')) second)
      (hrest : SameTokens tokens tokens') : SameTokens (.number :: tokens) (first :: second :: tokens')

theorem SameTokens.append {tokens more : List SqlToken} {tokens' more' : List IwebSqlToken}
    (h : SameTokens tokens tokens') (hmore : SameTokens more more') :
    SameTokens (tokens ++ more) (tokens' ++ more') := by
  induction h with
  | nil => exact hmore
  | cons h _ ih => exact .cons h ih
  | split hfirst hsecond _ ih => exact .split hfirst hsecond ih

/-- What the contract reads where the gate of the host takes a step. -/
inductive SameStep (ch : UInt8) (rest : List UInt8) : Prop
  | refused (e : SqlLexicalCode) (e' : IwebSqlWireError) (hgate : SqlToken.next ch rest = .error e)
      (hscan : lexer.scan (ch :: rest) = .error e') : SameStep ch rest
  | read {tokens : List SqlToken} {tokens' : List IwebSqlToken} {rest' : List UInt8}
      (hgate : SqlToken.next ch rest = .ok (tokens, rest')) (h : SameTokens tokens tokens')
      (hscan : lexer.scan (ch :: rest) = (lexer.scan rest').map (tokens' ++ ·)) : SameStep ch rest

theorem scan_of_next {ch : UInt8} {rest rest' : List UInt8} {tokens : List IwebSqlToken}
    (h : next ch rest = .ok (tokens, rest')) : lexer.scan (ch :: rest) = (lexer.scan rest').map (tokens ++ ·) := by
  have hnext : lexer.next ch rest = .ok (tokens, rest') := h
  exact Lexer.scan_cons hnext

theorem scan_of_next_twice {ch ch' : UInt8} {rest between rest' : List UInt8} {first second : IwebSqlToken}
    (hfirst : next ch rest = .ok ([first], ch' :: between)) (hsecond : next ch' between = .ok ([second], rest')) :
    lexer.scan (ch :: rest) = (lexer.scan rest').map ([first, second] ++ ·) := by
  rw [scan_of_next hfirst, scan_of_next hsecond]
  cases lexer.scan rest' <;> rfl

theorem scan_of_next_error {ch : UInt8} {rest : List UInt8} {e : IwebSqlWireError} (h : next ch rest = .error e) :
    lexer.scan (ch :: rest) = .error e := by
  have hnext : lexer.next ch rest = .error e := h
  exact Lexer.scan_cons_error hnext

theorem sameStep_of_sameTurn {ch : UInt8} {rest : List UInt8}
    (h : SameTurn (SqlToken.next ch rest) (next ch rest)) : SameStep ch rest := by
  generalize hgate : SqlToken.next ch rest = turn at h
  generalize hnext : next ch rest = turn' at h
  cases h with
  | refused e code message => exact .refused e _ hgate (scan_of_next_error hnext)
  | skipped rest' => exact .read hgate .nil (scan_of_next hnext)
  | read rest' htoken => exact .read hgate (.cons htoken .nil) (scan_of_next hnext)

/-! ## The positions that are read alike -/

/-- A hex prefix that a word continues is refused by both. -/
theorem sameTurn_emptyHex {ch : UInt8} {rest : List UInt8} (hhex : isEmptyHex ch rest = true)
    (hword : (rest.drop 1).head?.any isWordStart = true) :
    SameTurn (SqlToken.numeral ch rest) (number (ch :: rest)) := by
  obtain ⟨hmatch, hmark⟩ := matchNumber_emptyHex hhex
  have hnumber : number (ch :: rest) = .error (tokenInvalid "numeric literal is followed by an identifier character") := by
    unfold number
    rw [hmatch]
    exact if_pos hmark
  unfold isEmptyHex at hhex
  simp only [Bool.and_eq_true, beq_iff_eq, Bool.not_eq_true'] at hhex
  obtain ⟨⟨hzero, hstarts⟩, hdigits⟩ := hhex
  have hafter : SqlToken.afterNumber ch rest = rest.drop 1 := by
    unfold SqlToken.afterNumber
    rw [if_pos ⟨hzero, hstarts⟩]
    cases htail : rest.drop 1 with
    | nil => rfl
    | cons b tail =>
      rw [htail] at hdigits
      exact List.dropWhile_cons_of_neg (by simpa using hdigits)
  unfold SqlToken.numeral
  rw [hafter, hnumber, if_pos hword]
  exact .refused _ _ _

/-- A dot before anything but a digit is punctuation. -/
theorem next_dot {rest : List UInt8} (h : rest.head?.any isDecimalDigit = false) :
    next (ascii '.') rest = .ok ([⟨.punct, [ascii '.'], none⟩], rest) := by
  obtain ⟨h1, h2, h3, h4, h5, h6⟩ := no_literal_of_numberStart (ascii '.') (by decide)
  obtain ⟨h7, h8, h9, h10, h11, h12, h13⟩ := no_mark_of_numberStart (ascii '.') (by decide)
  have hword : isWordStart (ascii '.') = false := by decide
  have hdigit : isDecimalDigit (ascii '.') = false := by decide
  have hpunct : isPunct (ascii '.') = true := by decide
  simp only [next, h, hword, hdigit, hpunct, h1, h2, h3, h4, h5, h6, h7, h8, h9, h10, h11, h12, h13,
    Bool.false_eq_true, false_and, and_false, or_self, if_false, if_true]

/-- A second fraction that no word starts: the contract reads its dot and digits as a token of their own. -/
theorem sameStep_secondFraction {rest after : List UInt8} (hdigit : rest.head?.any isDecimalDigit = true)
    (hdot : dropDigits rest = ascii '.' :: after) (hword : after.head?.any isWordStart = false) :
    SameStep (ascii '.') rest := by
  have hstart : SqlToken.isNumberStart (ascii '.') rest = true := by
    unfold SqlToken.isNumberStart
    rw [hdigit]
    rfl
  have hgate : SqlToken.next (ascii '.') rest = SqlToken.numeral (ascii '.') rest := (next_of_numberStart hstart).1
  have hafter : SqlToken.afterNumber (ascii '.') rest = afterExponent (dropDigits after) := by
    unfold SqlToken.afterNumber
    rw [if_neg fun h => absurd h.1 (by decide), hdot]
    rfl
  have hfirst : next (ascii '.') rest =
      .ok ([⟨.number, sliceTo (ascii '.' :: rest) (ascii '.' :: after), none⟩], ascii '.' :: after) := by
    rw [(next_of_numberStart hstart).2]
    unfold number
    rw [matchNumber_dot hdigit, hdot]
    rfl
  cases hsecond : after.head?.any isDecimalDigit with
  | true =>
    have hstart' : SqlToken.isNumberStart (ascii '.') after = true := by
      unfold SqlToken.isNumberStart
      rw [hsecond]
      rfl
    have hnext : next (ascii '.') after = number (ascii '.' :: after) := (next_of_numberStart hstart').2
    unfold number at hnext
    rw [matchNumber_dot hsecond] at hnext
    dsimp only at hnext
    cases hend : (afterExponent (dropDigits after)).head?.any isWordStart with
    | true =>
      rw [hend, if_pos rfl] at hnext
      refine .refused .tokenInvalid (tokenInvalid "numeric literal is followed by an identifier character") ?_ ?_
      · rw [hgate]
        unfold SqlToken.numeral
        rw [hafter]
        exact if_pos hend
      · rw [scan_of_next hfirst, scan_of_next_error hnext]
        rfl
    | false =>
      rw [hend, if_neg Bool.false_ne_true] at hnext
      have hnumeral : SqlToken.next (ascii '.') rest = .ok ([.number], afterExponent (dropDigits after)) := by
        rw [hgate]
        unfold SqlToken.numeral
        rw [hafter]
        exact if_neg (by rw [hend]; exact Bool.false_ne_true)
      exact .read hnumeral (.split (.number _) (.inl (.number _)) .nil) (scan_of_next_twice hfirst hnext)
  | false =>
    have hrest : afterExponent (dropDigits after) = after := by
      cases after with
      | nil => rfl
      | cons b tail =>
        have hb : isDecimalDigit b = false := hsecond
        have hbword : isWordStart b = false := hword
        have hmark : ¬ (b = ascii 'e' ∨ b = ascii 'E') := by
          rintro (rfl | rfl) <;> revert hbword <;> decide
        unfold dropDigits
        rw [List.dropWhile_cons_of_neg (by simp [hb])]
        exact if_neg fun h => hmark h.1
    have hnumeral : SqlToken.next (ascii '.') rest = .ok ([.number], after) := by
      rw [hgate]
      unfold SqlToken.numeral
      rw [hafter, hrest]
      exact if_neg (by rw [hword]; exact Bool.false_ne_true)
    exact .read hnumeral (.split (.number _) (.inr (.punct _)) .nil) (scan_of_next_twice hfirst (next_dot hsecond))

/-- The lexers read the same at every position that is not marked. -/
theorem sameStep {ch : UInt8} {rest : List UInt8} (h : isReadDifferently ch rest = false) : SameStep ch rest := by
  unfold isReadDifferently at h
  rw [Bool.or_eq_false_iff] at h
  obtain ⟨hhex, hdotted⟩ := h
  by_cases htwice : ch = ascii '.' ∧ rest.head?.any isDecimalDigit = true ∧ ∃ after, dropDigits rest = ascii '.' :: after
  · obtain ⟨rfl, hdigit, after, hdot⟩ := htwice
    refine sameStep_secondFraction hdigit hdot ?_
    unfold isDottedTwice at hdotted
    rw [hdigit, hdot] at hdotted
    exact hdotted
  refine sameStep_of_sameTurn (sameTurn_next fun hstart => ?_)
  cases hempty : isEmptyHex ch rest with
  | true =>
    rw [hempty, Bool.true_and, Bool.not_eq_false'] at hhex
    exact sameTurn_emptyHex hempty hhex
  | false =>
    cases hdigit : isDecimalDigit ch with
    | true => exact sameTurn_number (matchNumber_digit hdigit hempty)
    | false =>
      unfold SqlToken.isNumberStart at hstart
      rw [hdigit, Bool.false_or, Bool.and_eq_true, beq_iff_eq] at hstart
      obtain ⟨rfl, hfirst⟩ := hstart
      refine sameTurn_number ?_
      have hfraction : afterFraction (dropDigits rest) = dropDigits rest := by
        cases hdrop : dropDigits rest with
        | nil => rfl
        | cons b after =>
          refine if_neg fun hb => htwice ⟨rfl, hfirst, after, ?_⟩
          rw [hdrop, hb]
      unfold SqlToken.afterNumber
      rw [if_neg fun h => absurd h.1 (by decide), hfraction]
      exact matchNumber_dot hfirst

/-- A statement that no lexer reads differently has the same tokens for both. -/
theorem scan_same {text : List UInt8} (h : SqlToken.lexer.avoids isReadDifferently text = true) :
    Lexer.SameOutcome SameTokens (SqlToken.lexer.scan text) (lexer.scan text) := by
  refine Lexer.scan_sameOutcome SameTokens.nil SameTokens.append (fun ch rest hmarked => ?_) h
  cases sameStep hmarked with
  | refused e e' hgate hscan => exact .inl ⟨e, e', hgate, hscan⟩
  | read hgate htokens hscan => exact .inr ⟨_, _, _, hgate, htokens, hscan⟩

/-! ## The body of a statement -/

/-- The tokens before a closing token that may only be the last. -/
def bodyOf {τ : Type} (closes : τ → Bool) : List τ → Option (List τ)
  | [] => some []
  | token :: rest => if closes token then (if rest.isEmpty then some [] else none) else (bodyOf closes rest).map (token :: ·)

/-- The search for the first closing token gives the same body. -/
theorem bodyOf_eq {τ : Type} (closes : τ → Bool) (tokens : List τ) :
    bodyOf closes tokens = match tokens.findIdx? closes with
      | none => some tokens
      | some position => if position ≠ tokens.length - 1 then none else some tokens.dropLast := by
  induction tokens with
  | nil => rfl
  | cons token rest ih =>
    unfold bodyOf
    rw [List.findIdx?_cons]
    cases hclose : closes token with
    | true => cases rest <;> rfl
    | false =>
      rw [if_neg Bool.false_ne_true, ih, if_neg Bool.false_ne_true]
      cases hfind : rest.findIdx? closes with
      | none => rfl
      | some position =>
        obtain ⟨hlt, -⟩ := List.findIdx?_eq_some_iff_getElem.mp hfind
        have hne : rest ≠ [] := List.ne_nil_of_length_pos (by omega)
        dsimp only [Option.map_some]
        by_cases hlast : position = rest.length - 1
        · rw [if_neg (not_not.mpr hlast), if_neg (by rw [List.length_cons]; omega), List.dropLast_cons_of_ne_nil hne]
          rfl
        · rw [if_pos hlast, if_pos (by rw [List.length_cons]; omega)]
          rfl

theorem gateBody_eq (tokens : List SqlToken) :
    SqlDialect.singleBody tokens = match bodyOf (· == .semicolon) tokens with
      | none => .error .invalidSql
      | some body => .ok body := by
  rw [bodyOf_eq]
  unfold SqlDialect.singleBody
  cases tokens.findIdx? (· == .semicolon) with
  | none => rfl
  | some position =>
    dsimp only
    split <;> rfl

theorem contractBody_eq (tokens : List IwebSqlToken) :
    singleBody tokens = match bodyOf isSemicolon tokens with
      | none => .error ⟨.invalidSql, "IWEB_SQL_MULTIPLE_STATEMENTS",
          "exactly one statement per call; semicolon-separated scripts are rejected"⟩
      | some body => .ok body := by
  rw [bodyOf_eq]
  unfold singleBody
  cases tokens.findIdx? isSemicolon with
  | none => rfl
  | some position =>
    dsimp only
    split <;> rfl

theorem SameToken.semicolon_iff {token : SqlToken} {token' : IwebSqlToken} (h : SameToken token token') :
    (token == .semicolon) = isSemicolon token' := by
  cases h <;> rfl

theorem SameTokens.isEmpty_eq {tokens : List SqlToken} {tokens' : List IwebSqlToken} (h : SameTokens tokens tokens') :
    tokens.isEmpty = tokens'.isEmpty := by
  cases h <;> rfl

/-- Both gates find a body, and it has the same tokens, or neither does. -/
theorem SameTokens.bodyOf {tokens : List SqlToken} {tokens' : List IwebSqlToken} (h : SameTokens tokens tokens') :
    (bodyOf (· == .semicolon) tokens = none ∧ bodyOf isSemicolon tokens' = none) ∨
      ∃ body body', bodyOf (· == .semicolon) tokens = some body ∧ bodyOf isSemicolon tokens' = some body' ∧
        SameTokens body body' := by
  induction h with
  | nil => exact .inr ⟨[], [], rfl, rfl, .nil⟩
  | @cons token token' tokens tokens' htoken hrest ih =>
    unfold SqlContract.bodyOf
    rw [htoken.semicolon_iff, hrest.isEmpty_eq]
    cases isSemicolon token' with
    | true =>
      cases tokens'.isEmpty with
      | true => exact .inr ⟨[], [], rfl, rfl, .nil⟩
      | false => exact .inl ⟨rfl, rfl⟩
    | false =>
      rcases ih with ⟨hnone, hnone'⟩ | ⟨body, body', hbody, hbody', hsame⟩
      · rw [hnone, hnone']
        exact .inl ⟨rfl, rfl⟩
      · rw [hbody, hbody']
        exact .inr ⟨_, _, rfl, rfl, .cons htoken hsame⟩
  | @split first second tokens tokens' hfirst hsecond hrest ih =>
    have hfirstOpen : isSemicolon first = false := hfirst.semicolon_iff.symm
    have hsecondOpen : isSemicolon second = false := by
      rcases hsecond with h | h
      · exact h.semicolon_iff.symm
      · exact h.semicolon_iff.symm
    rw [SqlContract.bodyOf, SqlContract.bodyOf, SqlContract.bodyOf, hfirstOpen, hsecondOpen]
    rcases ih with ⟨hnone, hnone'⟩ | ⟨body, body', hbody, hbody', hsame⟩
    · rw [hnone, hnone']
      exact .inl ⟨rfl, rfl⟩
    · rw [hbody, hbody']
      exact .inr ⟨_, _, rfl, rfl, .split hfirst hsecond hsame⟩

/-! ## The checks of a body -/

/-- Each denial is of an invalid statement, and it stands for one of the host. -/
theorem denialOf_spec (word : List UInt8) (call : Bool) :
    (denialOf (SqlDialect.lowercase word) call).isSome =
        (SqlDialect.isDeniedKeyword word || (call && SqlDialect.isDeniedFunction word)) ∧
      ∀ e, denialOf (SqlDialect.lowercase word) call = some e → e.case = .invalidSql := by
  have hkeyword : sqlStatementKeywordDenylist.contains (SqlDialect.lowercase word) =
      SqlDialect.isDeniedKeyword word := rfl
  have hfunction : SqlDialect.isDeniedFunction word =
      (sqlExtensionFunctionDenylist.contains (SqlDialect.lowercase word) ||
        sqlFileFunctionDenylist.contains (SqlDialect.lowercase word) ||
        (bytes "pragma_").isPrefixOf (SqlDialect.lowercase word)) := rfl
  unfold denialOf
  rw [hkeyword, hfunction]
  cases SqlDialect.isDeniedKeyword word <;> cases call <;>
    cases sqlExtensionFunctionDenylist.contains (SqlDialect.lowercase word) <;>
    cases sqlFileFunctionDenylist.contains (SqlDialect.lowercase word) <;>
    cases (bytes "pragma_").isPrefixOf (SqlDialect.lowercase word) <;>
    refine ⟨rfl, ?_⟩ <;> rintro e ⟨⟩ <;> rfl

theorem SameTokens.inCallPosition_eq {tokens : List SqlToken} {tokens' : List IwebSqlToken}
    (h : SameTokens tokens tokens') : (tokens.head? == some (.punct (ascii '('))) = inCallPosition tokens' := by
  cases h with
  | nil => rfl
  | @cons token token' _ _ htoken _ =>
    cases htoken with
    | punct byte =>
      by_cases hbyte : byte = ascii '('
      · rw [hbyte]
        rfl
      · have hgate : (some (SqlToken.punct byte) == some (.punct (ascii '('))) = false := by
          simpa using hbyte
        have hcontract : ([byte] == bytes "(") = false := by
          rw [show bytes "(" = [ascii '('] from rfl]
          simpa using hbyte
        show (some (SqlToken.punct byte) == some (.punct (ascii '('))) = (true && ([byte] == bytes "("))
        rw [hgate, hcontract]
        rfl
    | _ => rfl
  | split hfirst _ _ =>
    cases hfirst
    rfl

/-- The denylist loops find a denied word together. -/
theorem SameTokens.denied {tokens : List SqlToken} {tokens' : List IwebSqlToken} (h : SameTokens tokens tokens') :
    (firstDenial tokens').isSome = SqlDialect.deniesAny tokens ∧
      ∀ e, firstDenial tokens' = some e → e.case = .invalidSql := by
  induction h with
  | nil => exact ⟨rfl, fun e he => nomatch he⟩
  | @cons token token' tokens tokens' htoken hrest ih =>
    cases htoken with
    | word text =>
      obtain ⟨hsome, hcase⟩ := denialOf_spec text (inCallPosition tokens')
      have hfirst : firstDenial (⟨.word, text, none⟩ :: tokens') =
          (denialOf (SqlDialect.lowercase text) (inCallPosition tokens')).or (firstDenial tokens') := rfl
      have hgate : SqlDialect.deniesAny (.word text :: tokens) =
          (SqlDialect.isDeniedKeyword text ||
            (tokens.head? == some (.punct (ascii '(')) && SqlDialect.isDeniedFunction text) ||
            SqlDialect.deniesAny tokens) := rfl
      rw [hfirst, hgate, hrest.inCallPosition_eq, ← hsome, ← ih.1, Option.isSome_or]
      refine ⟨rfl, fun e he => ?_⟩
      rcases Option.or_eq_some_iff.mp he with he | ⟨-, he⟩
      · exact hcase e he
      · exact ih.2 e he
    | _ => exact ih
  | split hfirst hsecond _ ih =>
    cases hfirst
    rcases hsecond with hsecond | hsecond
    · cases hsecond
      exact ih
    · cases hsecond
      exact ih

/-- A token counts the same for both. -/
theorem SameTokens.parameters {tokens : List SqlToken} {tokens' : List IwebSqlToken} (h : SameTokens tokens tokens') :
    countStatementParameters tokens' = SqlDialect.countParameters tokens := by
  unfold countStatementParameters SqlDialect.countParameters
  generalize 0 = largest
  induction h generalizing largest with
  | nil => rfl
  | cons htoken _ ih =>
    rw [List.foldl_cons, List.foldl_cons]
    cases htoken with
    | placeholder text index => cases index <;> exact ih _
    | _ => exact ih _
  | split hfirst hsecond _ ih =>
    rw [List.foldl_cons, List.foldl_cons, List.foldl_cons]
    cases hfirst
    rcases hsecond with hsecond | hsecond
    · cases hsecond
      exact ih _
    · cases hsecond
      exact ih _

/-- The analyses of the same tokens end alike. -/
theorem analyze_eq {tokens : List SqlToken} {tokens' : List IwebSqlToken} (h : SameTokens tokens tokens')
    (limits : SqlLimitsV2) :
    (analyzeIwebSqlTokens tokens' limits).mapError IwebSqlWireError.case =
      SqlDialect.analyzeStatement tokens limits := by
  unfold analyzeIwebSqlTokens SqlDialect.analyzeStatement
  rw [gateBody_eq, contractBody_eq]
  rcases h.bodyOf with ⟨hnone, hnone'⟩ | ⟨body, body', hbody, hbody', hsame⟩
  · rw [hnone, hnone']
    rfl
  rw [hbody, hbody']
  cases hsame with
  | nil => rfl
  | split hfirst _ _ =>
    cases hfirst
    rfl
  | @cons token token' rest rest' htoken hrest =>
    cases htoken with
    | word text =>
      have hall : SameTokens (.word text :: rest) (⟨.word, text, none⟩ :: rest') := .cons (.word text) hrest
      obtain ⟨hsome, hcase⟩ := hall.denied
      dsimp only
      rw [if_neg (show ¬ (!isWord ⟨.word, text, none⟩) = true from Bool.false_ne_true)]
      by_cases hwith : SqlDialect.lowercase text = bytes "with"
      · rw [if_pos hwith, if_pos hwith]
        rfl
      rw [if_neg hwith, if_neg hwith]
      cases SqlDialect.kindOf (SqlDialect.lowercase text) with
      | none => rfl
      | some kind =>
        dsimp only
        rw [← hsome, hall.parameters]
        cases hdenial : firstDenial (⟨.word, text, none⟩ :: rest') with
        | some e =>
          rw [Option.isSome_some, if_pos rfl]
          exact congrArg Except.error (hcase e hdenial)
        | none =>
          rw [Option.isSome_none, if_neg Bool.false_ne_true]
          dsimp only
          split <;> rfl
    | _ => rfl

/-! ## The request -/

theorem tokenize_same {statement : AsciiStatement} (h : statement.text.contains 0 = true ∨
    SqlToken.lexer.avoids isReadDifferently statement.text = true) :
    Lexer.SameOutcome SameTokens (SqlToken.tokenizeStatement statement.text) (tokenizeIwebSqlStatement statement) := by
  unfold SqlToken.tokenizeStatement tokenizeIwebSqlStatement
  cases hnul : statement.text.contains 0 with
  | true => exact .refused _ _
  | false =>
    rw [hnul] at h
    exact scan_same (h.resolve_left Bool.false_ne_true)

theorem tokenize_eq_error {statement : AsciiStatement} {e : IwebSqlWireError}
    (h : tokenizeIwebSqlStatement statement = .error e) : e.case = .invalidSql := by
  unfold tokenizeIwebSqlStatement at h
  split at h
  · cases h
    rfl
  · obtain ⟨ch, rest, hnext⟩ := Lexer.scan_eq_error h
    exact next_eq_error hnext

theorem parse_of_isExpressible {value : SqlValue} (h : isExpressible value = true) :
    parseIwebSqlValue value = .ok value := by
  cases value with
  | integer value =>
    have hsafe : isSafeInteger value = true := h
    exact if_neg (by rw [hsafe]; exact Bool.false_ne_true)
  | real bits =>
    have hfinite : isFinite bits = true := h
    exact if_neg (by rw [hfinite]; exact Bool.false_ne_true)
  | _ => rfl

/-- The contract collects the parameters exactly if they fit. -/
theorem collectValues_spec (limits : SqlLimitsV2) (total : Nat) {parameters : List SqlValue}
    (h : ∀ value ∈ parameters, isExpressible value = true) :
    (SqlDialect.parametersFit limits.parameterMaxBytes total parameters = true ∧
        ∃ parameterBytes, collectValues limits total parameters = .ok (parameters, parameterBytes)) ∨
      (SqlDialect.parametersFit limits.parameterMaxBytes total parameters = false ∧
        ∃ e, collectValues limits total parameters = .error e ∧ e.case = .limitExceeded) := by
  induction parameters generalizing total with
  | nil => exact .inl ⟨rfl, total, rfl⟩
  | cons value rest ih =>
    obtain ⟨hvalue, hrest⟩ := List.forall_mem_cons.mp h
    unfold SqlDialect.parametersFit collectValues
    rw [parse_of_isExpressible hvalue]
    dsimp only
    by_cases hexceeds : total + value.wireBytes > limits.parameterMaxBytes
    · rw [if_pos hexceeds, if_pos hexceeds]
      exact .inr ⟨rfl, _, rfl, rfl⟩
    · rw [if_neg hexceeds, if_neg hexceeds]
      rcases ih (total + value.wireBytes) hrest with ⟨hfit, parameterBytes, hok⟩ | ⟨hfit, e, herror, hcase⟩
      · rw [hok]
        exact .inl ⟨hfit, parameterBytes, rfl⟩
      · rw [herror]
        exact .inr ⟨hfit, e, rfl, hcase⟩

end SqlContract

open SqlContract

/-- Both gates answer a request alike unless its statement has a token that only one of the lexers reads: they
accept it with the same kind and parameter count, or they refuse it with the same error case. -/
theorem sql_gates_agree (statement : AsciiStatement) (parameters : List SqlValue) (limits : SqlLimitsV2)
    (hexpressible : ∀ value ∈ parameters, isExpressible value = true)
    (hread : readsAlike statement limits = true) :
    answerOf (validateIwebSqlExecuteRequest statement parameters limits) =
      SqlDialect.validateExecuteRequest statement.text parameters limits := by
  unfold validateIwebSqlExecuteRequest validateIwebSqlStatement SqlDialect.validateExecuteRequest utf8ByteLength
  by_cases hempty : statement.text = []
  · rw [if_pos hempty, if_pos (by rw [hempty]; rfl)]
    rfl
  rw [if_neg hempty, if_neg (fun h => hempty (List.eq_nil_of_length_eq_zero h))]
  by_cases hlong : statement.text.length > limits.statementMaxBytes
  · rw [if_pos hlong, if_pos hlong]
    rfl
  rw [if_neg hlong, if_neg hlong]
  unfold readsAlike at hread
  rw [Bool.or_eq_true, Bool.or_eq_true, decide_eq_true_eq, or_assoc] at hread
  have htokens := tokenize_same (hread.resolve_left hlong)
  generalize SqlToken.tokenizeStatement statement.text = outcome at htokens
  generalize hcontract : tokenizeIwebSqlStatement statement = outcome' at htokens
  cases htokens with
  | refused e e' => exact congrArg Except.error (tokenize_eq_error hcontract)
  | @read tokens tokens' hsame =>
    have hanalysis := analyze_eq hsame limits
    dsimp only
    rw [← hanalysis]
    cases analyzeIwebSqlTokens tokens' limits with
    | error e => rfl
    | ok analysis =>
      dsimp only [Except.mapError]
      by_cases hcount : parameters.length > limits.maxParameters
      · rw [if_pos hcount, if_pos hcount]
        rfl
      rw [if_neg hcount, if_neg hcount]
      rcases collectValues_spec limits 0 hexpressible with
        ⟨hfit, parameterBytes, hok⟩ | ⟨hfit, e, herror, hcase⟩
      · rw [hok, hfit, if_neg Bool.false_ne_true.symm]
        dsimp only
        by_cases hmatch : parameters.length ≠ analysis.parameterCount
        · rw [if_pos hmatch, if_pos hmatch]
          rfl
        · rw [if_neg hmatch, if_neg hmatch]
          rfl
      · rw [herror, hfit, if_pos rfl]
        exact congrArg Except.error hcase

/-- A statement whose numbers the two lexers read alike, though not as the same tokens. -/
def twoFractions : AsciiStatement := ⟨bytes "select .5.25, 0x1F from t where id = ?1", by decide +kernel⟩

theorem sql_gates_agree_twoFractions :
    answerOf (validateIwebSqlExecuteRequest twoFractions [.integer 3] smallSqlLimits) = .ok ⟨.select, 1⟩ := by
  have hgate : SqlDialect.validateExecuteRequest twoFractions.text [.integer 3] smallSqlLimits =
      .ok ⟨.select, 1⟩ := by decide +kernel
  rw [← hgate]
  exact sql_gates_agree twoFractions [.integer 3] smallSqlLimits (by decide) (by decide +kernel)

/-- A hex prefix without a digit is a number for the host only, and a second dot before a word for the contract
only. -/
theorem sql_gates_disagree :
    (answerOf (validateIwebSqlExecuteRequest ⟨bytes "select 0x", by decide +kernel⟩ [] smallSqlLimits) =
          .error .invalidSql ∧
        SqlDialect.validateExecuteRequest (bytes "select 0x") [] smallSqlLimits = .ok ⟨.select, 0⟩) ∧
      answerOf (validateIwebSqlExecuteRequest ⟨bytes "select .5.x", by decide +kernel⟩ [] smallSqlLimits) =
          .ok ⟨.select, 0⟩ ∧
        SqlDialect.validateExecuteRequest (bytes "select .5.x") [] smallSqlLimits = .error .invalidSql := by
  decide +kernel

end Iweb
