import Iweb.HostServices.Proofs.SqliteLexerProofs
import Iweb.HostServices.SqlDialect

/-!
# What the dialect gate denies

The gate denies a name only where it stands bare and an open parenthesis follows it directly. SQLite resolves
functions and table-valued functions by more spellings, so a denied name gets through exactly by another one.
-/

namespace Iweb

namespace SqlDialect

theorem singleBody_eq_ok {tokens body : List SqlToken} (h : singleBody tokens = .ok body) :
    tokens = body ∨ tokens = body ++ [.semicolon] := by
  unfold singleBody at h
  cases hfind : tokens.findIdx? (· == SqlToken.semicolon) with
  | none =>
    rw [hfind] at h
    cases h
    exact .inl rfl
  | some position =>
    rw [hfind] at h
    dsimp only at h
    split at h
    · cases h
    · rename_i hlast
      cases h
      obtain ⟨hlt, hsemi, -⟩ := List.findIdx?_eq_some_iff_getElem.mp hfind
      have hne : tokens ≠ [] := List.ne_nil_of_length_pos (by omega)
      have hposition : position = tokens.length - 1 := not_not.mp hlast
      subst hposition
      right
      have hgetLast : tokens.getLast hne = .semicolon := by
        rw [List.getLast_eq_getElem]
        exact eq_of_beq hsemi
      rw [← hgetLast, List.dropLast_append_getLast]

/-- An accepted statement is a body that passed the denylist, and at most one semicolon. -/
theorem analyzeStatement_eq_ok {tokens : List SqlToken} {limits : SqlLimitsV2} {analysis : StatementAnalysis}
    (h : analyzeStatement tokens limits = .ok analysis) :
    ∃ body, (tokens = body ∨ tokens = body ++ [.semicolon]) ∧ deniesAny body = false ∧
      analysis.parameterCount = countParameters body ∧ countParameters body ≤ limits.maxParameters := by
  unfold analyzeStatement at h
  cases hbody : singleBody tokens with
  | error e =>
    rw [hbody] at h
    cases h
  | ok body =>
    rw [hbody] at h
    refine ⟨body, singleBody_eq_ok hbody, ?_⟩
    split at h
    · rename_i heq
      cases heq
    · cases h
    · rename_i word rest heq
      cases heq
      split at h
      · cases h
      · split at h
        · cases h
        · split at h
          · cases h
          · rename_i hdenied
            split at h
            · cases h
            · rename_i hcount
              cases h
              exact ⟨by simpa using hdenied, rfl, Nat.le_of_not_lt hcount⟩
    · cases h

theorem validateExecuteRequest_eq_ok {statement : List UInt8} {parameters : List SqlValue} {limits : SqlLimitsV2}
    {analysis : StatementAnalysis} (h : validateExecuteRequest statement parameters limits = .ok analysis) :
    statement ≠ [] ∧ statement.length ≤ limits.statementMaxBytes ∧
      (∃ tokens, SqlToken.tokenizeStatement statement = .ok tokens ∧
        analyzeStatement tokens limits = .ok analysis) ∧
      parametersFit limits.parameterMaxBytes 0 parameters = true ∧
      parameters.length = analysis.parameterCount := by
  unfold validateExecuteRequest at h
  split at h
  · cases h
  · rename_i hne
    split at h
    · cases h
    · rename_i hlength
      cases htokens : SqlToken.tokenizeStatement statement with
      | error code =>
        rw [htokens] at h
        cases h
      | ok tokens =>
        rw [htokens] at h
        dsimp only at h
        cases hanalysis : analyzeStatement tokens limits with
        | error e =>
          rw [hanalysis] at h
          cases h
        | ok result =>
          rw [hanalysis] at h
          dsimp only at h
          split at h
          · cases h
          · split at h
            · cases h
            · rename_i hfit
              split at h
              · cases h
              · rename_i hcount
                cases h
                exact ⟨hne, Nat.le_of_not_lt hlength, ⟨tokens, rfl, hanalysis⟩, by simpa using hfit,
                  not_not.mp hcount⟩

theorem deniesAny_word {word : List UInt8} {rest : List SqlToken} :
    deniesAny (.word word :: rest) =
      (isDeniedKeyword word || (rest.head? == some (.punct (ascii '(')) && isDeniedFunction word) ||
        deniesAny rest) := rfl

theorem deniesAny_of_suffix {before rest : List SqlToken} (h : deniesAny (before ++ rest) = false) :
    deniesAny rest = false := by
  induction before with
  | nil => exact h
  | cons token before ih =>
    refine ih ?_
    cases token
    case word text =>
      rw [List.cons_append, deniesAny_word] at h
      exact (Bool.or_eq_false_iff.mp h).2
    all_goals exact h

/-- A trailing semicolon changes nothing. -/
theorem deniesAny_append_semicolon (body : List SqlToken) :
    deniesAny (body ++ [.semicolon]) = deniesAny body := by
  induction body with
  | nil => rfl
  | cons token rest ih =>
    cases token
    case word text =>
      rw [List.cons_append, deniesAny_word, deniesAny_word, ih]
      cases rest <;> rfl
    all_goals exact ih

/-- The tokens of an accepted statement have no denied name directly before an open parenthesis. -/
theorem isDeniedFunction_eq_false {tokens before rest : List SqlToken} {word : List UInt8} {limits : SqlLimitsV2}
    {analysis : StatementAnalysis} (h : analyzeStatement tokens limits = .ok analysis)
    (htokens : tokens = before ++ .word word :: .punct (ascii '(') :: rest) : isDeniedFunction word = false := by
  obtain ⟨body, hbody, hdenies, -⟩ := analyzeStatement_eq_ok h
  have hall : deniesAny tokens = false := by
    rcases hbody with rfl | rfl
    · exact hdenies
    · rw [deniesAny_append_semicolon, hdenies]
  rw [htokens] at hall
  have hword := deniesAny_of_suffix hall
  rw [deniesAny_word, Bool.or_eq_false_iff, Bool.or_eq_false_iff] at hword
  simpa using hword.1.2

/-! ## The names SQLite resolves -/

theorem sqliteTokens_of_tokensOf {statement : List UInt8} {tokens : List SqlToken}
    (htokens : SqliteToken.tokensOf statement = .ok tokens) :
    tokens = (sqliteTokens statement).flatMap SqliteToken.gateTokens := by
  unfold SqliteToken.tokensOf at htokens
  unfold sqliteTokens
  cases hscan : SqliteToken.lexer.scan statement with
  | error e =>
    rw [hscan] at htokens
    cases htokens
  | ok found =>
    rw [hscan] at htokens
    cases htokens
    rfl

/-- A bare call is a word and an open parenthesis for the gate too. -/
theorem exists_of_isBareCall {tokens : List SqliteToken} {position : Nat} (h : isBareCall tokens position = true) :
    ∃ before word rest, tokens[position]? = some (.identifier word) ∧
      tokens.flatMap SqliteToken.gateTokens = before ++ .word word :: .punct (ascii '(') :: rest := by
  unfold isBareCall at h
  split at h
  · rename_i word text hword htext
    have htextEq : text = bytes "(" := by simpa using h
    obtain ⟨hlt, hget⟩ := List.getElem?_eq_some_iff.mp hword
    obtain ⟨hlt', hget'⟩ := List.getElem?_eq_some_iff.mp htext
    have hsplit : tokens = tokens.take position ++ .identifier word :: .operator text :: tokens.drop (position + 2) := by
      rw [← hget, ← hget', ← List.drop_eq_getElem_cons, ← List.drop_eq_getElem_cons, List.take_append_drop]
    refine ⟨(tokens.take position).flatMap SqliteToken.gateTokens, word,
      (tokens.drop (position + 2)).flatMap SqliteToken.gateTokens, hword, ?_⟩
    conv_lhs => rw [hsplit]
    rw [List.flatMap_append, List.flatMap_cons, List.flatMap_cons, htextEq]
    rfl
  · cases h

/-- Where the gate and SQLite read the same tokens, no bare call names a denied function. -/
theorem namesDenied_eq_false {statement : List UInt8} {tokens : List SqlToken} {limits : SqlLimitsV2}
    {analysis : StatementAnalysis} {position : Nat} (hanalysis : analyzeStatement tokens limits = .ok analysis)
    (htokens : SqliteToken.tokensOf statement = .ok tokens)
    (hcall : isBareCall (sqliteTokens statement) position = true) :
    namesDenied (sqliteTokens statement) position = false := by
  obtain ⟨before, word, rest, hword, hsplit⟩ := exists_of_isBareCall hcall
  have hgate : tokens = before ++ .word word :: .punct (ascii '(') :: rest := by
    rw [sqliteTokens_of_tokensOf htokens, hsplit]
  have hdenied : isDeniedFunction word = false := isDeniedFunction_eq_false hanalysis hgate
  unfold namesDenied
  rw [hword]
  exact hdenied

end SqlDialect

open SqlDialect

/-- SQLite resolves no denied function in an accepted statement exactly if none of their names is quoted or
without an argument list, and none is called where the gate does not read the tokens of SQLite. -/
theorem denylist_holds_iff_none_spelled_around (functions : List SqliteToken → List Nat) (statement : List UInt8)
    (parameters : List SqlValue) (limits : SqlLimitsV2) (analysis : StatementAnalysis)
    (h : validateExecuteRequest statement parameters limits = .ok analysis) :
    denylistHolds functions statement = true ↔
      noneSpelledAround functions statement = true ∧
        (SqliteToken.readAlike statement = true ∨ noneCalledBare functions statement = true) := by
  unfold denylistHolds noneSpelledAround noneCalledBare
  rw [List.all_eq_true, List.all_eq_true, List.all_eq_true]
  constructor
  · intro hall
    refine ⟨fun position hposition => ?_, .inr fun position hposition => ?_⟩
    · rw [hall position hposition, Bool.or_true]
    · rw [Bool.not_eq_true', Bool.and_eq_false_iff]
      exact .inr (by simpa using hall position hposition)
  · rintro ⟨haround, halike⟩ position hposition
    have hspelled := haround position hposition
    cases hcall : isBareCall (sqliteTokens statement) position with
    | false => simpa [hcall] using hspelled
    | true =>
      rcases halike with halike | hbare
      · obtain ⟨-, -, ⟨tokens, htokens, hanalysis⟩, -⟩ := validateExecuteRequest_eq_ok h
        have hread := SqliteToken.tokensOf_of_readAlike htokens halike
        rw [namesDenied_eq_false hanalysis hread hcall]
        rfl
      · have := hbare position hposition
        rwa [hcall, Bool.true_and] at this

/-- Where SQLite resolves functions in the statements below: at a name directly before an open parenthesis and
at the name after `from`. -/
def resolvedPositions (tokens : List SqliteToken) : List Nat :=
  (List.range tokens.length).filter fun position =>
    match tokens[position]?, tokens[position + 1]? with
    | some (.identifier _), some (.operator text) => text == bytes "("
    | some (.quotedIdentifier _), some (.operator text) => text == bytes "("
    | _, _ => position != 0 && tokens[position - 1]? == some (.identifier (bytes "from"))

/-- Limits of a request. -/
def smallSqlLimits : SqlLimitsV2 where
  maxParameters := 8
  parameterMaxBytes := 64
  statementMaxBytes := 256

theorem denylist_holds_iff_none_spelled_around_calledLength :
    validateExecuteRequest (bytes "select length(body) from \"notes\" where id = ?") [.integer 3] smallSqlLimits =
        .ok ⟨.select, 1⟩ ∧
      denylistHolds resolvedPositions (bytes "select length(body) from \"notes\" where id = ?") = true := by
  have haccepted : validateExecuteRequest (bytes "select length(body) from \"notes\" where id = ?") [.integer 3]
      smallSqlLimits = .ok ⟨.select, 1⟩ := by decide +kernel
  refine ⟨haccepted, ?_⟩
  exact (denylist_holds_iff_none_spelled_around resolvedPositions _ _ _ _ haccepted).mpr
    ⟨by decide +kernel, .inl (by decide +kernel)⟩

/-- A quoted function name and a table-valued function without an argument list. -/
theorem denied_names_spelled_around :
    (validateExecuteRequest (bytes "select \"load_extension\"('x')") [] smallSqlLimits = .ok ⟨.select, 0⟩ ∧
        denylistHolds resolvedPositions (bytes "select \"load_extension\"('x')") = false) ∧
      validateExecuteRequest (bytes "select * from pragma_table_list") [] smallSqlLimits = .ok ⟨.select, 0⟩ ∧
        denylistHolds resolvedPositions (bytes "select * from pragma_table_list") = false := by
  decide +kernel

end Iweb
