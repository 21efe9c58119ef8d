import Iweb.HostServices.Replay
import Mathlib.Data.List.Induction
import Mathlib.Data.List.Nodup

/-!
# A host call is executed at most once

Each request id of one identity has at most one row. The row stays under its key from the claim until it is
released, so a further claim finds it: the same call learns its state, anything else is a conflict.
-/

namespace Iweb

open CrashRefinement

variable {B K : Type} [DecidableEq B] [DecidableEq K] {d : ReplayDigests B K}

namespace Replay

/-- The columns that identify a row are unique, and the digests are those of the row's key. -/
structure WellFormed (d : ReplayDigests B K) (rows : List (ReplayRow B K)) : Prop where
  keys : (rows.map (·.replayKey)).Nodup
  operations : (rows.map (·.operationId)).Nodup
  identities : (rows.map (·.key.identity)).Nodup
  digests : ∀ row ∈ rows, keyDigest d row.key = .ok row.replayKey ∧
    row.canonicalBodyDigest = d.body row.key.canonicalBody

omit [DecidableEq B] [DecidableEq K] in
theorem keyDigest_eq_ok {key : ReplayKeyV2} {replayKey : K} :
    keyDigest d key = .ok replayKey ↔ key.isCanonical = true ∧ d.key (projection d key) = replayKey := by
  unfold keyDigest
  split
  · simp [*]
  · simp [*]

omit [DecidableEq B] [DecidableEq K] in
/-- Keys with one digest are the same key. -/
theorem keyDigest_injective (hbody : Function.Injective d.body) (hkey : Function.Injective d.key)
    {key key' : ReplayKeyV2} {replayKey : K} (h : keyDigest d key = .ok replayKey)
    (h' : keyDigest d key' = .ok replayKey) : key = key' := by
  obtain ⟨-, h⟩ := keyDigest_eq_ok.mp h
  obtain ⟨-, h'⟩ := keyDigest_eq_ok.mp h'
  have hprojection := hkey (h.trans h'.symm)
  cases key
  cases key'
  simp only [projection, ReplayKeyProjectionV2.mk.injEq] at hprojection
  obtain ⟨rfl, hbodies, rfl, rfl, rfl, rfl, rfl, rfl, rfl⟩ := hprojection
  rw [hbody hbodies]

omit [DecidableEq B] [DecidableEq K] in
theorem exists_earliest {rows : List (ReplayRow B K)} (h : rows ≠ []) : ∃ row ∈ rows, earliest rows = some row := by
  induction rows with
  | nil => exact absurd rfl h
  | cons row rows ih =>
    unfold earliest
    cases hrest : earliest rows with
    | none => exact ⟨row, List.mem_cons_self, rfl⟩
    | some row' =>
      dsimp only
      split
      · have hne : rows ≠ [] := by
          rintro rfl
          cases hrest
        obtain ⟨row'', hmem, heq⟩ := ih hne
        rw [hrest] at heq
        cases heq
        exact ⟨row', List.mem_cons_of_mem _ hmem, rfl⟩
      · exact ⟨row, List.mem_cons_self, rfl⟩

omit [DecidableEq B] in
/-- No row is found for a key exactly when neither its digest nor its identity has one. -/
theorem existingRow_eq_none {rows : List (ReplayRow B K)} {replayKey : K} {key : ReplayKeyV2}
    (h : existingRow rows replayKey key = none) :
    replayKey ∉ rows.map (·.replayKey) ∧ key.identity ∉ rows.map (·.key.identity) := by
  unfold existingRow at h
  split at h
  · cases h
  · rename_i hexact
    constructor
    · intro hmem
      obtain ⟨row, hrow, rfl⟩ := List.mem_map.mp hmem
      have := List.find?_eq_none.mp hexact row hrow
      simp at this
    · intro hmem
      obtain ⟨row, hrow, hident⟩ := List.mem_map.mp hmem
      have hne : rows.filter (·.key.identity = key.identity) ≠ [] := by
        refine List.ne_nil_of_mem (a := row) (List.mem_filter.mpr ⟨hrow, ?_⟩)
        exact decide_eq_true hident
      obtain ⟨row', -, hrow'⟩ := exists_earliest hne
      rw [hrow'] at h
      cases h

omit [DecidableEq B] in
/-- The row of an identity is the one a claim of that identity finds. -/
theorem existingRow_eq_some (hbody : Function.Injective d.body) (hkey : Function.Injective d.key)
    {rows : List (ReplayRow B K)} (hwf : WellFormed d rows) {row : ReplayRow B K} (hrow : row ∈ rows)
    {key : ReplayKeyV2} {replayKey : K} (hdigest : keyDigest d key = .ok replayKey)
    (hident : row.key.identity = key.identity) : existingRow rows replayKey key = some row := by
  unfold existingRow
  split
  · rename_i found hfound
    have hmem := List.mem_of_find?_eq_some hfound
    have hreplay : found.replayKey = replayKey := by simpa using List.find?_some hfound
    have hsame : found.key = key := keyDigest_injective hbody hkey (hreplay ▸ (hwf.digests found hmem).1) hdigest
    rw [List.inj_on_of_nodup_map hwf.identities hmem hrow (by rw [hsame, hident])]
  · have hfilter := KeyedRows.filter_key hwf.identities hrow
    rw [← hident, hfilter]
    rfl

/-- What a claim may do: answer from the row it found, or add its own. -/
theorem claimReplay_eq_ok {rows rows' : List (ReplayRow B K)} {operationId : String} {key : ReplayKeyV2}
    {nowMs expiresAt : Nat} {answer : ReplayClaimV2}
    (h : claimReplay d rows operationId key nowMs expiresAt = .ok (answer, rows')) :
    ∃ replayKey, keyDigest d key = .ok replayKey ∧
      ((∃ row, existingRow rows replayKey key = some row ∧ answerOf d row replayKey key nowMs = .ok answer ∧
          rows' = rows) ∨
        existingRow rows replayKey key = none ∧ operationId ∉ rows.map (·.operationId) ∧
          answer = .claimed operationId ∧
          rows' = rows ++ [⟨replayKey, key, d.body key.canonicalBody, operationId, .claimed, asI64 nowMs,
            asI64 expiresAt⟩]) := by
  unfold claimReplay at h
  simp only [bind_eq_ok] at h
  obtain ⟨_, -, replayKey, hdigest, h⟩ := h
  refine ⟨replayKey, hdigest, ?_⟩
  split at h
  · rename_i row hrow
    simp only [bind_eq_ok] at h
    obtain ⟨found, hanswer, h⟩ := h
    cases h
    exact .inl ⟨row, hrow, hanswer, rfl⟩
  · rename_i hnone
    simp only [bind_eq_ok, QuotaError.unless_eq_ok] at h
    obtain ⟨_, hfresh, h⟩ := h
    cases h
    refine .inr ⟨hnone, ?_, rfl, rfl⟩
    intro hmem
    obtain ⟨row, hrow, hid⟩ := List.mem_map.mp hmem
    have := List.all_eq_true.mp hfresh row hrow
    exact absurd hid (by simpa using this)

/-- An existing row never answers with a new claim. -/
theorem answerOf_ne_claimed {row : ReplayRow B K} {replayKey : K} {key : ReplayKeyV2} {nowMs : Nat}
    {operationId : String} : answerOf d row replayKey key nowMs ≠ .ok (.claimed operationId) := by
  intro h
  unfold answerOf at h
  simp only [bind_eq_ok] at h
  obtain ⟨_, -, h⟩ := h
  split at h
  · cases h
  · split at h
    · cases h
    · split at h <;> cases h

omit [DecidableEq K] [DecidableEq B] in
/-- The rows left by a deletion are rows of the table. -/
theorem sublist_deleteClaimed (rows : List (ReplayRow B K)) (select : ReplayRow B K → Bool) :
    (deleteClaimed rows select).2.Sublist rows := List.filter_sublist

omit [DecidableEq B] [DecidableEq K] in
theorem mem_deleteClaimed_of_terminal {rows : List (ReplayRow B K)} (select : ReplayRow B K → Bool)
    {row : ReplayRow B K} (hrow : row ∈ rows) (h : row.state ≠ .claimed) :
    row ∈ (deleteClaimed rows select).2 := by
  refine List.mem_filter.mpr ⟨hrow, ?_⟩
  simp [h]

omit [DecidableEq B] [DecidableEq K] in
/-- A row that is not deleted by a successful release of its operation stays. -/
theorem mem_deleteClaimed {rows : List (ReplayRow B K)} (hoperations : (rows.map (·.operationId)).Nodup)
    {select : ReplayRow B K → Bool} (operationId : String)
    (hselect : ∀ row, select row = true → row.operationId = operationId) {row : ReplayRow B K} (hrow : row ∈ rows)
    (h : ¬ ((deleteClaimed rows select).1 = true ∧ operationId = row.operationId)) :
    row ∈ (deleteClaimed rows select).2 := by
  refine List.mem_filter.mpr ⟨hrow, ?_⟩
  by_contra hdeleted
  have hp : (select row && row.state = .claimed) = true := by simpa using hdeleted
  have hid : row.operationId = operationId := hselect row (Bool.and_eq_true_iff.mp hp).1
  refine h ⟨?_, hid.symm⟩
  have hone := KeyedRows.countP_eq_one hoperations hrow (p := fun row => select row && row.state = .claimed) hp
    fun row' hrow' => (hselect row' (Bool.and_eq_true_iff.mp hrow').1).trans hid.symm
  exact beq_iff_eq.mpr hone

omit [DecidableEq B] in
/-- A completion touches nothing but the state of a row. -/
theorem completeRow_eq (replayKey : K) (operationId : String) (outcome : ReplayOutcome) (payload : List UInt8)
    (row : ReplayRow B K) : ∃ state, completeRow replayKey operationId outcome payload row = { row with state } := by
  unfold completeRow
  split
  · exact ⟨_, rfl⟩
  · exact ⟨row.state, rfl⟩

omit [DecidableEq B] in
/-- A completion names a row of its operation and makes it terminal, or finds it so. -/
theorem completeReplay_eq_ok {rows rows' : List (ReplayRow B K)} {key : ReplayKeyV2} {operationId : String}
    {payload : List UInt8} {text : String} (h : completeReplay d rows key operationId payload text = .ok rows') :
    ∃ outcome replayKey, ReplayOutcome.parse text = .ok outcome ∧ keyDigest d key = .ok replayKey ∧
      ∃ row ∈ rows, row.replayKey = replayKey ∧ row.operationId = operationId ∧
        (row.state = .claimed ∧ rows' = rows.map (completeRow replayKey operationId outcome payload) ∨
          row.state = .terminal outcome payload ∧ rows' = rows) := by
  unfold completeReplay at h
  simp only [bind_eq_ok] at h
  obtain ⟨outcome, houtcome, _, -, replayKey, hdigest, h⟩ := h
  refine ⟨outcome, replayKey, houtcome, hdigest, ?_⟩
  split at h
  · cases h
  · rename_i row hfind
    have hrow : row.replayKey = replayKey ∧ row.operationId = operationId := by simpa using List.find?_some hfind
    refine ⟨row, List.mem_of_find?_eq_some hfind, hrow.1, hrow.2, ?_⟩
    split at h
    · cases h
      exact .inl ⟨‹_›, rfl⟩
    · split at h
      · cases h
        exact .inr ⟨‹_›, rfl⟩
      · cases h

omit [DecidableEq B] [DecidableEq K] in
/-- A change of states keeps the table well formed. -/
theorem WellFormed.map {rows : List (ReplayRow B K)} (h : WellFormed d rows) {f : ReplayRow B K → ReplayRow B K}
    (hf : ∀ row, ∃ state, f row = { row with state }) : WellFormed d (rows.map f) := by
  have hcolumn : ∀ {C : Type} (column : ReplayRow B K → C),
      (∀ row state, column { row with state } = column row) → (rows.map f).map column = rows.map column := by
    intro C column hcolumn
    rw [List.map_map]
    apply List.map_congr_left
    intro row _
    obtain ⟨state, hstate⟩ := hf row
    show column (f row) = column row
    rw [hstate, hcolumn]
  refine ⟨?_, ?_, ?_, ?_⟩
  · rw [hcolumn _ fun _ _ => rfl]
    exact h.keys
  · rw [hcolumn _ fun _ _ => rfl]
    exact h.operations
  · rw [hcolumn _ fun _ _ => rfl]
    exact h.identities
  · intro row' hrow'
    obtain ⟨row, hrow, rfl⟩ := List.mem_map.mp hrow'
    obtain ⟨state, hstate⟩ := hf row
    rw [hstate]
    exact h.digests row hrow

omit [DecidableEq B] [DecidableEq K] in
theorem WellFormed.sublist {rows rows' : List (ReplayRow B K)} (h : WellFormed d rows) (hsub : rows'.Sublist rows) :
    WellFormed d rows' :=
  ⟨h.keys.sublist (hsub.map _), h.operations.sublist (hsub.map _), h.identities.sublist (hsub.map _),
    fun row hrow => h.digests row (hsub.subset hrow)⟩

omit [DecidableEq B] [DecidableEq K] in
theorem WellFormed.append {rows : List (ReplayRow B K)} (h : WellFormed d rows) {row : ReplayRow B K}
    (hkey : row.replayKey ∉ rows.map (·.replayKey)) (hoperation : row.operationId ∉ rows.map (·.operationId))
    (hidentity : row.key.identity ∉ rows.map (·.key.identity))
    (hdigest : keyDigest d row.key = .ok row.replayKey ∧ row.canonicalBodyDigest = d.body row.key.canonicalBody) :
    WellFormed d (rows ++ [row]) := by
  have hcolumn : ∀ {C : Type} (column : ReplayRow B K → C), (rows.map column).Nodup →
      column row ∉ rows.map column → ((rows ++ [row]).map column).Nodup := by
    intro C column hnodup hnew
    rw [List.map_append, List.map_singleton, List.nodup_append]
    refine ⟨hnodup, List.nodup_singleton _, ?_⟩
    rintro c hc _ hmem rfl
    exact hnew (List.mem_singleton.mp hmem ▸ hc)
  refine ⟨hcolumn _ h.keys hkey, hcolumn _ h.operations hoperation, hcolumn _ h.identities hidentity, ?_⟩
  intro row' hrow'
  rcases List.mem_append.mp hrow' with hold | hnew
  · exact h.digests row' hold
  · rw [List.mem_singleton.mp hnew]
    exact hdigest

end Replay

namespace ReplayCall

open Replay

/-- A call keeps the table well formed. -/
theorem wellFormed_step {rows : List (ReplayRow B K)} (h : WellFormed d rows) (call : ReplayCall) :
    WellFormed d (call.step d rows) := by
  unfold ReplayCall.step ReplayCall.perform
  cases call with
  | claim operationId key nowMs expiresAt =>
    dsimp only
    split
    · rename_i answer rows' hclaim
      obtain ⟨replayKey, hdigest, ⟨_, -, -, rfl⟩ | ⟨hnone, hoperation, -, rfl⟩⟩ := claimReplay_eq_ok hclaim
      · exact h
      · obtain ⟨hkey, hidentity⟩ := existingRow_eq_none hnone
        exact h.append hkey hoperation hidentity ⟨hdigest, rfl⟩
    · exact h
  | complete key operationId payload outcome =>
    dsimp only
    split
    · rename_i rows' hcomplete
      obtain ⟨_, _, -, -, _, -, -, -, ⟨-, rfl⟩ | ⟨-, rfl⟩⟩ := completeReplay_eq_ok hcomplete
      · exact h.map fun row => completeRow_eq _ _ _ _ row
      · exact h
    · exact h
  | release key operationId =>
    dsimp only
    split
    · rename_i changed rows' hrelease
      unfold releaseReplayClaim at hrelease
      simp only [bind_eq_ok] at hrelease
      obtain ⟨_, -, hrelease⟩ := hrelease
      cases hrelease
      exact h.sublist (sublist_deleteClaimed _ _)
    · exact h
  | releaseByOperationId operationId => exact h.sublist (sublist_deleteClaimed _ _)

theorem wellFormed_run (calls : List ReplayCall) : WellFormed d (run (ReplayCall.step d) [] calls) :=
  run_invariant (P := fun rows : List (ReplayRow B K) => WellFormed d rows)
    (fun _ call h => wellFormed_step h call) calls
    ⟨List.nodup_nil, List.nodup_nil, List.nodup_nil, fun _ h => absurd h List.not_mem_nil⟩

/-- No call changes or removes a terminal row. -/
theorem mem_step_of_terminal {rows : List (ReplayRow B K)} {row : ReplayRow B K} (hrow : row ∈ rows)
    (hterminal : row.state ≠ .claimed) (call : ReplayCall) : row ∈ call.step d rows := by
  unfold ReplayCall.step ReplayCall.perform
  cases call with
  | claim operationId key nowMs expiresAt =>
    dsimp only
    split
    · rename_i answer rows' hclaim
      obtain ⟨_, -, ⟨_, -, -, rfl⟩ | ⟨-, -, -, rfl⟩⟩ := claimReplay_eq_ok hclaim
      · exact hrow
      · exact List.mem_append_left _ hrow
    · exact hrow
  | complete key operationId payload outcome =>
    dsimp only
    split
    · rename_i rows' hcomplete
      obtain ⟨_, _, -, -, _, -, -, -, ⟨-, rfl⟩ | ⟨-, rfl⟩⟩ := completeReplay_eq_ok hcomplete
      · exact List.mem_map.mpr ⟨row, hrow, if_neg fun h => hterminal h.2.2⟩
      · exact hrow
    · exact hrow
  | release key operationId =>
    dsimp only
    split
    · rename_i changed rows' hrelease
      unfold releaseReplayClaim at hrelease
      simp only [bind_eq_ok] at hrelease
      obtain ⟨_, -, hrelease⟩ := hrelease
      cases hrelease
      exact mem_deleteClaimed_of_terminal _ hrow hterminal
    · exact hrow
  | releaseByOperationId operationId => exact mem_deleteClaimed_of_terminal _ hrow hterminal

/-- Unless its operation is released, a row stays under its key; only its state may change. -/
theorem exists_mem_step {rows : List (ReplayRow B K)} (hwf : WellFormed d rows) {row : ReplayRow B K}
    (hrow : row ∈ rows) {call : ReplayCall} (hkept : call.released d rows ≠ some row.operationId) :
    ∃ state, { row with state } ∈ call.step d rows := by
  unfold ReplayCall.step
  unfold ReplayCall.released at hkept
  cases call with
  | claim operationId key nowMs expiresAt =>
    refine ⟨row.state, ?_⟩
    unfold ReplayCall.perform
    dsimp only
    split
    · rename_i answer rows' hclaim
      obtain ⟨_, -, ⟨_, -, -, rfl⟩ | ⟨-, -, -, rfl⟩⟩ := claimReplay_eq_ok hclaim
      · exact hrow
      · exact List.mem_append_left _ hrow
    · exact hrow
  | complete key operationId payload outcome =>
    unfold ReplayCall.perform
    dsimp only
    split
    · rename_i rows' hcomplete
      obtain ⟨_, _, -, -, _, -, -, -, ⟨-, rfl⟩ | ⟨-, rfl⟩⟩ := completeReplay_eq_ok hcomplete
      · obtain ⟨state, hstate⟩ := completeRow_eq _ _ _ _ row
        exact ⟨state, hstate ▸ List.mem_map_of_mem hrow⟩
      · exact ⟨row.state, hrow⟩
    · exact ⟨row.state, hrow⟩
  | release key operationId =>
    refine ⟨row.state, ?_⟩
    unfold ReplayCall.perform at hkept ⊢
    dsimp only at hkept ⊢
    split
    · rename_i changed rows' hrelease
      rw [hrelease] at hkept
      unfold releaseReplayClaim at hrelease
      simp only [bind_eq_ok] at hrelease
      obtain ⟨replayKey, -, hrelease⟩ := hrelease
      have hpair := Except.ok.inj hrelease
      refine (congrArg Prod.snd hpair) ▸ mem_deleteClaimed hwf.operations operationId ?_ hrow ?_
      · intro row' hrow'
        simpa using (Bool.and_eq_true_iff.mp hrow').2
      · rintro ⟨hchanged, rfl⟩
        rw [hpair] at hchanged
        dsimp only at hchanged
        subst hchanged
        exact hkept rfl
    · exact hrow
  | releaseByOperationId operationId =>
    refine ⟨row.state, mem_deleteClaimed hwf.operations operationId ?_ hrow ?_⟩
    · intro row' hrow'
      exact of_decide_eq_true hrow'
    · rintro ⟨hchanged, rfl⟩
      refine hkept ?_
      unfold ReplayCall.perform releaseReplayClaimByOperationId
      dsimp only
      rw [hchanged]

/-- Through a history that does not release its operation, a row stays under its key. -/
theorem exists_mem_run {rows : List (ReplayRow B K)} {row : ReplayRow B K} (hwf : WellFormed d rows)
    (hrow : row ∈ rows) {calls : List ReplayCall}
    (hkept : Along (ReplayCall.step d) (fun rows call => call.released d rows ≠ some row.operationId) rows calls) :
    ∃ state, { row with state } ∈ run (ReplayCall.step d) rows calls := by
  have h := hkept.invariant
    (P := fun rows : List (ReplayRow B K) => WellFormed d rows ∧ ∃ state, { row with state } ∈ rows) ?_
    ⟨hwf, row.state, hrow⟩
  · exact h.2
  · rintro rows call hcall ⟨hwf, state, hmem⟩
    exact ⟨wellFormed_step hwf call, exists_mem_step hwf hmem hcall⟩

theorem mem_run_of_terminal {rows : List (ReplayRow B K)} {row : ReplayRow B K} (hrow : row ∈ rows)
    (hterminal : row.state ≠ .claimed) (calls : List ReplayCall) : row ∈ run (ReplayCall.step d) rows calls :=
  run_invariant (P := fun rows : List (ReplayRow B K) => row ∈ rows)
    (fun _ call h => mem_step_of_terminal h hterminal call) calls hrow

/-- A claim that was answered as claimed has added its row. -/
theorem claimed_row {rows : List (ReplayRow B K)} {operationId operationId' : String} {key : ReplayKeyV2}
    {nowMs expiresAt : Nat}
    (h : ((ReplayCall.claim operationId' key nowMs expiresAt).perform d rows).1 = .claim (.claimed operationId)) :
    ∃ replayKey, keyDigest d key = .ok replayKey ∧ operationId' = operationId ∧
      existingRow rows replayKey key = none ∧
      (ReplayCall.claim operationId' key nowMs expiresAt).step d rows = rows ++
        [⟨replayKey, key, d.body key.canonicalBody, operationId, .claimed, asI64 nowMs, asI64 expiresAt⟩] := by
  unfold ReplayCall.step
  unfold ReplayCall.perform at h ⊢
  dsimp only at h ⊢
  split at h
  · rename_i answer rows' hclaim
    have hanswer : answer = .claimed operationId := ReplayAnswer.claim.inj h
    subst hanswer
    obtain ⟨replayKey, hdigest, ⟨row, -, hrow, -⟩ | ⟨hnone, -, hid, rfl⟩⟩ := claimReplay_eq_ok hclaim
    · exact absurd hrow answerOf_ne_claimed
    · cases hid
      exact ⟨replayKey, hdigest, rfl, hnone, rfl⟩
  · cases h

/-- A row after a call was there before, or the call is the claim that added it. -/
theorem mem_step {rows : List (ReplayRow B K)} {call : ReplayCall} {row : ReplayRow B K}
    (hrow : row ∈ call.step d rows) :
    (∃ row' ∈ rows, row'.operationId = row.operationId ∧ row'.key = row.key ∧ row'.expiresAt = row.expiresAt) ∨
      ∃ nowMs expiresAt, call = .claim row.operationId row.key nowMs expiresAt ∧
        (call.perform d rows).1 = .claim (.claimed row.operationId) ∧ row.expiresAt = asI64 expiresAt := by
  unfold ReplayCall.step ReplayCall.perform at hrow
  cases call with
  | claim operationId key nowMs expiresAt =>
    dsimp only at hrow
    split at hrow
    · rename_i answer rows' hclaim
      obtain ⟨replayKey, -, ⟨_, -, -, rfl⟩ | ⟨-, -, rfl, rfl⟩⟩ := claimReplay_eq_ok hclaim
      · exact .inl ⟨row, hrow, rfl, rfl, rfl⟩
      · rcases List.mem_append.mp hrow with hmem | hnew
        · exact .inl ⟨row, hmem, rfl, rfl, rfl⟩
        · rw [List.mem_singleton] at hnew
          subst hnew
          refine .inr ⟨nowMs, expiresAt, rfl, ?_, rfl⟩
          unfold ReplayCall.perform
          dsimp only
          rw [hclaim]
    · exact .inl ⟨row, hrow, rfl, rfl, rfl⟩
  | complete key operationId payload outcome =>
    dsimp only at hrow
    split at hrow
    · rename_i rows' hcomplete
      obtain ⟨outcome', replayKey, -, -, _, -, -, -, ⟨-, rfl⟩ | ⟨-, rfl⟩⟩ := completeReplay_eq_ok hcomplete
      · obtain ⟨row', hrow', rfl⟩ := List.mem_map.mp hrow
        obtain ⟨state, hstate⟩ := completeRow_eq replayKey operationId outcome' payload row'
        exact .inl ⟨row', hrow', by rw [hstate], by rw [hstate], by rw [hstate]⟩
      · exact .inl ⟨row, hrow, rfl, rfl, rfl⟩
    · exact .inl ⟨row, hrow, rfl, rfl, rfl⟩
  | release key operationId =>
    dsimp only at hrow
    split at hrow
    · rename_i changed rows' hrelease
      unfold releaseReplayClaim at hrelease
      simp only [bind_eq_ok] at hrelease
      obtain ⟨_, -, hrelease⟩ := hrelease
      cases hrelease
      exact .inl ⟨row, (sublist_deleteClaimed _ _).subset hrow, rfl, rfl, rfl⟩
    · exact .inl ⟨row, hrow, rfl, rfl, rfl⟩
  | releaseByOperationId operationId =>
    exact .inl ⟨row, (sublist_deleteClaimed _ _).subset hrow, rfl, rfl, rfl⟩

/-- Every row was added by a claim of the history. -/
theorem exists_claim_of_mem_run {calls : List ReplayCall} {row : ReplayRow B K}
    (hrow : row ∈ run (ReplayCall.step d) [] calls) :
    ∃ before nowMs expiresAt after, calls = before ++ .claim row.operationId row.key nowMs expiresAt :: after ∧
      ((ReplayCall.claim row.operationId row.key nowMs expiresAt).perform d
        (run (ReplayCall.step d) [] before)).1 = .claim (.claimed row.operationId) ∧
      row.expiresAt = asI64 expiresAt := by
  induction calls using List.reverseRecOn generalizing row with
  | nil => exact absurd hrow List.not_mem_nil
  | append_singleton calls call ih =>
    rw [run_append, run_cons, run_nil] at hrow
    rcases mem_step hrow with ⟨row', hrow', hoperation, hkey, hexpires⟩ | ⟨nowMs, expiresAt, rfl, hanswer, hexpiry⟩
    · obtain ⟨before, nowMs, expiresAt, after, heq, hanswer, hexpiry⟩ := ih hrow'
      rw [hoperation, hkey] at heq hanswer
      refine ⟨before, nowMs, expiresAt, after ++ [call], ?_, hanswer, hexpires ▸ hexpiry⟩
      rw [heq, List.append_assoc, List.cons_append]
    · exact ⟨calls, nowMs, expiresAt, [], rfl, hanswer, hexpiry⟩

end ReplayCall

/-! ## What callers are promised -/

/-- A claim the ledger takes up: it has a body, its key is canonical and its own expiry lies ahead. -/
def ReplayKeyV2.IsClaimable (key : ReplayKeyV2) (nowMs expiresAt : Nat) : Prop :=
  key.canonicalBody ≠ [] ∧ key.isCanonical = true ∧ nowMs < expiresAt

instance (key : ReplayKeyV2) (nowMs expiresAt : Nat) : Decidable (key.IsClaimable nowMs expiresAt) :=
  inferInstanceAs (Decidable (_ ∧ _))

/-- What a claim of an identity answers while the row of that identity is there. -/
theorem ReplayCall.perform_claim_of_mem (hbody : Function.Injective d.body) (hkey : Function.Injective d.key)
    {rows : List (ReplayRow B K)} (hwf : Replay.WellFormed d rows) {row : ReplayRow B K} (hrow : row ∈ rows)
    {key : ReplayKeyV2} (hident : key.identity = row.key.identity) (operationId : String) {nowMs expiresAt : Nat}
    (h : key.IsClaimable nowMs expiresAt) (hcolumn : 0 ≤ row.expiresAt) :
    ((ReplayCall.claim operationId key nowMs expiresAt).perform d rows).1 =
      if key ≠ row.key then .claim .conflict
      else if row.expiresAt ≤ nowMs then .claim .expired
      else match row.state with
        | .claimed => .claim .inFlight
        | .terminal outcome payload => .claim (.completed payload outcome) := by
  obtain ⟨hne, hcanonical, hnow⟩ := h
  have hdigest : Replay.keyDigest d key = .ok (d.key (Replay.projection d key)) := if_pos hcanonical
  have hfound := Replay.existingRow_eq_some hbody hkey hwf hrow hdigest hident.symm
  have hguard : (!key.canonicalBody.isEmpty && decide (nowMs < expiresAt)) = true := by
    simp [hne, hnow]
  have hcheck : ∀ {error : QuotaError} {ok : Bool}, ok = true → error.unless ok = .ok () := by
    rintro error _ rfl
    rfl
  have hclaim : Replay.claimReplay d rows operationId key nowMs expiresAt =
      (Replay.answerOf d row (d.key (Replay.projection d key)) key nowMs).map fun answer => (answer, rows) := by
    unfold Replay.claimReplay
    rw [hcheck hguard, hdigest]
    dsimp only [bind, Except.bind]
    rw [hfound]
    dsimp only
    cases Replay.answerOf d row (d.key (Replay.projection d key)) key nowMs <;> rfl
  obtain ⟨hrowdigest, hrowbody⟩ := hwf.digests row hrow
  unfold ReplayCall.perform
  dsimp only
  rw [hclaim]
  unfold Replay.answerOf
  rw [hcheck (decide_eq_true hcolumn)]
  by_cases heq : key = row.key
  · subst heq
    have hreplay : row.replayKey = d.key (Replay.projection d row.key) := by
      rw [hdigest] at hrowdigest
      exact (Except.ok.inj hrowdigest).symm
    have hsame : Replay.isSameCall d row (d.key (Replay.projection d row.key)) row.key = true := by
      simp [Replay.isSameCall, hreplay, hrowbody]
    rw [if_neg (not_not.mpr rfl)]
    simp only [bind, Except.bind, hsame, Bool.not_true, Bool.false_eq_true, if_false]
    by_cases hexpired : row.expiresAt ≤ nowMs
    · rw [if_pos hexpired, if_pos hexpired]
      rfl
    · rw [if_neg hexpired, if_neg hexpired]
      cases row.state <;> rfl
  · have hdiffer : Replay.isSameCall d row (d.key (Replay.projection d key)) key = false := by
      rw [Bool.eq_false_iff]
      intro hsame
      simp only [Replay.isSameCall, Bool.and_eq_true, decide_eq_true_eq] at hsame
      have hreplay : row.replayKey = d.key (Replay.projection d key) := hsame.1.1.1.1.1.1.1.1.1
      exact heq (Replay.keyDigest_injective hbody hkey (hreplay ▸ hdigest) hrowdigest)
    rw [if_pos heq]
    simp only [bind, Except.bind, hdiffer, Bool.not_false, if_true]
    rfl

/-- After a claim was answered as claimed, no claim of the same identity is, until the first is released. -/
def ClaimedOnce (d : ReplayDigests B K) : Prop :=
  ∀ (before between : List ReplayCall) (operationId operationId' operationId'' : String) (key key' : ReplayKeyV2)
    (nowMs expiresAt nowMs' expiresAt' : Nat),
    let claim := ReplayCall.claim operationId key nowMs expiresAt
    (claim.perform d (run (ReplayCall.step d) [] before)).1 = .claim (.claimed operationId) →
    Along (ReplayCall.step d) (fun rows call => call.released d rows ≠ some operationId)
      (run (ReplayCall.step d) [] (before ++ [claim])) between →
    key'.identity = key.identity →
    ((ReplayCall.claim operationId' key' nowMs' expiresAt').perform d
      (run (ReplayCall.step d) [] (before ++ claim :: between))).1 ≠ .claim (.claimed operationId'')

/-- After a claim was answered as claimed, a claim of the same identity for anything else is a conflict, until
the first is released. -/
def OtherCallConflicts (d : ReplayDigests B K) : Prop :=
  ∀ (before between : List ReplayCall) (operationId operationId' : String) (key key' : ReplayKeyV2)
    (nowMs expiresAt nowMs' expiresAt' : Nat),
    let claim := ReplayCall.claim operationId key nowMs expiresAt
    expiresAt < 2 ^ 63 →
    (claim.perform d (run (ReplayCall.step d) [] before)).1 = .claim (.claimed operationId) →
    Along (ReplayCall.step d) (fun rows call => call.released d rows ≠ some operationId)
      (run (ReplayCall.step d) [] (before ++ [claim])) between →
    key'.identity = key.identity → key' ≠ key → key'.IsClaimable nowMs' expiresAt' →
    ((ReplayCall.claim operationId' key' nowMs' expiresAt').perform d
      (run (ReplayCall.step d) [] (before ++ claim :: between))).1 = .claim .conflict

/-- A completed call was claimed once in the history. From its completion on, the same call gets the stored
response until the expiry of that claim and is expired afterwards; anything else under its identity is a
conflict. -/
def CompletionReplayed (d : ReplayDigests B K) : Prop :=
  ∀ (before : List ReplayCall) (key : ReplayKeyV2) (operationId : String) (payload : List UInt8) (text : String),
    let complete := ReplayCall.complete key operationId payload text
    (complete.perform d (run (ReplayCall.step d) [] before)).1 = .completed →
    ∃ outcome, ReplayOutcome.parse text = .ok outcome ∧
    ∃ earlier nowMs expiresAt later, before = earlier ++ .claim operationId key nowMs expiresAt :: later ∧
      ((ReplayCall.claim operationId key nowMs expiresAt).perform d (run (ReplayCall.step d) [] earlier)).1 =
        .claim (.claimed operationId) ∧
      (expiresAt < 2 ^ 63 → ∀ after operationId' key' nowMs' expiresAt', key'.identity = key.identity →
        key'.IsClaimable nowMs' expiresAt' →
        ((ReplayCall.claim operationId' key' nowMs' expiresAt').perform d
          (run (ReplayCall.step d) [] (before ++ complete :: after))).1 =
          .claim (if key' ≠ key then .conflict else if expiresAt ≤ nowMs' then .expired
            else .completed payload outcome))

/-- No call changes or removes a terminal row. -/
def TerminalRowsKept (d : ReplayDigests B K) : Prop :=
  ∀ (calls : List ReplayCall) (row : ReplayRow B K), row ∈ run (ReplayCall.step d) [] calls →
    row.state ≠ .claimed → ∀ call : ReplayCall, row ∈ call.step d (run (ReplayCall.step d) [] calls)

namespace ReplayCall

open Replay

/-- The row of a claim is still there when nothing has released it. -/
theorem exists_row_of_claimed {before between : List ReplayCall} {operationId : String} {key : ReplayKeyV2}
    {nowMs expiresAt : Nat}
    (hclaim : ((ReplayCall.claim operationId key nowMs expiresAt).perform d
      (run (ReplayCall.step d) [] before)).1 = .claim (.claimed operationId))
    (hkept : Along (ReplayCall.step d) (fun rows call => call.released d rows ≠ some operationId)
      (run (ReplayCall.step d) [] (before ++ [.claim operationId key nowMs expiresAt])) between) :
    ∃ row ∈ run (ReplayCall.step d) [] (before ++ .claim operationId key nowMs expiresAt :: between),
      row.key = key ∧ row.expiresAt = asI64 expiresAt := by
  obtain ⟨replayKey, -, -, -, hstep⟩ := claimed_row hclaim
  have hwf := wellFormed_run (d := d) (before ++ [.claim operationId key nowMs expiresAt])
  have hrun : run (ReplayCall.step d) [] (before ++ .claim operationId key nowMs expiresAt :: between) =
      run (ReplayCall.step d) (run (ReplayCall.step d) [] (before ++ [.claim operationId key nowMs expiresAt]))
        between := by
    rw [← run_append, List.append_assoc, List.singleton_append]
  have hrow : (⟨replayKey, key, d.body key.canonicalBody, operationId, .claimed, asI64 nowMs, asI64 expiresAt⟩ :
      ReplayRow B K) ∈ run (ReplayCall.step d) [] (before ++ [.claim operationId key nowMs expiresAt]) := by
    rw [run_append, run_cons, run_nil, hstep]
    exact List.mem_append_right _ List.mem_cons_self
  obtain ⟨state, hmem⟩ := exists_mem_run hwf hrow hkept
  rw [hrun]
  exact ⟨_, hmem, rfl, rfl⟩

/-- A completion that was answered as completed has written what `complete_replay` returns. -/
theorem completed_step {rows : List (ReplayRow B K)} {key : ReplayKeyV2} {operationId : String}
    {payload : List UInt8} {text : String}
    (h : ((ReplayCall.complete key operationId payload text).perform d rows).1 = .completed) :
    completeReplay d rows key operationId payload text =
      .ok ((ReplayCall.complete key operationId payload text).step d rows) := by
  unfold ReplayCall.step
  unfold ReplayCall.perform at h ⊢
  dsimp only at h ⊢
  split at h
  · rename_i rows' hrows
    exact hrows
  · cases h

end ReplayCall

theorem claimedOnce (d : ReplayDigests B K) : ClaimedOnce d := by
  intro before between operationId operationId' operationId'' key key' nowMs expiresAt nowMs' expiresAt' claim
    hclaim hkept hident hagain
  obtain ⟨row, hrow, rfl, -⟩ := ReplayCall.exists_row_of_claimed hclaim hkept
  obtain ⟨replayKey, -, -, hnone, -⟩ := ReplayCall.claimed_row hagain
  obtain ⟨-, habsent⟩ := Replay.existingRow_eq_none hnone
  exact habsent (hident ▸ List.mem_map_of_mem (f := fun row : ReplayRow B K => row.key.identity) hrow)

theorem otherCallConflicts (hbody : Function.Injective d.body) (hkey : Function.Injective d.key) :
    OtherCallConflicts d := by
  intro before between operationId operationId' key key' nowMs expiresAt nowMs' expiresAt' claim hcolumn hclaim
    hkept hident hne hclaimable
  obtain ⟨row, hrow, rfl, hexpires⟩ := ReplayCall.exists_row_of_claimed hclaim hkept
  have hwf := ReplayCall.wellFormed_run (d := d) (before ++ claim :: between)
  have hfits : 0 ≤ row.expiresAt := by
    rw [hexpires]
    unfold asI64
    rw [if_pos hcolumn]
    exact Int.natCast_nonneg _
  rw [ReplayCall.perform_claim_of_mem hbody hkey hwf hrow hident operationId' hclaimable hfits, if_pos hne]

theorem completionReplayed (hbody : Function.Injective d.body) (hkey : Function.Injective d.key) :
    CompletionReplayed d := by
  intro before key operationId payload text complete hcomplete
  have hwf := ReplayCall.wellFormed_run (d := d) before
  have hrows := ReplayCall.completed_step hcomplete
  generalize hafter : (ReplayCall.complete key operationId payload text).step d
    (run (ReplayCall.step d) [] before) = rows' at hrows
  obtain ⟨outcome, replayKey, houtcome, hdigest, row, hrow, hreplay, rfl, hstate⟩ :=
    Replay.completeReplay_eq_ok hrows
  obtain rfl : row.key = key :=
    Replay.keyDigest_injective hbody hkey (hreplay ▸ (hwf.digests row hrow).1) hdigest
  obtain ⟨earlier, nowMs, expiresAt, later, hsplit, hclaimed, hexpires⟩ :=
    ReplayCall.exists_claim_of_mem_run hrow
  refine ⟨outcome, houtcome, earlier, nowMs, expiresAt, later, hsplit, hclaimed, ?_⟩
  intro hcolumn after operationId' key' nowMs' expiresAt' hident hclaimable
  have hterminal : { row with state := .terminal outcome payload } ∈ rows' := by
    rcases hstate with ⟨hopen, rfl⟩ | ⟨hdone, rfl⟩
    · refine List.mem_map.mpr ⟨row, hrow, ?_⟩
      unfold Replay.completeRow
      rw [if_pos ⟨hreplay, rfl, hopen⟩]
    · rw [← hdone]
      exact hrow
  have hmem := ReplayCall.mem_run_of_terminal (d := d) hterminal (fun h => nomatch h) after
  rw [← hafter, ← run_cons, ← run_append] at hmem
  have hvalue : asI64 expiresAt = expiresAt := if_pos hcolumn
  have hfits : 0 ≤ row.expiresAt := by
    rw [hexpires, hvalue]
    exact Int.natCast_nonneg _
  rw [ReplayCall.perform_claim_of_mem hbody hkey (ReplayCall.wellFormed_run _) hmem hident operationId'
    hclaimable hfits]
  dsimp only
  rw [hexpires, hvalue]
  simp only [Int.ofNat_le]
  split
  · rfl
  · split <;> rfl

/-- With collision-free digests, a host call is claimed at most once until it is released, its completion
answers every further claim, another call under its identity is a conflict, and terminal rows stay. -/
theorem host_calls_at_most_once (d : ReplayDigests B K) (hbody : Function.Injective d.body)
    (hkey : Function.Injective d.key) :
    ClaimedOnce d ∧ OtherCallConflicts d ∧ CompletionReplayed d ∧ TerminalRowsKept d :=
  ⟨claimedOnce d, otherCallConflicts hbody hkey, completionReplayed hbody hkey,
    fun _ _ hrow hterminal call => ReplayCall.mem_step_of_terminal hrow hterminal call⟩

/-- The digests that keep what they cover. -/
def transparentDigests : ReplayDigests (List UInt8) (ReplayKeyProjectionV2 (List UInt8)) := ⟨id, id⟩

theorem host_calls_at_most_once_transparent :
    ClaimedOnce transparentDigests ∧ OtherCallConflicts transparentDigests ∧
      CompletionReplayed transparentDigests ∧ TerminalRowsKept transparentDigests :=
  host_calls_at_most_once transparentDigests (fun _ _ h => h) (fun _ _ h => h)

/-- A host call of an application. -/
def sampleReplayKey : ReplayKeyV2 :=
  ⟨"018f6b1e-5c0a-7740-afbc-57a9016f2001", [1, 2, 3], "kv", "set", "aa", "bb", 4, 9, "cc"⟩

/-- A repeated call whose own expiry does not lie ahead is refused, although its response is stored. -/
theorem completed_call_refused_without_future_expiry :
    let complete := ReplayCall.complete sampleReplayKey "op-1" [9] "ok"
    let rows := run (ReplayCall.step transparentDigests) [] [.claim "op-1" sampleReplayKey 100 1000]
    (complete.perform transparentDigests rows).1 = .completed ∧
      ((ReplayCall.claim "op-2" sampleReplayKey 200 200).perform transparentDigests
        (complete.step transparentDigests rows)).1 = .refused .unavailable := by
  decide +kernel

end Iweb
