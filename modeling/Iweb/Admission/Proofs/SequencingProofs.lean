import Iweb.Admission.Proofs.JournalFileProofs
import Iweb.Admission.Sequencing

/-!
# Proofs: histories of the admission journal in memory

The replay of what a history emitted gives its journal back exactly if no extension shortened a lease:
`replay_row` refuses such a row, and the live `extend_lease` does not. Sequence numbers and joins are sound in
every history; a retry that asks for a higher sequence is refused while its own admission is in flight.
-/

namespace Iweb

open Std (ExtTreeMap)
open CrashRefinement

variable {A : AdmissionRules} {journal journal' : WasmAdmissionJournal} {request : AdmissionRequest}
  {versionDigest : String} {row : AdmissionJournalRow} {key : VersionKey}

/-! ## One creation -/

/-- What `find_join_candidate` joins: a row of the content index that agrees with the request. -/
theorem findJoinCandidate_some {contentKey : VersionKey} {joined : CreateOrJoin}
    (h : journal.findJoinCandidate request contentKey = .ok (some joined)) :
    ∃ row, journal.rows[joined.key]? = some row ∧ joined = row.handle joined.key false ∧
      joinMatches request row.proof = true ∧ joined.key.1 = request.applicationId ∧
      joined.key.2 ∈ (journal.byContent[contentKey]?).getD [] := by
  unfold WasmAdmissionJournal.findJoinCandidate at h
  dsimp only at h
  split at h
  · cases h
  · rename_i last hlast
    simp only [bind_eq_ok, require_eq_ok] at h
    obtain ⟨-, -, h⟩ := h
    split at h
    · split at h
      · cases h
      · rename_i row hrow
        simp only [bind_eq_ok, require_eq_ok, pure, Except.pure] at h
        obtain ⟨-, hmatches, h⟩ := h
        obtain rfl := Option.some.inj (Except.ok.inj h)
        refine ⟨row, hrow, rfl, hmatches, rfl, ?_⟩
        have hcandidate : (journal.nonterminal request.applicationId
            ((journal.byContent[contentKey]?).getD [])).head?.getD last ∈
              (journal.byContent[contentKey]?).getD [] := by
          rcases hhead : (journal.nonterminal request.applicationId
              ((journal.byContent[contentKey]?).getD [])).head? with _ | first
          · exact List.mem_of_getLast? hlast
          · exact (List.mem_filter.mp (List.mem_of_head? hhead)).1
        exact hcandidate
    · simp only [bind_eq_ok, pure, Except.pure] at h
      obtain ⟨-, -, h⟩ := h
      cases Except.ok.inj h

/-- Where nothing is joined, no admission of the content is in flight, and a content that was admitted before
is admitted again on demand only. -/
theorem findJoinCandidate_none {contentKey : VersionKey}
    (h : journal.findJoinCandidate request contentKey = .ok none) :
    journal.nonterminal request.applicationId ((journal.byContent[contentKey]?).getD []) = [] ∧
      (request.allowResequence = false → (journal.byContent[contentKey]?).getD [] = []) := by
  unfold WasmAdmissionJournal.findJoinCandidate at h
  dsimp only at h
  split at h
  · rename_i hlast
    have hempty := List.getLast?_eq_none_iff.mp hlast
    exact ⟨by rw [hempty]; rfl, fun _ => hempty⟩
  · simp only [bind_eq_ok, require_eq_ok] at h
    obtain ⟨-, -, h⟩ := h
    split at h
    · split at h
      · cases h
      · simp only [bind_eq_ok, pure, Except.pure] at h
        obtain ⟨-, -, h⟩ := h
        cases Except.ok.inj h
    · rename_i hallow
      simp only [bind_eq_ok, require_eq_ok] at h
      obtain ⟨-, hempty, -⟩ := h
      refine ⟨List.isEmpty_iff.mp hempty, fun hnot => ?_⟩
      rw [hnot] at hallow
      cases hallow rfl

theorem joinOf_eq_ok {found : Option CreateOrJoin} (h : journal.joinOf A request = .ok (versionDigest, found)) :
    validateAdmissionRequest A request = .ok () ∧
      admissionVersionDigest A request.packageDigest request.normalizedPolicy request.hostServicePolicy =
        .ok versionDigest ∧
      journal.findJoinCandidate request (request.applicationId, versionDigest) = .ok found := by
  simp only [WasmAdmissionJournal.joinOf, bind_eq_ok, pure, Except.pure] at h
  obtain ⟨_, hvalid, digest, hdigest, candidate, hfound, heq⟩ := h
  obtain ⟨rfl, rfl⟩ := Prod.mk.inj (Except.ok.inj heq)
  exact ⟨hvalid, hdigest, hfound⟩

/-- The ways in which a `create_or_join` ends. -/
inductive CreateOutcome (A : AdmissionRules) (journal : WasmAdmissionJournal) (request : AdmissionRequest) :
    WasmAdmissionJournal → Except KernelError CreateOrJoin → Prop
  | refused (failure : KernelError) : CreateOutcome A journal request journal (.error failure)
  | joined (versionDigest : String) (handle : CreateOrJoin)
      (hjoin : journal.joinOf A request = .ok (versionDigest, some handle)) :
      CreateOutcome A journal request journal (.ok handle)
  | spent (failure : KernelError) :
      CreateOutcome A journal request (journal.allocated request.applicationId) (.error failure)
  | created (versionDigest : String) (secret : List UInt8) (now : Nat) (row : AdmissionJournalRow)
      (hjoin : journal.joinOf A request = .ok (versionDigest, none))
      (hstage : stagingRow A request versionDigest (journal.sequenceOf request.applicationId) secret now = .ok row) :
      CreateOutcome A journal request
        ((journal.allocated request.applicationId).insertRow (request.applicationId, versionDigest) row)
        (.ok (row.handle row.proof.key true))

theorem createOutcome (A : AdmissionRules) (journal : WasmAdmissionJournal) (request : AdmissionRequest)
    (token : Except KernelError (List UInt8)) (now : Nat) :
    CreateOutcome A journal request (journal.createOrJoin A request token now).1
      (journal.createOrJoin A request token now).2 := by
  unfold WasmAdmissionJournal.createOrJoin
  rcases hjoin : journal.joinOf A request with failure | ⟨versionDigest, _ | handle⟩
  · exact .refused failure
  · cases token with
    | error failure => exact .refused failure
    | ok secret =>
      dsimp only
      rcases hstage : stagingRow A request versionDigest (journal.sequenceOf request.applicationId) secret now with
        failure | row
      · exact .spent failure
      · exact .created versionDigest secret now row hjoin hstage
  · exact .joined versionDigest handle hjoin

/-! ## The replay of what was emitted -/

/-- The row of a creation stands in the journal after it. -/
theorem createdRow_created (journal : WasmAdmissionJournal) (contentKey : VersionKey) (row : AdmissionJournalRow) :
    JournalHistory.createdRow (journal.insertRow contentKey row) (.ok (row.handle row.proof.key true)) = [row] := by
  have hrow : (journal.insertRow contentKey row).rows[(row.handle row.proof.key true).key]? = some row :=
    FiniteMap.getElem?_insert_self _ _ _
  unfold JournalHistory.createdRow
  dsimp only
  rw [if_pos (show (row.handle row.proof.key true).created = true from rfl), hrow]
  rfl

theorem createdRow_joined {handle : CreateOrJoin} (h : handle.created = false) :
    JournalHistory.createdRow journal (.ok handle) = [] := by
  unfold JournalHistory.createdRow
  dsimp only
  rw [h]
  rfl

/-- The journal of a history beside the replay of what it emitted; every answer is about an emitted row. -/
structure JournalHistory.Replayed (A : AdmissionRules) (history : JournalHistory) : Prop where
  replay : ∃ replayed, ReplayOf A history.emitted replayed ∧ Alike history.journal replayed
  answers : ∀ answer ∈ history.answered, ∃ row ∈ history.emitted, row.proof = answer.2.proof

namespace JournalHistory

variable {history : JournalHistory}

theorem replayed_initial : Replayed A initial := ⟨⟨.new, .nil, .refl _⟩, fun _ h => (List.not_mem_nil h).elim⟩

theorem Replayed.replays (h : history.Replayed A) : history.Replays A := by
  obtain ⟨replayed, hreplay, halike⟩ := h.replay
  refine ⟨replayed, hreplay, halike.rows.symm, halike.byContent.symm, fun answer hanswer => ?_⟩
  obtain ⟨row, hrow, hproof⟩ := h.answers answer hanswer
  rw [← hproof]
  exact hreplay.rebuilds.sequences row hrow

/-- A call that moves a row emits what the replay takes. -/
theorem Replayed.move {result : Except KernelError (WasmAdmissionJournal × AdmissionJournalRow)}
    (h : history.Replayed A)
    (hmove : ∀ journal' row, result = .ok (journal', row) → ∀ replayed, ReplayOf A history.emitted replayed →
      Alike history.journal replayed → ∃ replayed', replayed.replayRow A row = .ok replayed' ∧
        Alike journal' replayed') : (history.move result).Replayed A := by
  rcases result with failure | ⟨journal', row⟩
  · exact h
  · obtain ⟨replayed, hreplay, halike⟩ := h.replay
    obtain ⟨replayed', hrow, halike'⟩ := hmove journal' row rfl replayed hreplay halike
    refine ⟨⟨replayed', hreplay.append hrow, halike'⟩, fun answer hanswer => ?_⟩
    obtain ⟨found, hfound, hproof⟩ := h.answers answer hanswer
    exact ⟨found, List.mem_append_left _ hfound, hproof⟩

theorem Replayed.answer {result : Except KernelError CreateOrJoin} (h : history.Replayed A)
    (houtcome : CreateOutcome A history.journal request journal' result) :
    (history.answer request journal' result).Replayed A := by
  obtain ⟨replayed, hreplay, halike⟩ := h.replay
  cases houtcome with
  | refused failure =>
    refine ⟨⟨replayed, ?_, halike⟩, fun answer hanswer => ?_⟩
    · show ReplayOf A (history.emitted ++ []) replayed
      rw [List.append_nil]
      exact hreplay
    · obtain ⟨found, hfound, hproof⟩ := h.answers answer hanswer
      exact ⟨found, List.mem_append_left _ hfound, hproof⟩
  | joined versionDigest handle hjoin =>
    obtain ⟨row, hrow, hhandle, -⟩ := findJoinCandidate_some (joinOf_eq_ok hjoin).2.2
    have hnone : createdRow history.journal (.ok handle) = [] := createdRow_joined (joinOf_created hjoin)
    refine ⟨⟨replayed, ?_, halike⟩, fun answer hanswer => ?_⟩
    · show ReplayOf A (history.emitted ++ createdRow history.journal (.ok handle)) replayed
      rw [hnone, List.append_nil]
      exact hreplay
    · rcases List.mem_append.mp hanswer with hold | hnew
      · obtain ⟨found, hfound, hproof⟩ := h.answers answer hold
        exact ⟨found, List.mem_append_left _ hfound, hproof⟩
      · rw [List.mem_singleton.mp hnew]
        rw [halike.rows] at hrow
        refine ⟨row, List.mem_append_left _ (hreplay.rebuilds.mem_log hrow).1, ?_⟩
        rw [hhandle]
        rfl
  | spent failure =>
    refine ⟨⟨replayed, ?_, halike.allocated _⟩, fun answer hanswer => ?_⟩
    · show ReplayOf A (history.emitted ++ []) replayed
      rw [List.append_nil]
      exact hreplay
    · obtain ⟨found, hfound, hproof⟩ := h.answers answer hanswer
      exact ⟨found, List.mem_append_left _ hfound, hproof⟩
  | created versionDigest secret now row hjoin hstage =>
    obtain ⟨replayed', hrow, halike'⟩ := halike.created hreplay hstage
    have hemitted := createdRow_created (history.journal.allocated request.applicationId)
      (request.applicationId, versionDigest) row
    refine ⟨⟨replayed', ?_, halike'⟩, fun answer hanswer => ?_⟩
    · show ReplayOf A (history.emitted ++ createdRow _ _) replayed'
      rw [hemitted]
      exact hreplay.append hrow
    · show ∃ found ∈ history.emitted ++ createdRow _ _, found.proof = answer.2.proof
      rw [hemitted]
      rcases List.mem_append.mp hanswer with hold | hnew
      · obtain ⟨found, hfound, hproof⟩ := h.answers answer hold
        exact ⟨found, List.mem_append_left _ hfound, hproof⟩
      · rw [List.mem_singleton.mp hnew]
        exact ⟨row, List.mem_append_right _ (List.mem_singleton_self row), rfl⟩

/-- One call keeps the replay, if it does not shorten a lease. -/
theorem Replayed.step (h : history.Replayed A) {call : JournalCall} (hkeeps : history.keepsLease call = true) :
    (history.step A call).Replayed A := by
  cases call with
  | createOrJoin request token now => exact h.answer (createOutcome A history.journal request token now)
  | transition key target now =>
    refine h.move fun journal' row hresult replayed hreplay halike => ?_
    exact halike.transition hreplay hresult
  | extendLease key now ttl =>
    refine h.move fun journal' row hresult replayed hreplay halike => ?_
    refine halike.extendLease hreplay ?_ hresult
    unfold keepsLease at hkeeps
    dsimp only at hkeeps
    rw [hresult] at hkeeps
    exact hkeeps

/-- `replay_row` refuses an extension that shortens the lease. -/
theorem replayExtension_backward {memory : WasmAdmissionJournal} {now ttl : Nat} {previous : AdmissionJournalRow}
    {lease : String} (hprevious : memory.rows[key]? = some previous)
    (hlease : previous.leaseExpiresAt = some lease)
    (hbackward : extendsForward memory (.extendLease key now ttl) = false) :
    ∃ failure, replayExtension previous { previous with
      journalRevision := previous.journalRevision + 1
      leaseExpiresAt := some (formatRfc3339UtcMillis (now + ttl * 1000)) } = .error failure := by
  rcases hresult : replayExtension previous { previous with
      journalRevision := previous.journalRevision + 1
      leaseExpiresAt := some (formatRfc3339UtcMillis (now + ttl * 1000)) } with failure | _
  · exact ⟨failure, rfl⟩
  · simp only [replayExtension, hlease, bind_eq_ok, require_eq_ok] at hresult
    obtain ⟨_, -, extended, hextended, before, hbefore, hle⟩ := hresult
    simp only [extendsForward, hprevious, Option.bind_some, hlease, hbefore, hextended] at hbackward
    rw [hle] at hbackward
    cases hbackward

/-- An extension that shortens a lease emits a row that the replay refuses. -/
theorem Replayed.refused (h : history.Replayed A) {call : JournalCall} (hshortens : history.keepsLease call = false) :
    ∃ row, (history.step A call).emitted = history.emitted ++ [row] ∧
      ∀ replayed, ReplayOf A history.emitted replayed → ∃ failure, replayed.replayRow A row = .error failure := by
  obtain ⟨replayed, hreplay, halike⟩ := h.replay
  cases call with
  | createOrJoin request token now => cases hshortens
  | transition key target now => cases hshortens
  | extendLease key now ttl =>
    unfold keepsLease at hshortens
    dsimp only at hshortens
    rcases hresult : history.journal.extendLease key now ttl with failure | ⟨journal', row⟩
    · rw [hresult] at hshortens
      cases hshortens
    · rw [hresult] at hshortens
      have hstep : history.step A (.extendLease key now ttl) =
          { history with journal := journal', emitted := history.emitted ++ [row] } := by
        show history.move (history.journal.extendLease key now ttl) = _
        rw [hresult]
        rfl
      refine ⟨row, by rw [hstep], fun other hother => ?_⟩
      obtain rfl : replayed = other := Except.ok.inj (hreplay.symm.trans hother)
      -- the row before and the row that the extension wrote
      unfold WasmAdmissionJournal.extendLease at hresult
      rcases hprevious : history.journal.rows[key]? with _ | previous
      · rw [hprevious] at hresult
        cases hresult
      simp only [hprevious, bind_eq_ok, require_eq_ok, pure, Except.pure] at hresult
      obtain ⟨-, -, hresult⟩ := hresult
      rcases hlease : previous.leaseExpiresAt with _ | lease
      · rw [hlease] at hresult
        cases hresult
      simp only [hlease, bind_eq_ok, require_eq_ok, leaseFromTtl, pure, Except.pure] at hresult
      obtain ⟨-, -, -, -, extended, ⟨-, -, hextended⟩, heq⟩ := hresult
      obtain rfl := Except.ok.inj hextended
      obtain ⟨rfl, rfl⟩ := Prod.mk.inj (Except.ok.inj heq)
      have hbefore : replayed.rows[key]? = some previous := by rw [← halike.rows, hprevious]
      obtain ⟨hmem, hkey⟩ := hreplay.rebuilds.mem_log hbefore
      have hschema : previous.schemaVersion = 1 := (hreplay.verified previous hmem).1
      obtain ⟨failure, hfailure⟩ := replayExtension_backward hprevious hlease hshortens
      rw [hschema] at hfailure
      refine ⟨failure, ?_⟩
      unfold WasmAdmissionJournal.replayRow
      dsimp only
      rw [hkey, hbefore]
      simp [hschema, hfailure, require, pure, Except.pure, bind, Except.bind]

/-- A replay of a longer log starts with a replay of the shorter one. -/
theorem replayOf_append {log more : List AdmissionJournalRow} {replayed : WasmAdmissionJournal}
    (h : ReplayOf A (log ++ more) replayed) : ∃ before, ReplayOf A log before ∧
      more.foldlM (fun journal row => journal.replayRow A row) before = .ok replayed := by
  unfold ReplayOf at h
  rw [List.foldlM_append, bind_eq_ok] at h
  exact h

theorem emitted_step (history : JournalHistory) (call : JournalCall) :
    ∃ more, (history.step A call).emitted = history.emitted ++ more := by
  have hmove : ∀ result, ∃ more, (history.move result).emitted = history.emitted ++ more := by
    intro result
    rcases result with failure | ⟨journal, row⟩
    · exact ⟨[], (List.append_nil _).symm⟩
    · exact ⟨[row], rfl⟩
  cases call with
  | createOrJoin request token now => exact ⟨_, rfl⟩
  | transition key target now => exact hmove _
  | extendLease key now ttl => exact hmove _

theorem along_replayed (calls : List JournalCall)
    (h : Along (step A) (fun history call => history.keepsLease call = true) initial calls) :
    (run (step A) initial calls).Replayed A :=
  Along.invariant (P := fun history : JournalHistory => history.Replayed A)
    (fun _ _ hkeeps hreplayed => hreplayed.step hkeeps) h replayed_initial

/-- Where the replay of what was emitted succeeds, no extension shortened a lease. -/
theorem along_of_replayOf (calls : List JournalCall) {replayed : WasmAdmissionJournal}
    (h : ReplayOf A (run (step A) initial calls).emitted replayed) :
    Along (step A) (fun history call => history.keepsLease call = true) initial calls := by
  induction calls using List.reverseRecOn generalizing replayed with
  | nil => trivial
  | append_singleton calls call ih =>
    rw [run_append, run_cons, run_nil] at h
    obtain ⟨more, hmore⟩ := emitted_step (A := A) (run (step A) initial calls) call
    rw [hmore] at h
    obtain ⟨before, hbefore, hrest⟩ := replayOf_append h
    have hcalls := ih hbefore
    refine along_append.mpr ⟨hcalls, ?_, trivial⟩
    by_contra hshortens
    obtain ⟨row, hrow, hrefused⟩ := (along_replayed calls hcalls).refused (Bool.eq_false_iff.mpr hshortens)
    obtain rfl : more = [row] := List.append_cancel_left (hmore.symm.trans hrow)
    obtain ⟨failure, hfailure⟩ := hrefused before hbefore
    rw [List.foldlM_cons, hfailure] at hrest
    cases hrest

end JournalHistory

/-- The rows that a history of the journal emits replay to its rows, its content index and an allocator above
every answered sequence number exactly if no lease extension of the history shortened a lease. -/
theorem replays_iff_no_lease_shortened (A : AdmissionRules) (calls : List JournalCall) :
    (run (JournalHistory.step A) .initial calls).Replays A ↔
      Along (JournalHistory.step A) (fun history call => history.keepsLease call = true) .initial calls := by
  constructor
  · rintro ⟨replayed, hreplay, -⟩
    exact JournalHistory.along_of_replayOf calls hreplay
  · exact fun h => (JournalHistory.along_replayed calls h).replays

/-- An admission with a lease of a minute, extended to one of a second. -/
def shortenedLeaseCalls : List JournalCall :=
  [.createOrJoin Vectors.admissionRequest (.ok Vectors.commitToken) Vectors.admissionTime,
    .extendLease (Vectors.admissionKey 1) Vectors.admissionTime 1]

/-- Both calls succeed, and their rows are not replayed. -/
theorem shortened_lease_not_replayed :
    (run (JournalHistory.step Vectors.admissionRules) .initial shortenedLeaseCalls).emitted.length = 2 ∧
      ¬(run (JournalHistory.step Vectors.admissionRules) .initial shortenedLeaseCalls).Replays
        Vectors.admissionRules := by
  refine ⟨by decide +kernel, ?_⟩
  rintro ⟨replayed, hreplay, -⟩
  have hfails : ((run (JournalHistory.step Vectors.admissionRules) .initial shortenedLeaseCalls).emitted.foldlM
      (fun (journal : WasmAdmissionJournal) row => journal.replayRow Vectors.admissionRules row) .new).toOption.isNone =
        true := by
    decide +kernel
  rw [hreplay] at hfails
  cases hfails

/-! ## Sequence numbers and joins -/

namespace WasmAdmissionJournal

/-- The rows, the content index and the allocator of a live journal. -/
structure Indexed (A : AdmissionRules) (journal : WasmAdmissionJournal) : Prop where
  keyed : ∀ (key : VersionKey) (row : AdmissionJournalRow), journal.rows[key]? = some row → row.proof.key = key
  verified : ∀ (key : VersionKey) (row : AdmissionJournalRow), journal.rows[key]? = some row →
    verifyAdmissionProof A row.proof = .ok ()
  /-- Every row stands in the index, and the index names only rows. -/
  listed : ∀ (key : VersionKey) (row : AdmissionJournalRow), journal.rows[key]? = some row →
    key.2 ∈ (journal.byContent[row.contentKey]?).getD []
  present : ∀ (contentKey : VersionKey) (versionId : String), versionId ∈ (journal.byContent[contentKey]?).getD [] →
    ∃ row, journal.rows[((contentKey.1, versionId) : VersionKey)]? = some row ∧ row.contentKey = contentKey
  distinct : ∀ contentKey : VersionKey, ((journal.byContent[contentKey]?).getD []).Nodup
  sequenced : ∀ (key : VersionKey) (row : AdmissionJournalRow), journal.rows[key]? = some row →
    row.proof.sequence < journal.sequenceOf row.proof.applicationId
  single : ∀ (key key' : VersionKey) (row row' : AdmissionJournalRow), journal.rows[key]? = some row →
    journal.rows[key']? = some row' → row.state.isTerminal = false → row'.state.isTerminal = false →
    row.contentKey = row'.contentKey → key = key'

theorem indexed_new : Indexed A .new := by
  constructor <;> intros <;> simp_all [WasmAdmissionJournal.new]

theorem sequenceOf_allocated (journal : WasmAdmissionJournal) (applicationId other : String) :
    (journal.allocated applicationId).sequenceOf other =
      if other = applicationId then journal.sequenceOf applicationId + 1 else journal.sequenceOf other := by
  unfold WasmAdmissionJournal.sequenceOf WasmAdmissionJournal.allocated
  simp only [FiniteMap.getElem?_insert]
  split
  · rfl
  · rfl

theorem Indexed.allocated (h : Indexed A journal) (applicationId : String) :
    Indexed A (journal.allocated applicationId) := by
  refine ⟨h.keyed, h.verified, h.listed, h.present, h.distinct, fun key row hrow => ?_, h.single⟩
  have hbelow := h.sequenced key row hrow
  rw [sequenceOf_allocated]
  split
  · rename_i hsame
    rw [hsame] at hbelow
    omega
  · exact hbelow

/-- A row that replaces another one of the same proof, and does not come back from its end. -/
theorem Indexed.replaced {previous : AdmissionJournalRow} (h : Indexed A journal)
    (hprevious : journal.rows[key]? = some previous) (hproof : row.proof = previous.proof)
    (hopen : row.state.isTerminal = false → previous.state.isTerminal = false) :
    Indexed A { journal with rows := journal.rows.insert key row } := by
  -- a row after the replacement is one from before, in a state that is at most as open
  have hold : ∀ (other : VersionKey) (found : AdmissionJournalRow),
      (journal.rows.insert key row)[other]? = some found → ∃ before, journal.rows[other]? = some before ∧
        found.proof = before.proof ∧ (found.state.isTerminal = false → before.state.isTerminal = false) := by
    intro other found hfound
    rw [FiniteMap.getElem?_insert] at hfound
    split at hfound
    · rename_i hsame
      subst hsame
      cases hfound
      exact ⟨previous, hprevious, hproof, hopen⟩
    · exact ⟨found, hfound, rfl, id⟩
  have hcontent : ∀ {found before : AdmissionJournalRow}, found.proof = before.proof →
      found.contentKey = before.contentKey := by
    intro found before hsame
    unfold AdmissionJournalRow.contentKey
    rw [hsame]
  refine ⟨fun other found hfound => ?_, fun other found hfound => ?_, fun other found hfound => ?_,
    fun contentKey versionId hlisted => ?_, h.distinct, fun other found hfound => ?_,
    fun first second row₁ row₂ h₁ h₂ hopen₁ hopen₂ hsame => ?_⟩
  · obtain ⟨before, hbefore, hsame, -⟩ := hold other found hfound
    rw [hsame]
    exact h.keyed other before hbefore
  · obtain ⟨before, hbefore, hsame, -⟩ := hold other found hfound
    rw [hsame]
    exact h.verified other before hbefore
  · obtain ⟨before, hbefore, hsame, -⟩ := hold other found hfound
    rw [hcontent hsame]
    exact h.listed other before hbefore
  · obtain ⟨before, hbefore, hsame⟩ := h.present contentKey versionId hlisted
    by_cases hkey : ((contentKey.1, versionId) : VersionKey) = key
    · subst hkey
      rw [hprevious] at hbefore
      cases hbefore
      exact ⟨row, FiniteMap.getElem?_insert_self _ _ _, (hcontent hproof).trans hsame⟩
    · exact ⟨before, by rw [FiniteMap.getElem?_insert_of_ne _ _ hkey]; exact hbefore, hsame⟩
  · obtain ⟨before, hbefore, hsame, -⟩ := hold other found hfound
    rw [hsame]
    exact h.sequenced other before hbefore
  · obtain ⟨before₁, hbefore₁, hproof₁, hstate₁⟩ := hold first row₁ h₁
    obtain ⟨before₂, hbefore₂, hproof₂, hstate₂⟩ := hold second row₂ h₂
    refine h.single first second before₁ before₂ hbefore₁ hbefore₂ (hstate₁ hopen₁) (hstate₂ hopen₂) ?_
    rw [← hcontent hproof₁, ← hcontent hproof₂, hsame]

theorem transition_moved {target : AdmissionState} {now : Nat}
    (h : journal.transition key target now = .ok (journal', row)) :
    ∃ previous, journal.rows[key]? = some previous ∧ previous.state.transitionAllowed target = true ∧
      row = previous.moved target ∧ journal' = { journal with rows := journal.rows.insert key row } := by
  unfold WasmAdmissionJournal.transition at h
  rcases hprevious : journal.rows[key]? with _ | previous
  · rw [hprevious] at h
    cases h
  simp only [hprevious, bind_eq_ok, require_eq_ok, pure, Except.pure] at h
  obtain ⟨-, hallowed, h⟩ := h
  refine ⟨previous, rfl, hallowed, ?_⟩
  cases hterminal : target.isTerminal with
  | true =>
    simp only [hterminal] at h
    obtain ⟨rfl, rfl⟩ := Prod.mk.inj (Except.ok.inj h)
    exact ⟨rfl, rfl⟩
  | false =>
    rcases hlease : previous.leaseExpiresAt with _ | lease
    · simp [hterminal, hlease] at h
    · simp only [hterminal, hlease, Bool.not_false, if_true, bind_eq_ok, require_eq_ok] at h
      obtain ⟨_, -, _, -, heq⟩ := h
      obtain ⟨rfl, rfl⟩ := Prod.mk.inj (Except.ok.inj heq)
      exact ⟨rfl, rfl⟩

theorem extendLease_extended {now ttl : Nat} (h : journal.extendLease key now ttl = .ok (journal', row)) :
    ∃ previous, journal.rows[key]? = some previous ∧ row.state = previous.state ∧ row.proof = previous.proof ∧
      journal' = { journal with rows := journal.rows.insert key row } := by
  unfold WasmAdmissionJournal.extendLease at h
  rcases hprevious : journal.rows[key]? with _ | previous
  · rw [hprevious] at h
    cases h
  simp only [hprevious, bind_eq_ok, require_eq_ok, pure, Except.pure] at h
  obtain ⟨-, -, h⟩ := h
  rcases hlease : previous.leaseExpiresAt with _ | lease
  · rw [hlease] at h
    cases h
  simp only [hlease, bind_eq_ok, require_eq_ok] at h
  obtain ⟨-, -, -, -, extended, -, heq⟩ := h
  obtain ⟨rfl, rfl⟩ := Prod.mk.inj (Except.ok.inj heq)
  exact ⟨previous, rfl, rfl, rfl, rfl⟩

/-- A row that moves to a state that has not ended had not ended before. -/
theorem isTerminal_of_transitionAllowed {source target : AdmissionState}
    (h : source.transitionAllowed target = true) (hopen : target.isTerminal = false) : source.isTerminal = false := by
  cases source <;> cases target <;> simp_all [AdmissionState.transitionAllowed, AdmissionState.isTerminal]

/-- Where `nonterminal` is empty, every admission of the content has ended. -/
theorem Indexed.ended (h : Indexed A journal) {contentKey : VersionKey}
    (hnone : journal.nonterminal contentKey.1 ((journal.byContent[contentKey]?).getD []) = [])
    (hrow : journal.rows[key]? = some row) (hcontent : row.contentKey = contentKey) :
    row.state.isTerminal = true := by
  by_contra hopen
  have hlisted := h.listed key row hrow
  have happ : contentKey.1 = key.1 := by
    rw [← hcontent, ← h.keyed key row hrow]
    rfl
  rw [hcontent] at hlisted
  have hmem : key.2 ∈ journal.nonterminal contentKey.1 ((journal.byContent[contentKey]?).getD []) := by
    refine List.mem_filter.mpr ⟨hlisted, ?_⟩
    rw [happ]
    show (journal.rows[key]?).any _ = true
    rw [hrow, Option.any_some]
    simpa using hopen
  rw [hnone] at hmem
  exact List.not_mem_nil hmem

/-- The next sequence number makes a version id that no row has. -/
theorem Indexed.fresh (h : Indexed A journal) (hverified : verifyAdmissionProof A row.proof = .ok ())
    (hsequence : row.proof.sequence = journal.sequenceOf row.proof.applicationId) :
    journal.rows[row.proof.key]? = none := by
  by_contra hsome
  obtain ⟨other, hother⟩ := Option.ne_none_iff_exists'.mp hsome
  obtain ⟨-, hdigest, hversion⟩ := verifyAdmissionProof_names A hverified
  obtain ⟨-, hdigest', hversion'⟩ := verifyAdmissionProof_names A (h.verified _ other hother)
  have hkey := h.keyed _ other hother
  have happ : other.proof.applicationId = row.proof.applicationId := congrArg Prod.fst hkey
  have hid : other.proof.versionId = row.proof.versionId := congrArg Prod.snd hkey
  rw [hversion, hversion'] at hid
  have hsame := (composeWasmVersionId_injective hdigest' hdigest hid).2
  have hbelow := h.sequenced _ other hother
  rw [happ] at hbelow
  omega

/-- The first row of an admission, where no other admission of the content is in flight. -/
theorem Indexed.created (h : Indexed A journal) {secret : List UInt8} {now : Nat}
    (hnone : journal.nonterminal request.applicationId
      ((journal.byContent[((request.applicationId, versionDigest) : VersionKey)]?).getD []) = [])
    (hstage : stagingRow A request versionDigest (journal.sequenceOf request.applicationId) secret now = .ok row) :
    Indexed A ((journal.allocated request.applicationId).insertRow (request.applicationId, versionDigest) row) := by
  obtain ⟨hproof, hverified, hstate⟩ := stagingRow_eq_ok hstage
  obtain ⟨-, -, -, -, hcontent, hsequence⟩ := stagingRow_first hstage
  have happ : row.proof.applicationId = request.applicationId := by rw [hproof]; rfl
  have hfresh := h.fresh hverified (by rw [hsequence, happ])
  have hallocated := h.allocated request.applicationId
  -- a row afterwards is the new one or one from before
  have hold : ∀ (key : VersionKey) (found : AdmissionJournalRow),
      (journal.rows.insert row.proof.key row)[key]? = some found →
        (key = row.proof.key ∧ found = row) ∨ (key ≠ row.proof.key ∧ journal.rows[key]? = some found) := by
    intro key found hfound
    rw [FiniteMap.getElem?_insert] at hfound
    split at hfound
    · exact .inl ⟨‹_›, (Option.some.inj hfound).symm⟩
    · exact .inr ⟨‹_›, hfound⟩
  have hindex : ∀ contentKey : VersionKey,
      (((journal.allocated request.applicationId).insertRow (request.applicationId, versionDigest)
        row).byContent[contentKey]?).getD [] = (journal.byContent[contentKey]?).getD [] ++
          if contentKey = (request.applicationId, versionDigest) then [row.proof.versionId] else [] := by
    intro contentKey
    unfold WasmAdmissionJournal.insertRow
    rw [FiniteMap.getElem?_insert]
    split
    · rename_i hsame
      rw [hsame]
      rfl
    · exact (List.append_nil _).symm
  refine ⟨fun key found hfound => ?_, fun key found hfound => ?_, fun key found hfound => ?_,
    fun contentKey versionId hlisted => ?_, fun contentKey => ?_, fun key found hfound => ?_,
    fun key key' found found' hfound hfound' hopen hopen' hsame => ?_⟩
  · rcases hold key found hfound with ⟨rfl, rfl⟩ | ⟨-, hbefore⟩
    · rfl
    · exact h.keyed key found hbefore
  · rcases hold key found hfound with ⟨rfl, rfl⟩ | ⟨-, hbefore⟩
    · exact hverified
    · exact h.verified key found hbefore
  · rw [hindex]
    rcases hold key found hfound with ⟨rfl, rfl⟩ | ⟨-, hbefore⟩
    · rw [if_pos hcontent]
      exact List.mem_append_right _ (List.mem_singleton_self _)
    · exact List.mem_append_left _ (h.listed key found hbefore)
  · rw [hindex] at hlisted
    show ∃ found, (journal.rows.insert row.proof.key row)[((contentKey.1, versionId) : VersionKey)]? = some found ∧ _
    rcases List.mem_append.mp hlisted with hbefore | hnew
    · obtain ⟨found, hfound, hsame⟩ := h.present contentKey versionId hbefore
      have hne : ((contentKey.1, versionId) : VersionKey) ≠ row.proof.key := by
        intro heq
        rw [heq, hfresh] at hfound
        cases hfound
      exact ⟨found, by rw [FiniteMap.getElem?_insert_of_ne _ _ hne]; exact hfound, hsame⟩
    · split at hnew
      · rename_i hsame
        rw [List.mem_singleton.mp hnew, hsame]
        refine ⟨row, ?_, hcontent⟩
        rw [← happ]
        exact FiniteMap.getElem?_insert_self _ _ _
      · exact (List.not_mem_nil hnew).elim
  · rw [hindex]
    split
    · rename_i hsame
      refine List.nodup_append.mpr ⟨h.distinct contentKey, List.pairwise_singleton _ _, ?_⟩
      rintro versionId hbefore _ hnew rfl
      obtain ⟨found, hfound, -⟩ := h.present contentKey versionId hbefore
      rw [List.mem_singleton.mp hnew, hsame, ← happ] at hfound
      change journal.rows[row.proof.key]? = some found at hfound
      rw [hfresh] at hfound
      cases hfound
    · rw [List.append_nil]
      exact h.distinct contentKey
  · show found.proof.sequence < (journal.allocated request.applicationId).sequenceOf found.proof.applicationId
    rcases hold key found hfound with ⟨rfl, rfl⟩ | ⟨-, hbefore⟩
    · rw [sequenceOf_allocated, if_pos happ, hsequence]
      omega
    · exact hallocated.sequenced key found hbefore
  · rcases hold key found hfound with ⟨rfl, rfl⟩ | ⟨-, hbefore⟩ <;>
      rcases hold key' found' hfound' with ⟨rfl, rfl⟩ | ⟨-, hbefore'⟩
    · rfl
    · have hended := h.ended hnone hbefore' (hsame.symm.trans hcontent)
      rw [hopen'] at hended
      cases hended
    · have hended := h.ended hnone hbefore (hsame.trans hcontent)
      rw [hopen] at hended
      cases hended
    · exact h.single key key' found found' hbefore hbefore' hopen hopen' hsame

theorem Indexed.transition {target : AdmissionState} {now : Nat} (h : Indexed A journal)
    (hmove : journal.transition key target now = .ok (journal', row)) : Indexed A journal' := by
  obtain ⟨previous, hprevious, hallowed, rfl, rfl⟩ := transition_moved hmove
  exact h.replaced hprevious rfl fun hopen => isTerminal_of_transitionAllowed hallowed hopen

theorem Indexed.extendLease {now ttl : Nat} (h : Indexed A journal)
    (hmove : journal.extendLease key now ttl = .ok (journal', row)) : Indexed A journal' := by
  obtain ⟨previous, hprevious, hstate, hproof, rfl⟩ := extendLease_extended hmove
  refine h.replaced hprevious hproof fun hopen => ?_
  rw [← hstate]
  exact hopen

theorem Indexed.outcome {result : Except KernelError CreateOrJoin} (h : Indexed A journal)
    (houtcome : CreateOutcome A journal request journal' result) : Indexed A journal' := by
  cases houtcome with
  | refused failure => exact h
  | joined versionDigest handle hjoin => exact h
  | spent failure => exact h.allocated _
  | created versionDigest secret now row hjoin hstage =>
    exact h.created (findJoinCandidate_none (joinOf_eq_ok hjoin).2.2).1 hstage

/-- A row that has not ended is the only one of its content. -/
theorem Indexed.nonterminal_eq (h : Indexed A journal) (hrow : journal.rows[key]? = some row)
    (hopen : row.state.isTerminal = false) :
    journal.nonterminal key.1 ((journal.byContent[row.contentKey]?).getD []) = [key.2] := by
  have happ : row.contentKey.1 = key.1 := by
    rw [← h.keyed key row hrow]
    rfl
  have hmem : key.2 ∈ journal.nonterminal key.1 ((journal.byContent[row.contentKey]?).getD []) := by
    refine List.mem_filter.mpr ⟨h.listed key row hrow, ?_⟩
    show (journal.rows[key]?).any _ = true
    rw [hrow, Option.any_some, hopen]
    rfl
  have hall : ∀ versionId ∈ journal.nonterminal key.1 ((journal.byContent[row.contentKey]?).getD []),
      versionId = key.2 := by
    intro versionId hversion
    obtain ⟨hlisted, hstate⟩ := List.mem_filter.mp hversion
    obtain ⟨other, hother, hcontent⟩ := h.present _ versionId hlisted
    rw [happ] at hother
    rw [hother, Option.any_some] at hstate
    have hsame := h.single _ key other row hother hrow (by simpa using hstate) hopen hcontent
    rw [← hsame]
  have hnodup : (journal.nonterminal key.1 ((journal.byContent[row.contentKey]?).getD [])).Nodup :=
    (h.distinct row.contentKey).filter _
  generalize journal.nonterminal key.1 ((journal.byContent[row.contentKey]?).getD []) = versions at hmem hall hnodup
  match versions, hmem, hall, hnodup with
  | [versionId], _, hall, _ => rw [hall versionId (List.mem_singleton_self _)]
  | first :: second :: rest, _, hall, hnodup =>
    have hsame : first = second :=
      (hall first (by simp)).trans (hall second (by simp)).symm
    rw [hsame] at hnodup
    simp at hnodup

/-- What a call answered, as long as the journal keeps the row it answered. -/
structure Answered (A : AdmissionRules) (journal : WasmAdmissionJournal) (request : AdmissionRequest)
    (handle : CreateOrJoin) : Prop where
  valid : validateAdmissionRequest A request = .ok ()
  agrees : joinMatches request handle.proof = true
  stands : ∃ versionDigest row,
    admissionVersionDigest A request.packageDigest request.normalizedPolicy request.hostServicePolicy =
      .ok versionDigest ∧
    journal.rows[handle.key]? = some row ∧ row.proof = handle.proof ∧
    row.contentKey = (request.applicationId, versionDigest)

/-- A journal that keeps the proof of every row keeps what it answered. -/
theorem Answered.carried {handle : CreateOrJoin} (h : Answered A journal request handle)
    (hkeeps : ∀ (key : VersionKey) (row : AdmissionJournalRow), journal.rows[key]? = some row →
      ∃ row', journal'.rows[key]? = some row' ∧ row'.proof = row.proof) : Answered A journal' request handle := by
  obtain ⟨versionDigest, row, hdigest, hrow, hproof, hcontent⟩ := h.stands
  obtain ⟨row', hrow', hproof'⟩ := hkeeps handle.key row hrow
  refine ⟨h.valid, h.agrees, versionDigest, row', hdigest, hrow', hproof'.trans hproof, ?_⟩
  rw [← hcontent]
  unfold AdmissionJournalRow.contentKey
  rw [hproof']

theorem rows_kept_of_insert {previous : AdmissionJournalRow} (hprevious : journal.rows[key]? = some previous)
    (hproof : row.proof = previous.proof) (other : VersionKey) (found : AdmissionJournalRow)
    (hfound : journal.rows[other]? = some found) :
    ∃ found', (journal.rows.insert key row)[other]? = some found' ∧ found'.proof = found.proof := by
  by_cases hkey : other = key
  · subst hkey
    rw [hprevious] at hfound
    cases hfound
    exact ⟨row, FiniteMap.getElem?_insert_self _ _ _, hproof⟩
  · exact ⟨found, by rw [FiniteMap.getElem?_insert_of_ne _ _ hkey]; exact hfound, rfl⟩

theorem joinMatches_newProof (A : AdmissionRules) (request : AdmissionRequest) (versionDigest : String)
    (sequence : Nat) (secret : List UInt8) (now : Nat) :
    joinMatches request (newProof A request versionDigest sequence secret now) = true := by
  simp [joinMatches, newProof]

/-- A joined row agrees with the request, and a created one is made from it. -/
theorem Indexed.answered {handle : CreateOrJoin} (h : Indexed A journal)
    (houtcome : CreateOutcome A journal request journal' (.ok handle)) : Answered A journal' request handle := by
  cases houtcome with
  | joined versionDigest _ hjoin =>
    obtain ⟨hvalid, hdigest, hfound⟩ := joinOf_eq_ok hjoin
    obtain ⟨row, hrow, hhandle, hmatches, happ, hlisted⟩ := findJoinCandidate_some hfound
    have hproof : row.proof = handle.proof := by rw [hhandle]; rfl
    obtain ⟨other, hother, hcontent⟩ := h.present _ _ hlisted
    have hkey : ((request.applicationId, handle.key.2) : VersionKey) = handle.key := Prod.ext happ.symm rfl
    dsimp only at hother
    rw [hkey, hrow] at hother
    cases hother
    refine ⟨hvalid, ?_, versionDigest, row, hdigest, hrow, hproof, hcontent⟩
    rw [← hproof]
    exact hmatches
  | created versionDigest secret now row hjoin hstage =>
    obtain ⟨hvalid, hdigest, -⟩ := joinOf_eq_ok hjoin
    obtain ⟨hproof, -, -⟩ := stagingRow_eq_ok hstage
    obtain ⟨-, -, -, -, hcontent, -⟩ := stagingRow_first hstage
    refine ⟨hvalid, ?_, versionDigest, row, hdigest, FiniteMap.getElem?_insert_self _ _ _, rfl, hcontent⟩
    show joinMatches request row.proof = true
    rw [hproof]
    exact joinMatches_newProof A request versionDigest _ secret now

/-- A creation keeps every row. -/
theorem Indexed.outcome_kept {result : Except KernelError CreateOrJoin} (h : Indexed A journal)
    (houtcome : CreateOutcome A journal request journal' result) (other : VersionKey) (found : AdmissionJournalRow)
    (hfound : journal.rows[other]? = some found) : journal'.rows[other]? = some found := by
  cases houtcome with
  | refused failure => exact hfound
  | joined versionDigest handle hjoin => exact hfound
  | spent failure => exact hfound
  | created versionDigest secret now row hjoin hstage =>
    obtain ⟨hproof, hverified, -⟩ := stagingRow_eq_ok hstage
    obtain ⟨-, -, -, -, -, hsequence⟩ := stagingRow_first hstage
    have happ : row.proof.applicationId = request.applicationId := by rw [hproof]; rfl
    have hfresh := h.fresh hverified (by rw [hsequence, happ])
    have hne : other ≠ row.proof.key := by
      rintro rfl
      rw [hfresh] at hfound
      cases hfound
    show (journal.rows.insert row.proof.key row)[other]? = some found
    rw [FiniteMap.getElem?_insert_of_ne _ _ hne]
    exact hfound

/-- The retry of an answered request joins. -/
theorem Answered.joins {handle : CreateOrJoin} (h : Answered A journal request handle) (hindexed : Indexed A journal)
    (hallow : request.allowResequence = false) (hrow : journal.rows[handle.key]? = some row)
    (hopen : row.state.isTerminal = false) : row.proof = handle.proof ∧ ∀ token now,
      journal.createOrJoin A request token now = (journal, .ok (row.handle handle.key false)) := by
  obtain ⟨versionDigest, found, hdigest, hfound, hproof, hcontent⟩ := h.stands
  rw [hrow] at hfound
  cases hfound
  refine ⟨hproof, fun token now => ?_⟩
  have happ : handle.key.1 = request.applicationId := by
    rw [← hindexed.keyed _ row hrow]
    exact congrArg Prod.fst hcontent
  have hnonterminal := hindexed.nonterminal_eq hrow hopen
  have hlisted := hindexed.listed _ row hrow
  rw [hcontent] at hnonterminal hlisted
  rw [happ] at hnonterminal
  have hkey : ((request.applicationId, handle.key.2) : VersionKey) = handle.key := Prod.ext happ.symm rfl
  have hmatches : joinMatches request row.proof = true := by
    rw [hproof]
    exact h.agrees
  have hjoin : journal.findJoinCandidate request (request.applicationId, versionDigest) =
      .ok (some (row.handle handle.key false)) := by
    unfold WasmAdmissionJournal.findJoinCandidate
    dsimp only
    split
    · rename_i hlast
      rw [List.getLast?_eq_none_iff.mp hlast] at hlisted
      exact (List.not_mem_nil hlisted).elim
    · rw [hnonterminal, hallow]
      simp [hkey, hrow, hmatches, require, bind, Except.bind, pure, Except.pure]
  unfold WasmAdmissionJournal.createOrJoin WasmAdmissionJournal.joinOf
  simp only [h.valid, hdigest, hjoin, bind, Except.bind, pure, Except.pure]

end WasmAdmissionJournal

namespace JournalHistory

open WasmAdmissionJournal

variable {history : JournalHistory}

structure Ordered (A : AdmissionRules) (history : JournalHistory) : Prop where
  indexed : Indexed A history.journal
  below : ∀ entry ∈ history.allocated, entry.2 < history.journal.sequenceOf entry.1
  increasing : ∀ applicationId,
    ((history.allocated.filter fun entry => entry.1 = applicationId).map Prod.snd).Pairwise (· < ·)
  answers : ∀ answer ∈ history.answered, Answered A history.journal answer.1 answer.2

theorem ordered_initial : Ordered A initial :=
  ⟨indexed_new, fun _ h => (List.not_mem_nil h).elim, fun _ => .nil, fun _ h => (List.not_mem_nil h).elim⟩

/-- The next sequence number stands after all that were allocated. -/
theorem increasing_append {allocated : List (String × Nat)} {applicationId : String} {sequence : Nat}
    (h : ∀ other, ((allocated.filter fun entry => entry.1 = other).map Prod.snd).Pairwise (· < ·))
    (hbelow : ∀ entry ∈ allocated, entry.1 = applicationId → entry.2 < sequence) (other : String) :
    (((allocated ++ [(applicationId, sequence)]).filter fun entry => entry.1 = other).map Prod.snd).Pairwise
      (· < ·) := by
  rw [List.filter_append, List.map_append]
  by_cases hsame : applicationId = other
  · subst hsame
    rw [List.filter_cons_of_pos (by simp), List.filter_nil]
    refine List.pairwise_append.mpr ⟨h applicationId, List.pairwise_singleton _ _, fun before hbefore after hafter => ?_⟩
    obtain ⟨entry, hentry, rfl⟩ := List.mem_map.mp hbefore
    obtain ⟨hmem, happ⟩ := List.mem_filter.mp hentry
    rw [List.mem_singleton.mp hafter]
    exact hbelow entry hmem (by simpa using happ)
  · rw [List.filter_cons_of_neg (by simpa using hsame), List.filter_nil]
    simpa using h other

theorem Ordered.move {result : Except KernelError (WasmAdmissionJournal × AdmissionJournalRow)}
    (h : Ordered A history)
    (hmove : ∀ journal' row, result = .ok (journal', row) → Indexed A journal' ∧
      ∃ key previous, history.journal.rows[key]? = some previous ∧ row.proof = previous.proof ∧
        journal' = { history.journal with rows := history.journal.rows.insert key row }) :
    Ordered A (history.move result) := by
  rcases result with failure | ⟨journal', row⟩
  · exact h
  · obtain ⟨hindexed, key, previous, hprevious, hproof, rfl⟩ := hmove journal' row rfl
    exact ⟨hindexed, h.below, h.increasing,
      fun answer hanswer => (h.answers answer hanswer).carried (rows_kept_of_insert hprevious hproof)⟩

theorem Ordered.answer {result : Except KernelError CreateOrJoin} (h : Ordered A history)
    (houtcome : CreateOutcome A history.journal request journal' result) :
    Ordered A (history.answer request journal' result) := by
  -- a creation leaves the allocator as it is or takes one number
  have hsequence : (∀ other, journal'.sequenceOf other = history.journal.sequenceOf other) ∨
      ∀ other, journal'.sequenceOf other = (history.journal.allocated request.applicationId).sequenceOf other := by
    cases houtcome with
    | refused failure => exact .inl fun _ => rfl
    | joined versionDigest handle hjoin => exact .inl fun _ => rfl
    | spent failure => exact .inr fun _ => rfl
    | created versionDigest secret now row hjoin hstage => exact .inr fun _ => rfl
  have hanswers : ∀ answer ∈ (history.answer request journal' result).answered,
      Answered A journal' answer.1 answer.2 := by
    have hbefore : ∀ answer ∈ history.answered, Answered A journal' answer.1 answer.2 := fun answer hanswer =>
      (h.answers answer hanswer).carried fun key row hrow =>
        ⟨row, h.indexed.outcome_kept houtcome key row hrow, rfl⟩
    intro answer hanswer
    cases result with
    | error failure => exact hbefore answer hanswer
    | ok handle =>
      rcases List.mem_append.mp hanswer with hold | hnew
      · exact hbefore answer hold
      · obtain rfl := List.mem_singleton.mp hnew
        exact h.indexed.answered houtcome
  rcases hsequence with hsame | hnext
  · have hallocated : (history.answer request journal' result).allocated = history.allocated :=
      if_pos (hsame request.applicationId)
    refine ⟨h.indexed.outcome houtcome, ?_, ?_, hanswers⟩
    · rw [hallocated]
      intro entry hentry
      show entry.2 < journal'.sequenceOf entry.1
      rw [hsame]
      exact h.below entry hentry
    · rw [hallocated]
      exact h.increasing
  · have hstep : journal'.sequenceOf request.applicationId = history.journal.sequenceOf request.applicationId + 1 := by
      rw [hnext, sequenceOf_allocated, if_pos rfl]
    have hallocated : (history.answer request journal' result).allocated =
        history.allocated ++ [(request.applicationId, history.journal.sequenceOf request.applicationId)] :=
      if_neg (by omega)
    refine ⟨h.indexed.outcome houtcome, ?_, ?_, hanswers⟩
    · rw [hallocated]
      intro entry hentry
      show entry.2 < journal'.sequenceOf entry.1
      rcases List.mem_append.mp hentry with hold | hnew
      · have hbelow := h.below entry hold
        rw [hnext, sequenceOf_allocated]
        split
        · rename_i hsame
          rw [hsame] at hbelow
          omega
        · exact hbelow
      · obtain rfl := List.mem_singleton.mp hnew
        dsimp only
        omega
    · rw [hallocated]
      refine increasing_append h.increasing fun entry hentry happ => ?_
      rw [← happ]
      exact h.below entry hentry

theorem Ordered.step (h : Ordered A history) (call : JournalCall) : Ordered A (history.step A call) := by
  cases call with
  | createOrJoin request token now => exact h.answer (createOutcome A history.journal request token now)
  | transition key target now =>
    refine h.move fun journal' row hmove => ⟨h.indexed.transition hmove, ?_⟩
    obtain ⟨previous, hprevious, -, hrow, hjournal⟩ := transition_moved hmove
    exact ⟨key, previous, hprevious, by rw [hrow]; rfl, hjournal⟩
  | extendLease key now ttl =>
    refine h.move fun journal' row hmove => ⟨h.indexed.extendLease hmove, ?_⟩
    obtain ⟨previous, hprevious, -, hproof, hjournal⟩ := extendLease_extended hmove
    exact ⟨key, previous, hprevious, hproof, hjournal⟩

/-- Where a creation takes a sequence number, the content has no row or the request asks for another one. -/
theorem Ordered.resequenced (h : Ordered A history) (token : Except KernelError (List UInt8)) (now : Nat)
    (hdigest : admissionVersionDigest A request.packageDigest request.normalizedPolicy request.hostServicePolicy =
      .ok versionDigest)
    (hrow : history.journal.rows[key]? = some row) (hcontent : row.contentKey = (request.applicationId, versionDigest))
    (htaken : (history.journal.createOrJoin A request token now).1.sequenceOf request.applicationId ≠
      history.journal.sequenceOf request.applicationId) : request.allowResequence = true := by
  by_contra hnot
  rcases hjoin : history.journal.joinOf A request with failure | ⟨digest, _ | handle⟩
  · exact htaken (by unfold WasmAdmissionJournal.createOrJoin; rw [hjoin])
  · obtain ⟨-, hdigest', hnone⟩ := joinOf_eq_ok hjoin
    obtain rfl := Except.ok.inj (hdigest.symm.trans hdigest')
    have hempty := (findJoinCandidate_none hnone).2 (by simpa using hnot)
    have hlisted := h.indexed.listed key row hrow
    rw [hcontent, hempty] at hlisted
    exact List.not_mem_nil hlisted
  · exact htaken (by unfold WasmAdmissionJournal.createOrJoin; rw [hjoin])

theorem Ordered.sequenced (h : Ordered A history) : history.Sequenced A where
  increasing := h.increasing
  single := h.indexed.single
  joins := fun answer hanswer hallow _ hrow hopen => (h.answers answer hanswer).joins h.indexed hallow hrow hopen
  resequenced := fun _ token now _ _ _ hdigest hrow hcontent _ htaken =>
    h.resequenced token now hdigest hrow hcontent htaken

end JournalHistory

/-- Sequence numbers and joins are sound in every history of the journal. -/
theorem sequences_sound (A : AdmissionRules) (calls : List JournalCall) :
    (run (JournalHistory.step A) .initial calls).Sequenced A :=
  JournalHistory.Ordered.sequenced (run_invariant (P := fun history : JournalHistory => history.Ordered A)
    (fun _ call h => h.step call) calls JournalHistory.ordered_initial)

/-- The first admission of a content by a request that may take a higher sequence. -/
def resequencingCall : JournalCall :=
  .createOrJoin { Vectors.admissionRequest with allowResequence := true } (.ok Vectors.commitToken)
    Vectors.admissionTime

/-- The retry of a request that asks for a higher sequence does not join its own admission. -/
theorem resequencing_retry_refused :
    ¬∀ answer ∈ (run (JournalHistory.step Vectors.admissionRules) .initial [resequencingCall]).answered,
      (run (JournalHistory.step Vectors.admissionRules) .initial [resequencingCall]).Joins Vectors.admissionRules
        answer.1 answer.2 := by
  have hanswered : (run (JournalHistory.step Vectors.admissionRules) .initial [resequencingCall]).answered.any
      (fun (answer : AdmissionRequest × CreateOrJoin) =>
        ((run (JournalHistory.step Vectors.admissionRules) .initial [resequencingCall]).journal.rows[answer.2.key]?).any
          (fun row => !row.state.isTerminal) &&
        ((run (JournalHistory.step Vectors.admissionRules) .initial [resequencingCall]).journal.createOrJoin
          Vectors.admissionRules answer.1 (.ok Vectors.commitToken) Vectors.admissionTime).2.toOption.isNone) = true := by
    decide +kernel
  intro hjoins
  obtain ⟨answer, hanswer, hrefused⟩ := List.any_eq_true.mp hanswered
  obtain ⟨hstands, hnone⟩ := Bool.and_eq_true_iff.mp hrefused
  obtain ⟨row, hrow, hopen⟩ := (Option.any_eq_true _ _).mp hstands
  have hjoined := (hjoins answer hanswer row hrow (by simpa using hopen)).2 (.ok Vectors.commitToken)
    Vectors.admissionTime
  rw [hjoined] at hnone
  cases hnone

end Iweb
