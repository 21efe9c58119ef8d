import Iweb.Admission.JournalFile
import Iweb.Admission.Vectors
import Iweb.Admission.Proofs.InvariantProofs
import Mathlib.Data.List.Induction

/-!
# Proofs: the admission journal file over crashes and restarts

The file stands for the rows appended so far (`LineLog.Written`), their replay succeeds, and the journal
in memory has the rows of that replay with an allocator at least as high.
-/

namespace Iweb

open Std (ExtTreeMap)
open CrashRefinement LineLog

variable {A : AdmissionRules} {J : JournalRowJson} {journal journal' memory : WasmAdmissionJournal}
  {row : AdmissionJournalRow} {log : List AdmissionJournalRow}

/-! ## Replay -/

/-- A replayed row is the first of its version or the successor of the one before. -/
theorem replayRow_cases (h : journal.replayRow A row = .ok journal') : row.schemaVersion = 1 ∧
    ((journal.rows[row.proof.key]? = none ∧ row.journalRevision = 0 ∧
        verifyAdmissionProof A row.proof = .ok () ∧
        journal' = { journal.insertRow row.contentKey row with
          nextSequence := raiseSequence journal.nextSequence row }) ∨
      ∃ previous : AdmissionJournalRow, journal.rows[row.proof.key]? = some previous ∧
        row.journalRevision = previous.journalRevision + 1 ∧ row.proof = previous.proof ∧
        journal' = { journal with rows := journal.rows.insert row.proof.key row }) := by
  unfold WasmAdmissionJournal.replayRow at h
  cases hprevious : journal.rows[row.proof.key]? with
  | none =>
    simp only [hprevious, bind_eq_ok, require_eq_ok, Bool.and_eq_true, beq_iff_eq, pure, Except.pure,
      Except.ok.injEq] at h
    obtain ⟨-, hschema, -, ⟨⟨-, hrevision⟩, -⟩, _, hverified, hjournal⟩ := h
    exact ⟨hschema, .inl ⟨rfl, hrevision, hverified, hjournal.symm⟩⟩
  | some previous =>
    simp only [hprevious, bind_eq_ok, require_eq_ok, beq_iff_eq, pure, Except.pure] at h
    obtain ⟨-, hschema, -, hrevision, -, hproof, h⟩ := h
    refine ⟨hschema, .inr ⟨previous, rfl, hrevision, hproof, ?_⟩⟩
    split at h
    · simp only [bind_eq_ok, Except.ok.injEq] at h
      obtain ⟨-, -, hjournal⟩ := h
      exact hjournal.symm
    · simp only [bind_eq_ok, Except.ok.injEq] at h
      obtain ⟨-, -, hjournal⟩ := h
      exact hjournal.symm

/-- The log with one more row, for one version. -/
theorem filter_append_row (p : AdmissionJournalRow → Prop) [DecidablePred p] :
    (log ++ [row]).filter (fun found => p found) =
      log.filter (fun found => p found) ++ if p row then [row] else [] := by
  rw [List.filter_append]
  by_cases hp : p row <;> simp [hp]

/-- The last row of a version in a log stands in the log. -/
theorem Rebuilds.mem_log (h : Rebuilds journal log) {key : VersionKey}
    (hrow : journal.rows[key]? = some row) : row ∈ log ∧ row.proof.key = key := by
  rw [h.rows] at hrow
  have hmem := List.mem_of_getLast? hrow
  simpa using List.mem_filter.mp hmem

/-- The rows of a journal after a row was replayed. -/
theorem rows_append (h : Rebuilds journal log) (key : VersionKey) :
    (journal.rows.insert row.proof.key row)[key]? =
      ((log ++ [row]).filter fun found => found.proof.key = key).getLast? := by
  rw [filter_append_row, FiniteMap.getElem?_insert, h.rows]
  by_cases hkey : key = row.proof.key
  · rw [if_pos hkey, if_pos hkey.symm, List.getLast?_concat]
  · rw [if_neg hkey, if_neg (Ne.symm hkey), List.append_nil]

/-- Replay of a row extends the log a journal holds. -/
theorem Rebuilds.replayRow (h : Rebuilds journal log) (hrow : journal.replayRow A row = .ok journal') :
    Rebuilds journal' (log ++ [row]) := by
  obtain ⟨-, ⟨-, hrevision, -, rfl⟩ | ⟨previous, hprevious, hrevision, hproof, rfl⟩⟩ := replayRow_cases hrow
  · refine ⟨fun key => rows_append h key, ?_, ?_⟩
    · intro contentKey
      simp only [WasmAdmissionJournal.insertRow]
      rw [filter_append_row (fun found => found.journalRevision = 0 ∧ found.contentKey = contentKey),
        List.map_append, FiniteMap.getElem?_insert]
      by_cases hkey : contentKey = row.contentKey
      · rw [if_pos hkey, if_pos ⟨hrevision, hkey.symm⟩, ← h.byContent, hkey]
        rfl
      · rw [if_neg hkey, if_neg (fun hboth => hkey hboth.2.symm), ← h.byContent, List.map_nil,
          List.append_nil]
    · intro found hfound
      rcases List.mem_append.mp hfound with hold | hnew
      · exact Nat.lt_of_lt_of_le (h.sequences found hold) (raiseSequence_le _ _ _)
      · rw [List.mem_singleton.mp hnew]
        exact sequence_lt_raiseSequence _ _
  · refine ⟨fun key => rows_append h key, ?_, ?_⟩
    · intro contentKey
      have hlater : ¬(row.journalRevision = 0 ∧ row.contentKey = contentKey) := by omega
      rw [filter_append_row (fun found => found.journalRevision = 0 ∧ found.contentKey = contentKey),
        if_neg hlater, List.append_nil]
      exact h.byContent contentKey
    · intro found hfound
      rcases List.mem_append.mp hfound with hold | hnew
      · exact h.sequences found hold
      · rw [List.mem_singleton.mp hnew, hproof]
        exact h.sequences previous (h.mem_log hprevious).1

/-- The replay of a whole log. -/
def ReplayOf (A : AdmissionRules) (log : List AdmissionJournalRow) (journal : WasmAdmissionJournal) : Prop :=
  log.foldlM (fun journal row => journal.replayRow A row) WasmAdmissionJournal.new = .ok journal

theorem ReplayOf.nil : ReplayOf A [] .new := rfl

theorem ReplayOf.append (h : ReplayOf A log journal) (hrow : journal.replayRow A row = .ok journal') :
    ReplayOf A (log ++ [row]) journal' := by
  unfold ReplayOf at h ⊢
  rw [List.foldlM_append, h]
  simpa using hrow

/-- Induction over the rows of a log that was replayed. -/
theorem ReplayOf.invariant {P : List AdmissionJournalRow → WasmAdmissionJournal → Prop} (hnew : P [] .new)
    (hstep : ∀ log journal row journal', P log journal → journal.replayRow A row = .ok journal' →
      P (log ++ [row]) journal') (h : ReplayOf A log journal) : P log journal := by
  induction log using List.reverseRecOn generalizing journal with
  | nil =>
    obtain rfl := Except.ok.inj h
    exact hnew
  | append_singleton log row ih =>
    unfold ReplayOf at h
    simp only [List.foldlM_append, List.foldlM_cons, List.foldlM_nil, bind_eq_ok, bind_pure] at h
    obtain ⟨before, hbefore, hrow⟩ := h
    exact hstep log before row journal (ih hbefore) hrow

theorem rebuilds_new : Rebuilds .new [] := by
  constructor
  · intro key
    exact FiniteMap.getElem?_empty key
  · intro contentKey
    simp [WasmAdmissionJournal.new]
  · exact fun _ hrow => absurd hrow List.not_mem_nil

/-- A replayed journal holds exactly the rows of its log. -/
theorem ReplayOf.rebuilds (h : ReplayOf A log journal) : Rebuilds journal log :=
  h.invariant (P := fun log journal => Rebuilds journal log) rebuilds_new
    fun _ _ _ _ hlog hrow => hlog.replayRow hrow

/-- A row of the schema with a verified proof. -/
def VerifiedRow (A : AdmissionRules) (row : AdmissionJournalRow) : Prop :=
  row.schemaVersion = 1 ∧ verifyAdmissionProof A row.proof = .ok ()

theorem VerifiedRow.replayRow (h : Rebuilds journal log) (hlog : ∀ row ∈ log, VerifiedRow A row)
    (hrow : journal.replayRow A row = .ok journal') : VerifiedRow A row := by
  obtain ⟨hschema, ⟨-, -, hfirst, -⟩ | ⟨previous, hprevious, -, hproof, -⟩⟩ := replayRow_cases hrow
  · exact ⟨hschema, hfirst⟩
  · refine ⟨hschema, ?_⟩
    rw [hproof]
    exact (hlog previous (h.mem_log hprevious).1).2

/-- Every row of a replayed log carries a verified proof. -/
theorem ReplayOf.verified (h : ReplayOf A log journal) : ∀ row ∈ log, VerifiedRow A row := by
  have hboth : Rebuilds journal log ∧ ∀ row ∈ log, VerifiedRow A row := by
    refine h.invariant (P := fun log journal => Rebuilds journal log ∧ ∀ row ∈ log, VerifiedRow A row)
      ⟨rebuilds_new, fun _ hrow => absurd hrow List.not_mem_nil⟩ ?_
    rintro log journal row journal' ⟨hrebuilds, hverified⟩ hrow
    refine ⟨hrebuilds.replayRow hrow, fun found hfound => ?_⟩
    rcases List.mem_append.mp hfound with hold | hnew
    · exact hverified found hold
    · rw [List.mem_singleton.mp hnew]
      exact VerifiedRow.replayRow hrebuilds hverified hrow
  exact hboth.2

/-! ## Opening the file -/

/-- The lines of complete texts replay their rows. -/
theorem replayLines_texts (hJ : J.Faithful) {rows : List AdmissionJournalRow} {texts : List (List UInt8)}
    (htexts : Texts J.jcsBytes rows texts) (ends : Bool) (index : Nat) (rest : List (List UInt8))
    (hreplay : rows.foldlM (fun journal row => journal.replayRow A row) journal = .ok journal') :
    replayLines A J ends index journal (texts ++ rest) =
      replayLines A J ends (index + texts.length) journal' rest := by
  induction htexts generalizing index journal with
  | nil =>
    obtain rfl := Except.ok.inj hreplay
    rfl
  | @cons row text rows texts htext htexts ih =>
    simp only [List.foldlM_cons, bind_eq_ok] at hreplay
    obtain ⟨next, hnext, hreplay⟩ := hreplay
    have hne : text.isEmpty = false := by simpa using (hJ.oneLine row text htext).2
    have hrest := ih (index + 1) hreplay
    rw [List.cons_append, replayLines]
    simp only [hne, hJ.readBack row text htext, hnext, recodeAt, Bool.false_eq_true, if_false]
    rw [List.length_cons, show index + (texts.length + 1) = index + 1 + texts.length by omega]
    exact hrest

/-- Opening a file replays the rows it stands for. -/
theorem openJournalFile_written (hJ : J.Faithful) {file : List UInt8}
    (hfile : Written J.jcsBytes file log) (hreplay : ReplayOf A log journal) :
    openJournalFile A J (some file) = .ok journal := by
  have hline : ∀ row text, J.jcsBytes row = .ok text → newline ∉ text :=
    fun row text htext => (hJ.oneLine row text htext).1
  cases hfile with
  | @complete _ texts htexts =>
    have hsplit : (lines texts ++ []).splitOn newline = texts ++ [[]] :=
      splitOn_lines (htexts.newline_notMem hline) List.not_mem_nil
    rw [List.append_nil] at hsplit
    rw [openJournalFile, hsplit, replayLines_texts hJ htexts _ _ _ hreplay]
    rfl
  | @torn _ texts htexts row text htext n hpos hn =>
    have hnot : newline ∉ text.take n := fun hmem => hline row text htext (List.mem_of_mem_take hmem)
    have hne : text.take n ≠ [] := by
      intro hnil
      rcases List.take_eq_nil_iff.mp hnil with hzero | hempty
      · omega
      · exact (hJ.oneLine row text htext).2 hempty
    have hends : ((lines texts ++ text.take n).getLast? == some newline) = false := by
      rw [List.getLast?_append]
      cases hlast : (text.take n).getLast? with
      | none => exact absurd (List.getLast?_eq_none_iff.mp hlast) hne
      | some b =>
        have hb : b ≠ newline := fun heq => hnot (heq ▸ List.mem_of_getLast? hlast)
        simpa using hb
    obtain ⟨parseError, hparse⟩ := hJ.noPrefix row text htext n hn
    have hempty : (text.take n).isEmpty = false := by simpa using hne
    rw [openJournalFile, splitOn_lines (htexts.newline_notMem hline) hnot, hends,
      replayLines_texts hJ htexts _ _ _ hreplay, replayLines]
    simp [hempty, hparse]
  | @unended rows texts htexts row text htext =>
    have hrow := hJ.oneLine row text htext
    have hsplit := splitOn_lines (htexts.newline_notMem hline) hrow.1
    unfold ReplayOf at hreplay
    rw [openJournalFile, hsplit]
    have hall := replayLines_texts hJ (htexts.append (Texts.singleton htext))
      ((lines texts ++ text).getLast? == some newline) 0 [] hreplay
    rw [List.append_nil] at hall
    exact hall

/-! ## Calls -/

/-- The journal in memory beside the replay of its file: a creation that failed has used up a sequence
number in memory only. -/
structure Alike (memory journal : WasmAdmissionJournal) : Prop where
  rows : memory.rows = journal.rows
  byContent : memory.byContent = journal.byContent
  sequences : ∀ applicationId, journal.sequenceOf applicationId ≤ memory.sequenceOf applicationId

theorem Alike.refl (journal : WasmAdmissionJournal) : Alike journal journal :=
  ⟨rfl, rfl, fun _ => Nat.le_refl _⟩

/-- A row that the journal in memory replaces is replaced by the replay of its file. -/
theorem Alike.replaced (h : Alike memory journal) (hreplay : ReplayOf A log journal) {key : VersionKey}
    {previous : AdmissionJournalRow} (hprevious : memory.rows[key]? = some previous)
    (hschema : row.schemaVersion = previous.schemaVersion)
    (hrevision : row.journalRevision = previous.journalRevision + 1) (hproof : row.proof = previous.proof)
    (hstate : row.state = previous.state ∧ replayExtension previous row = .ok () ∨
      row.state ≠ previous.state ∧ replayTransition previous row = .ok ()) :
    ∃ journal', journal.replayRow A row = .ok journal' ∧
      Alike { memory with rows := memory.rows.insert key row } journal' := by
  have hbefore : journal.rows[key]? = some previous := by rw [← h.rows, hprevious]
  obtain ⟨hmem, hkeyed⟩ := hreplay.rebuilds.mem_log hbefore
  have hkey : row.proof.key = key := by rw [hproof, hkeyed]
  have hone : row.schemaVersion = 1 := by rw [hschema]; exact (hreplay.verified previous hmem).1
  refine ⟨{ journal with rows := journal.rows.insert key row }, ?_, ?_⟩
  · unfold WasmAdmissionJournal.replayRow
    rw [hkey, hbefore]
    rcases hstate with ⟨hsame, hextension⟩ | ⟨hmoved, htransition⟩
    · simp [hone, hrevision, hproof, hsame, hextension, require, pure, Except.pure, bind, Except.bind]
    · simp [hone, hrevision, hproof, hmoved, htransition, require, pure, Except.pure, bind, Except.bind]
  · exact ⟨by rw [h.rows], h.byContent, h.sequences⟩

/-- A transition moves to another state. -/
theorem transitionAllowed_ne {source target : AdmissionState}
    (h : source.transitionAllowed target = true) : target ≠ source := by
  rintro rfl
  cases target <;> cases h

theorem Alike.transition (h : Alike memory journal) (hreplay : ReplayOf A log journal) {key : VersionKey}
    {target : AdmissionState} {now : Nat} {memory' : WasmAdmissionJournal}
    (hcall : memory.transition key target now = .ok (memory', row)) :
    ∃ journal', journal.replayRow A row = .ok journal' ∧ Alike memory' journal' := by
  unfold WasmAdmissionJournal.transition at hcall
  cases hprevious : memory.rows[key]? with
  | none =>
    rw [hprevious] at hcall
    cases hcall
  | some previous =>
    simp only [hprevious, bind_eq_ok, require_eq_ok, pure, Except.pure] at hcall
    obtain ⟨-, hallowed, hcall⟩ := hcall
    -- A row that does not end keeps the lease it must have.
    have hresult : (memory', row) = ({ memory with rows := memory.rows.insert key (previous.moved target) },
        previous.moved target) ∧ (target.isTerminal = false → previous.leaseExpiresAt.isSome = true) := by
      cases hterminal : target.isTerminal with
      | true =>
        simp only [hterminal] at hcall
        exact ⟨(Except.ok.inj hcall).symm, fun hfalse => Bool.noConfusion hfalse⟩
      | false =>
        cases hlease : previous.leaseExpiresAt with
        | none => simp [hterminal, hlease] at hcall
        | some lease =>
          simp only [hterminal, hlease, Bool.not_false, if_true, bind_eq_ok, require_eq_ok] at hcall
          obtain ⟨_, -, _, -, heq⟩ := hcall
          exact ⟨(Except.ok.inj heq).symm, fun _ => rfl⟩
    obtain ⟨heq, hlease⟩ := hresult
    obtain ⟨rfl, rfl⟩ := Prod.mk.inj heq
    refine h.replaced hreplay hprevious rfl rfl rfl (.inr ⟨transitionAllowed_ne hallowed, ?_⟩)
    cases hterminal : target.isTerminal with
    | true =>
      simp [replayTransition, AdmissionJournalRow.moved, hallowed, hterminal, require, bind, Except.bind]
    | false =>
      have hsome := hlease hterminal
      simp [replayTransition, AdmissionJournalRow.moved, hallowed, hterminal, hsome, require, bind,
        Except.bind]

/-- Replay accepts an extension that does not shorten the lease. -/
theorem replayExtension_forward {key : VersionKey} {now ttl : Nat} {previous : AdmissionJournalRow}
    {lease : String} (hprevious : memory.rows[key]? = some previous)
    (hlease : previous.leaseExpiresAt = some lease) (hopen : (!previous.state.isTerminal) = true)
    (hforward : extendsForward memory (.extendLease key now ttl) = true) :
    replayExtension previous { previous with
      journalRevision := previous.journalRevision + 1
      leaseExpiresAt := some (formatRfc3339UtcMillis (now + ttl * 1000)) } = .ok () := by
  simp only [extendsForward, hprevious, Option.bind_some, hlease] at hforward
  cases hbefore : parseRfc3339UtcMillis lease with
  | error failure =>
    simp only [hbefore] at hforward
    cases hforward
  | ok before =>
    cases hafter : parseRfc3339UtcMillis (formatRfc3339UtcMillis (now + ttl * 1000)) with
    | error failure =>
      simp only [hbefore, hafter] at hforward
      cases hforward
    | ok extended =>
      simp only [hbefore, hafter] at hforward
      simp only [replayExtension, hlease, bind_eq_ok, require_eq_ok]
      exact ⟨(), hopen, extended, hafter, before, hbefore, hforward⟩

theorem Alike.extendLease (h : Alike memory journal) (hreplay : ReplayOf A log journal) {key : VersionKey}
    {now ttl : Nat} {memory' : WasmAdmissionJournal}
    (hforward : extendsForward memory (.extendLease key now ttl) = true)
    (hcall : memory.extendLease key now ttl = .ok (memory', row)) :
    ∃ journal', journal.replayRow A row = .ok journal' ∧ Alike memory' journal' := by
  unfold WasmAdmissionJournal.extendLease at hcall
  cases hprevious : memory.rows[key]? with
  | none =>
    rw [hprevious] at hcall
    cases hcall
  | some previous =>
    simp only [hprevious, bind_eq_ok, require_eq_ok, pure, Except.pure] at hcall
    obtain ⟨-, hopen, hcall⟩ := hcall
    cases hlease : previous.leaseExpiresAt with
    | none =>
      rw [hlease] at hcall
      cases hcall
    | some lease =>
      simp only [hlease, bind_eq_ok, require_eq_ok, leaseFromTtl, pure, Except.pure] at hcall
      obtain ⟨-, -, -, -, extended, ⟨-, -, hextended⟩, heq⟩ := hcall
      obtain rfl := Except.ok.inj hextended
      obtain ⟨rfl, rfl⟩ := Prod.mk.inj (Except.ok.inj heq)
      refine h.replaced hreplay hprevious rfl rfl rfl (.inl ⟨rfl, ?_⟩)
      exact replayExtension_forward hprevious hlease hopen hforward

/-- A joined admission was not created. -/
theorem findJoinCandidate_created {request : AdmissionRequest} {contentKey : VersionKey}
    {joined : CreateOrJoin} (h : memory.findJoinCandidate request contentKey = .ok (some joined)) :
    joined.created = false := by
  unfold WasmAdmissionJournal.findJoinCandidate at h
  simp only at h
  split at h
  · cases h
  · simp only [bind_eq_ok, require_eq_ok] at h
    obtain ⟨-, -, h⟩ := h
    split at h
    · split at h
      · cases h
      · simp only [bind_eq_ok, pure, Except.pure] at h
        obtain ⟨-, -, h⟩ := h
        obtain rfl := Option.some.inj (Except.ok.inj h)
        rfl
    · simp only [bind_eq_ok, pure, Except.pure] at h
      obtain ⟨-, -, h⟩ := h
      cases Except.ok.inj h

theorem joinOf_created {request : AdmissionRequest} {versionDigest : String} {joined : CreateOrJoin}
    (h : memory.joinOf A request = .ok (versionDigest, some joined)) : joined.created = false := by
  simp only [WasmAdmissionJournal.joinOf, bind_eq_ok, pure, Except.pure] at h
  obtain ⟨-, -, digest, -, found, hfound, heq⟩ := h
  obtain ⟨-, rfl⟩ := Prod.mk.inj (Except.ok.inj heq)
  exact findJoinCandidate_created hfound

/-- The journal with one more sequence number used up. -/
def WasmAdmissionJournal.allocated (journal : WasmAdmissionJournal) (applicationId : String) :
    WasmAdmissionJournal :=
  { journal with
    nextSequence := journal.nextSequence.insert applicationId (journal.sequenceOf applicationId + 1) }

/-- The outcomes of a creation: nothing happened, a sequence number is used up, or there is a new row. -/
theorem createOrJoin_cases (A : AdmissionRules) (memory : WasmAdmissionJournal) (request : AdmissionRequest)
    (token : Except KernelError (List UInt8)) (now : Nat) :
    (∃ result, memory.createOrJoin A request token now = (memory, result) ∧
        ∀ handle, result = .ok handle → handle.created = false) ∨
      (∃ failure, memory.createOrJoin A request token now =
        (memory.allocated request.applicationId, .error failure)) ∨
      ∃ versionDigest secret row, stagingRow A request versionDigest
          (memory.sequenceOf request.applicationId) secret now = .ok row ∧
        memory.createOrJoin A request token now =
          ((memory.allocated request.applicationId).insertRow (request.applicationId, versionDigest) row,
            .ok (row.handle row.proof.key true)) := by
  cases hjoin : memory.joinOf A request with
  | error failure =>
    refine .inl ⟨.error failure, ?_, fun _ h => nomatch h⟩
    simp only [WasmAdmissionJournal.createOrJoin, hjoin]
  | ok found =>
    obtain ⟨versionDigest, joined | joined⟩ := found
    · cases token with
      | error failure =>
        refine .inl ⟨.error failure, ?_, fun _ h => nomatch h⟩
        simp only [WasmAdmissionJournal.createOrJoin, hjoin]
      | ok secret =>
        cases hstage : stagingRow A request versionDigest (memory.sequenceOf request.applicationId) secret
            now with
        | error failure =>
          refine .inr (.inl ⟨failure, ?_⟩)
          simp only [WasmAdmissionJournal.createOrJoin, hjoin, hstage]
          rfl
        | ok row =>
          refine .inr (.inr ⟨versionDigest, secret, row, hstage, ?_⟩)
          simp only [WasmAdmissionJournal.createOrJoin, hjoin, hstage]
          rfl
    · refine .inl ⟨.ok joined, by simp only [WasmAdmissionJournal.createOrJoin, hjoin], ?_⟩
      intro handle hhandle
      obtain rfl := Except.ok.inj hhandle
      exact joinOf_created hjoin

theorem Alike.allocated (h : Alike memory journal) (applicationId : String) :
    Alike (memory.allocated applicationId) journal := by
  refine ⟨h.rows, h.byContent, fun other => ?_⟩
  have hbefore := h.sequences other
  unfold WasmAdmissionJournal.sequenceOf WasmAdmissionJournal.allocated at *
  simp only [FiniteMap.getElem?_insert]
  split
  · subst other
    exact Nat.le_succ_of_le hbefore
  · exact hbefore

/-- The row of a creation is staged with a lease under its verified proof. -/
theorem stagingRow_first {request : AdmissionRequest} {versionDigest : String} {sequence : Nat}
    {secret : List UInt8} {now : Nat} (h : stagingRow A request versionDigest sequence secret now = .ok row) :
    row.schemaVersion = 1 ∧ row.state = .staging ∧ row.journalRevision = 0 ∧
      row.leaseExpiresAt.isSome = true ∧ row.contentKey = (request.applicationId, versionDigest) ∧
      row.proof.sequence = sequence := by
  simp only [stagingRow, bind_eq_ok, pure, Except.pure] at h
  obtain ⟨_, -, lease, -, hrow⟩ := h
  obtain rfl := Except.ok.inj hrow
  exact ⟨rfl, rfl, rfl, rfl, rfl, rfl⟩

/-- The allocator of a memory beside its file gives out a sequence number of no row. -/
theorem Alike.fresh (h : Alike memory journal) (hreplay : ReplayOf A log journal)
    (hverified : verifyAdmissionProof A row.proof = .ok ())
    (hsequence : row.proof.sequence = memory.sequenceOf row.proof.applicationId) :
    journal.rows[row.proof.key]? = none := by
  by_contra hsome
  obtain ⟨other, hother⟩ := Option.ne_none_iff_exists'.mp hsome
  obtain ⟨hmem, hkey⟩ := hreplay.rebuilds.mem_log hother
  obtain ⟨-, hdigest, hversion⟩ := verifyAdmissionProof_names A hverified
  obtain ⟨-, hdigest', hversion'⟩ := verifyAdmissionProof_names A (hreplay.verified other hmem).2
  have happ : other.proof.applicationId = row.proof.applicationId := congrArg Prod.fst hkey
  have hid : other.proof.versionId = row.proof.versionId := congrArg Prod.snd hkey
  rw [hversion, hversion'] at hid
  have hsame := (composeWasmVersionId_injective hdigest' hdigest hid).2
  have hbelow := hreplay.rebuilds.sequences other hmem
  have hallocated := h.sequences other.proof.applicationId
  rw [happ] at hbelow hallocated
  omega

/-- The row of a creation is replayed as the first of its version. -/
theorem Alike.created (h : Alike memory journal) (hreplay : ReplayOf A log journal)
    {request : AdmissionRequest} {versionDigest : String} {secret : List UInt8} {now : Nat}
    (hstage : stagingRow A request versionDigest (memory.sequenceOf request.applicationId) secret now =
      .ok row) :
    ∃ journal', journal.replayRow A row = .ok journal' ∧
      Alike ((memory.allocated request.applicationId).insertRow (request.applicationId, versionDigest) row)
        journal' := by
  obtain ⟨hproof, hverified, -⟩ := stagingRow_eq_ok hstage
  obtain ⟨hschema, hstate, hrevision, hlease, hcontent, hsequence⟩ := stagingRow_first hstage
  have happ : row.proof.applicationId = request.applicationId := by rw [hproof]; rfl
  have hfresh := h.fresh hreplay hverified (by rw [hsequence, happ])
  refine ⟨{ journal.insertRow row.contentKey row with
    nextSequence := raiseSequence journal.nextSequence row }, ?_, ?_⟩
  · unfold WasmAdmissionJournal.replayRow
    rw [hfresh]
    simp [hschema, hstate, hrevision, hlease, hverified, require, pure, Except.pure, bind, Except.bind]
  · refine ⟨?_, ?_, fun other => ?_⟩
    · simp only [WasmAdmissionJournal.insertRow, WasmAdmissionJournal.allocated, h.rows]
    · simp only [WasmAdmissionJournal.insertRow, WasmAdmissionJournal.allocated, h.byContent, hcontent]
    · have hother := h.sequences other
      have hown := h.sequences row.proof.applicationId
      unfold WasmAdmissionJournal.sequenceOf at hother hown
      simp only [WasmAdmissionJournal.insertRow, WasmAdmissionJournal.sequenceOf,
        WasmAdmissionJournal.allocated, raiseSequence, ← happ] at hsequence ⊢
      by_cases hsame : other = row.proof.applicationId
      · subst hsame
        rw [FiniteMap.getElem?_insert_self, Option.getD_some]
        split
        · rw [FiniteMap.getElem?_insert_self, Option.getD_some]
          omega
        · omega
      · rw [FiniteMap.getElem?_insert_of_ne _ _ hsame]
        split
        · rw [FiniteMap.getElem?_insert_of_ne _ _ hsame]
          exact hother
        · exact hother

/-- What a call does in memory is what the replay of its row does. -/
theorem Alike.mutate (h : Alike memory journal) (hreplay : ReplayOf A log journal) (call : JournalCall)
    (hforward : ∀ row, (call.mutate A memory).2 = .ok (some row) → extendsForward memory call = true) :
    (∀ row, (call.mutate A memory).2 = .ok (some row) →
      ∃ journal', journal.replayRow A row = .ok journal' ∧ Alike (call.mutate A memory).1 journal') ∧
    ((∀ row, (call.mutate A memory).2 ≠ .ok (some row)) → Alike (call.mutate A memory).1 journal) := by
  cases call with
  | transition key target now =>
    cases hcall : memory.transition key target now with
    | error failure =>
      simp only [JournalCall.mutate, hcall]
      exact ⟨(fun _ hrow => nomatch hrow), fun _ => h⟩
    | ok result =>
      obtain ⟨memory', row⟩ := result
      simp only [JournalCall.mutate, hcall]
      refine ⟨fun found hfound => ?_, fun hnone => absurd rfl (hnone row)⟩
      obtain rfl := Option.some.inj (Except.ok.inj hfound)
      exact h.transition hreplay hcall
  | extendLease key now ttl =>
    cases hcall : memory.extendLease key now ttl with
    | error failure =>
      simp only [JournalCall.mutate, hcall]
      exact ⟨(fun _ hrow => nomatch hrow), fun _ => h⟩
    | ok result =>
      obtain ⟨memory', row⟩ := result
      simp only [JournalCall.mutate, hcall] at hforward ⊢
      refine ⟨fun found hfound => ?_, fun hnone => absurd rfl (hnone row)⟩
      obtain rfl := Option.some.inj (Except.ok.inj hfound)
      exact h.extendLease hreplay (hforward _ rfl) hcall
  | createOrJoin request token now =>
    simp only [JournalCall.mutate, WasmAdmissionJournal.fileCreateOrJoin]
    split
    · exact ⟨(fun _ hrow => nomatch hrow), fun _ => h⟩
    · refine ⟨fun row hrow => ?_, fun _ => h⟩
      cases Except.ok.inj hrow
    · rcases createOrJoin_cases A memory request token now with
        ⟨result, hcall, hjoined⟩ | ⟨failure, hcall⟩ | ⟨versionDigest, secret, row, hstage, hcall⟩
      · rw [hcall]
        cases result with
        | error failure => exact ⟨(fun _ hrow => nomatch hrow), fun _ => h⟩
        | ok handle =>
          simp only [hjoined handle rfl, Bool.false_eq_true, if_false]
          refine ⟨fun row hrow => ?_, fun _ => h⟩
          cases Except.ok.inj hrow
      · rw [hcall]
        exact ⟨(fun _ hrow => nomatch hrow), fun _ => h.allocated _⟩
      · have hrow : ((memory.allocated request.applicationId).insertRow
            (request.applicationId, versionDigest) row).rows[(row.handle row.proof.key true).key]? =
              some row :=
          FiniteMap.getElem?_insert_self _ _ _
        rw [hcall]
        simp only [show (row.handle row.proof.key true).created = true from rfl, if_true, hrow]
        refine ⟨fun found hfound => ?_, fun hnone => absurd rfl (hnone row)⟩
        obtain rfl := Option.some.inj (Except.ok.inj hfound)
        exact h.created hreplay hstage

/-! ## Runs -/

/-- The invariant of a run: the file stands for the log, whose replay the memory resembles. -/
structure JournalFileInv (A : AdmissionRules) (J : JournalRowJson) (world : JournalFileWorld) : Prop where
  written : Written J.jcsBytes (world.file.getD []) world.log
  absent : world.file = none → world.log = []
  replay : ∃ journal, ReplayOf A world.log journal ∧
    ∀ memory, world.memory = some memory → Alike memory journal

theorem journalFileInv_initial : JournalFileInv A J .initial :=
  ⟨.empty, fun _ => rfl, .new, .nil, fun _ hmemory => nomatch hmemory⟩

variable {world : JournalFileWorld}

/-- A readable file gives the replay of its log. -/
theorem JournalFileInv.reopened (h : JournalFileInv A J world) (hJ : J.Faithful) {readable : Bool}
    (hread : world.file.isSome = true → readable = true) :
    ∃ journal, ReplayOf A world.log journal ∧ world.reopened A J readable = .ok journal := by
  obtain ⟨journal, hreplay, -⟩ := h.replay
  refine ⟨journal, hreplay, ?_⟩
  unfold JournalFileWorld.reopened
  cases hfile : world.file with
  | none =>
    have hnew : journal = .new := by
      rw [h.absent hfile] at hreplay
      exact (Except.ok.inj hreplay).symm
    rw [hnew, ite_self]
    rfl
  | some file =>
    rw [if_pos (hread (by rw [hfile]; rfl))]
    have hwritten := h.written
    rw [hfile] at hwritten
    exact openJournalFile_written hJ hwritten hreplay

/-- An append to a terminated file keeps the invariant, whole or cut. -/
theorem JournalFileInv.append (h : JournalFileInv A J world) (hJ : J.Faithful)
    (hend : terminated (world.file.getD []) = true) {log' : List AdmissionJournalRow}
    (hlog : log' = world.log ++ [row]) (hreplay : ReplayOf A log' journal') (halike : Alike memory journal')
    (cut : Option Nat) : JournalFileInv A J (world.append J memory row cut) := by
  subst hlog
  obtain ⟨journal, hbefore, -⟩ := h.replay
  obtain ⟨texts, htexts, hfile⟩ := h.written.texts hJ.oneLine hend
  unfold JournalFileWorld.append
  cases htext : J.jcsBytes row with
  | error failure => exact ⟨h.written, h.absent, journal, hbefore, fun _ hmemory => nomatch hmemory⟩
  | ok text =>
    cases cut with
    | none =>
      refine ⟨?_, (fun habsent => nomatch habsent), journal', hreplay, ?_⟩
      · simp only [Option.getD_some, hfile]
        exact .append htexts htext
      · intro found hfound
        rw [← Option.some.inj hfound]
        exact halike
    | some n =>
      refine ⟨?_, (fun habsent => nomatch habsent), ?_⟩
      · simp only [Option.getD_some, hfile]
        exact .cut htexts htext n
      · by_cases hwhole : text.length ≤ n
        · simp only [if_pos hwhole]
          exact ⟨journal', hreplay, fun _ hmemory => nomatch hmemory⟩
        · simp only [if_neg hwhole]
          exact ⟨journal, hbefore, fun _ hmemory => nomatch hmemory⟩

/-- Only an existing file that cannot be read makes an opening unsound. -/
theorem readable_of_sound {readable : Bool} (h : world.sound A (.reopen readable) = true)
    (hfile : world.file.isSome = true) : readable = true := by
  cases readable with
  | true => rfl
  | false =>
    simp only [JournalFileWorld.sound, Bool.or_false] at h
    rw [Option.isNone_iff_eq_none.mp h] at hfile
    cases hfile

/-- A sound call appends to complete lines. -/
theorem sound_call {call : JournalCall} {cut : Option Nat} (h : world.sound A (.call call cut) = true)
    (hmemory : world.memory = some memory) (hrow : (call.mutate A memory).2 = .ok (some row)) :
    terminated (world.file.getD []) = true ∧ extendsForward memory call = true := by
  simpa [JournalFileWorld.sound, hmemory, hrow] using h

/-- A sound step keeps the invariant. -/
theorem JournalFileInv.step (h : JournalFileInv A J world) (hJ : J.Faithful) {op : JournalFileOp}
    (hsound : world.sound A op = true) : JournalFileInv A J (world.step A J op) := by
  cases op with
  | reopen readable =>
    obtain ⟨journal, hreplay, hopen⟩ := h.reopened hJ (readable_of_sound hsound)
    refine ⟨h.written, h.absent, journal, hreplay, fun memory hmemory => ?_⟩
    change (world.reopened A J readable).toOption = some memory at hmemory
    rw [hopen] at hmemory
    rw [← Option.some.inj hmemory]
    exact .refl journal
  | crash =>
    obtain ⟨journal, hreplay, -⟩ := h.replay
    exact ⟨h.written, h.absent, journal, hreplay, fun _ hmemory => nomatch hmemory⟩
  | call call cut =>
    obtain ⟨journal, hreplay, halike⟩ := h.replay
    cases hmemory : world.memory with
    | none =>
      simp only [JournalFileWorld.step, hmemory]
      exact h
    | some memory =>
      have hcall := (halike memory hmemory).mutate hreplay call
        fun row hrow => (sound_call hsound hmemory hrow).2
      have hold (memory' : WasmAdmissionJournal) (h' : Alike memory' journal) :
          JournalFileInv A J { world with memory := some memory' } := by
        refine ⟨h.written, h.absent, journal, hreplay, fun found hfound => ?_⟩
        rw [← Option.some.inj hfound]
        exact h'
      rcases hresult : call.mutate A memory with ⟨memory', failure | found⟩
      · simp only [JournalFileWorld.step, hmemory, hresult]
        rw [hresult] at hcall
        exact hold memory' (hcall.2 fun _ hrow => nomatch hrow)
      · cases found with
        | none =>
          simp only [JournalFileWorld.step, hmemory, hresult]
          rw [hresult] at hcall
          exact hold memory' (hcall.2 fun row hrow => by cases Except.ok.inj hrow)
        | some row =>
          have hsoundRow := sound_call hsound hmemory (by rw [hresult])
          simp only [JournalFileWorld.step, hmemory, hresult]
          rw [hresult] at hcall
          obtain ⟨journal', hrow, halike'⟩ := hcall.1 row rfl
          exact h.append hJ hsoundRow.1 rfl (hreplay.append hrow) halike' cut

/-! ## The rows of the vector -/

theorem stagedText_not_leading : Vectors.stagedText.isPrefixOf Vectors.validatedText = false := by
  decide +kernel

theorem validatedText_not_leading : Vectors.validatedText.isPrefixOf Vectors.stagedText = false := by
  decide +kernel

/-- No proper prefix of one of the two texts is one of them. -/
theorem rowTable_prefix {text : List UInt8}
    (htext : text = Vectors.stagedText ∨ text = Vectors.validatedText) {n : Nat} (hn : n < text.length) :
    ∃ parseError, Vectors.rowTable.fromStr (text.take n) = .error parseError := by
  have hshort {other : List UInt8} (heq : text.take n = other) :
      other.isPrefixOf text = true ∧ other ≠ text := by
    refine ⟨List.isPrefixOf_iff_prefix.mpr (heq ▸ List.take_prefix n text), ?_⟩
    rintro rfl
    have hlength := congrArg List.length heq
    rw [List.length_take] at hlength
    omega
  have hstaged : text.take n ≠ Vectors.stagedText := by
    intro heq
    obtain ⟨hpre, hne⟩ := hshort heq
    rcases htext with rfl | rfl
    · exact hne rfl
    · rw [stagedText_not_leading] at hpre
      cases hpre
  have hvalidated : text.take n ≠ Vectors.validatedText := by
    intro heq
    obtain ⟨hpre, hne⟩ := hshort heq
    rcases htext with rfl | rfl
    · rw [validatedText_not_leading] at hpre
      cases hpre
    · exact hne rfl
  refine ⟨"EOF while parsing an object", ?_⟩
  simp only [Vectors.rowTable, if_neg hstaged, if_neg hvalidated]

/-- The texts of the table. -/
theorem rowTable_jcsBytes {row : AdmissionJournalRow} {text : List UInt8}
    (h : Vectors.rowTable.jcsBytes row = .ok text) :
    (row = Vectors.stagedRow ∧ text = Vectors.stagedText) ∨
      (row = Vectors.validatedRow ∧ text = Vectors.validatedText) := by
  simp only [Vectors.rowTable] at h
  split at h
  · exact .inl ⟨‹_›, (Except.ok.inj h).symm⟩
  · split at h
    · exact .inr ⟨‹_›, (Except.ok.inj h).symm⟩
    · cases h

theorem rowTable_faithful : Vectors.rowTable.Faithful := by
  refine ⟨?_, ?_, ?_⟩
  · intro row text htext
    rcases rowTable_jcsBytes htext with ⟨rfl, rfl⟩ | ⟨rfl, rfl⟩
    · simp [Vectors.rowTable]
    · have hne : Vectors.validatedText ≠ Vectors.stagedText := by decide +kernel
      simp [Vectors.rowTable, hne]
  · intro row text htext
    rcases rowTable_jcsBytes htext with ⟨-, rfl⟩ | ⟨-, rfl⟩
    · decide +kernel
    · decide +kernel
  · intro row text htext n hn
    refine rowTable_prefix ?_ hn
    rcases rowTable_jcsBytes htext with ⟨-, rfl⟩ | ⟨-, rfl⟩
    · exact .inl rfl
    · exact .inr rfl

/-! ## The result -/

/-- The admission journal file survives crashes. In every run of sound steps, the next opening of the
file gives exactly the journal of the rows appended so far. -/
theorem journal_file_survives (hJ : J.Faithful) (ops : List JournalFileOp) (readable : Bool)
    (h : Along (JournalFileWorld.step A J) (fun world op => world.sound A op = true) .initial
      (ops ++ [.reopen readable])) :
    ReopensWell A J (run (JournalFileWorld.step A J) .initial ops) readable := by
  obtain ⟨hops, hread, -⟩ := along_append.mp h
  have hinv := Along.invariant (P := JournalFileInv A J)
    (fun _ _ hsound hworld => hworld.step hJ hsound) hops journalFileInv_initial
  obtain ⟨journal, hreplay, hopen⟩ := hinv.reopened hJ (readable_of_sound hread)
  refine ⟨fun hfile hunread => ?_, fun _ => ⟨journal, hopen, hreplay.rebuilds⟩⟩
  have hreadable := readable_of_sound hread hfile
  rw [hunread] at hreadable
  cases hreadable

/-- The vector is admitted over two crashes: one before the first byte of the second row, one after the
last. -/
theorem journal_file_survives_crashes :
    let ops : List JournalFileOp :=
      [.reopen true,
        .call (.createOrJoin Vectors.admissionRequest (.ok Vectors.commitToken) Vectors.admissionTime) none,
        .call (.transition (Vectors.admissionKey 1) .validated Vectors.admissionTime) (some 0),
        .reopen true,
        .call (.transition (Vectors.admissionKey 1) .validated Vectors.admissionTime) (some 2000)]
    (run (JournalFileWorld.step Vectors.admissionRules Vectors.rowTable) .initial ops).log =
        [Vectors.stagedRow, Vectors.validatedRow] ∧
      ReopensWell Vectors.admissionRules Vectors.rowTable
        (run (JournalFileWorld.step Vectors.admissionRules Vectors.rowTable) .initial ops) true := by
  intro ops
  have hlog : (run (JournalFileWorld.step Vectors.admissionRules Vectors.rowTable) .initial ops).log =
      [Vectors.stagedRow, Vectors.validatedRow] := by decide +kernel
  have hsound : Along (JournalFileWorld.step Vectors.admissionRules Vectors.rowTable)
      (fun world op => world.sound Vectors.admissionRules op = true) .initial (ops ++ [.reopen true]) := by
    decide +kernel
  exact ⟨hlog, journal_file_survives rowTable_faithful ops true hsound⟩

/-- A file that cannot be read is opened as an empty journal. -/
theorem reopened_unreadable (world : JournalFileWorld) : world.reopened A J false = .ok .new := rfl

/-- A crash cuts the second row after twenty bytes, the next start skips it, and the row is appended
again after the cut: no later start opens the file. A file that cannot be read is an empty journal. -/
theorem cut_line_stops_journal_file :
    let created : List JournalFileOp :=
      [.reopen true,
        .call (.createOrJoin Vectors.admissionRequest (.ok Vectors.commitToken) Vectors.admissionTime) none]
    let validate (cut : Option Nat) : JournalFileOp :=
      .call (.transition (Vectors.admissionKey 1) .validated Vectors.admissionTime) cut
    ¬ReopensWell Vectors.admissionRules Vectors.rowTable
        (run (JournalFileWorld.step Vectors.admissionRules Vectors.rowTable) .initial
          (created ++ [validate (some 20), .reopen true, validate none])) true ∧
      ¬ReopensWell Vectors.admissionRules Vectors.rowTable
        (run (JournalFileWorld.step Vectors.admissionRules Vectors.rowTable) .initial created) false := by
  intro created validate
  have hcorrupt : ((run (JournalFileWorld.step Vectors.admissionRules Vectors.rowTable) .initial
      (created ++ [validate (some 20), .reopen true, validate none])).reopened Vectors.admissionRules
        Vectors.rowTable true).isOk = false := by decide +kernel
  have hfile : (run (JournalFileWorld.step Vectors.admissionRules Vectors.rowTable) .initial
      created).file.isSome = true := by decide +kernel
  constructor
  · intro hwell
    obtain ⟨journal, hopen, -⟩ := hwell.rebuilds fun _ => rfl
    rw [hopen] at hcorrupt
    cases hcorrupt
  · intro hwell
    obtain ⟨failure, hopen⟩ := hwell.unreadable hfile rfl
    rw [reopened_unreadable] at hopen
    cases hopen

end Iweb
