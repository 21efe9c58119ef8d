import Iweb.Admission.JournalFile

/-!
# Histories of the admission journal in memory

A history of calls on `WasmAdmissionJournal`, with the rows it emitted, the sequence numbers it allocated and
the handles it answered. A call that is refused emits no row; a creation that fails after the allocation has
used up a sequence number.
-/

namespace Iweb

variable (A : AdmissionRules)

structure JournalHistory where
  journal : WasmAdmissionJournal
  emitted : List AdmissionJournalRow
  /-- `(applicationId, sequence)` in the order of allocation. -/
  allocated : List (String × Nat)
  answered : List (AdmissionRequest × CreateOrJoin)

namespace JournalHistory

def initial : JournalHistory := ⟨.new, [], [], []⟩

/-- The row that a creation emits. -/
def createdRow (journal : WasmAdmissionJournal) : Except KernelError CreateOrJoin → List AdmissionJournalRow
  | .ok handle => if handle.created then (journal.rows[handle.key]?).toList else []
  | .error _ => []

/-- The record of a `create_or_join`. -/
def answer (history : JournalHistory) (request : AdmissionRequest) (journal : WasmAdmissionJournal)
    (result : Except KernelError CreateOrJoin) : JournalHistory where
  journal := journal
  emitted := history.emitted ++ createdRow journal result
  allocated :=
    if journal.sequenceOf request.applicationId = history.journal.sequenceOf request.applicationId then
      history.allocated
    else history.allocated ++ [(request.applicationId, history.journal.sequenceOf request.applicationId)]
  answered :=
    match result with
    | .ok handle => history.answered ++ [(request, handle)]
    | .error _ => history.answered

/-- The record of a call that moves one row. -/
def move (history : JournalHistory) :
    Except KernelError (WasmAdmissionJournal × AdmissionJournalRow) → JournalHistory
  | .ok (journal, row) => { history with journal, emitted := history.emitted ++ [row] }
  | .error _ => history

def step (history : JournalHistory) : JournalCall → JournalHistory
  | .createOrJoin request token nowEpochMillis =>
    let (journal, result) := history.journal.createOrJoin A request token nowEpochMillis
    history.answer request journal result
  | .transition key target nowEpochMillis => history.move (history.journal.transition key target nowEpochMillis)
  | .extendLease key nowEpochMillis ttlSeconds =>
    history.move (history.journal.extendLease key nowEpochMillis ttlSeconds)

/-- A lease extension that succeeds does not shorten the lease. -/
def keepsLease (history : JournalHistory) : JournalCall → Bool
  | .extendLease key nowEpochMillis ttlSeconds =>
    match history.journal.extendLease key nowEpochMillis ttlSeconds with
    | .ok _ => extendsForward history.journal (.extendLease key nowEpochMillis ttlSeconds)
    | .error _ => true
  | _ => true

end JournalHistory

/-! ## What a history should leave -/

/-- The replay of the emitted rows from the empty journal gives the same rows and the same content index, and
an allocator above every sequence number that a call answered. -/
def JournalHistory.Replays (history : JournalHistory) : Prop :=
  ∃ replayed, history.emitted.foldlM (fun journal row => journal.replayRow A row) WasmAdmissionJournal.new =
      .ok replayed ∧
    replayed.rows = history.journal.rows ∧ replayed.byContent = history.journal.byContent ∧
    ∀ answer ∈ history.answered, answer.2.proof.sequence < replayed.sequenceOf answer.2.proof.applicationId

/-- A retry of a request joins the admission that answered it, as long as its row has not ended, and gets its
proof and token back. -/
def JournalHistory.Joins (history : JournalHistory) (request : AdmissionRequest) (handle : CreateOrJoin) : Prop :=
  ∀ row, history.journal.rows[handle.key]? = some row → row.state.isTerminal = false →
    row.proof = handle.proof ∧ ∀ token now,
      history.journal.createOrJoin A request token now = (history.journal, .ok (row.handle handle.key false))

structure JournalHistory.Sequenced (history : JournalHistory) : Prop where
  /-- The sequence numbers of an application increase in the order of their allocation. -/
  increasing : ∀ applicationId,
    ((history.allocated.filter fun entry => entry.1 = applicationId).map Prod.snd).Pairwise (· < ·)
  /-- At most one admission of a content has not ended. -/
  single : ∀ (key key' : VersionKey) (row row' : AdmissionJournalRow), history.journal.rows[key]? = some row →
    history.journal.rows[key']? = some row' → row.state.isTerminal = false → row'.state.isTerminal = false →
    row.contentKey = row'.contentKey → key = key'
  /-- A retry of a request that does not ask for a higher sequence joins. -/
  joins : ∀ answer ∈ history.answered, answer.1.allowResequence = false → history.Joins A answer.1 answer.2
  /-- A visible content gets another sequence number only on demand. -/
  resequenced : ∀ (request : AdmissionRequest) (token : Except KernelError (List UInt8)) (now : Nat)
    (versionDigest : String) (key : VersionKey) (row : AdmissionJournalRow),
    admissionVersionDigest A request.packageDigest request.normalizedPolicy request.hostServicePolicy =
      .ok versionDigest →
    history.journal.rows[key]? = some row → row.contentKey = (request.applicationId, versionDigest) →
    row.state = .visible →
    (history.journal.createOrJoin A request token now).1.sequenceOf request.applicationId ≠
      history.journal.sequenceOf request.applicationId →
    request.allowResequence = true

end Iweb
