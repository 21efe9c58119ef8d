import Iweb.Admission.Validation
import Iweb.Foundations.FiniteMap
import Std.Data.ExtTreeMap

/-!
# The admission journal

One row per admitted version with its proof, its state and the lease of a running admission. A row moves
forward through the states of one admission; `Visible`, `Failed` and `Collected` end it. The journal
hands out sequence numbers from an explicit allocator, which a restart rebuilds from the rows.
-/

namespace Iweb

open Std (ExtTreeMap)

/-! ## Codes -/

def wasmAdmissionJournalInvalid : String := "WASM_ADMISSION_JOURNAL_INVALID"
def wasmAdmissionStateInvalid : String := "WASM_ADMISSION_STATE_INVALID"
def wasmAdmissionLeaseExpired : String := "WASM_ADMISSION_LEASE_EXPIRED"
def wasmAdmissionProofMismatch : String := "WASM_ADMISSION_PROOF_MISMATCH"
def wasmAdmissionInFlight : String := "WASM_ADMISSION_IN_FLIGHT"
def wasmAdmissionTokenUnavailable : String := "WASM_ADMISSION_TOKEN_UNAVAILABLE"

/-! ## States and rows -/

inductive AdmissionState
  | staging
  | validated
  | objectComplete
  | dbHidden
  | materializerAcknowledged
  | visible
  | failed
  | collected
deriving DecidableEq

/-- The name in error texts. -/
def AdmissionState.debugName : AdmissionState → String
  | .staging => "Staging"
  | .validated => "Validated"
  | .objectComplete => "ObjectComplete"
  | .dbHidden => "DbHidden"
  | .materializerAcknowledged => "MaterializerAcknowledged"
  | .visible => "Visible"
  | .failed => "Failed"
  | .collected => "Collected"

def AdmissionState.isTerminal : AdmissionState → Bool
  | .visible | .failed | .collected => true
  | _ => false

def AdmissionState.transitionAllowed : AdmissionState → AdmissionState → Bool
  | .staging, .validated => true
  | .validated, .objectComplete => true
  | .objectComplete, .dbHidden => true
  | .dbHidden, .materializerAcknowledged => true
  | .materializerAcknowledged, .visible => true
  | .staging, .failed | .validated, .failed | .objectComplete, .failed | .dbHidden, .failed
  | .materializerAcknowledged, .failed => true
  | .failed, .collected => true
  | _, _ => false

/-- `(applicationId, versionId)`: the identity of a version. -/
abbrev VersionKey := String × String

instance : Ord VersionKey := lexOrd

structure AdmissionJournalRow where
  schemaVersion : Nat
  proof : AdmissionProofV1
  state : AdmissionState
  journalRevision : Nat
  /-- Absent on a row that ended. -/
  leaseExpiresAt : Option String
deriving DecidableEq

def AdmissionProofV1.key (proof : AdmissionProofV1) : VersionKey := (proof.applicationId, proof.versionId)

/-- What an owner asks to have admitted. -/
structure AdmissionRequest where
  applicationId : String
  packageDigest : String
  normalizedPolicy : NormalizedWasmManifestV1
  runtimeBinding : RuntimeBindingIdentityV1
  capabilityRecordRevision : Nat
  capabilityRecordHash : String
  hostServicePolicy : Option HostServicePolicyV2
  stagingTtlSeconds : Nat
  /-- The staged blobs: content address and bytes. -/
  blobs : List (String × List UInt8)
  /-- Admit the same content once more under a higher sequence. -/
  allowResequence : Bool

structure WasmAdmissionJournal where
  rows : ExtTreeMap VersionKey AdmissionJournalRow
  /-- `(applicationId, versionDigest)` to its version ids in the order of creation. -/
  byContent : ExtTreeMap VersionKey (List String)
  nextSequence : ExtTreeMap String Nat

def WasmAdmissionJournal.new : WasmAdmissionJournal := ⟨∅, ∅, ∅⟩

structure CreateOrJoin where
  proof : AdmissionProofV1
  key : VersionKey
  created : Bool
  state : AdmissionState
  journalRevision : Nat

/-- The handle of a row. -/
def AdmissionJournalRow.handle (row : AdmissionJournalRow) (key : VersionKey) (created : Bool) :
    CreateOrJoin :=
  ⟨row.proof, key, created, row.state, row.journalRevision⟩

/-- Whether the lease of a row has run out; a row that ended has none. -/
def leaseExpired (row : AdmissionJournalRow) (nowEpochMillis : Nat) : Except KernelError Bool :=
  match row.leaseExpiresAt with
  | none => .ok false
  | some lease => do return (← parseRfc3339UtcMillis lease) ≤ nowEpochMillis

/-- A lease for the given number of seconds. -/
def leaseFromTtl (nowEpochMillis ttlSeconds : Nat) : Except KernelError String := do
  require (ttlSeconds != 0 && ttlSeconds ≤ 3600) wasmAdmissionProofInvalid
    "stagingTtlSeconds must be within 1..=3600 (proof-pinned admission bound)"
  return formatRfc3339UtcMillis (nowEpochMillis + ttlSeconds * 1000)

/-! ## Transitions -/

/-- The row after a transition: the revision grows by one, and a row that ends gives up its lease. -/
def AdmissionJournalRow.moved (row : AdmissionJournalRow) (target : AdmissionState) : AdmissionJournalRow :=
  { row with
    journalRevision := row.journalRevision + 1
    state := target
    leaseExpiresAt := if target.isTerminal then none else row.leaseExpiresAt }

/-- `WasmAdmissionJournal::transition` -/
def WasmAdmissionJournal.transition (journal : WasmAdmissionJournal) (key : VersionKey)
    (target : AdmissionState) (nowEpochMillis : Nat) :
    Except KernelError (WasmAdmissionJournal × AdmissionJournalRow) :=
  match journal.rows[key]? with
  | none => .error ⟨wasmAdmissionJournalInvalid, "unknown journal row"⟩
  | some previous => do
    require (previous.state.transitionAllowed target) wasmAdmissionStateInvalid
      ("illegal transition " ++ previous.state.debugName ++ " -> " ++ target.debugName)
    if !target.isTerminal then
      match previous.leaseExpiresAt with
      | none => .error ⟨wasmAdmissionJournalInvalid, "nonterminal row must carry a lease"⟩
      | some lease =>
        require (!((← parseRfc3339UtcMillis lease) ≤ nowEpochMillis)) wasmAdmissionLeaseExpired
          "an expired nonterminal row may only transition to failed"
    let next := previous.moved target
    return ({ journal with rows := journal.rows.insert key next }, next)

/-- `WasmAdmissionJournal::extend_lease` -/
def WasmAdmissionJournal.extendLease (journal : WasmAdmissionJournal) (key : VersionKey)
    (nowEpochMillis ttlSeconds : Nat) : Except KernelError (WasmAdmissionJournal × AdmissionJournalRow) :=
  match journal.rows[key]? with
  | none => .error ⟨wasmAdmissionJournalInvalid, "unknown journal row"⟩
  | some previous => do
    require (!previous.state.isTerminal) wasmAdmissionStateInvalid "a terminal row cannot extend its lease"
    match previous.leaseExpiresAt with
    | none => .error ⟨wasmAdmissionJournalInvalid, "nonterminal row must carry a lease"⟩
    | some lease =>
      require (!((← parseRfc3339UtcMillis lease) ≤ nowEpochMillis)) wasmAdmissionLeaseExpired
        "lease extension requires the current lease to be unexpired"
      let extended ← leaseFromTtl nowEpochMillis ttlSeconds
      let next := { previous with
        journalRevision := previous.journalRevision + 1
        leaseExpiresAt := some extended }
      return ({ journal with rows := journal.rows.insert key next }, next)

/-! ## Create or join -/

variable (A : AdmissionRules)

/-- A retry must agree with the persisted proof on everything its caller can derive. -/
def joinMatches (request : AdmissionRequest) (proof : AdmissionProofV1) : Bool :=
  proof.packageDigest == request.packageDigest && proof.runtimeBinding == request.runtimeBinding &&
    proof.capabilityRecordRevision == request.capabilityRecordRevision &&
    proof.capabilityRecordHash == request.capabilityRecordHash &&
    proof.hostServicePolicy == request.hostServicePolicy &&
    proof.normalizedPolicy == request.normalizedPolicy

/-- The admissions of the same content that have not ended. -/
def WasmAdmissionJournal.nonterminal (journal : WasmAdmissionJournal) (applicationId : String)
    (candidates : List String) : List String :=
  candidates.filter fun versionId =>
    (journal.rows[((applicationId, versionId) : VersionKey)]?).any fun row => !row.state.isTerminal

/-- `find_join_candidate`: the admission a request joins, if it must not create one. -/
def WasmAdmissionJournal.findJoinCandidate (journal : WasmAdmissionJournal) (request : AdmissionRequest)
    (contentKey : VersionKey) : Except KernelError (Option CreateOrJoin) :=
  let candidates := (journal.byContent[contentKey]?).getD []
  match candidates.getLast? with
  | none => .ok none
  | some last => do
    let nonterminal := journal.nonterminal request.applicationId candidates
    require (nonterminal.length ≤ 1) wasmAdmissionInFlight
      "multiple nonterminal admissions exist for the same content identity; fail closed"
    if !request.allowResequence then
      let key : VersionKey := (request.applicationId, nonterminal.head?.getD last)
      match journal.rows[key]? with
      | none => .error ⟨wasmAdmissionJournalInvalid, "content index points at a missing journal row"⟩
      | some row =>
        require (joinMatches request row.proof) wasmAdmissionProofMismatch
          "a retry must join the exact persisted proof; binding/capacity/policy divergence is rejected"
        return some (row.handle key false)
    else do
      require nonterminal.isEmpty wasmAdmissionInFlight
        "re-sequencing requires the previous admission of the same digest to reach a terminal state"
      return none

/-- The checks of a request before it may create a row. -/
def validateAdmissionRequest (request : AdmissionRequest) : Except KernelError Unit := do
  validateApplicationId request.applicationId
  validateSha256Hex request.packageDigest "packageDigest"
  validateNormalizedManifest request.normalizedPolicy
  require (request.normalizedPolicy.name == request.applicationId) wasmApplicationIdMismatch
    "normalizedPolicy.name must exactly equal applicationId"
  validateRuntimeBinding request.runtimeBinding
  requireAdmissionU53 request.capabilityRecordRevision 1 wasmU53Max "capabilityRecordRevision"
  validateSha256Hex request.capabilityRecordHash "capabilityRecordHash"
  checkPolicyBinding A request.hostServicePolicy request.normalizedPolicy

/-- The proof of a new admission. -/
def newProof (request : AdmissionRequest) (versionDigest : String) (sequence : Nat) (token : List UInt8)
    (nowEpochMillis : Nat) : AdmissionProofV1 where
  schemaVersion := 1
  applicationId := request.applicationId
  packageDigest := request.packageDigest
  versionDigest := versionDigest
  sequence := sequence
  versionId := composeWasmVersionId versionDigest sequence
  normalizedPolicy := request.normalizedPolicy
  lifecycleAdmissionRecord :=
    { schemaVersion := 1
      state := "admitted"
      admittedAt := formatRfc3339UtcMillis nowEpochMillis
      admissionJournalRevision := 0 }
  runtimeBinding := request.runtimeBinding
  capabilityRecordRevision := request.capabilityRecordRevision
  capabilityRecordHash := request.capabilityRecordHash
  commitTokenHash := A.commitTokenHash token
  hostServicePolicy := request.hostServicePolicy

/-- The allocator's next sequence number of an application. -/
def WasmAdmissionJournal.sequenceOf (journal : WasmAdmissionJournal) (applicationId : String) : Nat :=
  (journal.nextSequence[applicationId]?).getD 1

/-- Insert the first row of an admission. -/
def WasmAdmissionJournal.insertRow (journal : WasmAdmissionJournal) (contentKey : VersionKey)
    (row : AdmissionJournalRow) : WasmAdmissionJournal :=
  { journal with
    rows := journal.rows.insert row.proof.key row
    byContent := journal.byContent.insert contentKey
      ((journal.byContent[contentKey]?).getD [] ++ [row.proof.versionId]) }

/-- The first row of an admission, with the proof it fixes. -/
def stagingRow (request : AdmissionRequest) (versionDigest : String) (sequence : Nat)
    (token : List UInt8) (nowEpochMillis : Nat) : Except KernelError AdmissionJournalRow := do
  let proof := newProof A request versionDigest sequence token nowEpochMillis
  verifyAdmissionProof A proof
  return {
    schemaVersion := 1
    state := .staging
    journalRevision := 0
    leaseExpiresAt := some (← leaseFromTtl nowEpochMillis request.stagingTtlSeconds)
    proof := proof }

/-- The content identity of a request and the admission it joins. -/
def WasmAdmissionJournal.joinOf (journal : WasmAdmissionJournal) (request : AdmissionRequest) :
    Except KernelError (String × Option CreateOrJoin) := do
  validateAdmissionRequest A request
  let versionDigest ← admissionVersionDigest A request.packageDigest request.normalizedPolicy
    request.hostServicePolicy
  return (versionDigest, ← journal.findJoinCandidate request (request.applicationId, versionDigest))

/-- `WasmAdmissionJournal::create_or_join`; a creation that fails after the allocation has used up a
sequence number. -/
def WasmAdmissionJournal.createOrJoin (journal : WasmAdmissionJournal) (request : AdmissionRequest)
    (token : Except KernelError (List UInt8)) (nowEpochMillis : Nat) :
    WasmAdmissionJournal × Except KernelError CreateOrJoin :=
  match journal.joinOf A request with
  | .error failure => (journal, .error failure)
  | .ok (_, some joined) => (journal, .ok joined)
  | .ok (versionDigest, none) =>
    match token with
    | .error failure => (journal, .error failure)
    | .ok token =>
      let sequence := journal.sequenceOf request.applicationId
      let allocated := { journal with
        nextSequence := journal.nextSequence.insert request.applicationId (sequence + 1) }
      match stagingRow A request versionDigest sequence token nowEpochMillis with
      | .error failure => (allocated, .error failure)
      | .ok row =>
        (allocated.insertRow (request.applicationId, versionDigest) row,
          .ok (row.handle row.proof.key true))

/-! ## Restart -/

/-- Replay of one row raises the allocator above its sequence number. -/
def raiseSequence (next : ExtTreeMap String Nat) (row : AdmissionJournalRow) : ExtTreeMap String Nat :=
  let current := (next[row.proof.applicationId]?).getD 1
  if current ≤ row.proof.sequence then next.insert row.proof.applicationId (row.proof.sequence + 1)
  else next

/-- The journal a restart replays from its file: the same rows and content index, and an allocator
rebuilt from the rows. -/
def WasmAdmissionJournal.replayed (journal : WasmAdmissionJournal) : WasmAdmissionJournal :=
  { journal with nextSequence := (journal.rows.toList.map Prod.snd).foldl raiseSequence ∅ }

end Iweb
