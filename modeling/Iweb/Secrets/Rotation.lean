import Iweb.Activation.Cas
import Iweb.Foundations.CrashRefinement
import Iweb.Foundations.FiniteMap
import Iweb.Kernel.Identity

/-!
# Secret rotation

A rotation commits a new revision of an application's secrets together with an outbox row, persists the
supervisor's invalidation command, delivers it to the supervisor's journal and projects the acknowledgement.
It can crash between any two of these; `recover_rotation` takes the state on from there.
-/

namespace Iweb

open Std CrashRefinement

/-- A rotation fails with a stable code and a detail text. -/
abbrev SecretRotationError := KernelError

def secretRevisionConflict : String := "SECRET_REVISION_CONFLICT"
def secretRevisionExhausted : String := "SECRET_REVISION_EXHAUSTED"
def wasmSecretRevisionInvalid : String := "WASM_SECRET_REVISION_INVALID"
def wasmSecretApplicationInvalid : String := "WASM_SECRET_APPLICATION_INVALID"
def wasmSecretKeyInvalid : String := "WASM_SECRET_KEY_INVALID"
def wasmSecretAllowlistInvalid : String := "WASM_SECRET_ALLOWLIST_INVALID"
def wasmSecretIdentityFenceInvalid : String := "WASM_SECRET_IDENTITY_FENCE_INVALID"
def wasmSecretRotationLockOrderInvalid : String := "WASM_SECRET_ROTATION_LOCK_ORDER_INVALID"
def wasmSecretOutboxInvalid : String := "WASM_SECRET_OUTBOX_INVALID"
def wasmSecretOutboxBacklog : String := "WASM_SECRET_OUTBOX_BACKLOG"
def wasmSecretJournalInvalid : String := "WASM_SECRET_JOURNAL_INVALID"
def secretRotationSnapshotRefInvalid : String := "WASM_SECRET_SNAPSHOT_REF_INVALID"
def wasmSecretSimulatedCrash : String := "WASM_SECRET_SIMULATED_CRASH"

def wasmSecretMaxKeys : Nat := 256
def wasmSecretMaxValueBytes : Nat := 65536

def simulatedCrash (point : String) : SecretRotationError :=
  ⟨wasmSecretSimulatedCrash, "simulated crash at " ++ point⟩

/-! ## Grammar -/

/-- `^[a-z][a-z0-9._-]{0,127}$` -/
def isSecretKey (key : String) : Bool :=
  match bytes key with
  | [] => false
  | b :: rest => isLowerAlpha b && rest.length ≤ 127 &&
      rest.all fun b => isLabelChar b || b == ascii '.' || b == ascii '_'

def validateSecretApplicationId (value : String) : Except SecretRotationError Unit :=
  require (isApplicationId value) wasmSecretApplicationInvalid
    "applicationId must match ^[a-z0-9]([a-z0-9-]\x7b0,61\x7d[a-z0-9])?$"

def validateSecretKey (key : String) : Except SecretRotationError Unit :=
  require (isSecretKey key) wasmSecretKeyInvalid
    ("key must match ^[a-z][a-z0-9._-]\x7b0,127\x7d$ and carry no slash, whitespace, colon, or NUL: " ++ key.quote)

def validateSecretSnapshotRef (value : String) : Except SecretRotationError Unit :=
  require (isSha256Hex value) secretRotationSnapshotRefInvalid
    "secretSnapshotRef must be 64 lower-case hex characters"

def requireSecretU53 (value : Nat) (field : String) : Except SecretRotationError Unit :=
  require (value ≤ wasmU53Max) wasmSecretRevisionInvalid (field ++ " must be a u53 integer")

/-- The next revision; the space is never wrapped around. -/
def nextSecretRevision (currentSecretRevision : Nat) : Except SecretRotationError Nat := do
  requireSecretU53 currentSecretRevision "secretRevision"
  require (currentSecretRevision ≠ wasmU53Max) secretRevisionExhausted
    "secret revision space is exhausted; no strictly higher u53 revision exists"
  return currentSecretRevision + 1

/-! ## The owner's request -/

structure SecretAllowlistMutation where
  schemaVersion : Nat
  applicationId : String
  expectedSecretRevision : Nat
  keys : List String
  values : ExtTreeMap String String

/-- Every key is below the next one, bytewise. -/
def keysAscend : List String → Bool
  | key :: next :: rest => decide (bytes key < bytes next) && keysAscend (next :: rest)
  | _ => true

def SecretAllowlistMutation.validate (request : SecretAllowlistMutation) : Except SecretRotationError Unit := do
  require (request.schemaVersion == 1) wasmSecretAllowlistInvalid "schemaVersion must be exactly 1"
  validateSecretApplicationId request.applicationId
  requireSecretU53 request.expectedSecretRevision "expectedSecretRevision"
  require (request.keys.length ≤ wasmSecretMaxKeys) wasmSecretAllowlistInvalid
    "keys must carry at most 256 entries"
  require (keysAscend request.keys) wasmSecretAllowlistInvalid
    "keys must be sorted bytewise ascending and duplicate-free"
  request.keys.forM validateSecretKey
  require (request.values.size == request.keys.length && request.keys.all fun key => (request.values[key]?).isSome)
    wasmSecretAllowlistInvalid "the values key set must equal keys"
  request.values.values.forM fun value =>
    require ((bytes value).length ≤ wasmSecretMaxValueBytes) wasmSecretAllowlistInvalid
      "each value must be at most 65536 UTF-8 bytes"

/-! ## The lock order -/

inductive RotationLockStep
  | idle
  | appFenceAcquired
  | secretRowCasCommitted
  | secretRowLockReleased
  | invalidationCommandPersisted
  | completed
deriving DecidableEq

def RotationLockStep.debugName : RotationLockStep → String
  | .idle => "Idle"
  | .appFenceAcquired => "AppFenceAcquired"
  | .secretRowCasCommitted => "SecretRowCasCommitted"
  | .secretRowLockReleased => "SecretRowLockReleased"
  | .invalidationCommandPersisted => "InvalidationCommandPersisted"
  | .completed => "Completed"

def checkRotationLockOrder : (source target : RotationLockStep) → Except SecretRotationError Unit
  | .idle, .appFenceAcquired => .ok ()
  | .appFenceAcquired, .secretRowCasCommitted => .ok ()
  | .secretRowCasCommitted, .secretRowLockReleased => .ok ()
  | .secretRowLockReleased, .invalidationCommandPersisted => .ok ()
  | .invalidationCommandPersisted, .completed => .ok ()
  | source, target => .error ⟨wasmSecretRotationLockOrderInvalid,
      "illegal rotation lock-order transition " ++ source.debugName ++ " -> " ++ target.debugName ++
        "; the fixed order is app fence -> secret-row CAS commit -> row-lock release -> " ++
        "invalidation command persistence -> fence release"⟩

def advanceLock (source target : RotationLockStep) : Except SecretRotationError RotationLockStep := do
  checkRotationLockOrder source target
  return target

/-! ## Records -/

structure SecretStoreRow where
  applicationId : String
  secretRevision : Nat
  keys : List String
  values : ExtTreeMap String String

structure SecretIdentityFence where
  sandboxId : String
  versionId : String
  preparationGeneration : Nat
  executionGeneration : Nat
deriving DecidableEq

def SecretIdentityFence.validate (fence : SecretIdentityFence) : Except SecretRotationError Unit := do
  require (isSandboxId fence.sandboxId) wasmSecretIdentityFenceInvalid
    "sandboxId must start with a lower-case letter and be at most 63 ASCII bytes"
  require (isWasmVersionId (bytes fence.versionId)) wasmSecretIdentityFenceInvalid
    "versionId must be <64 lower-case hex>-<positive sequence without leading zero>"
  requireSecretU53 fence.preparationGeneration "preparationGeneration"
  requireSecretU53 fence.executionGeneration "executionGeneration"

structure SecretInvalidationCommand where
  schemaVersion : Nat
  commandId : String
  applicationId : String
  secretRevision : Nat
  secretSnapshotRef : String
  fenceTargets : List SecretIdentityFence
deriving DecidableEq

def SecretInvalidationCommand.validate (command : SecretInvalidationCommand) :
    Except SecretRotationError Unit := do
  require (command.schemaVersion == 1) wasmSecretOutboxInvalid "schemaVersion must be exactly 1"
  validateSecretApplicationId command.applicationId
  requireSecretU53 command.secretRevision "secretRevision"
  validateSecretSnapshotRef command.secretSnapshotRef
  require (command.secretRevision ≠ 0) wasmSecretOutboxInvalid
    "an invalidation command must fence a committed revision of at least 1"
  command.fenceTargets.forM SecretIdentityFence.validate

inductive SecretOutboxDeliveryState
  | pending
  | sent
  | acknowledged
  | dead
deriving DecidableEq

structure SecretInvalidationOutboxRecord where
  schemaVersion : Nat
  commandId : String
  applicationId : String
  secretRevision : Nat
  createdAtEpochMillis : Nat
  deliveryState : SecretOutboxDeliveryState
  attempts : Nat
  invalidationCommand : Option SecretInvalidationCommand
  pendingSnapshotRef : Option String
deriving DecidableEq

inductive SupervisorSecretEntryKind
  | received
  | completed
deriving DecidableEq

structure SupervisorSecretJournalEntry where
  schemaVersion : Nat
  kind : SupervisorSecretEntryKind
  commandId : String
  journalRevision : Nat
  applicationId : String
  secretRevision : Nat
  secretSnapshotRef : String
  fencedCandidates : List SecretIdentityFence
deriving DecidableEq

inductive SupervisorCandidateState
  | preparing
  | ready
  | stopped
deriving DecidableEq

structure SupervisorCandidate where
  identityFence : SecretIdentityFence
  secretRevision : Nat
  state : SupervisorCandidateState
  isActive : Bool
deriving DecidableEq

/-! ## The supervisor's journal -/

structure SupervisorSecretJournalState where
  schemaVersion : Nat
  journalRevision : Nat
  entries : List SupervisorSecretJournalEntry
  candidates : List SupervisorCandidate
  invalidationFenceRevision : Nat
deriving DecidableEq

namespace SupervisorSecretJournalState

def new : SupervisorSecretJournalState := ⟨1, 0, [], [], 0⟩

/-- The entry that `append_entry` makes, under the next journal revision. -/
def nextEntry (supervisor : SupervisorSecretJournalState) (kind : SupervisorSecretEntryKind)
    (command : SecretInvalidationCommand) (fenced : List SecretIdentityFence) : SupervisorSecretJournalEntry where
  schemaVersion := 1
  kind := kind
  commandId := command.commandId
  journalRevision := supervisor.journalRevision + 1
  applicationId := command.applicationId
  secretRevision := command.secretRevision
  secretSnapshotRef := command.secretSnapshotRef
  fencedCandidates := fenced

def appendEntry (supervisor : SupervisorSecretJournalState) (kind : SupervisorSecretEntryKind)
    (command : SecretInvalidationCommand) (fenced : List SecretIdentityFence) : SupervisorSecretJournalState :=
  { supervisor with
    journalRevision := supervisor.journalRevision + 1
    entries := supervisor.entries ++ [supervisor.nextEntry kind command fenced] }

/-- The greatest revision of all entries. -/
def reduceMaxInvalidationRevision (supervisor : SupervisorSecretJournalState) : Nat :=
  (supervisor.entries.map SupervisorSecretJournalEntry.secretRevision).foldl max 0

def hasCommand (supervisor : SupervisorSecretJournalState) (commandId : String) : Bool :=
  supervisor.entries.any fun entry => entry.commandId == commandId

/-- The last completed entry of a command. -/
def completedEntry (supervisor : SupervisorSecretJournalState) (commandId : String) :
    Option SupervisorSecretJournalEntry :=
  supervisor.entries.reverse.find? fun entry => entry.commandId == commandId && entry.kind == .completed

/-- A candidate that an invalidation of this revision stops. -/
def isStale (committedRevision : Nat) (candidate : SupervisorCandidate) : Bool :=
  !candidate.isActive && candidate.secretRevision < committedRevision && candidate.state != .stopped

/-- Stop the stale candidates; the fences of those that were stopped now come back. -/
def stopStaleCandidates (supervisor : SupervisorSecretJournalState) (committedRevision : Nat) :
    SupervisorSecretJournalState × List SecretIdentityFence :=
  ({ supervisor with
      candidates := supervisor.candidates.map fun candidate =>
        if isStale committedRevision candidate then { candidate with state := .stopped } else candidate },
    (supervisor.candidates.filter (isStale committedRevision)).map SupervisorCandidate.identityFence)

/-- The targets of a command that fences a revision. -/
def fenceTargets (supervisor : SupervisorSecretJournalState) (secretRevision : Nat) : List SecretIdentityFence :=
  (supervisor.candidates.filter fun candidate =>
    !candidate.isActive && candidate.secretRevision < secretRevision).map SupervisorCandidate.identityFence

/-- `apply_invalidation_to_journal`; a journal with only a received entry of the command panics, here as an
error of its own. -/
def applyInvalidation (supervisor : SupervisorSecretJournalState) (command : SecretInvalidationCommand) :
    SupervisorSecretJournalState × Except SecretRotationError Nat :=
  match command.validate with
  | .error e => (supervisor, .error e)
  | .ok () =>
    if supervisor.hasCommand command.commandId then
      match supervisor.completedEntry command.commandId with
      | some completed => (supervisor, .ok completed.journalRevision)
      | none => (supervisor, .error ⟨"panic", "has_command implies a completed entry exists"⟩)
    else
      let (stopped, fenced) := supervisor.stopStaleCandidates command.secretRevision
      let completed := (stopped.appendEntry .received command fenced).appendEntry .completed command fenced
      ({ completed with
          invalidationFenceRevision := max completed.invalidationFenceRevision command.secretRevision },
        .ok completed.journalRevision)

end SupervisorSecretJournalState

/-! ## The Kernel's side -/

structure ActiveSecretSnapshot where
  secretRevision : Nat
  secretSnapshotRef : String
deriving DecidableEq

structure KernelSecretRotationState where
  store : SecretStoreRow
  outbox : List SecretInvalidationOutboxRecord
  lockStep : RotationLockStep
  activeSnapshot : Option ActiveSecretSnapshot

/-- `SecretStoreRow::new` and `KernelSecretRotationState::new` -/
def KernelSecretRotationState.new (applicationId : String) :
    Except SecretRotationError KernelSecretRotationState := do
  validateSecretApplicationId applicationId
  return ⟨⟨applicationId, 0, [], ∅⟩, [], .idle, none⟩

/-- `adopt_active_snapshot` -/
def KernelSecretRotationState.adoptActiveSnapshot (kernel : KernelSecretRotationState) (secretRevision : Nat)
    (secretSnapshotRef : String) : Except SecretRotationError KernelSecretRotationState := do
  requireSecretU53 secretRevision "secretRevision"
  validateSecretSnapshotRef secretSnapshotRef
  require (secretRevision ≤ kernel.store.secretRevision) wasmSecretRevisionInvalid
    "an adopted snapshot revision cannot exceed the committed secret-store revision"
  return { kernel with activeSnapshot := some ⟨secretRevision, secretSnapshotRef⟩ }

/-- Both sides. -/
structure SecretRotation where
  kernel : KernelSecretRotationState
  supervisor : SupervisorSecretJournalState

inductive RotationCrashPoint
  | beforeSecretStoreCommit
  | afterCommitBeforeInvalidation
  | afterCommandBeforeJournal
  | afterJournalAckLost
  | afterStopBeforeFreshPrepare
deriving DecidableEq

structure RotationOutcome where
  secretRevision : Nat
  commandId : String
  journalRevision : Option Nat
  acknowledged : Bool
  stoppedCandidates : List SecretIdentityFence
deriving DecidableEq

/-- The arguments of `run_secret_rotation`. -/
structure RotationCall where
  request : SecretAllowlistMutation
  commandId : String
  pendingSnapshotRef : String
  nowEpochMillis : Nat
  crash : Option RotationCrashPoint

def unknownOutboxCommand (commandId : String) : SecretRotationError :=
  ⟨wasmSecretOutboxInvalid, "unknown outbox command " ++ commandId.quote⟩

/-- Change the last row of a command. -/
def updateLastRecord (commandId : String)
    (change : SecretInvalidationOutboxRecord → SecretInvalidationOutboxRecord) :
    List SecretInvalidationOutboxRecord → Option (List SecretInvalidationOutboxRecord)
  | [] => none
  | record :: rest =>
    match updateLastRecord commandId change rest with
    | some rest => some (record :: rest)
    | none => if record.commandId = commandId then some (change record :: rest) else none

/-- The command that fences a committed revision. -/
def invalidationCommandFor (supervisor : SupervisorSecretJournalState) (commandId applicationId : String)
    (secretRevision : Nat) (secretSnapshotRef : String) : SecretInvalidationCommand where
  schemaVersion := 1
  commandId := commandId
  applicationId := applicationId
  secretRevision := secretRevision
  secretSnapshotRef := secretSnapshotRef
  fenceTargets := supervisor.fenceTargets secretRevision

/-- `rebuild_invalidation_command` -/
def rebuildInvalidationCommand (supervisor : SupervisorSecretJournalState)
    (record : SecretInvalidationOutboxRecord) : Except SecretRotationError SecretInvalidationCommand :=
  match record.pendingSnapshotRef with
  | none => .error ⟨wasmSecretOutboxInvalid, "the outbox row must persist the new revision's opaque snapshot " ++
      "reference before the command can be rebuilt deterministically"⟩
  | some pendingRef => do
    let command := invalidationCommandFor supervisor record.commandId record.applicationId record.secretRevision
      pendingRef
    command.validate
    return command

namespace SecretRotation

/-- `outbox_record` -/
def outboxRecord (rotation : SecretRotation) (commandId : String) :
    Except SecretRotationError SecretInvalidationOutboxRecord :=
  match rotation.kernel.outbox.reverse.find? fun record => record.commandId == commandId with
  | some record => .ok record
  | none => .error (unknownOutboxCommand commandId)

def withOutbox (rotation : SecretRotation) (outbox : List SecretInvalidationOutboxRecord) : SecretRotation :=
  { rotation with kernel := { rotation.kernel with outbox := outbox } }

/-- A change through `outbox_record_mut`. -/
def changeRecord (rotation : SecretRotation) (commandId : String)
    (change : SecretInvalidationOutboxRecord → SecretInvalidationOutboxRecord) :
    Except SecretRotationError SecretRotation :=
  match updateLastRecord commandId change rotation.kernel.outbox with
  | some outbox => .ok (rotation.withOutbox outbox)
  | none => .error (unknownOutboxCommand commandId)

def withLock (rotation : SecretRotation) (lockStep : RotationLockStep) : SecretRotation :=
  { rotation with kernel := { rotation.kernel with lockStep := lockStep } }

/-- `deliver_invalidation` -/
def deliverInvalidation (rotation : SecretRotation) (commandId : String) :
    SecretRotation × Except SecretRotationError Unit :=
  match rotation.outboxRecord commandId with
  | .error e => (rotation, .error e)
  | .ok record =>
    match record.invalidationCommand with
    | none => (rotation,
        .error ⟨wasmSecretOutboxBacklog, "the invalidation command has not been persisted yet"⟩)
    | some command =>
      let (supervisor, applied) := rotation.supervisor.applyInvalidation command
      let rotation := { rotation with supervisor := supervisor }
      match applied with
      | .error e => (rotation, .error e)
      | .ok _ =>
        match rotation.changeRecord commandId fun record =>
          { record with deliveryState := .sent, attempts := record.attempts + 1 } with
        | .error e => (rotation, .error e)
        | .ok rotation => (rotation, .ok ())

/-- `project_invalidation_acknowledgement` -/
def projectInvalidationAcknowledgement (rotation : SecretRotation) (commandId : String) :
    Except SecretRotationError SecretRotation :=
  match rotation.supervisor.completedEntry commandId with
  | none => .error ⟨wasmSecretJournalInvalid, "no completed journal entry to project"⟩
  | some completed => do
    let record ← rotation.outboxRecord commandId
    let commandRef := ((record.invalidationCommand.map SecretInvalidationCommand.secretSnapshotRef).or
      record.pendingSnapshotRef).getD ""
    require (completed.secretRevision == record.secretRevision && completed.secretSnapshotRef == commandRef)
      wasmSecretJournalInvalid "the journal entry does not match the outbox row"
    rotation.changeRecord commandId fun record => { record with deliveryState := .acknowledged }

/-! ### `run_secret_rotation` -/

/-- What is checked before the mutation fence is taken. -/
def precheck (rotation : SecretRotation) (call : RotationCall) : Except SecretRotationError Unit := do
  call.request.validate
  require (rotation.kernel.store.applicationId == call.request.applicationId) wasmSecretApplicationInvalid
    "the rotation request must target this store's application"
  validateSecretSnapshotRef call.pendingSnapshotRef
  requireSecretU53 call.nowEpochMillis "nowEpochMillis"
  require (rotation.kernel.lockStep == .idle) wasmSecretRotationLockOrderInvalid
    "a rotation cannot start while the application mutation fence is held"
  require (!rotation.kernel.outbox.any fun record => record.invalidationCommand.isNone) wasmSecretOutboxBacklog
    "a second rotation must wait for the previous outbox invalidation command to be persisted"

/-- The commit: the revision, the keys and values, and the outbox row with the pending reference. -/
def commit (rotation : SecretRotation) (call : RotationCall) (nextRevision : Nat) : SecretRotation :=
  { rotation with
    kernel := { rotation.kernel with
      store := { rotation.kernel.store with
        secretRevision := nextRevision
        keys := call.request.keys
        values := call.request.values }
      outbox := rotation.kernel.outbox ++
        [⟨1, call.commandId, call.request.applicationId, nextRevision, call.nowEpochMillis, .pending, 0, none,
          some call.pendingSnapshotRef⟩] } }

/-- The journal revision of the last entry of a command. -/
def lastJournalRevision (rotation : SecretRotation) (commandId : String) : Option Nat :=
  (rotation.supervisor.entries.reverse.find? fun entry => entry.commandId == commandId).map
    SupervisorSecretJournalEntry.journalRevision

/-- The acknowledgement, after the delivery. -/
def acknowledging (rotation : SecretRotation) (call : RotationCall) (nextRevision : Nat) :
    SecretRotation × Except SecretRotationError RotationOutcome :=
  match rotation.projectInvalidationAcknowledgement call.commandId with
  | .error e => (rotation, .error e)
  | .ok rotation =>
    match rotation.outboxRecord call.commandId with
    | .error e => (rotation, .error e)
    | .ok record =>
      let stopped := match record.invalidationCommand with
        | none => []
        | some command => command.fenceTargets
      if call.crash = some .afterStopBeforeFreshPrepare then
        (rotation, .error (simulatedCrash "after stop and acknowledgement, before fresh preparation"))
      else
        (rotation,
          .ok ⟨nextRevision, call.commandId, rotation.lastJournalRevision call.commandId, true, stopped⟩)

/-- The delivery, after the mutation fence has been released. -/
def delivering (rotation : SecretRotation) (call : RotationCall) (nextRevision : Nat) :
    SecretRotation × Except SecretRotationError RotationOutcome :=
  if call.crash = some .afterCommandBeforeJournal then
    (rotation, .error (simulatedCrash "after command persistence, before supervisor journal"))
  else
    let (rotation, delivered) := rotation.deliverInvalidation call.commandId
    match delivered with
    | .error e => (rotation, .error e)
    | .ok () =>
      if call.crash = some .afterJournalAckLost then
        (rotation, .error (simulatedCrash
          "after supervisor journal completion, before acknowledgement projection"))
      else rotation.acknowledging call nextRevision

/-- The command is persisted, and the mutation fence released. -/
def persisting (rotation : SecretRotation) (call : RotationCall) (nextRevision : Nat)
    (command : SecretInvalidationCommand) : SecretRotation × Except SecretRotationError RotationOutcome :=
  match rotation.changeRecord call.commandId fun record =>
      { record with invalidationCommand := some command } with
  | .error e => (rotation, .error e)
  | .ok rotation =>
    match advanceLock rotation.kernel.lockStep .invalidationCommandPersisted with
    | .error e => (rotation, .error e)
    | .ok persisted =>
      match advanceLock persisted .completed with
      | .error e => (rotation.withLock persisted, .error e)
      | .ok _ => (rotation.withLock .idle).delivering call nextRevision

/-- The command is made, while the mutation fence is held and the row lock is not. -/
def invalidating (rotation : SecretRotation) (call : RotationCall) (nextRevision : Nat) :
    SecretRotation × Except SecretRotationError RotationOutcome :=
  match advanceLock rotation.kernel.lockStep .secretRowCasCommitted with
  | .error e => (rotation, .error e)
  | .ok committed =>
    match advanceLock committed .secretRowLockReleased with
    | .error e => (rotation.withLock committed, .error e)
    | .ok released =>
      let rotation := rotation.withLock released
      let command := invalidationCommandFor rotation.supervisor call.commandId call.request.applicationId
        nextRevision call.pendingSnapshotRef
      match command.validate with
      | .error e => (rotation, .error e)
      | .ok () =>
        if call.crash = some .afterCommitBeforeInvalidation then
          (rotation.withLock .idle,
            .error (simulatedCrash "after commit, before invalidation command persistence"))
        else rotation.persisting call nextRevision command

/-- The compare-and-set of the revision, under the mutation fence. -/
def committing (rotation : SecretRotation) (call : RotationCall) :
    SecretRotation × Except SecretRotationError RotationOutcome :=
  if call.crash = some .beforeSecretStoreCommit then
    (rotation.withLock .idle, .error (simulatedCrash "before secret-store commit"))
  else if call.request.expectedSecretRevision ≠ rotation.kernel.store.secretRevision then
    (rotation.withLock .idle, .error ⟨secretRevisionConflict,
      "expectedSecretRevision " ++ toString call.request.expectedSecretRevision ++
        " does not match the current revision " ++ toString rotation.kernel.store.secretRevision⟩)
  else
    match nextSecretRevision rotation.kernel.store.secretRevision with
    | .error e => (rotation, .error e)
    | .ok nextRevision => (rotation.commit call nextRevision).invalidating call nextRevision

/-- `run_secret_rotation` -/
def runSecretRotation (rotation : SecretRotation) (call : RotationCall) :
    SecretRotation × Except SecretRotationError RotationOutcome :=
  match rotation.precheck call with
  | .error e => (rotation, .error e)
  | .ok () =>
    match advanceLock rotation.kernel.lockStep .appFenceAcquired with
    | .error e => (rotation, .error e)
    | .ok acquired => (rotation.withLock acquired).committing call

/-! ### `recover_rotation` -/

/-- The rows without a command get theirs, in the order of their commits. -/
def rebuildCommands (supervisor : SupervisorSecretJournalState) :
    List SecretInvalidationOutboxRecord →
      List SecretInvalidationOutboxRecord × Except SecretRotationError (List String)
  | [] => ([], .ok [])
  | record :: rest =>
    if record.invalidationCommand.isSome then
      let (rest, rebuilt) := rebuildCommands supervisor rest
      (record :: rest, rebuilt)
    else
      match rebuildInvalidationCommand supervisor record with
      | .error e => (record :: rest, .error e)
      | .ok command =>
        let (rest, rebuilt) := rebuildCommands supervisor rest
        ({ record with invalidationCommand := some command } :: rest,
          rebuilt.map fun ids => record.commandId :: ids)

def deliverAll (rotation : SecretRotation) : List String → SecretRotation × Except SecretRotationError Unit
  | [] => (rotation, .ok ())
  | commandId :: rest =>
    let (rotation, delivered) := rotation.deliverInvalidation commandId
    match delivered with
    | .error e => (rotation, .error e)
    | .ok () => rotation.deliverAll rest

def projectAll (rotation : SecretRotation) : List String → SecretRotation × Except SecretRotationError Unit
  | [] => (rotation, .ok ())
  | commandId :: rest =>
    match rotation.projectInvalidationAcknowledgement commandId with
    | .error e => (rotation, .error e)
    | .ok rotation => rotation.projectAll rest

end SecretRotation

structure RotationRecoveryReport where
  rebuiltCommands : List String
  deliveredCommands : List String
  acknowledgedCommands : List String
  stoppedCandidates : List SecretIdentityFence
  greatestCommittedRevision : Nat
  reprepareRevision : Option Nat
deriving DecidableEq

namespace SecretRotation

/-- The commands whose rows are in a delivery state. -/
def commandsWhere (rotation : SecretRotation) (p : SecretOutboxDeliveryState → Bool) : List String :=
  (rotation.kernel.outbox.filter fun record => p record.deliveryState).map
    SecretInvalidationOutboxRecord.commandId

/-- What a recovery reports once it has delivered and projected everything. -/
def report (rotation : SecretRotation) (rebuilt delivered acknowledged : List String) :
    SecretRotation × Except SecretRotationError RotationRecoveryReport :=
  let greatest := rotation.kernel.store.secretRevision
  let stopped := (rotation.supervisor.candidates.filter fun candidate =>
    candidate.state == .stopped && !candidate.isActive).map SupervisorCandidate.identityFence
  let activeRevision := match rotation.kernel.activeSnapshot with
    | none => 0
    | some snapshot => snapshot.secretRevision
  let reprepare := if !stopped.isEmpty || activeRevision < greatest then some greatest else none
  if rotation.supervisor.invalidationFenceRevision ≠ rotation.supervisor.reduceMaxInvalidationRevision then
    (rotation, .error ⟨wasmSecretJournalInvalid, "the journal fence revision disagrees with the entry reducer"⟩)
  else (rotation, .ok ⟨rebuilt, delivered, acknowledged, stopped, greatest, reprepare⟩)

/-- What a recovery does once every row has its command: it delivers what is not acknowledged and projects
what is sent. -/
def redelivering (rotation : SecretRotation) (rebuilt : List String) :
    SecretRotation × Except SecretRotationError RotationRecoveryReport :=
  let pending := rotation.commandsWhere fun state => state != .acknowledged
  let (rotation, delivered) := rotation.deliverAll pending
  match delivered with
  | .error e => (rotation, .error e)
  | .ok () =>
    let sent := rotation.commandsWhere fun state => state == .sent
    let (rotation, projected) := rotation.projectAll sent
    match projected with
    | .error e => (rotation, .error e)
    | .ok () => rotation.report rebuilt pending sent

/-- `recover_rotation` -/
def recoverRotation (rotation : SecretRotation) :
    SecretRotation × Except SecretRotationError RotationRecoveryReport :=
  let rotation := rotation.withLock .idle
  let (outbox, rebuilt) := rebuildCommands rotation.supervisor rotation.kernel.outbox
  match rebuilt with
  | .error e => (rotation.withOutbox outbox, .error e)
  | .ok rebuilt => (rotation.withOutbox outbox).redelivering rebuilt

end SecretRotation

/-! ## Rotations, recoveries and the candidates between them -/

/-- What happens to an application's secrets: a rotation that may crash, a recovery, a candidate prepared at
the current revision, and an activation that adopts one; it may replace what was active before. -/
inductive SecretOp
  | rotate (call : RotationCall)
  | recover
  | prepare (fence : SecretIdentityFence) (ready : Bool)
  | adopt (candidate : Nat) (secretSnapshotRef : String) (replacing : Bool)

/-- The rotation answered, or crashed after its commit. -/
def passedCommit : Except SecretRotationError RotationOutcome → Bool
  | .ok _ => true
  | .error e => e.code == wasmSecretSimulatedCrash && e != simulatedCrash "before secret-store commit"

/-- Both sides, the commands of the rotations that passed the commit point, and the indexes of the candidates
that were active when the invalidation with the greatest revision was journaled. -/
structure SecretSystem where
  rotation : SecretRotation
  committed : List String
  spared : List Nat

def SupervisorSecretJournalState.activeIndexes (supervisor : SupervisorSecretJournalState) : List Nat :=
  (supervisor.candidates.zipIdx.filter fun candidate => candidate.1.isActive).map Prod.snd

/-- The spared candidates after a change of the journal: where its fence has risen, the active ones. -/
def SupervisorSecretJournalState.sparedAfter (supervisor supervisor' : SupervisorSecretJournalState)
    (spared : List Nat) : List Nat :=
  if supervisor.invalidationFenceRevision < supervisor'.invalidationFenceRevision then
    supervisor'.activeIndexes
  else spared

namespace SecretSystem

def start (kernel : KernelSecretRotationState) : SecretSystem := ⟨⟨kernel, .new⟩, [], []⟩

/-- The two sides have changed. -/
def moveTo (system : SecretSystem) (rotation : SecretRotation) (committed : List String) : SecretSystem where
  rotation := rotation
  committed := committed
  spared := system.rotation.supervisor.sparedAfter rotation.supervisor system.spared

def withCandidates (system : SecretSystem) (candidates : List SupervisorCandidate) : SecretSystem :=
  { system with
    rotation := { system.rotation with
      supervisor := { system.rotation.supervisor with candidates := candidates } } }

/-- A candidate is prepared at the current revision. -/
def prepare (system : SecretSystem) (fence : SecretIdentityFence) (ready : Bool) : SecretSystem :=
  match fence.validate with
  | .error _ => system
  | .ok () => system.withCandidates (system.rotation.supervisor.candidates ++
      [⟨fence, system.rotation.kernel.store.secretRevision, if ready then .ready else .preparing, false⟩])

/-- An activation adopts a candidate that is not stopped and whose revision is the current one. -/
def adopt (system : SecretSystem) (i : Nat) (secretSnapshotRef : String) (replacing : Bool) : SecretSystem :=
  match system.rotation.supervisor.candidates[i]? with
  | none => system
  | some candidate =>
    if candidate.state != .stopped &&
        matchesSecretRevisionFence system.rotation.kernel.store.secretRevision candidate.secretRevision then
      match system.rotation.kernel.adoptActiveSnapshot candidate.secretRevision secretSnapshotRef with
      | .error _ => system
      | .ok kernel =>
        let others := system.rotation.supervisor.candidates.map fun other =>
          { other with isActive := other.isActive && !replacing }
        { system with rotation := { system.rotation with kernel := kernel } }.withCandidates
          (others.set i { candidate with isActive := true })
    else system

def step (system : SecretSystem) : SecretOp → SecretSystem
  | .rotate call =>
    let (rotation, answer) := system.rotation.runSecretRotation call
    system.moveTo rotation
      (if passedCommit answer then system.committed ++ [call.commandId] else system.committed)
  | .recover => system.moveTo system.rotation.recoverRotation.1 system.committed
  | .prepare fence ready => system.prepare fence ready
  | .adopt i secretSnapshotRef replacing => system.adopt i secretSnapshotRef replacing

end SecretSystem

/-! ## Refusals -/

namespace SecretRotation

/-- No rotation is in progress. -/
def Quiet (rotation : SecretRotation) : Prop :=
  rotation.kernel.lockStep = .idle ∧ ∀ record ∈ rotation.kernel.outbox, record.invalidationCommand.isSome = true

/-- A rotation that returns an error leaves both sides as they were; a panic returns none. -/
def RefusalKeeps (rotation : SecretRotation) (call : RotationCall) : Prop :=
  ∀ e, (rotation.runSecretRotation call).2 = .error e → e.code ≠ "panic" →
    (rotation.runSecretRotation call).1 = rotation

/-- The rotation passes every check before its commit, the exhaustion of the revisions apart. -/
def passesChecks (rotation : SecretRotation) (call : RotationCall) : Bool :=
  (rotation.precheck call).toOption.isSome &&
    call.request.expectedSecretRevision == rotation.kernel.store.secretRevision

/-- There is a next revision, the targets of its command are well formed, and what the journal has completed
under the command's id is this revision with this reference. -/
def commitCarriesThrough (rotation : SecretRotation) (call : RotationCall) : Bool :=
  rotation.kernel.store.secretRevision != wasmU53Max &&
    (rotation.supervisor.fenceTargets (rotation.kernel.store.secretRevision + 1)).all
      (fun fence => fence.validate.toOption.isSome) &&
    (rotation.supervisor.completedEntry call.commandId).all fun completed =>
      completed.secretRevision == rotation.kernel.store.secretRevision + 1 &&
        completed.secretSnapshotRef == call.pendingSnapshotRef

end SecretRotation

end Iweb
