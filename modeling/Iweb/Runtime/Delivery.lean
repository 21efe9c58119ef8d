import Iweb.Runtime.Reconcile
import Iweb.Supervisor.ExecutionRpc

/-!
# Delivery of the outbox

One round asks the supervisor about every open command, delivers or replays it, and projects its
acknowledgement into the control state. The fence of an applied Start comes alive in a write of its own,
which a later round repeats if a crash came between.
-/

namespace Iweb

open Std (ExtTreeMap)
open CrashHoare

def executionQueryResultInvalid : String := "EXECUTION_QUERY_RESULT_INVALID"
def wasmSecretSnapshotRefInvalid : String := "WASM_SECRET_SNAPSHOT_REF_INVALID"

/-! ## Answers of the supervisor -/

structure CommandQueryResultV1 where
  commandId : String
  status : QueryStatus
  received : Option CommandReceivedV1
  acknowledgement : Option ExecutionAcknowledgement

/-- How the runtime reaches the supervisor; the answer to a request, or why there is none. -/
structure SupervisorChannel (σ : Type) where
  query : String → σ → σ × Except KernelError CommandQueryResultV1
  /-- The snapshots of a Prepare or Start. -/
  handoff : ExecutionCommand → σ → σ × Except KernelError Unit
  deliver : DeliveryMode → ExecutionCommand → σ → σ × Except KernelError ExecutionAcknowledgement

variable {σ : Type} (A : AdmissionRules) (R : RuntimeRules) (C : SupervisorChannel σ)

/-- A request to the supervisor. -/
def callSupervisor {α : Type} (request : σ → σ × Except KernelError α) : KernelM σ α :=
  Prog.write fun world => ({ world with channel := (request world.channel).1 }, (request world.channel).2)

/-- The received entry of a query result. -/
def checkQueriedReceived (commandId : String) (received : CommandReceivedV1) : Except KernelError Unit := do
  require (received.commandId == commandId) executionQueryResultInvalid
    "received commandId must match the query-result commandId"
  require (R.commandDigest received.command == received.commandDigest) executionQueryResultInvalid
    "received commandDigest must equal the recomputed command digest"
  let _ ← recode executionQueryResultInvalid (parseRfc3339UtcMillis received.receivedAt)
  requireCommandU53 received.journalRevision 0 "/received/journalRevision"

/-- A query result carries what its status says. -/
def checkQueryStatus (query : CommandQueryResultV1) : Except KernelError Unit :=
  let invalid (ok : Bool) (detail : String) := require ok executionQueryResultInvalid detail
  match query.status with
  | .missing => invalid (query.received.isNone && query.acknowledgement.isNone)
      "a missing command carries neither received nor acknowledgement"
  | .received => do
    invalid query.received.isSome "received must be the exact CommandReceivedV1 when status is received"
    invalid query.acknowledgement.isNone
      "acknowledgement is non-null if and only if status is completed"
  | .completed => do
    invalid query.received.isSome "received must be the exact CommandReceivedV1 when status is completed"
    invalid query.acknowledgement.isSome "acknowledgement must be non-null when status is completed"

/-- The acknowledgement of a query result. -/
def checkQueriedAcknowledgement (commandId : String) (ack : ExecutionAcknowledgement) :
    Except KernelError Unit := do
  recode executionQueryResultInvalid (validateExecutionAcknowledgement ack)
  require (ack.commandId == commandId) executionQueryResultInvalid
    "acknowledgement commandId must match the query-result commandId"

/-- A check of a member that may be absent. -/
def checkOptional {α : Type} (check : α → Except KernelError Unit) : Option α → Except KernelError Unit
  | none => .ok ()
  | some a => check a

/-- `parse_command_query_result` -/
def parseCommandQueryResult (query : CommandQueryResultV1) : Except KernelError Unit := do
  require (isUuidV7 query.commandId) executionCommandInvalid
    "commandId must be a lower-case UUIDv7 (version nibble 7, RFC 9562 variant)"
  checkQueryStatus query
  checkOptional (checkQueriedReceived R query.commandId) query.received
  checkOptional (checkQueriedAcknowledgement query.commandId) query.acknowledgement

/-- The received entry of a query result must be the command of the outbox. -/
def checkReceivedCommand (command : ExecutionCommand) (received : Option CommandReceivedV1)
    (missing differing : String) : Except KernelError Unit :=
  match received with
  | none => .error ⟨executionQueryResultInvalid, missing⟩
  | some received => require (received.commandDigest == R.commandDigest command &&
      received.command == command) executionCommandIdConflict differing

/-- `journal_observation_from_query` -/
def journalObservationFromQuery (command : ExecutionCommand) (query : CommandQueryResultV1) :
    Except KernelError JournalObservation := do
  require (query.commandId == command.commandId) executionCommandIdConflict
    "query-result commandId does not match the authorized outbox command"
  match query.status with
  | .missing => return .missing
  | .received => do
    checkReceivedCommand R command query.received "status received requires the exact CommandReceivedV1"
      "the journal received a differing command body for this commandId; no replay or projection occurs"
    return .receivedIncomplete
  | .completed => do
    checkReceivedCommand R command query.received "status completed requires the exact CommandReceivedV1"
      "the journal completed a differing command body for this commandId; no replay or projection occurs"
    match query.acknowledgement with
    | none => .error ⟨executionQueryResultInvalid, "status completed requires the stored acknowledgement"⟩
    | some ack => do
      correlateAcknowledgement command ack
      return .completed ack

/-- The answer to a query, parsed. -/
def queryCommand (commandId : String) : KernelM σ CommandQueryResultV1 := do
  let query ← callSupervisor (C.query commandId)
  Prog.lift (parseCommandQueryResult R query)
  return query

/-- The acknowledgement of a delivery, parsed. -/
def postCommand (mode : DeliveryMode) (command : ExecutionCommand) : KernelM σ ExecutionAcknowledgement := do
  let ack ← callSupervisor (C.deliver mode command)
  Prog.lift (validateExecutionAcknowledgement ack)
  Prog.lift (correlateAcknowledgement command ack)
  return ack

/-! ## Snapshots before a delivery -/

/-- `resolve_secret_snapshot`; the values the runtime writes are empty at revision 0. -/
def resolveSecretSnapshot (command : ExecutionCommand) (applicationId : String) (now : Nat)
    (world : KernelWorld σ) : Except KernelError Unit := do
  let invalid (ok : Bool) (detail : String) := require ok wasmSecretSnapshotRefInvalid detail
  match world.secretSnapshotIndex[command.secretSnapshotRef]? with
  | none => .error ⟨wasmSecretSnapshotRefInvalid,
      "the command secret snapshot ref has no Kernel index record"⟩
  | some index =>
    match parseRfc3339UtcMillis index.expiresAt with
    | .error _ => .error ⟨wasmSecretSnapshotRefInvalid,
        "the command secret snapshot ref has an invalid expiry"⟩
    | .ok expiresAt => do
      require (now < expiresAt) "IWEB_SECRET_SNAPSHOT_EXPIRED"
        "the command secret snapshot has expired before FD handoff"
      invalid (index.reference == command.secretSnapshotRef && index.applicationId == applicationId &&
          index.versionId == command.identity.versionId &&
          index.preparationGeneration == command.identity.preparationGeneration &&
          index.secretRevision == command.secretRevision &&
          index.valuesDigest == command.secretValuesDigest)
        "the command secret snapshot ref does not bind its execution tuple"
      match world.secretSnapshots[command.secretSnapshotRef]? with
      | none => .error ⟨wasmSecretSnapshotRefInvalid,
          "the command secret snapshot source is unavailable"⟩
      | some values =>
        require (R.secretValuesDigest values.applicationId values.versionId values.preparationGeneration ==
            index.valuesDigest) "SNAPSHOT_VALUES_DIGEST_MISMATCH"
          "the Kernel secret snapshot source bytes do not match the indexed values digest"

/-- `resolve_config_snapshot`; nothing in the runtime writes a config snapshot. -/
def resolveConfigSnapshot (command : ExecutionCommand) : Except KernelError Unit :=
  require (command.configRevision == 0) "IWEB_CONFIG_WIRE_INVALID"
    "the command config snapshot ref has no Kernel index record"

/-- `deliver_snapshots_before_execution`: a Prepare or Start needs its snapshots first. -/
def deliverSnapshotsBeforeExecution (command : ExecutionCommand) (now : Nat) : KernelM σ Unit :=
  if command.operation = .prepare ∨ command.operation = .start then do
    let proofs ← visibleProofs
    match proofs.find? fun proof => proof.versionId == command.identity.versionId &&
        proof.packageDigest == command.packageDigest with
    | none => Prog.lift (.error ⟨wasmControlStateInvalid,
        "an execution command names no admitted proof for snapshot handoff"⟩)
    | some proof => do
      let secret ← Prog.read (resolveSecretSnapshot R command proof.applicationId now)
      Prog.lift secret
      callSupervisor (C.handoff command)
      Prog.lift (resolveConfigSnapshot command)
  else return ()

/-! ## Fences -/

/-- `project_start_fence_alive` -/
def projectStartFenceAlive (applicationId versionId : String) : KernelM σ Unit := do
  let fences ← loadFencesFile
  match fences[applicationId]? with
  | none => Prog.lift (.error ⟨wasmRuntimeIo,
      "an applied start acknowledgement has no fence record to project"⟩)
  | some application =>
    match application.records[versionId]? with
    | none => Prog.lift (.error ⟨wasmRuntimeIo,
        "an applied start acknowledgement has no fence record to project"⟩)
    | some record =>
      if record.alive ∨ record.lifecycle ≠ "preparing" then return ()
      else saveFencesFile (fences.insert applicationId { application with
        records := application.records.insert versionId
          { record with alive := true, lifecycle := "ready" } })

/-- `project_start_fence_after_ack`: a failure is only reported. -/
def projectStartFenceAfterAck (command : ExecutionCommand) (ack : ExecutionAcknowledgement) :
    KernelM σ Unit :=
  if command.operation ≠ .start ∨ ack.result ≠ .applied then return ()
  else do
    let _ ← (projectStartFenceAlive command.applicationId command.identity.versionId).attempt
    return ()

/-! ## One command -/

/-- What a round has in memory. -/
structure DeliveryMemory where
  state : WasmCommandControlState
  registryFile : WasmRouteRegistryFile
  journalHeadHint : Nat

/-- `persist_outbox_delivery_mutation` -/
def persistOutboxDeliveryMutation (expected : Nat) (state : WasmCommandControlState)
    (applications : WasmApplications) (memory : DeliveryMemory) : KernelM σ DeliveryMemory := do
  let registryFile := { memory.registryFile with journalHeadHint := memory.journalHeadHint }
  saveControlState (some expected) state registryFile applications
  return { memory with state := state, registryFile := registryFile }

/-- Note an attempt whose outcome is not known. -/
def recordAttempt (now : Nat) (commandId : String) (applications : WasmApplications)
    (memory : DeliveryMemory) : KernelM σ DeliveryMemory :=
  let head := memory.state.controlRevision
  match memory.state.recordDeliveryAttempt head commandId (formatRfc3339UtcMillis now) with
  | .error _ => return memory
  | .ok state =>
    if state.controlRevision ≠ head then
      persistOutboxDeliveryMutation head state applications memory
    else return memory

/-- Project an acknowledgement into the outbox, and the fence after it. -/
def projectAndPersist (command : ExecutionCommand) (ack : ExecutionAcknowledgement)
    (applications : WasmApplications) (memory : DeliveryMemory) : KernelM σ DeliveryMemory :=
  let head := memory.state.controlRevision
  match memory.state.projectAcknowledgement head ack with
  | .error _ => return memory
  | .ok (state, .projected) => do
    let memory ← persistOutboxDeliveryMutation head state applications memory
    projectStartFenceAfterAck command ack
    return memory
  | .ok (_, .alreadyAcknowledged) => do
    projectStartFenceAfterAck command ack
    return memory

/-- A round knows the largest revision it has seen. -/
def DeliveryMemory.saw (memory : DeliveryMemory) (revision : Option Nat) : DeliveryMemory :=
  { memory with journalHeadHint := max memory.journalHeadHint (revision.getD 0) }

/-- The observation of a command, if the supervisor gives a usable one. -/
def observeCommand (command : ExecutionCommand) (memory : DeliveryMemory) :
    KernelM σ (DeliveryMemory × Option JournalObservation) := do
  match ← (queryCommand R C command.commandId).attempt with
  | .error _ => return (memory, none)
  | .ok query =>
    let memory := (memory.saw (query.received.map CommandReceivedV1.journalRevision)).saw
      (query.acknowledgement.map ExecutionAcknowledgement.journalRevision)
    match journalObservationFromQuery R command query with
    | .error _ => return (memory, none)
    | .ok observation => return (memory, some observation)

/-- Deliver or replay a command. -/
def deliverOrReplay (now : Nat) (mode : DeliveryMode) (command : ExecutionCommand)
    (applications : WasmApplications) (memory : DeliveryMemory) : KernelM σ DeliveryMemory := do
  match ← (deliverSnapshotsBeforeExecution R C command now).attempt with
  | .error _ => recordAttempt now command.commandId applications memory
  | .ok () =>
    match ← (postCommand C mode command).attempt with
    | .error _ => recordAttempt now command.commandId applications memory
    | .ok ack => projectAndPersist command ack applications (memory.saw (some ack.journalRevision))

/-- The delivery of one open command of the outbox. -/
def deliverCommand (now : Nat) (applications : WasmApplications) (commandId : String)
    (memory : DeliveryMemory) : KernelM σ DeliveryMemory :=
  match memory.state.commandOutbox.find? fun entry => entry.commandId == commandId with
  | none => return memory
  | some outbox => do
    let (memory, observation) ← observeCommand R C outbox.command memory
    match observation with
    | none => recordAttempt now commandId applications memory
    | some observation =>
      match decideReconciliation outbox observation with
      | .error _ => return memory
      | .ok .alreadyProjected => return memory
      | .ok (.projectAcknowledgement ack) => projectAndPersist outbox.command ack applications memory
      | .ok .deliverCommand => deliverOrReplay R C now .command outbox.command applications memory
      | .ok .replayResume => deliverOrReplay R C now .replay outbox.command applications memory

def deliverCommands (now : Nat) (applications : WasmApplications) :
    List String → DeliveryMemory → KernelM σ DeliveryMemory
  | [], memory => return memory
  | commandId :: commandIds, memory => do
    let memory ← deliverCommand R C now applications commandId memory
    deliverCommands now applications commandIds memory

/-! ## Healing -/

/-- The versions whose Start is acknowledged and whose fence is still preparing. -/
def pendingHeal (outbox : List CommandOutboxRecord) (fences : WasmFences) : List (String × String) :=
  (outbox.filter fun entry => entry.command.operation == .start && entry.deliveryState == .acknowledged &&
    (fenceOf fences entry.command.applicationId entry.command.identity.versionId).any fun record =>
      !record.alive && record.lifecycle == "preparing").map fun entry =>
    (entry.command.applicationId, entry.command.identity.versionId)

/-- Heal one fence: an applied Start brings it alive. -/
def healFence (applicationId versionId : String) : KernelM σ Unit := do
  let loaded ← loadControlState A R
  match loaded.state.commandOutbox.find? fun entry => entry.command.applicationId == applicationId &&
      entry.command.identity.versionId == versionId && entry.command.operation == .start with
  | none => return ()
  | some outbox =>
    match ← (queryCommand R C outbox.commandId).attempt with
    | .error _ => return ()
    | .ok query =>
      match journalObservationFromQuery R outbox.command query with
      | .ok (.completed ack) =>
        if ack.result = .applied then do
          let _ ← (projectStartFenceAlive applicationId versionId).attempt
          return ()
        else return ()
      | _ => return ()

def healFences : List (String × String) → KernelM σ Unit
  | [] => return ()
  | (applicationId, versionId) :: rest => do
    healFence A R C applicationId versionId
    healFences rest

/-- `heal_acknowledged_start_fences` -/
def healAcknowledgedStartFences : KernelM σ Unit := do
  let loaded ← loadControlState A R
  let fences ← loadFencesFile
  healFences A R C (pendingHeal loaded.state.commandOutbox fences)

/-! ## A round -/

/-- `run_outbox_delivery` -/
def runOutboxDelivery (now : Nat) : KernelM σ Unit := do
  let loaded ← loadControlState A R
  let commandIds := (loaded.state.commandOutbox.filter CommandOutboxRecord.isOpen).map
    CommandOutboxRecord.commandId
  let memory ← deliverCommands R C now loaded.applications commandIds
    ⟨loaded.state, loaded.registryFile, loaded.registryFile.journalHeadHint⟩
  if memory.journalHeadHint ≠ memory.registryFile.journalHeadHint then
    saveRouteRegistry { memory.registryFile with journalHeadHint := memory.journalHeadHint }
  let _ ← (healAcknowledgedStartFences A R C).attempt
  return ()

end Iweb
