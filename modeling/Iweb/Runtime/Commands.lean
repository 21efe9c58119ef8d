import Iweb.Activation.Records
import Iweb.Admission.Proof
import Iweb.Admission.Validation

/-!
# Execution commands

The command the Kernel sends to the supervisor for one execution, how it is planned from an admitted
version, the outbox with its control revision, and the acknowledgement that closes an outbox entry. A
command carries two expected revisions, one of the Kernel's control state and one of the supervisor's
journal.
-/

namespace Iweb

/-! ## Codes -/

def wasmExecutionIdentityInvalid : String := "WASM_EXECUTION_IDENTITY_INVALID"
def wasmGenerationExhausted : String := "WASM_GENERATION_EXHAUSTED"
def wasmExecutionFenceStale : String := "WASM_EXECUTION_FENCE_STALE"
def executionCommandInvalid : String := "EXECUTION_COMMAND_INVALID"
def executionAcknowledgementV2Invalid : String := "EXECUTION_ACKNOWLEDGEMENT_V2_INVALID"
def executionOutboxDuplicateCommand : String := "EXECUTION_OUTBOX_DUPLICATE_COMMAND"
def executionOutboxCommandUnknown : String := "EXECUTION_OUTBOX_COMMAND_UNKNOWN"
def executionAckProjectionConflict : String := "EXECUTION_ACK_PROJECTION_CONFLICT"
def executionAckStale : String := "EXECUTION_ACK_STALE"
def executionOutboxDead : String := "EXECUTION_OUTBOX_DEAD"
def executionCommandIdConflict : String := "EXECUTION_COMMAND_ID_CONFLICT"
def drainReceiptInvalid : String := "DRAIN_RECEIPT_INVALID"

/-! ## Identities and generations -/

structure WasmExecutionIdentityV1 where
  sandboxId : String
  versionId : String
  preparationGeneration : Nat
  executionGeneration : Nat
deriving DecidableEq

inductive WasmExecutionOperation
  | prepare
  | start
  | drain
  | stop
deriving DecidableEq

def validateSandboxId (value : String) : Except KernelError Unit :=
  require (isSandboxId value) wasmExecutionIdentityInvalid
    "sandboxId must start with a lower-case letter and span at most 63 ASCII bytes"

def requireCommandU53 (value minimum : Nat) (field : String) : Except KernelError Unit :=
  require (minimum ≤ value && value ≤ wasmU53Max) executionCommandInvalid
    (field ++ " must be an integer between " ++ toString minimum ++ " and the u53 maximum")

def validateCommandSha256Hex (value field : String) : Except KernelError Unit :=
  require (isSha256Hex value) executionCommandInvalid (field ++ " must be 64 lower-case hex characters")

def validateExecutionIdentity (identity : WasmExecutionIdentityV1) : Except KernelError Unit := do
  validateSandboxId identity.sandboxId
  let (digest, sequence) ← recode wasmExecutionIdentityInvalid (parseWasmVersionId identity.versionId)
  require (composeWasmVersionId digest sequence == identity.versionId) wasmExecutionIdentityInvalid
    "versionId must round-trip its digest-sequence label"
  requireCommandU53 identity.preparationGeneration 0 "/preparationGeneration"
  requireCommandU53 identity.executionGeneration 0 "/executionGeneration"

/-- A preparation advances both generations. -/
def prepareGenerationTransition (current : WasmExecutionIdentityV1) :
    Except KernelError WasmExecutionIdentityV1 := do
  require (!(wasmU53Max ≤ current.preparationGeneration || wasmU53Max ≤ current.executionGeneration))
    wasmGenerationExhausted
    "generation space is exhausted; the Kernel does not wrap, reuse, or substitute zero"
  return { current with
    preparationGeneration := current.preparationGeneration + 1
    executionGeneration := current.executionGeneration + 1 }

/-- A start advances the execution generation of a prepared execution. -/
def executionGenerationTransition (current : WasmExecutionIdentityV1) :
    Except KernelError WasmExecutionIdentityV1 := do
  require (1 ≤ current.preparationGeneration) wasmExecutionIdentityInvalid
    "an execution allocation requires an existing preparation"
  require (!(wasmU53Max ≤ current.executionGeneration)) wasmGenerationExhausted
    "generation space is exhausted; the Kernel does not wrap, reuse, or substitute zero"
  return { current with executionGeneration := current.executionGeneration + 1 }

def isAliveExecutionIdentity (identity : WasmExecutionIdentityV1) : Bool :=
  1 ≤ identity.preparationGeneration && 1 ≤ identity.executionGeneration

/-! ## The command -/

structure ExecutionCommand where
  schemaVersion : Nat
  commandId : String
  expectedControlRevision : Nat
  expectedJournalRevision : Nat
  operation : WasmExecutionOperation
  identity : WasmExecutionIdentityV1
  applicationId : String
  packageDigest : String
  runtimeBinding : RuntimeBindingIdentityV2
  matrixRevision : Nat
  /-- Empty for an application without host services. -/
  hostServicePolicyDigest : String
  fenceNonce : String
  capabilityRecordRevision : Nat
  capabilityRecordHash : String
  secretRevision : Nat
  secretSnapshotRef : String
  secretValuesDigest : String
  configRevision : Nat
  configSnapshotRef : Option String
  configValuesDigest : Option String
deriving DecidableEq

/-- `WASM_CAPABILITY_MATRIX_REVISION_2` -/
def wasmCapabilityMatrixRevision2 : Nat := 2

/-- Revision 0 has no config snapshot, any other has its reference and digest. -/
def checkConfigSnapshotCoupling (configRevision : Nat) (configSnapshotRef configValuesDigest : Option String) :
    Except KernelError Unit := do
  require (!(configRevision == 0 && (configSnapshotRef.isSome || configValuesDigest.isSome)))
    executionCommandInvalid
    "configRevision 0 requires configSnapshotRef null and configValuesDigest null"
  require (!(0 < configRevision && (configSnapshotRef.isNone || configValuesDigest.isNone)))
    executionCommandInvalid
    "a non-zero configRevision requires both configSnapshotRef and configValuesDigest"
  require (configSnapshotRef.isSome == configValuesDigest.isSome) executionCommandInvalid
    "configValuesDigest is null exactly when configSnapshotRef is null"

/-- An optional SHA-256 in hex. -/
def validateOptionalSha256Hex (value : Option String) (field : String) : Except KernelError Unit :=
  match value with
  | none => .ok ()
  | some text => validateCommandSha256Hex text field

/-- `validate_execution_command` -/
def validateExecutionCommand (command : ExecutionCommand) : Except KernelError Unit := do
  let invalid (checked : Except KernelError Unit) := recode executionCommandV2Invalid checked
  require (command.schemaVersion == 2) executionCommandV2Invalid "schemaVersion must be exactly 2"
  require (isUuidV7 command.commandId) executionCommandV2Invalid
    "commandId must be a lower-case UUIDv7 (version nibble 7, RFC 9562 variant)"
  invalid (requireCommandU53 command.expectedControlRevision 0 "/expectedControlRevision")
  invalid (requireCommandU53 command.expectedJournalRevision 0 "/expectedJournalRevision")
  invalid (validateExecutionIdentity command.identity)
  require (isApplicationId command.applicationId) executionCommandV2Invalid
    "/applicationId must match ^[a-z0-9]([a-z0-9-]\x7b0,61\x7d[a-z0-9])?$"
  invalid (validateCommandSha256Hex command.packageDigest "/packageDigest")
  validateRuntimeBindingV2 command.runtimeBinding
  require (command.matrixRevision == wasmCapabilityMatrixRevision2) executionCommandV2Invalid
    "matrixRevision must be the literal 2 (service-enabled capability matrix)"
  require (command.hostServicePolicyDigest == "" || isSha256Hex command.hostServicePolicyDigest)
    executionCommandV2Invalid
    "/hostServicePolicyDigest must be empty or 64 lower-case hex characters"
  require (isLeaseNonce command.fenceNonce) executionCommandV2Invalid
    "/fenceNonce must be 32 lower-case hex characters (16 host-issued bytes)"
  invalid (requireCommandU53 command.capabilityRecordRevision 1 "/capabilityRecordRevision")
  invalid (validateCommandSha256Hex command.capabilityRecordHash "/capabilityRecordHash")
  invalid (requireCommandU53 command.secretRevision 0 "/secretRevision")
  invalid (validateCommandSha256Hex command.secretSnapshotRef "/secretSnapshotRef")
  invalid (validateCommandSha256Hex command.secretValuesDigest "/secretValuesDigest")
  invalid (requireCommandU53 command.configRevision 0 "/configRevision")
  invalid (validateOptionalSha256Hex command.configSnapshotRef "/configSnapshotRef")
  invalid (validateOptionalSha256Hex command.configValuesDigest "/configValuesDigest")
  invalid (checkConfigSnapshotCoupling command.configRevision command.configSnapshotRef
    command.configValuesDigest)

/-! ## Planning -/

/-- The digests and names the Kernel derives for commands and rows. -/
structure RuntimeRules where
  /-- `admission_proof_digest` -/
  proofDigest : AdmissionProofV1 → String
  /-- `execution_command_digest` -/
  commandDigest : ExecutionCommand → String
  /-- The sandbox of a version: `"sbx-"` and a digest of the version id. -/
  sandboxId : String → String
  /-- `plan_fence_nonce_v2`: application, version and both generations. -/
  fenceNonce : String → String → Nat → Nat → String
  /-- The digest of the empty secret values of an application, version and preparation. -/
  secretValuesDigest : String → String → Nat → String
  /-- The reference of that snapshot with its expiry time. -/
  secretSnapshotRef : String → String → Nat → String → String

/-- What a command is planned from. -/
structure KernelCommandPlanInput where
  commandId : String
  operation : WasmExecutionOperation
  controlRevision : Nat
  /-- The head of the supervisor's journal, as far as the Kernel knows it. -/
  journalHead : Nat
  sandboxId : String
  /-- The registered proof whose version the command is for. -/
  proof : AdmissionProofV1
  secretRevision : Nat
  secretSnapshotRef : String
  secretValuesDigest : String
  configRevision : Nat
  configSnapshotRef : Option String
  configValuesDigest : Option String
  currentGenerations : WasmExecutionIdentityV1

/-- The generations a command is for. -/
def nextGenerations (operation : WasmExecutionOperation) (current : WasmExecutionIdentityV1) :
    Except KernelError WasmExecutionIdentityV1 :=
  match operation with
  | .prepare => prepareGenerationTransition current
  | .start => executionGenerationTransition current
  | .drain | .stop => do
    require (isAliveExecutionIdentity current) wasmExecutionFenceStale
      "drain and stop require an alive execution (both generations >= 1)"
    return current

variable (R : RuntimeRules)

/-- `plan_execution_command`; the version row is the row of the given proof. -/
def planExecutionCommand (input : KernelCommandPlanInput) : Except KernelError ExecutionCommand := do
  require (isUuidV7 input.commandId) executionCommandInvalid
    "commandId must be a lower-case UUIDv7 (version nibble 7, RFC 9562 variant)"
  validateSandboxId input.sandboxId
  require (input.currentGenerations.sandboxId == input.sandboxId &&
      input.currentGenerations.versionId == input.proof.versionId) wasmExecutionIdentityInvalid
    "the generation clock must belong to the same sandbox and registry version"
  require (composeWasmVersionId input.proof.versionDigest input.proof.sequence == input.proof.versionId)
    executionCommandV2Invalid "registry row versionId must be its identity digest-sequence label"
  let next ← nextGenerations input.operation input.currentGenerations
  require (isApplicationId input.proof.applicationId) executionCommandV2Invalid
    "/applicationId must match ^[a-z0-9]([a-z0-9-]\x7b0,61\x7d[a-z0-9])?$"
  require (input.proof.policyDigest == "" || isSha256Hex input.proof.policyDigest)
    executionCommandV2Invalid
    "/hostServicePolicyDigest must be empty or 64 lower-case hex characters"
  let runtimeBinding ← runtimeBindingV2FromV1 input.proof.runtimeBinding
  let command : ExecutionCommand :=
    { schemaVersion := 2
      commandId := input.commandId
      expectedControlRevision := input.controlRevision
      expectedJournalRevision := input.journalHead
      operation := input.operation
      identity := next
      applicationId := input.proof.applicationId
      packageDigest := input.proof.packageDigest
      runtimeBinding := runtimeBinding
      matrixRevision := wasmCapabilityMatrixRevision2
      hostServicePolicyDigest := input.proof.policyDigest
      fenceNonce := R.fenceNonce input.proof.applicationId input.proof.versionId
        next.preparationGeneration next.executionGeneration
      capabilityRecordRevision := input.proof.capabilityRecordRevision
      capabilityRecordHash := input.proof.capabilityRecordHash
      secretRevision := input.secretRevision
      secretSnapshotRef := input.secretSnapshotRef
      secretValuesDigest := input.secretValuesDigest
      configRevision := input.configRevision
      configSnapshotRef := input.configSnapshotRef
      configValuesDigest := input.configValuesDigest }
  validateExecutionCommand command
  return command

/-! ## The outbox -/

inductive OutboxDeliveryState
  | pending
  | sent
  | acknowledged
  | dead
deriving DecidableEq

structure CommandOutboxRecord where
  commandId : String
  command : ExecutionCommand
  createdAt : String
  deliveryState : OutboxDeliveryState
  attempts : Nat
  lastAttemptAt : Option String
deriving DecidableEq

/-- An entry that still has to be delivered. -/
def CommandOutboxRecord.isOpen (entry : CommandOutboxRecord) : Bool :=
  entry.deliveryState == .pending || entry.deliveryState == .sent

/-- An execution that drains after its version was replaced. -/
structure RetiringExecutionRecord where
  drainCommandId : String
  applicationId : String
  execution : WasmExecutionIdentityV1
  packageDigest : String
  runtimeBinding : RuntimeBindingIdentityV1
  routeGeneration : Nat
  deadlineAtEpochMillis : Nat
  flipAtEpochMillis : Nat
  retired : Bool
  acceptedReceiptDigest : Option String
deriving DecidableEq

/-- The control revision, the outbox and the retiring executions. -/
structure WasmCommandControlState where
  controlRevision : Nat
  commandOutbox : List CommandOutboxRecord
  retirements : List RetiringExecutionRecord

/-- The revision CAS every mutation of the control state starts with. -/
def checkControlRevision (state : WasmCommandControlState) (expected : Nat) : Except KernelError Unit := do
  require (state.controlRevision == expected) controlRevisionConflict
    "control revision CAS requires the current head; a mismatch writes nothing"

def checkControlRevisionSpace (expected : Nat) : Except KernelError Unit :=
  require (expected < wasmU53Max) controlRevisionConflict "control revision space is exhausted"

/-- A new outbox entry. -/
def pendingEntry (command : ExecutionCommand) (createdAt : String) : CommandOutboxRecord where
  commandId := command.commandId
  command := command
  createdAt := createdAt
  deliveryState := .pending
  attempts := 0
  lastAttemptAt := none

/-- `authorize_command` -/
def WasmCommandControlState.authorizeCommand (state : WasmCommandControlState)
    (expectedControlRevision : Nat) (command : ExecutionCommand) (createdAt : String) :
    Except KernelError WasmCommandControlState := do
  checkControlRevision state expectedControlRevision
  checkControlRevisionSpace expectedControlRevision
  validateExecutionCommand command
  let _ ← recode executionCommandInvalid (parseRfc3339UtcMillis createdAt)
  require (!(state.commandOutbox.any fun entry => entry.commandId == command.commandId))
    executionOutboxDuplicateCommand
    "outbox commandId must be unique; a duplicate append is fail-closed, never merged"
  return { state with
    commandOutbox := state.commandOutbox ++ [pendingEntry command createdAt]
    controlRevision := expectedControlRevision + 1 }

/-- `authorize_drain_with_retirement` -/
def WasmCommandControlState.authorizeDrainWithRetirement (state : WasmCommandControlState)
    (expectedControlRevision : Nat) (command : ExecutionCommand) (createdAt : String)
    (record : RetiringExecutionRecord) : Except KernelError WasmCommandControlState := do
  checkControlRevision state expectedControlRevision
  checkControlRevisionSpace expectedControlRevision
  require (command.operation == .drain) executionCommandInvalid
    "a retiring execution may be authorized only with a drain command"
  validateExecutionCommand command
  let _ ← recode executionCommandInvalid (parseRfc3339UtcMillis createdAt)
  let recordBinding ← recode drainReceiptInvalid (runtimeBindingV2FromV1 record.runtimeBinding)
  require (record.drainCommandId == command.commandId && record.execution == command.identity &&
      record.packageDigest == command.packageDigest && recordBinding == command.runtimeBinding)
    drainReceiptInvalid "the retiring execution must exactly echo its authorized drain command"
  require (isApplicationId record.applicationId) drainReceiptInvalid
    "applicationId must match ^[a-z0-9]([a-z0-9-]\x7b0,61\x7d[a-z0-9])?$"
  validateExecutionIdentity record.execution
  validateCommandSha256Hex record.packageDigest "/packageDigest"
  validateRuntimeBinding record.runtimeBinding
  requireCommandU53 record.routeGeneration 0 "/routeGeneration"
  require (record.flipAtEpochMillis ≤ record.deadlineAtEpochMillis) drainReceiptInvalid
    "the drain deadline supplied by the capability record must not precede the route flip"
  require (!(record.retired || record.acceptedReceiptDigest.isSome)) drainReceiptInvalid
    "a retiring record is created unretired; retirement is reachable only through receipt projection"
  require (!(state.commandOutbox.any fun entry => entry.commandId == command.commandId) &&
      !(state.retirements.any fun entry => entry.drainCommandId == record.drainCommandId))
    executionOutboxDuplicateCommand "a drain command and retiring execution are each recorded once"
  return {
    commandOutbox := state.commandOutbox ++ [pendingEntry command createdAt]
    retirements := state.retirements ++ [record]
    controlRevision := expectedControlRevision + 1 }

/-- Change the first entry with a command id. -/
def updateEntry (commandId : String) (update : CommandOutboxRecord → CommandOutboxRecord) :
    List CommandOutboxRecord → List CommandOutboxRecord
  | [] => []
  | entry :: entries =>
    if entry.commandId = commandId then update entry :: entries
    else entry :: updateEntry commandId update entries

/-- `record_delivery_attempt` -/
def WasmCommandControlState.recordDeliveryAttempt (state : WasmCommandControlState)
    (expectedControlRevision : Nat) (commandId attemptedAt : String) :
    Except KernelError WasmCommandControlState := do
  checkControlRevision state expectedControlRevision
  match state.commandOutbox.find? fun entry => entry.commandId == commandId with
  | none => .error ⟨executionOutboxCommandUnknown,
      "delivery bookkeeping names no authorized outbox command"⟩
  | some entry => do
    let _ ← recode executionCommandInvalid (parseRfc3339UtcMillis attemptedAt)
    match entry.deliveryState with
    | .dead => .error ⟨executionOutboxDead,
        "a dead outbox entry is owner-visible and never silently retried"⟩
    | .acknowledged => return state
    | .pending | .sent => do
      checkControlRevisionSpace expectedControlRevision
      let attempted := fun entry : CommandOutboxRecord => { entry with
        deliveryState := .sent
        attempts := entry.attempts + 1
        lastAttemptAt := some attemptedAt }
      return { state with
        commandOutbox := updateEntry commandId attempted state.commandOutbox
        controlRevision := expectedControlRevision + 1 }

/-! ## Acknowledgements -/

inductive AcknowledgementResult
  | applied
  | rejected
deriving DecidableEq

structure ExecutionAcknowledgement where
  schemaVersion : Nat
  commandId : String
  operation : WasmExecutionOperation
  identity : WasmExecutionIdentityV1
  applicationId : String
  packageDigest : String
  runtimeBinding : RuntimeBindingIdentityV2
  matrixRevision : Nat
  hostServicePolicyDigest : String
  fenceNonce : String
  capabilityRecordRevision : Nat
  capabilityRecordHash : String
  secretRevision : Nat
  secretSnapshotRef : String
  secretValuesDigest : String
  configRevision : Nat
  configSnapshotRef : Option String
  configValuesDigest : Option String
  drainReceiptDigest : Option String
  result : AcknowledgementResult
  failureCode : Option String
  journalRevision : Nat
deriving DecidableEq

/-- `^[A-Z][A-Z0-9_]{0,63}$` -/
def isFailureCode (s : String) : Bool :=
  match bytes s with
  | [] => false
  | b :: bs => inRange 'A' 'Z' b && bs.length ≤ 63 &&
      bs.all fun b => inRange 'A' 'Z' b || isDecimalDigit b || b == ascii '_'

/-- `validate_execution_acknowledgement` -/
def validateExecutionAcknowledgement (ack : ExecutionAcknowledgement) : Except KernelError Unit := do
  let check (ok : Bool) (detail : String) := require ok executionAcknowledgementV2Invalid detail
  let invalid (checked : Except KernelError Unit) := recode executionAcknowledgementV2Invalid checked
  check (ack.schemaVersion == 2) "schemaVersion must be exactly 2"
  check (isUuidV7 ack.commandId)
    "commandId must be a lower-case UUIDv7 (version nibble 7, RFC 9562 variant)"
  invalid (validateExecutionIdentity ack.identity)
  check (isApplicationId ack.applicationId)
    "/applicationId must match ^[a-z0-9]([a-z0-9-]\x7b0,61\x7d[a-z0-9])?$"
  invalid (validateCommandSha256Hex ack.packageDigest "/packageDigest")
  invalid (validateRuntimeBindingV2 ack.runtimeBinding)
  check (ack.matrixRevision == wasmCapabilityMatrixRevision2)
    "matrixRevision must be the literal 2 (service-enabled capability matrix)"
  require (ack.hostServicePolicyDigest == "" || isSha256Hex ack.hostServicePolicyDigest)
    executionCommandV2Invalid
    "/hostServicePolicyDigest must be empty or 64 lower-case hex characters"
  check (isLeaseNonce ack.fenceNonce)
    "/fenceNonce must be 32 lower-case hex characters (16 host-issued bytes)"
  invalid (requireCommandU53 ack.capabilityRecordRevision 1 "/capabilityRecordRevision")
  invalid (validateCommandSha256Hex ack.capabilityRecordHash "/capabilityRecordHash")
  invalid (requireCommandU53 ack.secretRevision 0 "/secretRevision")
  invalid (validateCommandSha256Hex ack.secretSnapshotRef "/secretSnapshotRef")
  invalid (validateCommandSha256Hex ack.secretValuesDigest "/secretValuesDigest")
  invalid (requireCommandU53 ack.configRevision 0 "/configRevision")
  invalid (validateOptionalSha256Hex ack.configSnapshotRef "/configSnapshotRef")
  invalid (validateOptionalSha256Hex ack.configValuesDigest "/configValuesDigest")
  invalid (validateOptionalSha256Hex ack.drainReceiptDigest "/drainReceiptDigest")
  check (ack.failureCode.all isFailureCode) "failureCode must match ^[A-Z][A-Z0-9_]\x7b0,63\x7d$"
  invalid (requireCommandU53 ack.journalRevision 0 "/journalRevision")
  invalid (checkConfigSnapshotCoupling ack.configRevision ack.configSnapshotRef ack.configValuesDigest)
  check (!(ack.result == .applied && ack.failureCode.isSome))
    "an applied acknowledgement must carry failureCode null"
  check (!(ack.result == .rejected && ack.failureCode.isNone))
    "a rejected acknowledgement must carry a bounded failureCode"
  let appliedDrain := ack.operation == .drain && ack.result == .applied
  check (!(appliedDrain && ack.drainReceiptDigest.isNone))
    "an applied drain acknowledgement must carry the DrainReceiptV1 digest"
  check (!(!appliedDrain && ack.drainReceiptDigest.isSome))
    "drainReceiptDigest is non-null only for operation drain with result applied"

/-- `correlate_acknowledgement`: the acknowledgement echoes its command. -/
def correlateAcknowledgement (command : ExecutionCommand) (ack : ExecutionAcknowledgement) :
    Except KernelError Unit := do
  require (ack.commandId == command.commandId) "COMMAND_ID_MISMATCH"
    "acknowledgement command ID does not match the command"
  require (ack.operation == command.operation) "OPERATION_MISMATCH"
    "acknowledgement operation does not match the command"
  require (ack.identity == command.identity) "IDENTITY_MISMATCH"
    "acknowledgement execution identity does not match the command"
  require (ack.applicationId == command.applicationId) "IDENTITY_MISMATCH"
    "acknowledgement applicationId does not match the command"
  require (ack.packageDigest == command.packageDigest) "PACKAGE_DIGEST_MISMATCH"
    "acknowledgement package digest does not match the command"
  require (ack.runtimeBinding == command.runtimeBinding) "RUNTIME_BINDING_MISMATCH"
    "acknowledgement runtime binding does not match the command"
  require (ack.matrixRevision == command.matrixRevision) "IDENTITY_MISMATCH"
    "acknowledgement matrixRevision does not match the command"
  require (ack.hostServicePolicyDigest == command.hostServicePolicyDigest) "POLICY_MISMATCH"
    "acknowledgement hostServicePolicyDigest does not match the command"
  require (ack.fenceNonce == command.fenceNonce) "IDENTITY_MISMATCH"
    "acknowledgement fenceNonce does not match the command"
  require (ack.capabilityRecordRevision == command.capabilityRecordRevision &&
      ack.capabilityRecordHash == command.capabilityRecordHash) "CAPABILITY_RECORD_MISMATCH"
    "acknowledgement capability record pin does not match the command"
  require (ack.secretRevision == command.secretRevision &&
      ack.secretSnapshotRef == command.secretSnapshotRef &&
      ack.secretValuesDigest == command.secretValuesDigest) "SECRET_SNAPSHOT_MISMATCH"
    "acknowledgement secret snapshot fields do not match the command"
  require (ack.configRevision == command.configRevision &&
      ack.configSnapshotRef == command.configSnapshotRef &&
      ack.configValuesDigest == command.configValuesDigest) "CONFIG_SNAPSHOT_MISMATCH"
    "acknowledgement config snapshot fields do not match the command"

inductive AcknowledgementProjection
  | projected
  | alreadyAcknowledged
deriving DecidableEq

/-- `project_acknowledgement` -/
def WasmCommandControlState.projectAcknowledgement (state : WasmCommandControlState)
    (expectedControlRevision : Nat) (ack : ExecutionAcknowledgement) :
    Except KernelError (WasmCommandControlState × AcknowledgementProjection) := do
  checkControlRevision state expectedControlRevision
  validateExecutionAcknowledgement ack
  match state.commandOutbox.find? fun entry => entry.commandId == ack.commandId with
  | none => .error ⟨executionOutboxCommandUnknown,
      "the acknowledgement names no authorized outbox command"⟩
  | some entry => do
    correlateAcknowledgement entry.command ack
    match entry.deliveryState with
    | .dead => .error ⟨executionAckProjectionConflict,
        "a dead outbox entry is never resurrected by an acknowledgement"⟩
    | .acknowledged => return (state, .alreadyAcknowledged)
    | .pending | .sent => do
      require (entry.command.expectedJournalRevision + 2 ≤ ack.journalRevision) executionAckStale
        "the acknowledgement journal revision cannot precede its received entry"
      checkControlRevisionSpace expectedControlRevision
      let acknowledged := fun entry : CommandOutboxRecord =>
        { entry with deliveryState := .acknowledged }
      return ({ state with
        commandOutbox := updateEntry ack.commandId acknowledged state.commandOutbox
        controlRevision := expectedControlRevision + 1 }, .projected)

/-! ## Reconciliation with the journal -/

/-- What a query of the supervisor's journal says about a command. -/
inductive JournalObservation
  | missing
  | receivedIncomplete
  | completed (ack : ExecutionAcknowledgement)

inductive ReconciliationStep
  | deliverCommand
  | replayResume
  | projectAcknowledgement (ack : ExecutionAcknowledgement)
  | alreadyProjected

/-- `decide_reconciliation` -/
def decideReconciliation (outbox : CommandOutboxRecord) (journal : JournalObservation) :
    Except KernelError ReconciliationStep :=
  match outbox.deliveryState with
  | .dead => .error ⟨executionOutboxDead,
      "a dead outbox entry is owner-visible and never silently retried"⟩
  | .acknowledged => .ok .alreadyProjected
  | .pending | .sent =>
    match journal with
    | .missing => .ok .deliverCommand
    | .receivedIncomplete => .ok .replayResume
    | .completed ack => do
      correlateAcknowledgement outbox.command ack
      return .projectAcknowledgement ack

end Iweb
