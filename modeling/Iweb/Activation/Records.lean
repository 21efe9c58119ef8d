import Iweb.Kernel.Identity
import Std.Data.ExtTreeMap

/-!
# Activation records

The readiness lease, the activation command with its candidate, the route event, the rollback record
and the per-application activation state, with the structural validation of each.

A record carries its own digest: `digestV2(domain, JCS(record without the digest member))`. The digest
function is a parameter; its argument is the record itself with that member blanked, so a digest
depends on every other member and on nothing else.
-/

namespace Iweb

open Std (ExtTreeMap)

/-! ## Stable codes -/

def activationRouteConflict : String := "ACTIVATION_ROUTE_CONFLICT"
def readinessLeaseExpired : String := "READINESS_LEASE_EXPIRED"
def readinessLeaseMismatch : String := "READINESS_LEASE_MISMATCH"
def activationCandidateNotReady : String := "ACTIVATION_CANDIDATE_NOT_READY"
def activationBindingRevoked : String := "ACTIVATION_BINDING_REVOKED"
def activationIdConflict : String := "ACTIVATION_ID_CONFLICT"
def wasmActivationInvalid : String := "WASM_ACTIVATION_INVALID"
def wasmActivationFailClosed : String := "WASM_ACTIVATION_FAIL_CLOSED"
def wasmActivationRepairRequired : String := "WASM_ACTIVATION_REPAIR_REQUIRED"
def wasmActivationSimulatedCrash : String := "WASM_ACTIVATION_SIMULATED_CRASH"
def controlRevisionConflict : String := "CONTROL_REVISION_CONFLICT"

/-! ## Field checks -/

/-- A check that fails with `WASM_ACTIVATION_INVALID`. -/
def activationCheck (ok : Bool) (detail : String) : Except KernelError Unit :=
  require ok wasmActivationInvalid detail

def checkApplicationId (value : String) : Except KernelError Unit :=
  activationCheck (isApplicationId value)
    "applicationId must match ^[a-z0-9]([a-z0-9-]\x7b0,61\x7d[a-z0-9])?$"

def checkSandboxId (value : String) : Except KernelError Unit :=
  activationCheck (isSandboxId value)
    "sandboxId must start with a lower-case letter and be at most 63 ASCII bytes"

def checkSha256Hex (value field : String) : Except KernelError Unit :=
  activationCheck (isSha256Hex value) (field ++ " must be 64 lower-case hex characters")

/-- A policy pin is empty (no host services) or a SHA-256 in hex. -/
def checkPolicyDigest (value field : String) : Except KernelError Unit :=
  activationCheck (value == "" || isSha256Hex value)
    (field ++ " must be empty or 64 lower-case hex characters")

def checkUuidV7 (value field : String) : Except KernelError Unit :=
  activationCheck (isUuidV7 value) (field ++ " must be a lower-case UUIDv7")

def requireU53 (value minimum maximum : Nat) (field : String) : Except KernelError Unit :=
  activationCheck (isU53Between value minimum maximum)
    (field ++ " must be an integer between " ++ toString minimum ++ " and " ++ toString maximum)

/-- An optional SHA-256 in hex. -/
def checkOptionalSha256Hex (value : Option String) (field : String) : Except KernelError Unit :=
  match value with
  | none => .ok ()
  | some text => checkSha256Hex text field

/-- Revision 0 has neither a config snapshot nor a digest; a non-zero revision has both. -/
def checkConfigCoupling (configRevision : Nat) (configSnapshotRef configValuesDigest : Option String)
    (field : String) : Except KernelError Unit := do
  activationCheck (configSnapshotRef.isSome == configValuesDigest.isSome)
    (field ++ ": configValuesDigest is null exactly when configSnapshotRef is null")
  activationCheck (!(configRevision == 0 && configSnapshotRef.isSome))
    (field ++ ": configRevision 0 requires configSnapshotRef null and configValuesDigest null")
  activationCheck (!(0 < configRevision && !configSnapshotRef.isSome))
    (field ++ ": a non-zero configRevision requires both configSnapshotRef and configValuesDigest")

/-- Parse a version id of an activation record; `path` names the member. -/
def parseActivationVersionId (versionId path : String) : Except KernelError (String × Nat) :=
  recodeAt wasmActivationInvalid path (parseWasmVersionId versionId)

/-- Parse a timestamp of an activation record; `path` names the member. -/
def parseActivationTime (value path : String) : Except KernelError Nat :=
  recodeAt wasmActivationInvalid path (parseRfc3339UtcMillis value)

/-! ## Records -/

/-- The readiness lease a health probe writes for one prepared execution. -/
structure ServiceReadinessLeaseV2 where
  schemaVersion : Nat
  leaseNonce : String
  sandboxId : String
  versionId : String
  packageDigest : String
  runtimeBinding : RuntimeBindingIdentityV2
  capabilityRecordRevision : Nat
  capabilityRecordHash : String
  /-- The host-service policy pin; empty for an application without host services. -/
  hostServicePolicyDigest : String
  secretRevision : Nat
  secretValuesDigest : String
  configRevision : Nat
  configSnapshotRef : Option String
  configValuesDigest : Option String
  preparationGeneration : Nat
  executionGeneration : Nat
  issuedAt : String
  expiresAt : String
  leaseDigest : String
deriving DecidableEq

inductive ActivationOperation
  | activate
  | rollback
deriving DecidableEq

/-- What an activation command proposes to route to. -/
structure ActivationCandidate where
  runtimeKind : String
  sandboxId : String
  versionId : String
  packageDigest : String
  runtimeBinding : RuntimeBindingIdentityV2
  admissionProofRef : String
  admissionProofDigest : String
  preparationGeneration : Nat
  executionGeneration : Nat
  secretRevision : Nat
  secretValuesDigest : String
  configRevision : Nat
  configSnapshotRef : Option String
  configValuesDigest : Option String
  leaseNonce : String
  leaseDigest : String
deriving DecidableEq

/-- An owner's activation or rollback command. -/
structure ActivationCommand where
  schemaVersion : Nat
  activationId : String
  applicationId : String
  operation : ActivationOperation
  expectedRouteGeneration : Nat
  expectedControlRevision : Nat
  candidate : ActivationCandidate
  hostServicePolicyDigest : String
  capabilityRecordRevision : Nat
  capabilityRecordHash : String
  requestedAt : String
  commandDigest : String
deriving DecidableEq

inductive LeaseConsumeOutcome
  | consumed
  | alreadyConsumed
  | rejected
deriving DecidableEq

/-- The lease consumption embedded in a route event. -/
structure LeaseConsumeRecord where
  schemaVersion : Nat
  leaseNonce : String
  leaseDigest : String
  activationId : String
  applicationId : String
  versionId : String
  expectedRouteGeneration : Nat
  consumedAt : String
  outcome : LeaseConsumeOutcome
  routeGeneration : Nat
deriving DecidableEq

inductive RouteEventResult
  | activated
  | rejected
deriving DecidableEq

/-- The durable answer to an activation command. -/
structure RouteEvent where
  schemaVersion : Nat
  eventId : String
  activationId : String
  applicationId : String
  runtimeKind : String
  operation : ActivationOperation
  expectedRouteGeneration : Nat
  previous : WasmActivePointerV1
  next : WasmActivePointerV1
  leaseConsume : LeaseConsumeRecord
  result : RouteEventResult
  reasonCode : Option String
  hostServicePolicyDigest : String
  controlRevision : Nat
  routeGeneration : Nat
  createdAt : String
  eventDigest : String
deriving DecidableEq

inductive RollbackRecordResult
  | applied
  | rejected
deriving DecidableEq

/-- The retention record a successful rollback appends. -/
structure RollbackRecord where
  schemaVersion : Nat
  rollbackId : String
  applicationId : String
  fromVersionId : String
  toVersionId : String
  expectedRouteGeneration : Nat
  expectedControlRevision : Nat
  routeEvent : RouteEvent
  hostServicePolicyDigest : String
  reasonCode : Option String
  result : RollbackRecordResult
  createdAtEpochMillis : Nat
  rollbackDigest : String
deriving DecidableEq

/-! ## Self-digests -/

/-- A record whose own digest member is blank, as input of `digestV2`. -/
inductive DigestPayload
  | lease (record : ServiceReadinessLeaseV2)
  | command (record : ActivationCommand)
  | routeEvent (record : RouteEvent)
  | rollback (record : RollbackRecord)

/-- The digest function: SHA-256 over a domain and the canonical bytes of a record. -/
structure Digests where
  digestV2 : String → DigestPayload → String

variable (D : Digests)

def computeServiceReadinessLeaseDigest (lease : ServiceReadinessLeaseV2) : String :=
  D.digestV2 "iweb-wasm-readiness-v2" (.lease { lease with leaseDigest := "" })

def computeActivationCommandDigest (command : ActivationCommand) : String :=
  D.digestV2 "iweb-wasm-activation-v2" (.command { command with commandDigest := "" })

def computeRouteEventDigest (event : RouteEvent) : String :=
  D.digestV2 "iweb-wasm-route-event-v2" (.routeEvent { event with eventDigest := "" })

def computeRollbackRecordDigest (record : RollbackRecord) : String :=
  D.digestV2 "iweb-wasm-rollback-v2" (.rollback { record with rollbackDigest := "" })

/-- Seal an event: the digest covers every other member. -/
def routeEventSealed (event : RouteEvent) : RouteEvent :=
  { event with eventDigest := computeRouteEventDigest D event }

/-! ## Validation -/

def ServiceReadinessLeaseV2.issuedAtEpochMillis (lease : ServiceReadinessLeaseV2) :
    Except KernelError Nat :=
  parseActivationTime lease.issuedAt "/issuedAt"

def ServiceReadinessLeaseV2.expiresAtEpochMillis (lease : ServiceReadinessLeaseV2) :
    Except KernelError Nat :=
  parseActivationTime lease.expiresAt "/expiresAt"

/-- Structural validation of a lease; every failure is a `READINESS_LEASE_MISMATCH`. -/
def ServiceReadinessLeaseV2.validate (lease : ServiceReadinessLeaseV2) : Except KernelError Unit := do
  let check (ok : Bool) (detail : String) := require ok readinessLeaseMismatch detail
  let mismatch {α : Type} (x : Except KernelError α) := recode readinessLeaseMismatch x
  check (lease.schemaVersion == 2) "schemaVersion must be exactly 2 for a ServiceReadinessLeaseV2"
  check (isLeaseNonce lease.leaseNonce) "leaseNonce must be 32 lower-case hex characters"
  mismatch (checkSandboxId lease.sandboxId)
  mismatch (checkSha256Hex lease.packageDigest "packageDigest")
  mismatch (validateRuntimeBindingV2 lease.runtimeBinding)
  mismatch (requireU53 lease.capabilityRecordRevision 1 wasmU53Max "capabilityRecordRevision")
  mismatch (checkSha256Hex lease.capabilityRecordHash "capabilityRecordHash")
  mismatch (checkPolicyDigest lease.hostServicePolicyDigest "hostServicePolicyDigest")
  mismatch (requireU53 lease.secretRevision 0 wasmU53Max "secretRevision")
  mismatch (checkSha256Hex lease.secretValuesDigest "secretValuesDigest")
  mismatch (requireU53 lease.configRevision 0 wasmU53Max "configRevision")
  mismatch (checkOptionalSha256Hex lease.configSnapshotRef "configSnapshotRef")
  mismatch (checkOptionalSha256Hex lease.configValuesDigest "configValuesDigest")
  mismatch (checkConfigCoupling lease.configRevision lease.configSnapshotRef
    lease.configValuesDigest "lease")
  mismatch (requireU53 lease.preparationGeneration 1 wasmU53Max "preparationGeneration")
  mismatch (requireU53 lease.executionGeneration 1 wasmU53Max "executionGeneration")
  let expiresAt ← mismatch lease.expiresAtEpochMillis
  let issuedAt ← mismatch lease.issuedAtEpochMillis
  check (issuedAt < expiresAt) "expiresAt must be later than issuedAt"
  check (lease.leaseDigest == computeServiceReadinessLeaseDigest D lease)
    "leaseDigest does not equal digestV2(\"iweb-wasm-readiness-v2\", JCS(record with leaseDigest omitted))"

/-- At the linearization instant a lease is expired from its `expiresAt` on. -/
def checkReadinessLeaseExpiryAtCas (nowEpochMillis expiresAtEpochMillis : Nat) :
    Except KernelError Unit :=
  require (nowEpochMillis < expiresAtEpochMillis) readinessLeaseExpired
    "the readiness lease expired at or before the CAS linearization instant; a fresh preparation plus exact health attestation is required"

def ActivationCandidate.validate (candidate : ActivationCandidate) (applicationId : String) :
    Except KernelError Unit := do
  activationCheck (candidate.runtimeKind == "wasm") "candidate runtimeKind must be exactly \"wasm\""
  checkSandboxId candidate.sandboxId
  checkSha256Hex candidate.packageDigest "packageDigest"
  let (_, sequence) ← parseActivationVersionId candidate.versionId "/versionId"
  requireU53 sequence 1 wasmU53Max "sequence"
  recode wasmActivationInvalid (validateRuntimeBindingV2 candidate.runtimeBinding)
  activationCheck
    (candidate.admissionProofRef == "admission-proof/" ++ applicationId ++ "/" ++ candidate.versionId)
    "admissionProofRef must equal \"admission-proof/<applicationId>/<versionId>\""
  checkSha256Hex candidate.admissionProofDigest "admissionProofDigest"
  requireU53 candidate.preparationGeneration 1 wasmU53Max "preparationGeneration"
  requireU53 candidate.executionGeneration 1 wasmU53Max "executionGeneration"
  requireU53 candidate.secretRevision 0 wasmU53Max "secretRevision"
  checkSha256Hex candidate.secretValuesDigest "secretValuesDigest"
  requireU53 candidate.configRevision 0 wasmU53Max "configRevision"
  checkOptionalSha256Hex candidate.configSnapshotRef "configSnapshotRef"
  checkOptionalSha256Hex candidate.configValuesDigest "configValuesDigest"
  checkConfigCoupling candidate.configRevision candidate.configSnapshotRef
    candidate.configValuesDigest "candidate"
  activationCheck (isLeaseNonce candidate.leaseNonce) "leaseNonce must be 32 lower-case hex characters"
  checkSha256Hex candidate.leaseDigest "leaseDigest"

def ActivationCommand.validate (command : ActivationCommand) : Except KernelError Unit := do
  activationCheck (command.schemaVersion == 2) "schemaVersion must be exactly 2"
  checkUuidV7 command.activationId "activationId"
  checkApplicationId command.applicationId
  requireU53 command.expectedRouteGeneration 0 wasmU53Max "expectedRouteGeneration"
  requireU53 command.expectedControlRevision 0 wasmU53Max "expectedControlRevision"
  checkPolicyDigest command.hostServicePolicyDigest "hostServicePolicyDigest"
  requireU53 command.capabilityRecordRevision 1 wasmU53Max "capabilityRecordRevision"
  checkSha256Hex command.capabilityRecordHash "capabilityRecordHash"
  let _ ← parseActivationTime command.requestedAt "/requestedAt"
  checkSha256Hex command.commandDigest "commandDigest"
  command.candidate.validate command.applicationId
  activationCheck (computeActivationCommandDigest D command == command.commandDigest)
    "commandDigest does not equal digestV2(\"iweb-wasm-activation-v2\", JCS(record with commandDigest omitted))"

/-- A reason code is absent or a bounded upper-case code. -/
def checkReasonCode : Option String → Except KernelError Unit
  | none => .ok ()
  | some code =>
    let bs := bytes code
    activationCheck
      (!bs.isEmpty && bs.length ≤ 64 && bs.head?.any (inRange 'A' 'Z') &&
        bs.all fun b => inRange 'A' 'Z' b || isDecimalDigit b || b == ascii '_')
      "reasonCode must be null or a bounded upper-case code"

/-- Structural validation of a stored route event. -/
def validateRouteEvent (event : RouteEvent) : Except KernelError Unit := do
  activationCheck (event.schemaVersion == 2) "schemaVersion must be exactly 2"
  checkUuidV7 event.eventId "eventId"
  checkUuidV7 event.activationId "activationId"
  checkApplicationId event.applicationId
  activationCheck (event.runtimeKind == "wasm") "runtimeKind must be exactly \"wasm\""
  requireU53 event.expectedRouteGeneration 0 wasmU53Max "expectedRouteGeneration"
  requireU53 event.controlRevision 0 wasmU53Max "controlRevision"
  requireU53 event.routeGeneration 0 wasmU53Max "routeGeneration"
  let _ ← parseActivationTime event.createdAt "/createdAt"
  checkPolicyDigest event.hostServicePolicyDigest "hostServicePolicyDigest"
  checkSha256Hex event.eventDigest "eventDigest"
  checkReasonCode event.reasonCode
  activationCheck (event.leaseConsume.schemaVersion == 1) "leaseConsume/schemaVersion must be exactly 1"
  activationCheck (isLeaseNonce event.leaseConsume.leaseNonce)
    "leaseConsume/leaseNonce must be 32 lower-case hex characters"
  checkSha256Hex event.leaseConsume.leaseDigest "leaseConsume/leaseDigest"
  let _ ← parseActivationTime event.leaseConsume.consumedAt "/leaseConsume/consumedAt"
  match event.result with
  | .activated =>
    activationCheck event.reasonCode.isNone "an activated event must carry reasonCode null"
    activationCheck (event.leaseConsume.outcome == .consumed)
      "an activated event must carry leaseConsume outcome consumed"
    activationCheck (event.routeGeneration == event.expectedRouteGeneration + 1)
      "an activated event must carry routeGeneration = expectedRouteGeneration + 1"
  | .rejected =>
    activationCheck event.reasonCode.isSome "a rejected event must carry a bounded reasonCode"
    activationCheck (event.leaseConsume.outcome != .consumed)
      "a rejected event must not consume the lease nonce"
    activationCheck (event.next == event.previous)
      "a rejected event must keep the previous route pointer"
  activationCheck (computeRouteEventDigest D event == event.eventDigest)
    "eventDigest does not equal digestV2(\"iweb-wasm-route-event-v2\", JCS(record with eventDigest omitted))"

/-- `u64::MAX` -/
def u64Max : Nat := 18446744073709551615

/-- Structural validation of a stored rollback record. -/
def validateRollbackRecord (record : RollbackRecord) : Except KernelError Unit := do
  activationCheck (record.schemaVersion == 2) "schemaVersion must be exactly 2"
  checkUuidV7 record.rollbackId "rollbackId"
  checkApplicationId record.applicationId
  if record.fromVersionId != "" then
    let (_, sequence) ← parseActivationVersionId record.fromVersionId "/fromVersionId"
    requireU53 sequence 1 wasmU53Max "fromVersionId/sequence"
  let (_, sequence) ← parseActivationVersionId record.toVersionId "/toVersionId"
  requireU53 sequence 1 wasmU53Max "toVersionId/sequence"
  requireU53 record.expectedRouteGeneration 0 wasmU53Max "expectedRouteGeneration"
  requireU53 record.expectedControlRevision 0 wasmU53Max "expectedControlRevision"
  checkPolicyDigest record.hostServicePolicyDigest "hostServicePolicyDigest"
  requireU53 record.createdAtEpochMillis 0 u64Max "createdAtEpochMillis"
  checkSha256Hex record.rollbackDigest "rollbackDigest"
  checkReasonCode record.reasonCode
  match record.result with
  | .applied =>
    activationCheck record.reasonCode.isNone "an applied rollback record must carry reasonCode null"
  | .rejected =>
    activationCheck record.reasonCode.isSome
      "a rejected rollback record must carry a bounded reasonCode"
  validateRouteEvent D record.routeEvent
  activationCheck (record.routeEvent.operation == .rollback)
    "the embedded route event must be a rollback operation"
  activationCheck (record.routeEvent.applicationId == record.applicationId &&
      record.routeEvent.activationId == record.rollbackId)
    "the embedded route event must agree with the rollback record identity"
  activationCheck (computeRollbackRecordDigest D record == record.rollbackDigest)
    "rollbackDigest does not equal digestV2(\"iweb-wasm-rollback-v2\", JCS(record with rollbackDigest omitted))"

/-! ## The activation state of one application -/

/-- The write-ahead intent of a CAS: everything recovery needs to rebuild its event. -/
structure PendingActivationCas where
  command : ActivationCommand
  lease : ServiceReadinessLeaseV2
  eventId : String
  casNowEpochMillis : Nat
  controlRevision : Nat
  /-- The active pointer when the intent was written. -/
  previousPointer : WasmActivePointerV1
deriving DecidableEq

structure RecordedActivation where
  command : ActivationCommand
  event : RouteEvent
deriving DecidableEq

/-- The activation state of one application. -/
structure KernelActivationState where
  applicationId : String
  routeGeneration : Nat
  active : WasmActivePointerV1
  events : List RouteEvent
  /-- Consumed lease nonces with the digest of their lease. -/
  nonceLedger : ExtTreeMap String String
  /-- Consumed lease nonces with the activation that consumed them. -/
  nonceActivationIndex : ExtTreeMap String String
  /-- The durable answers by activation id. -/
  activationRecords : ExtTreeMap String RecordedActivation
  rollbackRetentions : List RollbackRecord
  /-- The intent of an undecided CAS; while present, no new activation is accepted. -/
  pending : Option PendingActivationCas
deriving DecidableEq

/-- The state of an application that was never activated. -/
def KernelActivationState.fresh (applicationId : String) : KernelActivationState where
  applicationId := applicationId
  routeGeneration := 0
  active := .unavailable "wasm" applicationId 0
  events := []
  nonceLedger := ∅
  nonceActivationIndex := ∅
  activationRecords := ∅
  rollbackRetentions := []
  pending := none

/-- `KernelActivationState::new` -/
def KernelActivationState.new (applicationId : String) : Except KernelError KernelActivationState := do
  checkApplicationId applicationId
  return .fresh applicationId

end Iweb
