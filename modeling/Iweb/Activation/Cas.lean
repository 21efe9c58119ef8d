import Iweb.Activation.Records

/-!
# The activation CAS decision

`evaluateActivationCas` decides an activation command against the state of its application, a readiness
lease and the facts the Kernel collects. The checks run in a fixed order; every refusal keeps the
active pointer and produces a rejected event with the code of the first check that failed.
-/

namespace Iweb

/-- The registry row of the candidate as the facts carry it. -/
structure RegistryRowFacts where
  runtimeBinding : RuntimeBindingIdentityV1
  capabilityRecordRevision : Nat
  capabilityRecordHash : String
  /-- The policy pin of the admission proof; absent without host services. -/
  hostServicePolicyDigest : Option String
  lifecycleReady : Bool
deriving DecidableEq

/-- The facts a decision reads beside the state, the command and the lease. -/
structure ActivationCasFacts where
  /-- The clock at the linearization instant. -/
  nowEpochMillis : Nat
  /-- The control revision the event is stamped with. -/
  controlRevision : Nat
  currentSecretStoreRevision : Nat
  currentPreparationGeneration : Nat
  candidateAlive : Bool
  registryRow : Option RegistryRowFacts
  bindingRevoked : Bool
  rollbackRetention : Option RollbackRecord
deriving DecidableEq

inductive ActivationCasDecision
  /-- The command takes effect: the event consumes the lease nonce. -/
  | activated (event : RouteEvent)
  /-- The command is refused: the event keeps the pointer. -/
  | rejected (event : RouteEvent)
  /-- The nonce was consumed before with the same digest: the original event. -/
  | alreadyConsumed (event : RouteEvent)
deriving DecidableEq

/-- The version identity a command's candidate names. -/
def candidateIdentity (command : ActivationCommand) : Except KernelError WasmVersionIdentity := do
  let (digest, sequence) ← parseActivationVersionId command.candidate.versionId "/versionId"
  return { applicationId := command.applicationId, digest := digest, sequence := sequence }

/-- The candidate's secret revision must be the current one. -/
def matchesSecretRevisionFence (currentRevision candidateRevision : Nat) : Bool :=
  currentRevision == candidateRevision

variable (D : Digests)

/-- The event of a refused command: pointer and generation stay, the nonce is not consumed. -/
def rejectedEvent (state : KernelActivationState) (command : ActivationCommand)
    (leaseNonce leaseDigest reason : String) (nowEpochMillis controlRevision : Nat)
    (eventId : String) : RouteEvent :=
  routeEventSealed D
    { schemaVersion := 2
      eventId := eventId
      activationId := command.activationId
      applicationId := command.applicationId
      runtimeKind := "wasm"
      operation := command.operation
      expectedRouteGeneration := command.expectedRouteGeneration
      previous := state.active
      next := state.active
      leaseConsume :=
        { schemaVersion := 1
          leaseNonce := leaseNonce
          leaseDigest := leaseDigest
          activationId := command.activationId
          applicationId := command.applicationId
          versionId := command.candidate.versionId
          expectedRouteGeneration := command.expectedRouteGeneration
          consumedAt := formatRfc3339UtcMillis nowEpochMillis
          outcome := .rejected
          routeGeneration := state.routeGeneration }
      result := .rejected
      reasonCode := some reason
      hostServicePolicyDigest := command.hostServicePolicyDigest
      controlRevision := controlRevision
      routeGeneration := state.routeGeneration
      createdAt := formatRfc3339UtcMillis nowEpochMillis
      eventDigest := "" }

/-- The members on which a lease disagrees with the candidate, the command or the registry row. -/
def leaseMismatches (command : ActivationCommand) (lease : ServiceReadinessLeaseV2)
    (registry : RegistryRowFacts) (registryBindingV2 : RuntimeBindingIdentityV2) : List String :=
  let candidate := command.candidate
  let mismatch (differs : Bool) (name : String) := if differs then [name] else []
  mismatch (lease.sandboxId != candidate.sandboxId) "sandboxId" ++
  mismatch (lease.versionId != candidate.versionId) "versionId" ++
  mismatch (lease.packageDigest != candidate.packageDigest) "packageDigest" ++
  mismatch (lease.runtimeBinding != candidate.runtimeBinding) "runtimeBinding" ++
  mismatch (lease.capabilityRecordRevision != registry.capabilityRecordRevision ||
    lease.capabilityRecordHash != registry.capabilityRecordHash) "capabilityRecord pin" ++
  mismatch (lease.hostServicePolicyDigest != command.hostServicePolicyDigest)
    "hostServicePolicyDigest (lease vs command)" ++
  mismatch (registry.hostServicePolicyDigest.getD "" != command.hostServicePolicyDigest)
    "hostServicePolicyDigest (registry row)" ++
  mismatch (registryBindingV2 != candidate.runtimeBinding) "runtimeBinding (registry row)" ++
  mismatch (lease.secretRevision != candidate.secretRevision ||
    lease.secretValuesDigest != candidate.secretValuesDigest) "secret revision/values digest" ++
  mismatch (lease.configRevision != candidate.configRevision ||
    lease.configSnapshotRef != candidate.configSnapshotRef ||
    lease.configValuesDigest != candidate.configValuesDigest) "config revision/reference/digest" ++
  mismatch (lease.preparationGeneration != candidate.preparationGeneration ||
    lease.executionGeneration != candidate.executionGeneration) "preparation/execution generations" ++
  mismatch (lease.leaseDigest != candidate.leaseDigest || lease.leaseNonce != candidate.leaseNonce)
    "lease nonce/digest"

/-- The lease agrees with the candidate, the command and the registry row on every pin. -/
def correlateReadinessLease (command : ActivationCommand) (lease : ServiceReadinessLeaseV2)
    (registry : RegistryRowFacts) : Except KernelError Unit := do
  let registryBindingV2 ←
    recode readinessLeaseMismatch (runtimeBindingV2FromV1 registry.runtimeBinding)
  let mismatches := leaseMismatches command lease registry registryBindingV2
  require mismatches.isEmpty readinessLeaseMismatch
    ("lease disagrees with the activation candidate on: " ++ ", ".intercalate mismatches)

/-- Whether the retention record lets a rollback to the candidate proceed. A damaged record is an
error, not a refusal. -/
def rollbackRetained (command : ActivationCommand) (registry : RegistryRowFacts)
    (retention : Option RollbackRecord) : Except KernelError Bool :=
  match retention with
  | none => .ok false
  | some retention => do
    match validateRollbackRecord D retention with
    | .error e => .error ⟨wasmActivationFailClosed,
        "the rollback retention record is invalid: " ++ e.detail⟩
    | .ok () =>
      match retention.routeEvent.next with
      | .unavailable .. => .ok false
      | .active pointer =>
        .ok (retention.toVersionId == command.candidate.versionId &&
          pointer.runtimeBinding == registry.runtimeBinding &&
          retention.hostServicePolicyDigest == command.hostServicePolicyDigest)

/-- Step 2 of the decision: whether the candidate can be activated on its registry row. -/
def candidateReady (command : ActivationCommand) (registry : RegistryRowFacts)
    (facts : ActivationCasFacts) : Except KernelError Bool := do
  let candidate := command.candidate
  let registryBindingV2 ←
    recode wasmActivationInvalid (runtimeBindingV2FromV1 registry.runtimeBinding)
  if registryBindingV2 != candidate.runtimeBinding || !registry.lifecycleReady ||
      registry.hostServicePolicyDigest.getD "" != command.hostServicePolicyDigest then
    return false
  else if !facts.candidateAlive then
    return false
  else if !matchesSecretRevisionFence facts.currentSecretStoreRevision candidate.secretRevision then
    return false
  else if facts.currentPreparationGeneration != candidate.preparationGeneration then
    return false
  else match command.operation with
    | .activate => return true
    | .rollback => rollbackRetained D command registry facts.rollbackRetention

/-- The decision at the linearization point. -/
def evaluateActivationCas (state : KernelActivationState) (command : ActivationCommand)
    (lease : ServiceReadinessLeaseV2) (facts : ActivationCasFacts) (eventId : String) :
    Except KernelError ActivationCasDecision := do
  command.validate D
  activationCheck (command.applicationId == state.applicationId)
    "the activation command must target this application state"
  let candidate := command.candidate
  let reject (reason : String) : Except KernelError ActivationCasDecision :=
    .ok (.rejected (rejectedEvent D state command lease.leaseNonce lease.leaseDigest reason
      facts.nowEpochMillis facts.controlRevision eventId))
  -- 1. The route generation.
  if command.expectedRouteGeneration != state.routeGeneration then
    reject activationRouteConflict
  else
  -- 2. The candidate can be activated.
  match facts.registryRow with
  | none => reject activationCandidateNotReady
  | some registry => do
  let ready ← candidateReady D command registry facts
  if !ready then
    reject activationCandidateNotReady
  -- 3. The binding is not revoked.
  else if facts.bindingRevoked then
    reject activationBindingRevoked
  else
  -- 4. The lease is well formed and correlates.
  match lease.validate D >>= fun _ => correlateReadinessLease command lease registry with
  | .error _ => reject readinessLeaseMismatch
  | .ok _ =>
  -- 5. The nonce ledger, before the expiry.
  match state.nonceLedger[lease.leaseNonce]? with
  | some recordedDigest =>
    if recordedDigest != lease.leaseDigest then
      reject readinessLeaseMismatch
    else
      match state.nonceActivationIndex[lease.leaseNonce]? with
      | none => .error ⟨wasmActivationFailClosed, "the nonce ledger and activation index disagree"⟩
      | some originalId =>
        match state.activationRecords[originalId]? with
        | none => .error ⟨wasmActivationFailClosed,
            "the consumed nonce has no durable activation record"⟩
        | some original => .ok (.alreadyConsumed original.event)
  | none => do
  -- 6. The lease has not expired.
  let expiresAt ← recode readinessLeaseMismatch lease.expiresAtEpochMillis
  match checkReadinessLeaseExpiryAtCas facts.nowEpochMillis expiresAt with
  | .error expiry => reject expiry.code
  | .ok () => do
  let nextGeneration := command.expectedRouteGeneration + 1
  let identity ← candidateIdentity command
  let nextPointer : WasmActivePointerV1 := .active
    { runtimeKind := "wasm"
      applicationId := command.applicationId
      versionId := candidate.versionId
      identity := identity
      runtimeBinding := candidate.runtimeBinding.toV1
      admissionProofRef := candidate.admissionProofRef
      admissionProofDigest := candidate.admissionProofDigest
      routeGeneration := nextGeneration
      hostServicePolicyDigest :=
        if command.hostServicePolicyDigest == "" then none else some command.hostServicePolicyDigest
      preparationGeneration := some candidate.preparationGeneration
      executionGeneration := some candidate.executionGeneration }
  return .activated (routeEventSealed D
    { schemaVersion := 2
      eventId := eventId
      activationId := command.activationId
      applicationId := command.applicationId
      runtimeKind := "wasm"
      operation := command.operation
      expectedRouteGeneration := command.expectedRouteGeneration
      previous := state.active
      next := nextPointer
      leaseConsume :=
        { schemaVersion := 1
          leaseNonce := lease.leaseNonce
          leaseDigest := lease.leaseDigest
          activationId := command.activationId
          applicationId := command.applicationId
          versionId := candidate.versionId
          expectedRouteGeneration := command.expectedRouteGeneration
          consumedAt := formatRfc3339UtcMillis facts.nowEpochMillis
          outcome := .consumed
          routeGeneration := nextGeneration }
      result := .activated
      reasonCode := none
      hostServicePolicyDigest := command.hostServicePolicyDigest
      controlRevision := facts.controlRevision
      routeGeneration := nextGeneration
      createdAt := formatRfc3339UtcMillis facts.nowEpochMillis
      eventDigest := "" })

end Iweb
