import Iweb.Activation.Cas

/-!
# Applying and repairing an activation

`applyActivation` writes an intent, decides, and commits the decision to the state of one application.
A crash can be injected at two points of the commit; `repairUncertainActivation` decides what becomes
of an intent that such a crash left behind. Functions that mutate the state return the state they leave
together with their result, because a failure can leave the state changed.
-/

namespace Iweb

open Std (ExtTreeMap)

/-- Where a commit can be interrupted. -/
inductive ActivationCrashPoint
  /-- The nonce is marked consumed; pointer and event are not written. -/
  | afterConsumeMarkerBeforePointerCas
  /-- The pointer is flipped; event and record are not written. -/
  | afterPointerCasBeforeEvent
deriving DecidableEq

/-- A state together with the outcome of the step that left it. -/
abbrev Outcome (α : Type) := KernelActivationState × Except KernelError α

variable (D : Digests)

/-- The checks before a decision: `some event` is a stored answer, `none` lets the decision proceed. -/
def activationPreamble (state : KernelActivationState) (command : ActivationCommand) :
    Except KernelError (Option RouteEvent) := do
  command.validate D
  if state.pending.isSome then
    .error ⟨wasmActivationRepairRequired,
      "an uncertain activation must be repaired before a new activation is accepted"⟩
  else
    match state.activationRecords[command.activationId]? with
    | none => return none
    | some recorded =>
      if recorded.command = command then return some recorded.event
      else .error ⟨activationIdConflict,
        "a known activationId with a different command returns ACTIVATION_ID_CONFLICT and never creates a route event"⟩

/-- The version a pointer names, empty for an unavailable one. -/
def pointerVersionId : WasmActivePointerV1 → String
  | .active pointer => pointer.versionId
  | .unavailable .. => ""

/-- The retention record of a committed rollback. -/
def rollbackRecordOf (command : ActivationCommand) (event : RouteEvent) (createdAtEpochMillis : Nat) :
    RollbackRecord :=
  let record : RollbackRecord :=
    { schemaVersion := 2
      rollbackId := command.activationId
      applicationId := command.applicationId
      fromVersionId := pointerVersionId event.previous
      toVersionId := command.candidate.versionId
      expectedRouteGeneration := command.expectedRouteGeneration
      expectedControlRevision := command.expectedControlRevision
      routeEvent := event
      hostServicePolicyDigest := command.hostServicePolicyDigest
      reasonCode := none
      result := .applied
      createdAtEpochMillis := createdAtEpochMillis
      rollbackDigest := "" }
  { record with rollbackDigest := computeRollbackRecordDigest D record }

/-- Append an event and store it as the answer to its command; the intent is settled. -/
def KernelActivationState.recordEvent (state : KernelActivationState) (command : ActivationCommand)
    (event : RouteEvent) : KernelActivationState :=
  { state with
    events := state.events ++ [event]
    activationRecords := state.activationRecords.insert command.activationId ⟨command, event⟩
    pending := none }

/-- Append the retention record of a committed rollback. -/
def KernelActivationState.retainRollback (state : KernelActivationState) (command : ActivationCommand)
    (event : RouteEvent) (createdAtEpochMillis : Nat) : KernelActivationState :=
  if command.operation = .rollback then
    { state with rollbackRetentions :=
        state.rollbackRetentions ++ [rollbackRecordOf D command event createdAtEpochMillis] }
  else state

/-- Step (a) of a commit: mark the nonce consumed. -/
def KernelActivationState.consumeNonce (state : KernelActivationState) (command : ActivationCommand)
    (lease : ServiceReadinessLeaseV2) : KernelActivationState :=
  { state with
    nonceLedger := state.nonceLedger.insert lease.leaseNonce lease.leaseDigest
    nonceActivationIndex := state.nonceActivationIndex.insert lease.leaseNonce command.activationId }

/-- Step (b) of a commit: flip the pointer. -/
def KernelActivationState.flipPointer (state : KernelActivationState) (event : RouteEvent) :
    KernelActivationState :=
  { state with routeGeneration := event.routeGeneration, active := event.next }

/-- The activation transaction of one command with a lease. -/
def applyActivation (state : KernelActivationState) (command : ActivationCommand)
    (lease : ServiceReadinessLeaseV2) (facts : ActivationCasFacts) (eventId : String)
    (crash : Option ActivationCrashPoint) : Outcome RouteEvent :=
  match checkUuidV7 eventId "eventId" >>= fun _ => activationPreamble D state command with
  | .error failure => (state, .error failure)
  | .ok (some recordedEvent) => (state, .ok recordedEvent)
  | .ok none =>
    let pending : PendingActivationCas :=
      { command := command
        lease := lease
        eventId := eventId
        casNowEpochMillis := facts.nowEpochMillis
        controlRevision := facts.controlRevision
        previousPointer := state.active }
    let intent := { state with pending := some pending }
    match evaluateActivationCas D intent command lease facts eventId with
    | .error failure => ({ intent with pending := none }, .error failure)
    | .ok (.activated event) =>
      let marked := intent.consumeNonce command lease
      if crash = some .afterConsumeMarkerBeforePointerCas then
        (marked, .error ⟨wasmActivationSimulatedCrash,
          "simulated crash after the consume marker, before the route pointer CAS"⟩)
      else
        let flipped := marked.flipPointer event
        if crash = some .afterPointerCasBeforeEvent then
          (flipped, .error ⟨wasmActivationSimulatedCrash,
            "simulated crash after the route pointer CAS, before the event append"⟩)
        else
          ((flipped.retainRollback D command event facts.nowEpochMillis).recordEvent command event,
            .ok event)
    | .ok (.rejected event) => (intent.recordEvent command event, .ok event)
    | .ok (.alreadyConsumed original) => ({ intent with pending := none }, .ok original)

/-- The transaction of a command whose lease is unknown: it leaves a rejected event. -/
def applyActivationWithoutLease (state : KernelActivationState) (command : ActivationCommand)
    (nowEpochMillis controlRevision : Nat) (eventId : String) : Outcome RouteEvent :=
  match checkUuidV7 eventId "eventId" >>= fun _ => activationPreamble D state command with
  | .error failure => (state, .error failure)
  | .ok (some recordedEvent) => (state, .ok recordedEvent)
  | .ok none =>
    let event := rejectedEvent D state command command.candidate.leaseNonce
      command.candidate.leaseDigest readinessLeaseMismatch nowEpochMillis controlRevision eventId
    ({ state with
        events := state.events ++ [event]
        activationRecords := state.activationRecords.insert command.activationId ⟨command, event⟩ },
      .ok event)

/-! ## Repair -/

inductive ActivationRepairOutcome
  | noRepairNeeded
  /-- The pointer was flipped: the event was rebuilt from the intent. -/
  | repairedEventFromPointerCas (event : RouteEvent)
  /-- Only the nonce was marked: the marker was discarded. -/
  | discardedPartialConsume
deriving DecidableEq

/-- An indexed nonce is in the ledger and was consumed by the recorded activation it names. -/
def checkIndexedNonce (state : KernelActivationState) (entry : String × String) :
    Except KernelError Unit :=
  match state.activationRecords[entry.2]? with
  | none => .error ⟨wasmActivationFailClosed, "the nonce index names an unknown activation"⟩
  | some recorded =>
    require (recorded.event.leaseConsume.leaseNonce == entry.1 && state.nonceLedger.contains entry.1)
      wasmActivationFailClosed "the nonce ledger, index, and activation record disagree"

/-- Every flip of the pointer has its consuming event, and the nonce tables agree with the records. -/
def verifyActivationInvariants (state : KernelActivationState) : Except KernelError Unit := do
  require
    (!(0 < state.routeGeneration && !state.events.any fun event =>
      event.leaseConsume.outcome == .consumed && event.routeGeneration == state.routeGeneration))
    wasmActivationFailClosed "the route pointer carries a generation whose consuming event is missing"
  state.nonceActivationIndex.toList.forM (checkIndexedNonce state)

/-- The event of an intent whose pointer flip is durable, from the intent alone. -/
def rebuildActivatedEventFromPending (pending : PendingActivationCas) :
    Except KernelError RouteEvent := do
  let nextGeneration := pending.command.expectedRouteGeneration + 1
  let command := pending.command
  let lease := pending.lease
  let candidate := command.candidate
  let identity ← candidateIdentity command
  let nextPointer : WasmActivePointerV1 := .active
    { runtimeKind := "wasm"
      applicationId := command.applicationId
      versionId := candidate.versionId
      identity := identity
      runtimeBinding := candidate.runtimeBinding.toV1
      admissionProofRef := candidate.admissionProofRef
      admissionProofDigest := candidate.admissionProofDigest
      routeGeneration := nextGeneration
      hostServicePolicyDigest :=
        if command.hostServicePolicyDigest == "" then none else some command.hostServicePolicyDigest
      preparationGeneration := some candidate.preparationGeneration
      executionGeneration := some candidate.executionGeneration }
  return routeEventSealed D
    { schemaVersion := 2
      eventId := pending.eventId
      activationId := command.activationId
      applicationId := command.applicationId
      runtimeKind := "wasm"
      operation := command.operation
      expectedRouteGeneration := command.expectedRouteGeneration
      previous := pending.previousPointer
      next := nextPointer
      leaseConsume :=
        { schemaVersion := 1
          leaseNonce := lease.leaseNonce
          leaseDigest := lease.leaseDigest
          activationId := command.activationId
          applicationId := command.applicationId
          versionId := candidate.versionId
          expectedRouteGeneration := command.expectedRouteGeneration
          consumedAt := formatRfc3339UtcMillis pending.casNowEpochMillis
          outcome := .consumed
          routeGeneration := nextGeneration }
      result := .activated
      reasonCode := none
      hostServicePolicyDigest := command.hostServicePolicyDigest
      controlRevision := pending.controlRevision
      routeGeneration := nextGeneration
      createdAt := formatRfc3339UtcMillis pending.casNowEpochMillis
      eventDigest := "" }

/-- Whether the pointer already shows the flip of the intent. -/
def pointerFlipped (state : KernelActivationState) (pending : PendingActivationCas) : Bool :=
  state.routeGeneration == pending.command.expectedRouteGeneration + 1 &&
    match state.active with
    | .active pointer =>
      pointer.versionId == pending.command.candidate.versionId &&
        pointer.routeGeneration == state.routeGeneration
    | .unavailable .. => false

/-- Whether the nonce is marked consumed by the intent itself. -/
def consumedByIntent (state : KernelActivationState) (pending : PendingActivationCas) : Bool :=
  state.nonceLedger[pending.lease.leaseNonce]? == some pending.lease.leaseDigest &&
    state.nonceActivationIndex[pending.lease.leaseNonce]? == some pending.command.activationId

/-- Check the invariants of a repaired state and report what the repair did. -/
def repaired (state : KernelActivationState) (outcome : ActivationRepairOutcome) :
    Outcome ActivationRepairOutcome :=
  (state, verifyActivationInvariants state >>= fun _ => .ok outcome)

/-- Decide an intent that a crash left behind. -/
def repairUncertainActivation (state : KernelActivationState) : Outcome ActivationRepairOutcome :=
  match state.pending with
  | none => repaired state .noRepairNeeded
  | some pending =>
    if pointerFlipped state pending then
      match rebuildActivatedEventFromPending D pending with
      | .error failure => (state, .error failure)
      | .ok event =>
        repaired
          ((state.retainRollback D pending.command event pending.casNowEpochMillis).recordEvent
            pending.command event)
          (.repairedEventFromPointerCas event)
    else if consumedByIntent state pending then
      repaired
        { state with
          nonceLedger := state.nonceLedger.erase pending.lease.leaseNonce
          nonceActivationIndex := state.nonceActivationIndex.erase pending.lease.leaseNonce
          pending := none }
        .discardedPartialConsume
    else
      repaired { state with pending := none } .noRepairNeeded

end Iweb
