import Iweb.Runtime.Delivery

/-!
# Projection of the activation journal

The activation store is a replay journal: an activated event is projected into the control state, where it
moves the pointer by one generation, marks its version active and plans the drain of the version it
replaced. The projection checks every fact of the event against the control state and the fences again.
-/

namespace Iweb

open Std (ExtTreeMap)
open CrashHoare

variable {σ : Type} (A : AdmissionRules) (R : RuntimeRules)

inductive ActivationJournalProjection
  | advanced
  | settled
  | stale
deriving DecidableEq

/-- The version that is projected: the command's candidate with its binding in the admission form. -/
def projectedBinding (command : ActivationCommand) : RuntimeBindingIdentityV1 :=
  command.candidate.runtimeBinding.toV1

/-! ## The checks -/

/-- The event must be the current pointer of its application or its one legal successor. -/
def pointerIsCurrent (record : WasmApplicationControlRecordV1) (event : RouteEvent) : Bool :=
  record.routeGeneration == event.routeGeneration && record.active == event.next

def pointerIsNext (record : WasmApplicationControlRecordV1) (event : RouteEvent) : Bool :=
  record.routeGeneration == event.expectedRouteGeneration && record.active == event.previous

/-- The event is a successful one. -/
def checkSuccessfulEvent (event : RouteEvent) : Except KernelError Unit :=
  controlStateCheck (event.result == .activated &&
      event.routeGeneration == event.expectedRouteGeneration + 1 &&
      event.leaseConsume.outcome == .consumed)
    "the activation replay journal carries an invalid successful route event"

/-- The command record of an event. -/
def recordedCommand (applicationId : String) (journal : KernelActivationState) (event : RouteEvent) :
    Except KernelError ActivationCommand :=
  match journal.activationRecords[event.activationId]? with
  | none => .error ⟨wasmControlStateInvalid,
      "the activation event has no matching durable command record"⟩
  | some recorded => do
    controlStateCheck (recorded.event == event && recorded.command.applicationId == applicationId &&
        recorded.command.expectedRouteGeneration == event.expectedRouteGeneration)
      "the activation replay journal command and event disagree"
    return recorded.command

/-- The pointer of an event is that of the candidate. -/
def candidateMatchesEvent (applicationId : String) (command : ActivationCommand) (event : RouteEvent) : Bool :=
  match event.next with
  | .active pointer =>
    pointer.runtimeKind == runtimeKindWasm && pointer.applicationId == applicationId &&
      pointer.versionId == command.candidate.versionId &&
      pointer.runtimeBinding == projectedBinding command &&
      pointer.admissionProofRef == command.candidate.admissionProofRef &&
      pointer.admissionProofDigest == command.candidate.admissionProofDigest &&
      pointer.routeGeneration == event.routeGeneration
  | .unavailable .. => false

/-- Candidate, consumed lease and event bind the same facts. -/
def checkCandidate (applicationId : String) (command : ActivationCommand) (event : RouteEvent) :
    Except KernelError Unit :=
  controlStateCheck (candidateMatchesEvent applicationId command event &&
      command.candidate.leaseNonce == event.leaseConsume.leaseNonce &&
      command.candidate.leaseDigest == event.leaseConsume.leaseDigest &&
      event.leaseConsume.applicationId == applicationId &&
      event.leaseConsume.versionId == command.candidate.versionId)
    "the activation candidate, consumed lease, and route event do not bind the same immutable facts"

/-- The fence of the candidate is alive and carries its pins. -/
def fenceMatchesCandidate (fence : WasmFenceRecordV1) (candidate : ActivationCandidate) : Bool :=
  fence.sandboxId == candidate.sandboxId &&
    fence.preparationGeneration == candidate.preparationGeneration &&
    fence.executionGeneration == candidate.executionGeneration &&
    fence.secretRevision == candidate.secretRevision &&
    fence.secretValuesDigest == candidate.secretValuesDigest &&
    fence.configRevision == candidate.configRevision &&
    fence.configSnapshotRef == candidate.configSnapshotRef &&
    fence.configValuesDigest == candidate.configValuesDigest && fence.alive && !fence.bindingRevoked &&
    (fence.lifecycle == "ready" || fence.lifecycle == "active")

def checkCandidateFence (fences : WasmFences) (applicationId : String) (candidate : ActivationCandidate) :
    Except KernelError Unit :=
  match fenceOf fences applicationId candidate.versionId with
  | none => .error ⟨wasmControlStateInvalid,
      "the activation replay journal has no candidate execution fence"⟩
  | some fence => controlStateCheck (fenceMatchesCandidate fence candidate)
      "the activation replay journal candidate no longer matches its live execution fence"

/-- The version row of the candidate carries its admission facts, and no other lease. -/
def checkCandidateRow (applicationId : String) (command : ActivationCommand)
    (record : WasmApplicationControlRecordV1) : Except KernelError WasmVersionRegistryRow :=
  match record.versions.find? fun row => row.versionId == command.candidate.versionId with
  | none => .error ⟨wasmControlStateInvalid,
      "the activation replay journal names a version missing from canonical v2 control state"⟩
  | some row => do
    controlStateCheck (row.identity.applicationId == applicationId &&
        row.packageDigest == command.candidate.packageDigest &&
        row.runtimeBinding == projectedBinding command &&
        row.admissionProofRef == command.candidate.admissionProofRef &&
        row.admissionProofDigest == command.candidate.admissionProofDigest)
      "the activation replay journal candidate disagrees with immutable v2 admission facts"
    controlStateCheck (row.readinessLeaseDigest.all fun digest => digest == command.candidate.leaseDigest)
      "the active v2 version carries a different readiness lease digest"
    return row

/-! ## The projected record -/

/-- The record after the projection of an event. -/
def projectRecord (record : WasmApplicationControlRecordV1) (event : RouteEvent)
    (candidate : ActivationCandidate) : WasmApplicationControlRecordV1 :=
  { record with
    active := if pointerIsNext record event then event.next else record.active
    routeGeneration := if pointerIsNext record event then event.routeGeneration else record.routeGeneration
    versions := updateVersion candidate.versionId
      (fun row => { row with readinessLeaseDigest := some candidate.leaseDigest, lifecycle := "active" })
      record.versions
    secretRevision := candidate.secretRevision
    configRevision := candidate.configRevision }

/-- Whether the projection of an event changes its record. -/
def recordMutated (record : WasmApplicationControlRecordV1) (row : WasmVersionRegistryRow)
    (event : RouteEvent) (candidate : ActivationCandidate) : Bool :=
  pointerIsNext record event || row.readinessLeaseDigest.isNone || row.lifecycle != "active" ||
    record.secretRevision != candidate.secretRevision || record.configRevision != candidate.configRevision

/-! ## The drain of the replaced version -/

/-- The version an event replaces, with its deadline and the generation of its pointer; `none` if it needs
no drain. -/
def replacedExecution (fences : WasmFences) (applicationId : String) (event : RouteEvent)
    (candidate : ActivationCandidate) (retirements : List RetiringExecutionRecord) :
    Option (WasmFenceRecordV1 × String × Nat × Nat) :=
  match event.previous with
  | .unavailable .. => none
  | .active pointer =>
    if pointer.versionId = candidate.versionId ∨ retirements.any fun record =>
        record.applicationId == applicationId && record.execution.versionId == pointer.versionId then none
    else
      fenceOf fences applicationId pointer.versionId >>= fun fence =>
        fence.drainDeadlineEpochMillis.map fun deadline =>
          (fence, pointer.versionId, pointer.routeGeneration, deadline)

/-- The plan of a drain: the fence's own generations. -/
def drainInput (host : HostClock) (expected journalHeadHint : Nat) (proof : AdmissionProofV1)
    (fence : WasmFenceRecordV1) (versionId : String) : KernelCommandPlanInput where
  commandId := host.uuidV7 (host.nowEpochMillis + expected)
  operation := .drain
  controlRevision := expected
  journalHead := journalHeadHint
  sandboxId := fence.sandboxId
  proof := proof
  secretRevision := fence.secretRevision
  secretSnapshotRef := fence.secretSnapshotRef
  secretValuesDigest := fence.secretValuesDigest
  configRevision := fence.configRevision
  configSnapshotRef := fence.configSnapshotRef
  configValuesDigest := fence.configValuesDigest
  currentGenerations := ⟨fence.sandboxId, versionId, fence.preparationGeneration, fence.executionGeneration⟩

/-- Plan the drain of a replaced execution and record its retirement. -/
def authorizeReplacedDrain (host : HostClock) (registryFile : WasmRouteRegistryFile)
    (state : WasmCommandControlState) (applicationId : String) (fence : WasmFenceRecordV1)
    (versionId : String) (routeGeneration deadline : Nat) : Except KernelError WasmCommandControlState := do
  let expected := state.controlRevision
  match registeredProof registryFile.proofs applicationId versionId with
  | none => .error ⟨wasmControlStateInvalid,
      "the retired activation pointer has no immutable admission proof"⟩
  | some proof => do
    let command ← planExecutionCommand R
      (drainInput host expected registryFile.journalHeadHint proof fence versionId)
    let retirement : RetiringExecutionRecord :=
      { drainCommandId := command.commandId
        applicationId := applicationId
        execution := command.identity
        packageDigest := proof.packageDigest
        runtimeBinding := proof.runtimeBinding
        routeGeneration := routeGeneration
        deadlineAtEpochMillis := deadline
        flipAtEpochMillis := host.nowEpochMillis
        retired := false
        acceptedReceiptDigest := none }
    state.authorizeDrainWithRetirement expected command
      (formatRfc3339UtcMillis (host.nowEpochMillis + expected)) retirement

/-! ## The projection -/

/-- `project_activation_event_into_v2` -/
def projectActivationEventIntoV2 (host : HostClock) (applicationId : String)
    (journal : KernelActivationState) (event : RouteEvent) (fences : WasmFences) :
    KernelM σ ActivationJournalProjection := do
  let loaded ← loadControlState A R
  match loaded.applications[applicationId]? with
  | none => Prog.lift (.error ⟨wasmControlStateInvalid,
      "the activation replay journal names an application missing from canonical v2 control state"⟩)
  | some record =>
    if event.routeGeneration < record.routeGeneration then return .stale
    else if !pointerIsCurrent record event && !pointerIsNext record event then
      Prog.lift (.error ⟨wasmControlStateInvalid,
        "the activation replay journal is not the current v2 pointer or its single legal predecessor"⟩)
    else do
      Prog.lift (checkSuccessfulEvent event)
      let command ← Prog.lift (recordedCommand applicationId journal event)
      Prog.lift (checkCandidate applicationId command event)
      Prog.lift (checkCandidateFence fences applicationId command.candidate)
      let row ← Prog.lift (checkCandidateRow applicationId command record)
      let applications := loaded.applications.insert applicationId
        (projectRecord record event command.candidate)
      let outcome : ActivationJournalProjection :=
        if pointerIsNext record event then .advanced else .settled
      match replacedExecution fences applicationId event command.candidate loaded.state.retirements with
      | some (fence, versionId, routeGeneration, deadline) => do
        let state ← Prog.lift (authorizeReplacedDrain R host loaded.registryFile loaded.state applicationId
          fence versionId routeGeneration deadline)
        saveControlState (some loaded.state.controlRevision) state loaded.registryFile applications
        return outcome
      | none =>
        if recordMutated record row event command.candidate then do
          let state ← Prog.lift (advanceControlRevision loaded.state)
          saveControlState (some loaded.state.controlRevision) state loaded.registryFile applications
          return outcome
        else return .settled

/-! ## The loop over a journal -/

/-- The activated events of a journal. -/
def activatedEvents (journal : KernelActivationState) : List RouteEvent :=
  journal.events.filter fun event => event.result == .activated

/-- The record of an application as the loop reads it. -/
def controlRecord (applicationId : String) : KernelM σ WasmApplicationControlRecordV1 := do
  let loaded ← loadControlState A R
  match loaded.applications[applicationId]? with
  | none => Prog.lift (.error ⟨wasmControlStateInvalid,
      "the activation replay journal names no canonical v2 application"⟩)
  | some record => return record

/-- The loop of one application after no event is the next one. -/
def settleJournal (host : HostClock) (fences : WasmFences) (applicationId : String)
    (journal : KernelActivationState) (record : WasmApplicationControlRecordV1) : KernelM σ Unit :=
  match (activatedEvents journal).find? fun event => pointerIsCurrent record event with
  | some event => do
    let _ ← projectActivationEventIntoV2 A R host applicationId journal event fences
    return ()
  | none =>
    if record.routeGeneration < journal.routeGeneration then
      Prog.lift (.error ⟨wasmControlStateInvalid,
        "the activation replay journal skips the canonical v2 route generation"⟩)
    else return ()

/-- The loop of one application; every round but the last advances the pointer by one generation, and no
event follows its own generation, so a journal with `n` activated events needs at most `n + 1` rounds. -/
def projectJournal (host : HostClock) (fences : WasmFences) (applicationId : String)
    (journal : KernelActivationState) : Nat → KernelM σ Unit
  | 0 => return ()
  | rounds + 1 => do
    let record ← controlRecord A R applicationId
    match (activatedEvents journal).find? fun event => pointerIsNext record event with
    | none => settleJournal A R host fences applicationId journal record
    | some event => do
      let outcome ← projectActivationEventIntoV2 A R host applicationId journal event fences
      match outcome with
      | .advanced => projectJournal host fences applicationId journal rounds
      | .settled | .stale => return ()

def projectJournals (host : HostClock) (fences : WasmFences) :
    List (String × KernelActivationState) → KernelM σ Unit
  | [] => return ()
  | (applicationId, journal) :: rest =>
    if (activatedEvents journal).isEmpty then projectJournals host fences rest
    else do
      projectJournal A R host fences applicationId journal ((activatedEvents journal).length + 1)
      projectJournals host fences rest

/-- `sync_lifecycle_after_activation` up to the delivery it ends with. -/
def syncLifecycleAfterActivation (host : HostClock) : KernelM σ Unit := do
  let fences ← Prog.read KernelWorld.fences
  let activation ← Prog.read KernelWorld.activation
  projectJournals A R host fences (loadActivationStates activation).toList

end Iweb
