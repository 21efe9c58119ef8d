import Mathlib.Data.List.Sort
import Iweb.Runtime.ControlState

/-!
# Reconciliation of visible admissions

Every visible proof gets a version row in the control state and then its executions: a Prepare and a Start
in the outbox and a fence. The outbox entries are saved one by one, the fences once at the end, so a crash
leaves any of the steps between; the next reconciliation completes what is missing.
-/

namespace Iweb

open Std (ExtTreeMap)
open CrashHoare

/-- `SNAPSHOT_HANDOFF_TTL_MILLIS` -/
def snapshotHandoffTtlMillis : Nat := 300000

/-- The clock of a call and the UUIDs the host draws for command times. -/
structure HostClock where
  nowEpochMillis : Nat
  uuidV7 : Nat → String

variable {σ : Type} (A : AdmissionRules) (R : RuntimeRules)

/-! ## Version rows -/

/-- The members of a row that an admission fixes for good. -/
def immutableMatch (existing candidate : WasmVersionRegistryRow) : Bool :=
  existing.identity == candidate.identity && existing.packageDigest == candidate.packageDigest &&
    existing.normalizedPolicy == candidate.normalizedPolicy &&
    existing.runtimeBinding == candidate.runtimeBinding &&
    existing.admissionProofRef == candidate.admissionProofRef &&
    existing.admissionProofDigest == candidate.admissionProofDigest &&
    existing.hostServicePolicySummary == candidate.hostServicePolicySummary

/-- Rows in the order of their version ids. -/
def sortVersions (rows : List WasmVersionRegistryRow) : List WasmVersionRegistryRow :=
  rows.insertionSort fun left right => left.versionId ≤ right.versionId

/-- `upsert_visible_admission`: the applications with a row for the proof, and whether it is new. -/
def upsertVisibleAdmission (applications : WasmApplications) (proof : AdmissionProofV1) :
    Except KernelError (WasmApplications × Bool) := do
  let candidate := projectRegistryRow R.rowDigest proof
  let record := (applications[proof.applicationId]?).getD (.fresh proof.applicationId)
  controlStateCheck (record.runtimeKind == runtimeKindWasm && record.applicationId == proof.applicationId)
    "an existing v2 application record does not match the admitted wasm application"
  match record.versions.find? fun version => version.versionId == candidate.versionId with
  | some existing => do
    controlStateCheck (immutableMatch existing candidate)
      "a v2 version row with the same versionId has different immutable admission facts"
    return (applications.insert proof.applicationId record, false)
  | none =>
    return (applications.insert proof.applicationId
      { record with versions := sortVersions (record.versions ++ [candidate]) }, true)

/-- Upsert one proof after the other. -/
def upsertVisibleAdmissions : List AdmissionProofV1 → WasmApplications × Bool →
    Except KernelError (WasmApplications × Bool)
  | [], result => .ok result
  | proof :: proofs, (applications, changed) => do
    let (applications, added) ← upsertVisibleAdmission R applications proof
    upsertVisibleAdmissions proofs (applications, changed || added)

/-- The visible proofs. -/
def visibleProofs : KernelM σ (List AdmissionProofV1) := Prog.read KernelWorld.visible

/-- `reconcile_visible_admissions_into_control_state` -/
def reconcileVisibleAdmissions : KernelM σ Unit := do
  let loaded ← loadControlState A R
  let proofs ← visibleProofs
  let (applications, changed) ← Prog.lift (upsertVisibleAdmissions R proofs (loaded.applications, false))
  if changed then do
    let state ← Prog.lift (advanceControlRevision loaded.state)
    saveControlState (some loaded.state.controlRevision) state loaded.registryFile applications
  else return ()

/-- `materialize_control_state_if_missing` -/
def materializeControlStateIfMissing : KernelM σ Unit := do
  let present ← Prog.read fun world : KernelWorld σ => world.control.isSome
  if present then return ()
  else do
    let loaded ← loadControlState A R
    saveControlState none loaded.state loaded.registryFile loaded.applications

/-- The registry file with a proof, if it has no row for its version yet. -/
def WasmRouteRegistryFile.withProof (file : WasmRouteRegistryFile) (proof : AdmissionProofV1) :
    WasmRouteRegistryFile :=
  if file.proofs.any fun candidate => candidate.versionId == proof.versionId then file
  else { file with
    proofs := file.proofs ++ [proof]
    lifecycles := if file.lifecycles.contains proof.versionId then file.lifecycles
      else file.lifecycles.insert proof.versionId "admitted" }

/-- `converge_route_registry_from_admission` -/
def convergeRouteRegistryFromAdmission : KernelM σ Unit := do
  let loaded ← Prog.read fun world : KernelWorld σ => world.registry.load A
  let registryFile ← Prog.lift loaded
  let proofs ← visibleProofs
  let missing := proofs.any fun proof =>
    !(registryFile.proofs.any fun candidate => candidate.versionId == proof.versionId)
  if missing then saveRouteRegistry (proofs.foldl WasmRouteRegistryFile.withProof registryFile)
  else return ()

/-! ## What a plan needs -/

/-- `persist_admission_policy` -/
def persistAdmissionPolicy (proof : AdmissionProofV1) : KernelM σ Unit := do
  let stored ← Prog.read fun world : KernelWorld σ => world.policies[proof.versionId]?
  match stored with
  | some policy =>
    Prog.lift (controlStateCheck (policy == proof.normalizedPolicy)
      "an admitted policy file already exists with bytes different from the immutable normalized policy")
  | none => writeFile fun world =>
    { world with policies := world.policies.insert proof.versionId proof.normalizedPolicy }

/-- `preparation_reserve_gate` -/
def preparationReserveGate (proof : AdmissionProofV1) : Except KernelError Unit :=
  match proof.hostServicePolicy with
  | none => .ok ()
  | some policy => do
    let _ ← checkWasmGuestMemoryReserve proof.normalizedPolicy.resources.memoryBytes policy.reserveBytes
    return ()

/-- Write the index record of a snapshot; the same record may be there already. -/
def storeSnapshotIndex (index : SecretSnapshotRefV1) : KernelM σ Unit := do
  let stored ← Prog.read fun world : KernelWorld σ => world.secretSnapshotIndex[index.reference]?
  match stored with
  | some existing => Prog.lift (controlStateCheck (existing == index)
      "a secret snapshot ref already names different immutable facts")
  | none => writeFile fun world =>
    { world with secretSnapshotIndex := world.secretSnapshotIndex.insert index.reference index }

/-- Write the values of a snapshot; the same values may be there already. -/
def storeSnapshotValues (reference : String) (values : SecretSnapshotValuesPayloadV1) : KernelM σ Unit := do
  let stored ← Prog.read fun world : KernelWorld σ => world.secretSnapshots[reference]?
  match stored with
  | some existing => Prog.lift (controlStateCheck (existing == values)
      "a secret snapshot source already contains different values payload bytes")
  | none => writeFile fun world =>
    { world with secretSnapshots := world.secretSnapshots.insert reference values }

/-- The index record of the first secret snapshot of a preparation. -/
def initialSecretSnapshot (proof : AdmissionProofV1) (preparationGeneration now : Nat) :
    SecretSnapshotRefV1 :=
  let expiresAt := formatRfc3339UtcMillis (now + snapshotHandoffTtlMillis)
  { reference := R.secretSnapshotRef proof.applicationId proof.versionId preparationGeneration expiresAt
    applicationId := proof.applicationId
    versionId := proof.versionId
    preparationGeneration := preparationGeneration
    secretRevision := 0
    valuesDigest := R.secretValuesDigest proof.applicationId proof.versionId preparationGeneration
    expiresAt := expiresAt }

/-- `ensure_initial_secret_snapshot` -/
def ensureInitialSecretSnapshot (proof : AdmissionProofV1) (preparationGeneration now : Nat) :
    KernelM σ SecretSnapshotRefV1 := do
  Prog.lift (require (now + snapshotHandoffTtlMillis < 2 ^ 64) wasmControlStateInvalid
    "the snapshot handoff expiry overflows epoch milliseconds")
  let index := initialSecretSnapshot R proof preparationGeneration now
  storeSnapshotIndex index
  storeSnapshotValues index.reference
    ⟨proof.applicationId, proof.versionId, preparationGeneration, 0, []⟩
  return index

/-- `fence_from_planned_start` -/
def fenceFromPlannedStart (command : ExecutionCommand) (lifecycle : String) : WasmFenceRecordV1 where
  versionId := command.identity.versionId
  sandboxId := command.identity.sandboxId
  preparationGeneration := command.identity.preparationGeneration
  executionGeneration := command.identity.executionGeneration
  secretRevision := command.secretRevision
  secretSnapshotRef := command.secretSnapshotRef
  secretValuesDigest := command.secretValuesDigest
  configRevision := command.configRevision
  configSnapshotRef := command.configSnapshotRef
  configValuesDigest := command.configValuesDigest
  alive := false
  lifecycle := lifecycle
  bindingRevoked := false
  drainDeadlineEpochMillis := none

/-! ## Planning a version -/

/-- What the reconciliation has in memory; the fences are saved at its end. -/
structure ReconcileMemory where
  state : WasmCommandControlState
  applications : WasmApplications
  fences : WasmFences
  fencesDirty : Bool

/-- The command of an outbox for a version. -/
def plannedCommand (outbox : List CommandOutboxRecord) (operation : WasmExecutionOperation)
    (proof : AdmissionProofV1) : Option ExecutionCommand :=
  (outbox.find? fun entry => entry.command.operation == operation &&
    entry.command.identity.versionId == proof.versionId &&
    entry.command.packageDigest == proof.packageDigest).map CommandOutboxRecord.command

/-- Change the first row of a version. -/
def updateVersion (versionId : String) (update : WasmVersionRegistryRow → WasmVersionRegistryRow) :
    List WasmVersionRegistryRow → List WasmVersionRegistryRow
  | [] => []
  | row :: rows =>
    if row.versionId = versionId then update row :: rows else row :: updateVersion versionId update rows

/-- Set the lifecycle of a version of an application. -/
def setLifecycle (applications : WasmApplications) (applicationId versionId lifecycle : String) :
    WasmApplications :=
  match applications[applicationId]? with
  | none => applications
  | some record => applications.insert applicationId { record with
      versions := updateVersion versionId (fun row => { row with lifecycle := lifecycle })
        record.versions }

/-- The lifecycle of a version of an application. -/
def lifecycleOf (applications : WasmApplications) (applicationId versionId : String) : Option String :=
  applications[applicationId]? >>= fun record =>
    (record.versions.find? fun row => row.versionId == versionId).map WasmVersionRegistryRow.lifecycle

/-- Plan a command, authorize it and save the control state with it. -/
def authorizeAndSave (host : HostClock) (registryFile : WasmRouteRegistryFile)
    (input : KernelCommandPlanInput) (applications : WasmApplications) (memory : ReconcileMemory) :
    KernelM σ (ExecutionCommand × ReconcileMemory) := do
  let command ← Prog.lift (planExecutionCommand R input)
  let expected := memory.state.controlRevision
  let state ← Prog.lift (memory.state.authorizeCommand expected command
    (formatRfc3339UtcMillis (host.nowEpochMillis + expected)))
  saveControlState (some expected) state registryFile applications
  return (command, { memory with state := state, applications := applications })

/-- The Prepare of a version: the one in the outbox, or a new one. -/
def plannedPrepare (host : HostClock) (registryFile : WasmRouteRegistryFile) (proof : AdmissionProofV1)
    (memory : ReconcileMemory) : KernelM σ (ExecutionCommand × ReconcileMemory) :=
  match plannedCommand memory.state.commandOutbox .prepare proof with
  | some prepare => return (prepare, memory)
  | none => do
    let sandboxId := R.sandboxId proof.versionId
    let expected := memory.state.controlRevision
    let snapshot ← ensureInitialSecretSnapshot R proof 1 host.nowEpochMillis
    authorizeAndSave R host registryFile
      { commandId := host.uuidV7 (host.nowEpochMillis + expected)
        operation := .prepare
        controlRevision := expected
        journalHead := registryFile.journalHeadHint
        sandboxId := sandboxId
        proof := proof
        secretRevision := snapshot.secretRevision
        secretSnapshotRef := snapshot.reference
        secretValuesDigest := snapshot.valuesDigest
        configRevision := 0
        configSnapshotRef := none
        configValuesDigest := none
        currentGenerations := ⟨sandboxId, proof.versionId, 0, 0⟩ }
      memory.applications memory

/-- Plan the Start that follows a Prepare; the lifecycle moves in the same save. -/
def planStart (host : HostClock) (registryFile : WasmRouteRegistryFile) (proof : AdmissionProofV1)
    (prepare : ExecutionCommand) (memory : ReconcileMemory) :
    KernelM σ (ExecutionCommand × ReconcileMemory) := do
  Prog.lift (require (registryFile.journalHeadHint + 2 ≤ wasmU53Max) wasmControlStateInvalid
    "the supervisor journal revision space is exhausted before Start planning")
  let expected := memory.state.controlRevision
  authorizeAndSave R host registryFile
    { commandId := host.uuidV7 (host.nowEpochMillis + expected)
      operation := .start
      controlRevision := expected
      journalHead := registryFile.journalHeadHint + 2
      sandboxId := prepare.identity.sandboxId
      proof := proof
      secretRevision := prepare.secretRevision
      secretSnapshotRef := prepare.secretSnapshotRef
      secretValuesDigest := prepare.secretValuesDigest
      configRevision := prepare.configRevision
      configSnapshotRef := prepare.configSnapshotRef
      configValuesDigest := prepare.configValuesDigest
      currentGenerations := prepare.identity }
    (setLifecycle memory.applications proof.applicationId proof.versionId "preparing") memory

/-- The Start of a version: the one in the outbox, or a new one after its Prepare. -/
def plannedStart (host : HostClock) (registryFile : WasmRouteRegistryFile) (proof : AdmissionProofV1)
    (memory : ReconcileMemory) : KernelM σ (ExecutionCommand × ReconcileMemory) :=
  match plannedCommand memory.state.commandOutbox .start proof with
  | some start => return (start, memory)
  | none => do
    let (prepare, memory) ← plannedPrepare R host registryFile proof memory
    planStart R host registryFile proof prepare memory

/-- The fences of an application with the fence of a version, which becomes its current one. -/
def withCurrentFence (fences : WasmFences) (proof : AdmissionProofV1) (fence : WasmFenceRecordV1) :
    WasmFences :=
  let records := match fences[proof.applicationId]? with
    | none => ∅
    | some application => application.records
  fences.insert proof.applicationId ⟨proof.versionId, records.insert proof.versionId fence⟩

/-- Enter the fence of a planned Start in memory; a lifecycle that is not `preparing` yet is a control
mutation of its own. -/
def enterFence (registryFile : WasmRouteRegistryFile) (proof : AdmissionProofV1) (start : ExecutionCommand)
    (memory : ReconcileMemory) : KernelM σ ReconcileMemory := do
  let fences := withCurrentFence memory.fences proof (fenceFromPlannedStart start "preparing")
  let entered := { memory with fences := fences, fencesDirty := true }
  match lifecycleOf memory.applications proof.applicationId proof.versionId with
  | none => return entered
  | some lifecycle =>
    if lifecycle = "preparing" then return entered
    else do
      let applications := setLifecycle memory.applications proof.applicationId proof.versionId "preparing"
      let state ← Prog.lift (advanceControlRevision memory.state)
      saveControlState (some memory.state.controlRevision) state registryFile applications
      return { entered with state := state, applications := applications }

/-- The fence of a version. -/
def fenceOf (fences : WasmFences) (applicationId versionId : String) : Option WasmFenceRecordV1 :=
  fences[applicationId]? >>= fun application => application.records[versionId]?

/-- The reconciliation of one visible proof. -/
def reconcileProof (host : HostClock) (registryFile : WasmRouteRegistryFile) (proof : AdmissionProofV1)
    (memory : ReconcileMemory) : KernelM σ ReconcileMemory := do
  persistAdmissionPolicy proof
  Prog.lift (preparationReserveGate proof)
  match memory.applications[proof.applicationId]? with
  | none => Prog.lift (.error ⟨wasmControlStateInvalid,
      "a visible admission is absent from canonical v2 control state"⟩)
  | some application =>
    if !(application.versions.any fun version => version.versionId == proof.versionId) then
      Prog.lift (.error ⟨wasmControlStateInvalid,
        "a visible admission version is absent from canonical v2 control state"⟩)
    else if (fenceOf memory.fences proof.applicationId proof.versionId).isSome then return memory
    else do
      let (start, memory) ← plannedStart R host registryFile proof memory
      enterFence registryFile proof start memory

/-- The loop over the visible proofs. -/
def reconcileProofs (host : HostClock) (registryFile : WasmRouteRegistryFile) :
    List AdmissionProofV1 → ReconcileMemory → KernelM σ ReconcileMemory
  | [], memory => return memory
  | proof :: proofs, memory => do
    let memory ← reconcileProof R host registryFile proof memory
    reconcileProofs host registryFile proofs memory

/-- `reconcile_visible_execution_state` -/
def reconcileVisibleExecutionState (host : HostClock) : KernelM σ Unit := do
  let loaded ← loadControlState A R
  let fences ← loadFencesFile
  let proofs ← visibleProofs
  let memory ← reconcileProofs R host loaded.registryFile proofs
    ⟨loaded.state, loaded.applications, fences, false⟩
  if memory.fencesDirty then saveFencesFile memory.fences else return ()

end Iweb
