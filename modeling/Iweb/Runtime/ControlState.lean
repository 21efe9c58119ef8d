import Iweb.Registry.KindRegistry
import Iweb.Runtime.Commands
import Iweb.Runtime.Fences
import Iweb.Foundations.CrashHoare

/-!
# The control state of the Kernel

The files the wasm runtime keeps under its state root and how they are read and written. The canonical
control state carries the applications and the command outbox; the route registry beside it carries the
registered proofs, the retirements and the head of the supervisor's journal as far as it was seen. A save
of the control state is three writes, one file after the other.
-/

namespace Iweb

open Std (ExtTreeMap)
open CrashHoare

/-! ## Codes -/

def wasmControlStateInvalid : String := "WASM_CONTROL_STATE_INVALID"
def wasmRuntimeIo : String := "WASM_RUNTIME_IO"
def wasmHostServiceCanonicalInvalid : String := "WASM_HOST_SERVICE_CANONICAL_INVALID"
def wasmHostServiceLedgerInvalid : String := "WASM_HOST_SERVICE_LEDGER_INVALID"

/-! ## The control state file -/

/-- `ControlStateServicePolicySummaryV2::validate` -/
def ControlStateServicePolicySummaryV2.validate (summary : ControlStateServicePolicySummaryV2) :
    Except KernelError Unit := do
  let invalid (ok : Bool) (detail : String) := require ok wasmHostServiceCanonicalInvalid detail
  let profile (kind literal : String) (enabled : Option String) : Except KernelError Unit :=
    match enabled with
    | none => .ok ()
    | some other => invalid (other == literal) (kind ++ " enabled profile literal is unknown: " ++ other)
  invalid (summary.schemaVersion == 2) "service policy summary schemaVersion must be the literal 2"
  require (isSha256Hex summary.policyDigest) wasmHostServiceLedgerInvalid
    "policyDigest must be 64 lower-case hex characters"
  invalid (summary.dataDirectoryProfile == "per-app-sqlite-v1")
    "service policy summary dataDirectoryProfile must be per-app-sqlite-v1"
  invalid (summary.durabilityProfile == "sqlite-full-fsync-v1")
    "service policy summary durabilityProfile must be sqlite-full-fsync-v1"
  profile "kv" "bounded-cas-list-v1" summary.hostServices.kv
  profile "sql" "minimal-sqlite-v1" summary.hostServices.sql
  profile "logging" "bounded-memory-ring-v1" summary.hostServices.logging
  invalid (summary.hostServices.kv.isSome || summary.hostServices.sql.isSome ||
      summary.hostServices.logging.isSome)
    "a service policy summary must keep at least one service enabled; a no-service version stays V1"
  require (summary.storageBytes ≤ wasmU53Max) wasmHostServiceLedgerInvalid
    "storageBytes must be a u53 safe integer"

/-- The control record of an application has the members of its registry record. -/
abbrev WasmApplicationControlRecordV1 := WasmApplicationRegistryRecord

/-- The control records by application. -/
abbrev WasmApplications := ExtTreeMap String WasmApplicationControlRecordV1

structure WasmControlStateFileV2 where
  schemaVersion : Nat
  runtimeKind : String
  controlRevision : Nat
  applications : WasmApplications
  commandOutbox : List CommandOutboxRecord

/-- A check of the control state file. -/
def controlStateCheck (ok : Bool) (detail : String) : Except KernelError Unit :=
  require ok wasmControlStateInvalid detail

/-- The check of the policy summary of a version row. -/
def validateRowSummary (row : WasmVersionRegistryRow) : Except KernelError Unit :=
  match row.hostServicePolicySummary with
  | none => .ok ()
  | some summary =>
    match summary.validate with
    | .ok () => .ok ()
    | .error failure => .error ⟨wasmControlStateInvalid,
        "version " ++ row.versionId ++ " hostServicePolicySummary is invalid: " ++ failure.code ++ ": " ++
          failure.detail⟩

/-- The checks of one version row of an application. -/
def validateVersionRow (key : String) (row : WasmVersionRegistryRow) : Except KernelError Unit := do
  controlStateCheck (composeWasmVersionId row.identity.digest row.identity.sequence == row.versionId)
    ("versionId " ++ row.versionId ++ " must be the proof's complete digest-sequence label")
  controlStateCheck (row.identity.applicationId == key)
    ("version " ++ row.versionId ++ "/identity must belong to the same application")
  controlStateCheck (row.admissionProofRef == "admission-proof/" ++ key ++ "/" ++ row.versionId)
    ("version " ++ row.versionId ++ " carries a wrong admissionProofRef")
  controlStateCheck (row.normalizedPolicy.name == key)
    ("version " ++ row.versionId ++ " normalizedPolicy.name must equal the record applicationId")
  validateRowSummary row
  controlStateCheck (!((row.lifecycle == "ready" || row.lifecycle == "active") &&
      row.readinessLeaseDigest.isNone))
    ("a ready or active candidate (" ++ row.versionId ++ ") must carry a readiness lease digest")

/-- The version rows of an application, after the rows with the given ids. -/
def validateVersionRows (key : String) : List String → List WasmVersionRegistryRow →
    Except KernelError Unit
  | _, [] => .ok ()
  | seen, row :: rows => do
    controlStateCheck (!seen.contains row.versionId)
      ("application " ++ key ++ " carries duplicate versionId " ++ row.versionId)
    validateVersionRow key row
    validateVersionRows key (row.versionId :: seen) rows

/-- The checks of the pointer of an application against its record. -/
def validateActivePointer (key : String) (record : WasmApplicationControlRecordV1) :
    Except KernelError Unit :=
  match record.active with
  | .active pointer => do
    controlStateCheck (pointer.applicationId == key)
      ("application " ++ key ++ " active pointer belongs to another application")
    controlStateCheck (pointer.routeGeneration == record.routeGeneration)
      ("application " ++ key ++
        " active pointer route generation must equal the record's current route generation")
    match record.versions.find? fun row => row.versionId == pointer.versionId with
    | none => .error ⟨wasmControlStateInvalid,
        "application " ++ key ++ " active pointer names no registry version"⟩
    | some row =>
      controlStateCheck (row.identity == pointer.identity && row.runtimeBinding == pointer.runtimeBinding &&
          row.admissionProofRef == pointer.admissionProofRef &&
          row.admissionProofDigest == pointer.admissionProofDigest)
        ("application " ++ key ++
          " active pointer identity, binding, and proof reference must match the registry version")
  | .unavailable _ applicationId routeGeneration => do
    controlStateCheck (applicationId == key)
      ("application " ++ key ++ " unavailable pointer belongs to another application")
    controlStateCheck (routeGeneration == record.routeGeneration)
      ("application " ++ key ++
        " active pointer route generation must equal the record's current route generation")

/-- The checks of one application record. -/
def validateApplicationRecord (key : String) (record : WasmApplicationControlRecordV1) :
    Except KernelError Unit := do
  controlStateCheck (isApplicationId key && record.applicationId == key &&
      record.runtimeKind == runtimeKindWasm)
    ("application record " ++ key ++ " must be keyed by its wasm applicationId")
  validateVersionRows key [] record.versions
  validateActivePointer key record

/-- The outbox entries after those with the given command ids. -/
def validateOutbox : List String → List CommandOutboxRecord → Except KernelError Unit
  | _, [] => .ok ()
  | seen, entry :: entries => do
    controlStateCheck (!seen.contains entry.commandId)
      ("outbox commandId " ++ entry.commandId ++ " must be unique")
    controlStateCheck (entry.commandId == entry.command.commandId)
      ("outbox commandId " ++ entry.commandId ++ " must match the wrapped command")
    validateOutbox (entry.commandId :: seen) entries

/-- `WasmControlStateFileV2::validate` -/
def WasmControlStateFileV2.validate (file : WasmControlStateFileV2) : Except KernelError Unit := do
  controlStateCheck (file.schemaVersion == 2 && file.runtimeKind == runtimeKindWasm)
    "the wasm control state must be schemaVersion 2 with runtimeKind wasm"
  controlStateCheck (file.controlRevision ≤ wasmU53Max) "controlRevision must be a u53 integer"
  file.applications.toList.forM fun entry => validateApplicationRecord entry.1 entry.2
  validateOutbox [] file.commandOutbox

/-! ## The other files -/

structure WasmRouteRegistryFile where
  proofs : List AdmissionProofV1
  /-- The lifecycle of each version, for audits only. -/
  lifecycles : ExtTreeMap String String
  retirements : List RetiringExecutionRecord
  journalHeadHint : Nat

def WasmRouteRegistryFile.fresh : WasmRouteRegistryFile := ⟨[], ∅, [], 0⟩

/-- The secret values of one preparation. -/
structure SecretSnapshotValuesPayloadV1 where
  applicationId : String
  versionId : String
  preparationGeneration : Nat
  secretRevision : Nat
  values : List (String × String)
deriving DecidableEq

/-- The index record of a secret snapshot. -/
structure SecretSnapshotRefV1 where
  reference : String
  applicationId : String
  versionId : String
  preparationGeneration : Nat
  secretRevision : Nat
  valuesDigest : String
  expiresAt : String
deriving DecidableEq

/-- The files of the runtime; `channel` is the state of the supervisor at the other end of its socket. -/
structure KernelWorld (σ : Type) where
  /-- `wasm-control-state-v2.json`; absent until its first save. -/
  control : Option WasmControlStateFileV2
  registry : WasmRouteRegistryFile
  /-- The retirements the supervisor reads. -/
  retirements : List RetiringExecutionRecord
  fences : WasmFences
  /-- The admitted policies by version. -/
  policies : ExtTreeMap String NormalizedWasmManifestV1
  secretSnapshotIndex : ExtTreeMap String SecretSnapshotRefV1
  secretSnapshots : ExtTreeMap String SecretSnapshotValuesPayloadV1
  /-- The visible proofs of the admission stores, in the order of their version ids. -/
  visible : List AdmissionProofV1
  activation : WasmActivationStore
  channel : σ

/-- No file is there yet. -/
def KernelWorld.empty {σ : Type} (channel : σ) : KernelWorld σ :=
  ⟨none, .fresh, [], ∅, ∅, ∅, ∅, [], none, channel⟩

/-- A program of the runtime. -/
abbrev KernelM (σ α : Type) : Type := Prog (KernelWorld σ) KernelError α

/-! ## Reading -/

variable {σ : Type} (A : AdmissionRules) (R : RuntimeRules)

/-- The digest of a registry row. -/
def RuntimeRules.rowDigest : ProofDigest := ⟨R.proofDigest⟩

/-- `load_route_registry` -/
def WasmRouteRegistryFile.load (file : WasmRouteRegistryFile) : Except KernelError WasmRouteRegistryFile := do
  file.proofs.forM fun proof =>
    match verifyAdmissionProof A proof with
    | .ok () => .ok ()
    | .error e => .error ⟨e.code, "a persisted admission proof is invalid: " ++ e.detail⟩
  return file

/-- The versions of an application after one more row. -/
def WasmApplicationControlRecordV1.withVersion (record : WasmApplicationControlRecordV1)
    (row : WasmVersionRegistryRow) : WasmApplicationControlRecordV1 :=
  { record with versions := record.versions ++ [row] }

/-- `project_visible_admission_applications`: the records before the control state file exists. -/
def projectVisibleAdmissionApplications (proofs : List AdmissionProofV1) : WasmApplications :=
  proofs.foldl (fun applications proof =>
    let record := (applications[proof.applicationId]?).getD (.fresh proof.applicationId)
    applications.insert proof.applicationId
      (WasmApplicationControlRecordV1.withVersion record (projectRegistryRow R.rowDigest proof))) ∅

/-- What a call holds in memory after it has loaded the control state. -/
structure LoadedControlState where
  state : WasmCommandControlState
  registryFile : WasmRouteRegistryFile
  applications : WasmApplications

/-- `load_control_state` -/
def KernelWorld.loadControlState (world : KernelWorld σ) : Except KernelError LoadedControlState := do
  let registryFile ← world.registry.load A
  match world.control with
  | none => return ⟨⟨0, [], []⟩, registryFile, projectVisibleAdmissionApplications R world.visible⟩
  | some file => do
    file.validate
    return ⟨⟨file.controlRevision, file.commandOutbox, registryFile.retirements⟩, registryFile,
      file.applications⟩

def loadControlState : KernelM σ LoadedControlState := do
  let loaded ← Prog.read (KernelWorld.loadControlState A R)
  Prog.lift loaded

/-- The check of the fences of one application. -/
def validateApplicationFence (entry : String × WasmApplicationFenceV1) : Except KernelError Unit :=
  match entry.2.records[entry.2.currentVersionId]? with
  | none => .error ⟨wasmControlStateInvalid,
      "each wasm application fence must name a current version record"⟩
  | some current => do
    controlStateCheck (current.versionId == entry.2.currentVersionId && entry.1 != "")
      "a wasm fence record is inconsistent with its application currentVersionId"
    controlStateCheck (entry.2.records.toList.all fun record => record.1 == record.2.versionId)
      "a wasm fence record key must equal its versionId"

/-- `load_fences_file` -/
def KernelWorld.loadFencesFile (world : KernelWorld σ) : Except KernelError WasmFences := do
  world.fences.toList.forM validateApplicationFence
  return world.fences

def loadFencesFile : KernelM σ WasmFences := do
  let loaded ← Prog.read KernelWorld.loadFencesFile
  Prog.lift loaded

/-! ## Writing -/

/-- One file is replaced by a rename. -/
def writeFile (update : KernelWorld σ → KernelWorld σ) : KernelM σ Unit :=
  Prog.write fun world => (update world, .ok ())

def saveRouteRegistry (file : WasmRouteRegistryFile) : KernelM σ Unit :=
  writeFile fun world => { world with registry := file }

def saveFencesFile (fences : WasmFences) : KernelM σ Unit :=
  writeFile fun world => { world with fences := fences }

/-- The file a control state is saved as. -/
def controlStateFile (state : WasmCommandControlState) (applications : WasmApplications) :
    WasmControlStateFileV2 :=
  ⟨2, runtimeKindWasm, state.controlRevision, applications, state.commandOutbox⟩

/-- The registry file with the retirements of a control state and the lifecycle of every version. -/
def projectedRegistry (registryFile : WasmRouteRegistryFile) (state : WasmCommandControlState)
    (applications : WasmApplications) : WasmRouteRegistryFile :=
  let rows := (applications.toList.map fun entry => entry.2.versions).flatten
  { registryFile with
    retirements := state.retirements
    lifecycles := rows.foldl (fun lifecycles row => lifecycles.insert row.versionId row.lifecycle)
      registryFile.lifecycles }

/-- The head of the stored control revision; a stored file must be valid. -/
def KernelWorld.storedRevision (world : KernelWorld σ) : Except KernelError (Option Nat) :=
  match world.control with
  | none => .ok none
  | some file => do
    file.validate
    return some file.controlRevision

/-- `save_control_state`: the control state, then the registry, then the retirements. -/
def saveControlState (expectedControlRevision : Option Nat) (state : WasmCommandControlState)
    (registryFile : WasmRouteRegistryFile) (applications : WasmApplications) : KernelM σ Unit := do
  let file := controlStateFile state applications
  match file.validate with
  | .error e => Prog.lift (.error ⟨e.code, "the projected wasm control state is invalid: " ++ e.detail⟩)
  | .ok () => do
    let stored ← Prog.read KernelWorld.storedRevision
    let actual ← Prog.lift stored
    if actual ≠ expectedControlRevision then
      Prog.lift (.error ⟨controlRevisionConflict,
        "wasm control-state revision CAS found another head; no bytes were written"⟩)
    else do
      writeFile fun world => { world with control := some file }
      saveRouteRegistry (projectedRegistry registryFile state applications)
      writeFile fun world => { world with retirements := state.retirements }

/-- `advance_control_revision` -/
def advanceControlRevision (state : WasmCommandControlState) : Except KernelError WasmCommandControlState := do
  require (state.controlRevision < wasmU53Max) wasmControlStateInvalid
    "the wasm control revision space is exhausted"
  return { state with controlRevision := state.controlRevision + 1 }

end Iweb
