import Iweb.Activation.Transaction

/-!
# The activation store

One file holds the activation states of all applications under a single control revision, which grows
by one with every committed mutation. A store is the durable content of that file, absent before the
first write. Every commit first recovers the intents that a crash left behind.
-/

namespace Iweb

open Std (ExtTreeMap)

/-- The content of `activation-state.json`. -/
structure WasmActivationStateFileV1 where
  schemaVersion : Nat
  runtimeKind : String
  controlRevision : Nat
  applications : ExtTreeMap String KernelActivationState
deriving DecidableEq

/-- `WasmActivationStateFileV1::empty` -/
def WasmActivationStateFileV1.empty : WasmActivationStateFileV1 where
  schemaVersion := 1
  runtimeKind := "wasm"
  controlRevision := 0
  applications := ∅

/-- The durable content of the store. -/
abbrev WasmActivationStore := Option WasmActivationStateFileV1

/-- Read the file; a store that was never written is empty. -/
def WasmActivationStore.load (store : WasmActivationStore) :
    Except KernelError WasmActivationStateFileV1 :=
  match store with
  | none => .ok .empty
  | some file => do
    require (file.schemaVersion == 1 && file.runtimeKind == "wasm") wasmActivationFailClosed
      "the activation state file must be schemaVersion 1 with runtimeKind wasm"
    require (file.controlRevision ≤ wasmU53Max) wasmActivationFailClosed
      "controlRevision exceeds the u53 range"
    return file

variable (D : Digests)

/-- A commit must find room for one more control revision. -/
def checkRevisionSpace (file : WasmActivationStateFileV1) : Except KernelError Unit :=
  require (file.controlRevision < wasmU53Max) controlRevisionConflict
    "control revision space is exhausted"

/-- Recover one application: settle its intent, if it has one. The flag says whether the file changed
and must be written. -/
def recoverApplication (progress : WasmActivationStateFileV1 × Bool) (applicationId : String) :
    Except KernelError (WasmActivationStateFileV1 × Bool) :=
  let (file, changed) := progress
  match file.applications[applicationId]? with
  | none => .ok (file, changed)
  | some state =>
    if state.pending.isNone then .ok (file, changed)
    else do
      let (state', outcome) := repairUncertainActivation D state
      let file' := { file with applications := file.applications.insert applicationId state' }
      match ← outcome with
      | .noRepairNeeded => return (file', changed)
      | .repairedEventFromPointerCas _ => do
        checkRevisionSpace file
        return ({ file' with controlRevision := file.controlRevision + 1 }, true)
      | .discardedPartialConsume => return (file', true)

/-- Recover every application of the file. -/
def recoverFile (file : WasmActivationStateFileV1) :
    Except KernelError (WasmActivationStateFileV1 × Bool) :=
  file.applications.keys.foldlM (recoverApplication D) (file, false)

/-- The store after recovery, with the file as the next step sees it: a recovery that changed nothing
is not written. -/
def WasmActivationStore.loadRecovered (store : WasmActivationStore) :
    Except KernelError (WasmActivationStore × WasmActivationStateFileV1) := do
  let file ← store.load
  let (file', changed) ← recoverFile D file
  return (if changed then some file' else store, file')

/-- `WasmActivationStore::recover` -/
def WasmActivationStore.recover (store : WasmActivationStore) :
    WasmActivationStore × Except KernelError Bool :=
  match store.load >>= recoverFile D with
  | .error failure => (store, .error failure)
  | .ok (file', changed) => (if changed then some file' else store, .ok changed)

/-- The state a commit starts from. -/
def WasmActivationStateFileV1.stateFor (file : WasmActivationStateFileV1) (applicationId : String) :
    Except KernelError KernelActivationState :=
  match file.applications[applicationId]? with
  | some state => .ok state
  | none => KernelActivationState.new applicationId

/-- Write the state of one application back; `revision` is the control revision it is written at. -/
def WasmActivationStateFileV1.persistState (file : WasmActivationStateFileV1) (applicationId : String)
    (state : KernelActivationState) (revision : Nat) : WasmActivationStateFileV1 :=
  { file with
    controlRevision := revision
    applications := file.applications.insert applicationId state }

/-- `WasmActivationStore::commit_activation` -/
def WasmActivationStore.commitActivation (store : WasmActivationStore) (command : ActivationCommand)
    (lease : ServiceReadinessLeaseV2) (facts : ActivationCasFacts) (eventId : String)
    (crash : Option ActivationCrashPoint) : WasmActivationStore × Except KernelError RouteEvent :=
  match store.loadRecovered D with
  | .error failure => (store, .error failure)
  | .ok (store, file) =>
    match checkRevisionSpace file >>= fun _ => file.stateFor command.applicationId with
    | .error failure => (store, .error failure)
    | .ok before =>
      let facts := { facts with controlRevision := file.controlRevision + 1 }
      match applyActivation D before command lease facts eventId crash with
      | (state, .error failure) =>
        if failure.code = wasmActivationSimulatedCrash then
          (some (file.persistState command.applicationId state file.controlRevision), .error failure)
        else (store, .error failure)
      | (state, .ok event) =>
        if state ≠ before then
          (some (file.persistState command.applicationId state (file.controlRevision + 1)), .ok event)
        else (store, .ok event)

/-- `WasmActivationStore::commit_missing_lease_rejection` -/
def WasmActivationStore.commitMissingLeaseRejection (store : WasmActivationStore)
    (command : ActivationCommand) (nowEpochMillis : Nat) (eventId : String) :
    WasmActivationStore × Except KernelError RouteEvent :=
  match store.loadRecovered D with
  | .error failure => (store, .error failure)
  | .ok (store, file) =>
    match checkRevisionSpace file >>= fun _ => file.stateFor command.applicationId with
    | .error failure => (store, .error failure)
    | .ok before =>
      match applyActivationWithoutLease D before command nowEpochMillis (file.controlRevision + 1)
          eventId with
      | (_, .error failure) => (store, .error failure)
      | (state, .ok event) =>
        if state ≠ before then
          (some (file.persistState command.applicationId state (file.controlRevision + 1)), .ok event)
        else (store, .ok event)

/-- The durable answer to an activation id: the first application, by name, that records it. -/
def WasmActivationStore.recordedActivation (store : WasmActivationStore) (activationId : String) :
    Except KernelError (Option RecordedActivation) := do
  let file ← store.load
  return file.applications.toList.findSome? fun entry => entry.2.activationRecords[activationId]?

/-- Whether an activation id has an undecided intent. -/
def WasmActivationStore.pendingActivation (store : WasmActivationStore) (activationId : String) :
    Except KernelError Bool := do
  let file ← store.load
  return file.applications.toList.any fun entry =>
    entry.2.pending.any fun pending => pending.command.activationId == activationId

end Iweb
