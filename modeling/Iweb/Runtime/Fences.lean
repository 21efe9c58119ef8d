import Iweb.Admission.Proof
import Iweb.Activation.Ledger
import Iweb.Activation.Rpc

/-!
# Execution fences and the facts of an activation

The fence file records, for every application, which version is current and the generations, secret and
config snapshot of each of its executions. `activationFacts` reads the facts of an activation from it.
-/

namespace Iweb

open Std (ExtTreeMap)

/-- The fence of one execution of a version. -/
structure WasmFenceRecordV1 where
  versionId : String
  sandboxId : String
  preparationGeneration : Nat
  executionGeneration : Nat
  secretRevision : Nat
  secretSnapshotRef : String
  secretValuesDigest : String
  configRevision : Nat
  configSnapshotRef : Option String
  configValuesDigest : Option String
  alive : Bool
  lifecycle : String
  bindingRevoked : Bool
  drainDeadlineEpochMillis : Option Nat
deriving DecidableEq

/-- The fences of one application and its current version. -/
structure WasmApplicationFenceV1 where
  currentVersionId : String
  records : ExtTreeMap String WasmFenceRecordV1
deriving DecidableEq

/-- The fence file by application. -/
abbrev WasmFences := ExtTreeMap String WasmApplicationFenceV1

/-- The fence of the current version of an application. -/
def currentFence (fences : WasmFences) (applicationId : String) : Option WasmFenceRecordV1 :=
  fences[applicationId]? >>= fun application => application.records[application.currentVersionId]?

/-- The registered proof of a version. -/
def registeredProof (proofs : List AdmissionProofV1) (applicationId versionId : String) :
    Option AdmissionProofV1 :=
  proofs.find? fun proof => proof.applicationId == applicationId && proof.versionId == versionId

/-- The registry row of the facts, from a registered proof. -/
def RegistryRowFacts.ofProof (proof : AdmissionProofV1) : RegistryRowFacts where
  runtimeBinding := proof.runtimeBinding
  capabilityRecordRevision := proof.capabilityRecordRevision
  capabilityRecordHash := proof.capabilityRecordHash
  hostServicePolicyDigest := proof.hostServicePolicy.map HostServicePolicyV2.policyDigest
  lifecycleReady := true

/-- `activation_facts`: the facts of an activation of an application. -/
def activationFacts (fences : WasmFences) (proofs : List AdmissionProofV1)
    (activationStates : ExtTreeMap String KernelActivationState) (applicationId : String)
    (nowEpochMillis : Nat) : ActivationCasFacts :=
  let fence := currentFence fences applicationId
  let registryRow := fence >>= fun fence =>
    ((registeredProof proofs applicationId fence.versionId).filter fun _ =>
        fence.lifecycle == "ready" || fence.lifecycle == "active").map
      RegistryRowFacts.ofProof
  { nowEpochMillis := nowEpochMillis
    -- The store stamps its own revision when it commits.
    controlRevision := 0
    currentSecretStoreRevision := (fence.map WasmFenceRecordV1.secretRevision).getD 0
    currentPreparationGeneration := (fence.map WasmFenceRecordV1.preparationGeneration).getD 0
    candidateAlive := fence.any WasmFenceRecordV1.alive
    registryRow := registryRow
    bindingRevoked := fence.any WasmFenceRecordV1.bindingRevoked
    rollbackRetention := activationStates[applicationId]? >>= fun state =>
      state.rollbackRetentions.head? }

/-- `load_activation_states`: the activation states the facts are read from. -/
def loadActivationStates (store : WasmActivationStore) : ExtTreeMap String KernelActivationState :=
  match store with
  | none => ∅
  | some file => file.applications

/-- A commit decides on facts that the Kernel has read from its fences, its registered proofs and the
store itself. -/
def StoreOp.Fed (store : WasmActivationStore) : StoreOp → Prop
  | .commit command _ facts _ _ => ∃ fences proofs now,
      facts = activationFacts fences proofs (loadActivationStates store) command.applicationId now
  | _ => True

end Iweb
