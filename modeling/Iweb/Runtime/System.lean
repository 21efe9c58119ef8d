import Iweb.Activation.Rpc
import Iweb.Foundations.CrashRefinement
import Iweb.Runtime.Ingress
import Iweb.Runtime.Projection

/-!
# Runs of the runtime

The runtime starts, admits versions, activates them and delivers its outbox; each of these is a program
that a crash can end after any of its writes. Deliveries are steps of their own: the source starts one at
the end of every call and again from a timer.
-/

namespace Iweb

open Std (ExtTreeMap)
open CrashHoare CrashRefinement

variable {σ : Type} (A : AdmissionRules) (R : RuntimeRules) (D : Digests) (C : SupervisorChannel σ)

/-! ## Programs -/

/-- The registration of an admitted proof in the route registry. -/
def registerProof (proof : AdmissionProofV1) : KernelM σ WasmRouteRegistryFile := do
  let loaded ← Prog.read fun world : KernelWorld σ => world.registry.load A
  let registryFile ← Prog.lift loaded
  if registryFile.proofs.any fun candidate => candidate.versionId == proof.versionId then
    return registryFile
  else do
    saveRouteRegistry (registryFile.withProof proof)
    return registryFile.withProof proof

/-- The version row of an admitted proof in the control state. -/
def upsertAdmitted (proof : AdmissionProofV1) (registryFile : WasmRouteRegistryFile) : KernelM σ Unit := do
  let present ← Prog.read fun world : KernelWorld σ => world.control.isSome
  let loaded ← loadControlState A R
  let (applications, changed) ← Prog.lift (upsertVisibleAdmission R loaded.applications proof)
  if changed then do
    let state ← Prog.lift (advanceControlRevision loaded.state)
    saveControlState (some loaded.state.controlRevision) state registryFile applications
  else if !present then
    saveControlState none loaded.state registryFile applications
  else return ()

/-- `handle_admission` from the end of the admission transaction on. -/
def handleAdmitted (host : HostClock) (proof : AdmissionProofV1) : KernelM σ Unit := do
  let registryFile ← registerProof A proof
  upsertAdmitted A R proof registryFile
  reconcileVisibleExecutionState A R host

/-- The recovery of the activation store. -/
def recoverActivation : KernelM σ Unit :=
  Prog.write fun world => ({ world with activation := (world.activation.recover D).1 },
    (world.activation.recover D).2.map fun _ => ())

/-- `WasmRuntime::startup` after the recovery of the admission journal. -/
def startup (host : HostClock) : KernelM σ Unit := do
  convergeRouteRegistryFromAdmission A
  materializeControlStateIfMissing A R
  reconcileVisibleAdmissions A R
  reconcileVisibleExecutionState A R host
  recoverActivation D
  syncLifecycleAfterActivation A R host

/-- A lease the runtime accepts: it is in the lease file and well formed. -/
def leaseLookup (leases : ExtTreeMap String ServiceReadinessLeaseV2) (nonce : String) :
    Option ServiceReadinessLeaseV2 :=
  (leases[nonce]?).filter fun lease => (lease.validate D).isOk

/-- What one activation RPC gets from the runtime. -/
def activationDeps (leases : ExtTreeMap String ServiceReadinessLeaseV2) (host : HostClock)
    (world : KernelWorld σ) : ActivationDeps where
  nowEpochMillis := host.nowEpochMillis
  leaseLookup := leaseLookup D leases
  facts applicationId := activationFacts world.fences world.registry.proofs
    (loadActivationStates world.activation) applicationId host.nowEpochMillis
  eventId := host.uuidV7 host.nowEpochMillis

/-- The decision of an activation RPC, written to the activation store. -/
def decideActivation (leases : ExtTreeMap String ServiceReadinessLeaseV2) (host : HostClock)
    (body : ActivationRpcRequestBody) :
    KernelM σ (Except ActivationHttpFailure ActivationResultBodyV1) :=
  Prog.write fun world =>
    let decided := handleActivationRpcBody D world.activation body (activationDeps D leases host world)
    ({ world with activation := decided.1 }, .ok decided.2)

/-- `handle_activation_rpc`: a decided RPC is projected at once. -/
def handleActivationRpc (leases : ExtTreeMap String ServiceReadinessLeaseV2) (host : HostClock)
    (body : ActivationRpcRequestBody) :
    KernelM σ (Except ActivationHttpFailure ActivationResultBodyV1) := do
  syncLifecycleAfterActivation A R host
  let answer ← decideActivation D leases host body
  match answer with
  | .error _ => return answer
  | .ok _ => do
    syncLifecycleAfterActivation A R host
    return answer

/-! ## Runs -/

/-- One step; `crash` is the number of writes after which the process dies. -/
inductive KernelOp (σ : Type)
  /-- An admission transaction makes a proof visible, and the endpoint goes on from there. -/
  | admission (proof : AdmissionProofV1) (host : HostClock) (crash : Option Nat)
  | startup (host : HostClock) (crash : Option Nat)
  | reconcile (host : HostClock) (crash : Option Nat)
  | deliver (nowEpochMillis : Nat) (crash : Option Nat)
  | activate (leases : ExtTreeMap String ServiceReadinessLeaseV2) (host : HostClock)
    (body : ActivationRpcRequestBody) (crash : Option Nat)
  /-- The execution stream writes the drain deadline of a fence. -/
  | drainDeadline (applicationId versionId : String) (deadlineEpochMillis : Nat)
  /-- Something happens at the supervisor. -/
  | supervisor (change : σ → σ)

/-- The admission of a proof: it is verified, and its version id is new. The version digest covers the
name of the application, so versions of two applications have different ids. -/
def KernelWorld.admitted (world : KernelWorld σ) (proof : AdmissionProofV1) : KernelWorld σ :=
  if (verifyAdmissionProof A proof).isOk ∧
      ∀ visible ∈ world.visible, visible.versionId ≠ proof.versionId then
    { world with visible := world.visible.orderedInsert (fun p q => p.versionId ≤ q.versionId) proof }
  else world

/-- The fences with the drain deadline of an execution. -/
def withDrainDeadline (fences : WasmFences) (applicationId versionId : String) (deadline : Nat) :
    WasmFences :=
  match fences[applicationId]? with
  | none => fences
  | some application =>
    match application.records[versionId]? with
    | none => fences
    | some record => fences.insert applicationId { application with
        records := application.records.insert versionId
          { record with drainDeadlineEpochMillis := some deadline } }

/-- The files after one step. -/
def KernelOp.run (world : KernelWorld σ) : KernelOp σ → KernelWorld σ
  | .admission proof host crash =>
    if proof ∈ (world.admitted A proof).visible then
      (handleAdmitted A R host proof).leaves crash (world.admitted A proof)
    else world
  | .startup host crash => (Iweb.startup A R D host).leaves crash world
  | .reconcile host crash => (reconcileVisibleExecutionState A R host).leaves crash world
  | .deliver now crash => (runOutboxDelivery A R C now).leaves crash world
  | .activate leases host body crash => (handleActivationRpc A R D leases host body).leaves crash world
  | .drainDeadline applicationId versionId deadline =>
    { world with fences := withDrainDeadline world.fences applicationId versionId deadline }
  | .supervisor change => { world with channel := change world.channel }

/-- The files after a history on empty ones. -/
def kernelRun (channel : σ) (ops : List (KernelOp σ)) : KernelWorld σ :=
  run (KernelOp.run A R D C) (.empty channel) ops

end Iweb
