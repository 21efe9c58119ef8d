import Iweb.Activation.Vectors
import Iweb.Runtime.Fences
import Iweb.Activation.Proofs.CasProofs

/-!
# What an activation is backed by

An activation should rest on one version: the command, its candidate, the lease, the registered proof
and the version's own fence should name the same execution. The decision compares the lease with the
candidate and a few pins of the application's current fence; `UncheckedPinsAgree` collects the pins it
compares with nothing. `activated_backed_iff` says that these are exactly what separates an activation
from a backed one.
-/

namespace Iweb

open Std (ExtTreeMap)

/-- The pins on which the registered proof of a version agrees with a command and a lease. -/
structure ProofAgrees (P : ProofDigest) (proof : AdmissionProofV1) (command : ActivationCommand)
    (lease : ServiceReadinessLeaseV2) : Prop where
  version : proof.versionId = command.candidate.versionId ∧ lease.versionId = proof.versionId
  package : proof.packageDigest = command.candidate.packageDigest ∧
    lease.packageDigest = proof.packageDigest
  proof_ref : command.candidate.admissionProofRef = proof.proofRef
  proof_digest : command.candidate.admissionProofDigest = P.admissionProofDigest proof
  binding : proof.runtimeBinding.toV2 = command.candidate.runtimeBinding ∧
    lease.runtimeBinding = proof.runtimeBinding.toV2
  capability_revision : command.capabilityRecordRevision = proof.capabilityRecordRevision ∧
    lease.capabilityRecordRevision = proof.capabilityRecordRevision
  capability_hash : command.capabilityRecordHash = proof.capabilityRecordHash ∧
    lease.capabilityRecordHash = proof.capabilityRecordHash
  policy : command.hostServicePolicyDigest = proof.policyDigest ∧
    lease.hostServicePolicyDigest = proof.policyDigest

/-- The pins on which the fence of a version agrees with a candidate and a lease. -/
structure FenceAgrees (fence : WasmFenceRecordV1) (candidate : ActivationCandidate)
    (lease : ServiceReadinessLeaseV2) : Prop where
  alive : fence.alive = true
  version : fence.versionId = candidate.versionId
  sandbox : fence.sandboxId = candidate.sandboxId ∧ lease.sandboxId = fence.sandboxId
  secret_revision : fence.secretRevision = candidate.secretRevision ∧
    lease.secretRevision = fence.secretRevision
  secret_digest : fence.secretValuesDigest = candidate.secretValuesDigest ∧
    lease.secretValuesDigest = fence.secretValuesDigest
  config_revision : fence.configRevision = candidate.configRevision ∧
    lease.configRevision = fence.configRevision
  config_digest : fence.configValuesDigest = candidate.configValuesDigest ∧
    lease.configValuesDigest = fence.configValuesDigest
  preparation : fence.preparationGeneration = candidate.preparationGeneration ∧
    lease.preparationGeneration = fence.preparationGeneration
  execution : fence.executionGeneration = candidate.executionGeneration ∧
    lease.executionGeneration = fence.executionGeneration

/-- One consistent set of facts behind an activation: everything names the candidate's version, whose
own fence is the one that was consulted, and both expected revisions are the current ones. -/
structure ActivationBacked (P : ProofDigest) (fences : WasmFences) (proofs : List AdmissionProofV1)
    (state : KernelActivationState) (controlRevision nowEpochMillis : Nat)
    (command : ActivationCommand) (lease : ServiceReadinessLeaseV2) : Prop where
  application : command.applicationId = state.applicationId
  registered : ∃ proof,
    registeredProof proofs command.applicationId command.candidate.versionId = some proof ∧
      ProofAgrees P proof command lease
  fenced : ∃ application fence, fences[command.applicationId]? = some application ∧
    application.currentVersionId = command.candidate.versionId ∧
    application.records[command.candidate.versionId]? = some fence ∧
    FenceAgrees fence command.candidate lease
  unexpired : ∃ expiresAt, lease.expiresAtEpochMillis = .ok expiresAt ∧ nowEpochMillis < expiresAt
  route_generation : command.expectedRouteGeneration = state.routeGeneration
  control_revision : command.expectedControlRevision = controlRevision

/-- The pins the decision carries and compares with nothing: the version the facts are about, the
proof's package and digest, the command's capability pin and control revision, and the fence's sandbox,
execution generation, secret and config values. -/
structure UncheckedPinsAgree (P : ProofDigest) (fences : WasmFences) (proofs : List AdmissionProofV1)
    (controlRevision : Nat) (command : ActivationCommand) : Prop where
  current : ∃ application fence proof, fences[command.applicationId]? = some application ∧
    application.currentVersionId = command.candidate.versionId ∧
    application.records[application.currentVersionId]? = some fence ∧
    registeredProof proofs command.applicationId fence.versionId = some proof ∧
    fence.versionId = command.candidate.versionId ∧
    fence.sandboxId = command.candidate.sandboxId ∧
    fence.executionGeneration = command.candidate.executionGeneration ∧
    fence.secretValuesDigest = command.candidate.secretValuesDigest ∧
    fence.configRevision = command.candidate.configRevision ∧
    fence.configValuesDigest = command.candidate.configValuesDigest ∧
    proof.packageDigest = command.candidate.packageDigest ∧
    P.admissionProofDigest proof = command.candidate.admissionProofDigest ∧
    command.capabilityRecordRevision = proof.capabilityRecordRevision ∧
    command.capabilityRecordHash = proof.capabilityRecordHash
  control_revision : command.expectedControlRevision = controlRevision

/-- A registered proof is the proof of the version it was looked up by. -/
theorem registeredProof_some {proofs : List AdmissionProofV1} {applicationId versionId : String}
    {proof : AdmissionProofV1} (h : registeredProof proofs applicationId versionId = some proof) :
    proof.applicationId = applicationId ∧ proof.versionId = versionId := by
  simpa using List.find?_some h

/-- A valid command's proof reference is the one its application and candidate version give. -/
theorem admissionProofRef_of_valid {D : Digests} {command : ActivationCommand}
    (h : command.validate D = .ok ()) :
    command.candidate.admissionProofRef =
      "admission-proof/" ++ command.applicationId ++ "/" ++ command.candidate.versionId := by
  simp only [ActivationCommand.validate, ActivationCandidate.validate, bind_eq_ok] at h
  obtain ⟨_, _, _, _, _, _, _, _, _, _, _, _, _, _, _, _, _, _, _, _, _, hc, _⟩ := h
  obtain ⟨_, _, _, _, _, _, _, _, _, _, _, _, _, href, _⟩ := hc
  simpa [activationCheck] using href

/-- The registry row of the facts comes from the proof registered for the current fence's version. -/
theorem activationFacts_registryRow {fences : WasmFences} {proofs : List AdmissionProofV1}
    (states : ExtTreeMap String KernelActivationState) {applicationId : String} (now : Nat)
    {registry : RegistryRowFacts}
    (h : (activationFacts fences proofs states applicationId now).registryRow = some registry) :
    ∃ fence proof, currentFence fences applicationId = some fence ∧
      registeredProof proofs applicationId fence.versionId = some proof ∧
      (fence.lifecycle = "ready" ∨ fence.lifecycle = "active") ∧
      registry = RegistryRowFacts.ofProof proof := by
  simp only [activationFacts, Option.bind_eq_bind, Option.bind_eq_some_iff, Option.map_eq_some_iff,
    Option.filter_eq_some_iff, Bool.or_eq_true, beq_iff_eq] at h
  obtain ⟨fence, hf, proof, ⟨hp, hl⟩, rfl⟩ := h
  exact ⟨fence, proof, hf, hp, hl, rfl⟩

variable (D : Digests) (P : ProofDigest)

/-- The facts a commit decides on: those of `activationFacts`, stamped with the next revision. -/
def stampedFacts (fences : WasmFences) (proofs : List AdmissionProofV1)
    (states : ExtTreeMap String KernelActivationState) (controlRevision nowEpochMillis : Nat)
    (command : ActivationCommand) : ActivationCasFacts :=
  { activationFacts fences proofs states command.applicationId nowEpochMillis with
    controlRevision := controlRevision + 1 }

/-- On an accepted command, the facts are consistent exactly when the pins that were never compared
agree. -/
theorem backed_iff_of_gates {fences : WasmFences} {proofs : List AdmissionProofV1}
    {states : ExtTreeMap String KernelActivationState} {state : KernelActivationState}
    {controlRevision now : Nat} {command : ActivationCommand} {lease : ServiceReadinessLeaseV2}
    (gates : ActivationGates D state command lease
      (stampedFacts fences proofs states controlRevision now command)) :
    ActivationBacked P fences proofs state controlRevision now command lease ↔
      UncheckedPinsAgree P fences proofs controlRevision command := by
  obtain ⟨registry, hrow, -, hcorr, -⟩ := gates.candidate_ready
  obtain ⟨fence, proof, hfence, hproof, -, rfl⟩ := activationFacts_registryRow states now hrow
  have hsecret : fence.secretRevision = command.candidate.secretRevision := by
    simpa [stampedFacts, activationFacts, hfence] using gates.secret
  have hprep : fence.preparationGeneration = command.candidate.preparationGeneration := by
    simpa [stampedFacts, activationFacts, hfence] using gates.preparation
  have halive : fence.alive = true := by
    simpa [stampedFacts, activationFacts, hfence] using gates.alive
  have hbinding := (runtimeBindingV2FromV1_eq_ok hcorr.registryBinding).symm
  have hpolicy : proof.policyDigest = command.hostServicePolicyDigest := hcorr.policyRegistry
  simp only [currentFence, Option.bind_eq_bind, Option.bind_eq_some_iff] at hfence
  obtain ⟨application, happ, hrecord⟩ := hfence
  constructor
  · rintro ⟨-, ⟨proof', hproof', pins⟩, ⟨application', fence', happ', hcurrent, hrecord', fpins⟩, -, -, hrev⟩
    obtain rfl : application' = application := Option.some.inj (happ'.symm.trans happ)
    rw [← hcurrent] at hrecord'
    obtain rfl : fence' = fence := Option.some.inj (hrecord'.symm.trans hrecord)
    obtain rfl : proof' = proof := by
      rw [fpins.version] at hproof
      exact Option.some.inj (hproof'.symm.trans hproof)
    exact ⟨⟨application', fence', proof', happ, hcurrent, hrecord, hproof, fpins.version,
      fpins.sandbox.1, fpins.execution.1, fpins.secret_digest.1, fpins.config_revision.1,
      fpins.config_digest.1, pins.package.1, pins.proof_digest.symm, pins.capability_revision.1,
      pins.capability_hash.1⟩, hrev⟩
  · rintro ⟨⟨application', fence', proof', happ', hcurrent, hrecord', hproof', hversion, hsandbox,
      hexec, hsdigest, hcrev, hcdigest, hpackage, hpdigest, hcaprev, hcaphash⟩, hrev⟩
    obtain rfl : application' = application := Option.some.inj (happ'.symm.trans happ)
    obtain rfl : fence' = fence := Option.some.inj (hrecord'.symm.trans hrecord)
    obtain rfl : proof' = proof := Option.some.inj (hproof'.symm.trans hproof)
    obtain ⟨hpapp, hpversion⟩ := registeredProof_some hproof
    have href := admissionProofRef_of_valid gates.command_valid
    rw [← hversion, ← hpversion, ← hpapp] at href
    rw [hversion] at hproof
    rw [hcurrent] at hrecord
    refine
      { application := gates.application
        registered := ⟨proof', hproof, ?_⟩
        fenced := ⟨application', fence', happ, hcurrent, hrecord, ?_⟩
        unexpired := gates.unexpired
        route_generation := gates.generation
        control_revision := hrev }
    · exact
        { version := ⟨hpversion.trans hversion, hcorr.versionId.trans (hpversion.trans hversion).symm⟩
          package := ⟨hpackage, hcorr.packageDigest.trans hpackage.symm⟩
          proof_ref := href
          proof_digest := hpdigest.symm
          binding := ⟨hbinding, hcorr.runtimeBinding.trans hbinding.symm⟩
          capability_revision := ⟨hcaprev, hcorr.capabilityRevision⟩
          capability_hash := ⟨hcaphash, hcorr.capabilityHash⟩
          policy := ⟨hpolicy.symm, hcorr.policyCommand.trans hpolicy.symm⟩ }
    · exact
        { alive := halive
          version := hversion
          sandbox := ⟨hsandbox, hcorr.sandboxId.trans hsandbox.symm⟩
          secret_revision := ⟨hsecret, hcorr.secretRevision.trans hsecret.symm⟩
          secret_digest := ⟨hsdigest, hcorr.secretValuesDigest.trans hsdigest.symm⟩
          config_revision := ⟨hcrev, hcorr.configRevision.trans hcrev.symm⟩
          config_digest := ⟨hcdigest, hcorr.configValuesDigest.trans hcdigest.symm⟩
          preparation := ⟨hprep, hcorr.preparation.trans hprep.symm⟩
          execution := ⟨hexec, hcorr.execution.trans hexec.symm⟩ }

/-- A decision to activate always rests on consistent facts exactly when some check refuses the
command or the pins that are never compared agree. -/
theorem activated_backed_iff (fences : WasmFences) (proofs : List AdmissionProofV1)
    (states : ExtTreeMap String KernelActivationState) (state : KernelActivationState)
    (controlRevision now : Nat) (command : ActivationCommand) (lease : ServiceReadinessLeaseV2)
    (eventId : String) :
    (∀ event, evaluateActivationCas D state command lease
        (stampedFacts fences proofs states controlRevision now command) eventId =
          .ok (.activated event) →
      ActivationBacked P fences proofs state controlRevision now command lease) ↔
    (ActivationGates D state command lease
        (stampedFacts fences proofs states controlRevision now command) →
      UncheckedPinsAgree P fences proofs controlRevision command) := by
  constructor
  · intro h gates
    obtain ⟨event, hevent⟩ := (evaluateActivationCas_activated D eventId).mpr gates
    exact (backed_iff_of_gates D P gates).mp (h event hevent)
  · intro h event hevent
    have gates := (evaluateActivationCas_activated D eventId).mp ⟨event, hevent⟩
    exact (backed_iff_of_gates D P gates).mpr (h gates)

/-! ## A command that names other facts

The candidate's proof digest is not the registered proof's, the command pins capability record 7 where
lease and proof have 5, and it expects control revision 41 of a store at revision 0. -/

open Vectors in
/-- The digests of the three records of the run. -/
def foreignPinsDigests : Digests := tableDigests
  [("0f1e2d3c4b5a69788796a5b4c3d2e1f0",
    "a01a5fb82f117aa35f29a480778085f101e3f9c93689658493379edd7fb6f611")]
  [(("01892555-0000-7000-8000-000000000001", "vector"),
    "748cb6287cf39d7722a4429e7823d9750e358ed55a1f03297c44c07cb44a9e01")]
  [("01892555-0000-7000-8000-0000000000e1",
    "ad3266b54b8547835412170c9cb3497d1e983f134891cf142b688371b475d6e0")]

open Vectors in
def foreignPinsCommand : ActivationCommand :=
  let D := foreignPinsDigests
  sealCommand D
    { command D "01892555-0000-7000-8000-000000000001" "vector"
        (candidate D "vector" 1 "0f1e2d3c4b5a69788796a5b4c3d2e1f0" 1) 0 with
      capabilityRecordRevision := 7
      expectedControlRevision := 41 }

open Vectors in
/-- The fence of the live execution the lease is for. -/
def vectorFence : WasmFenceRecordV1 where
  versionId := versionId 1
  sandboxId := "sbx-candidate"
  preparationGeneration := 1
  executionGeneration := 1
  secretRevision := 3
  secretSnapshotRef := hex 64 '5'
  secretValuesDigest := hex 64 '6'
  configRevision := 0
  configSnapshotRef := none
  configValuesDigest := none
  alive := true
  lifecycle := "ready"
  bindingRevoked := false
  drainDeadlineEpochMillis := none

def vectorFences : WasmFences :=
  (∅ : WasmFences).insert "vector" ⟨vectorFence.versionId, (∅ : ExtTreeMap String WasmFenceRecordV1).insert
    vectorFence.versionId vectorFence⟩

/-- Whether the decision activates. -/
def isActivated : Except KernelError ActivationCasDecision → Bool
  | .ok (.activated _) => true
  | _ => false

/-- The command with foreign pins is activated, although its facts are not consistent. -/
theorem activated_with_foreign_pins :
    let lease := Vectors.lease foreignPinsDigests 1 "0f1e2d3c4b5a69788796a5b4c3d2e1f0" 1
    ∃ event, evaluateActivationCas foreignPinsDigests (.fresh "vector") foreignPinsCommand lease
        (stampedFacts vectorFences [vectorProof] ∅ 0 1800000000000 foreignPinsCommand)
        "01892555-0000-7000-8000-0000000000e1" = .ok (.activated event) ∧
      ¬ ActivationBacked vectorProofDigest vectorFences [vectorProof] (.fresh "vector") 0 1800000000000
        foreignPinsCommand lease := by
  have activated : isActivated (evaluateActivationCas foreignPinsDigests (.fresh "vector") foreignPinsCommand
      (Vectors.lease foreignPinsDigests 1 "0f1e2d3c4b5a69788796a5b4c3d2e1f0" 1)
      (stampedFacts vectorFences [vectorProof] ∅ 0 1800000000000 foreignPinsCommand)
      "01892555-0000-7000-8000-0000000000e1") = true := by decide +kernel
  intro lease
  unfold isActivated at activated
  split at activated
  · rename_i event hevent
    exact ⟨event, hevent, fun backed => absurd backed.control_revision (by decide +kernel)⟩
  · simp at activated

end Iweb
