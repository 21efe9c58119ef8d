import Iweb.Runtime.ControlState

/-!
# Public ingress

A public request is routed by the pointer of the control state and the fence of the version it names; the
static route record only contributes the application.
-/

namespace Iweb

open Std (ExtTreeMap)

structure WasmIngressTarget where
  applicationId : String
  sandboxId : String
  versionId : String
  routeGeneration : Nat
  preparationGeneration : Nat
  executionGeneration : Nat
deriving DecidableEq

/-- The version row an active pointer may route to. -/
def routableRow (record : WasmApplicationControlRecordV1) (pointer : ActivePointer) : Bool :=
  match record.versions.find? fun row => row.versionId == pointer.versionId with
  | none => false
  | some row => row.lifecycle == "active" && row.readinessLeaseDigest.isSome &&
      row.identity == pointer.identity && row.runtimeBinding == pointer.runtimeBinding &&
      row.admissionProofRef == pointer.admissionProofRef &&
      row.admissionProofDigest == pointer.admissionProofDigest

/-- The fence of a version that may be routed to. -/
def routableFence (record : WasmApplicationControlRecordV1) (versionId : String)
    (fence : WasmFenceRecordV1) : Bool :=
  fence.versionId == versionId && fence.alive && !fence.bindingRevoked &&
    (fence.lifecycle == "ready" || fence.lifecycle == "active") && fence.preparationGeneration != 0 &&
    fence.executionGeneration != 0 && record.secretRevision == fence.secretRevision &&
    record.configRevision == fence.configRevision

/-- The fence an active pointer routes to: that of the current version of the application. -/
def routedFence (fences : WasmFences) (applicationId : String) (record : WasmApplicationControlRecordV1)
    (pointer : ActivePointer) : Option WasmFenceRecordV1 :=
  match fences[applicationId]? with
  | none => none
  | some application =>
    if application.currentVersionId ≠ pointer.versionId then none
    else (application.records[pointer.versionId]?).filter (routableFence record pointer.versionId)

/-- `resolve_active_ingress_from_records` -/
def resolveActiveIngressFromRecords (applicationId : String) (applications : WasmApplications)
    (fences : WasmFences) : Option WasmIngressTarget :=
  match applications[applicationId]? with
  | none => none
  | some record =>
    if record.runtimeKind ≠ runtimeKindWasm ∨ record.applicationId ≠ applicationId then none
    else match record.active with
      | .unavailable .. => none
      | .active pointer =>
        if pointer.runtimeKind ≠ runtimeKindWasm ∨ pointer.applicationId ≠ applicationId ∨
            pointer.routeGeneration ≠ record.routeGeneration then none
        else if !routableRow record pointer then none
        else (routedFence fences applicationId record pointer).map fun fence =>
          { applicationId := applicationId
            sandboxId := fence.sandboxId
            versionId := pointer.versionId
            routeGeneration := pointer.routeGeneration
            preparationGeneration := fence.preparationGeneration
            executionGeneration := fence.executionGeneration }

/-- `resolve_active_ingress` -/
def KernelWorld.resolveActiveIngress {σ : Type} (A : AdmissionRules) (R : RuntimeRules)
    (world : KernelWorld σ) (applicationId : String) : Option WasmIngressTarget :=
  match world.loadControlState A R, world.loadFencesFile with
  | .ok loaded, .ok fences => resolveActiveIngressFromRecords applicationId loaded.applications fences
  | _, _ => none

end Iweb
