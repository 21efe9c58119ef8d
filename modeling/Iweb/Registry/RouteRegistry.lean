import Iweb.Admission.Validation
import Iweb.Foundations.FiniteMap

/-!
# The wasm route registry

The rows that admitted versions project to, by application. Admission only creates rows: the pointer of a
new application is unavailable.
-/

namespace Iweb

open Std (ExtTreeMap)

def wasmRegistryConflict : String := "WASM_REGISTRY_CONFLICT"

/-- The profiles of the enabled host services. -/
structure HostServicesEnabledV2 where
  kv : Option String
  sql : Option String
  logging : Option String
deriving DecidableEq

/-- What a version row shows of a host-service policy. -/
structure ControlStateServicePolicySummaryV2 where
  schemaVersion : Nat
  policyDigest : String
  storageBytes : Nat
  dataDirectoryProfile : String
  durabilityProfile : String
  hostServices : HostServicesEnabledV2
deriving DecidableEq

/-- `HostServicePolicyV2::static_summary` -/
def HostServicePolicyV2.staticSummary (policy : HostServicePolicyV2) :
    ControlStateServicePolicySummaryV2 where
  schemaVersion := 2
  policyDigest := policy.policyDigest
  storageBytes := policy.storageBytes
  dataDirectoryProfile := policy.dataDirectoryProfile
  durabilityProfile := policy.durabilityProfile
  hostServices := { kv := policy.kvProfile, sql := policy.sqlProfile, logging := policy.loggingProfile }

structure WasmVersionRegistryRow where
  versionId : String
  identity : WasmVersionIdentity
  packageDigest : String
  normalizedPolicy : NormalizedWasmManifestV1
  lifecycle : String
  runtimeBinding : RuntimeBindingIdentityV1
  admissionProofRef : String
  admissionProofDigest : String
  hostServicePolicySummary : Option ControlStateServicePolicySummaryV2
  readinessLeaseDigest : Option String
deriving DecidableEq

structure WasmApplicationRegistryRecord where
  runtimeKind : String
  applicationId : String
  versions : List WasmVersionRegistryRow
  active : WasmActivePointerV1
  routeGeneration : Nat
  secretRevision : Nat
  configRevision : Nat
deriving DecidableEq

structure WasmKernelRouteRegistry where
  applications : ExtTreeMap String WasmApplicationRegistryRecord

def WasmKernelRouteRegistry.empty : WasmKernelRouteRegistry := ⟨∅⟩

/-- `project_registry_row` -/
def projectRegistryRow (D : ProofDigest) (proof : AdmissionProofV1) : WasmVersionRegistryRow where
  versionId := proof.versionId
  identity :=
    { applicationId := proof.applicationId, digest := proof.versionDigest, sequence := proof.sequence }
  packageDigest := proof.packageDigest
  normalizedPolicy := proof.normalizedPolicy
  lifecycle := "admitted"
  runtimeBinding := proof.runtimeBinding
  admissionProofRef := proof.proofRef
  admissionProofDigest := D.admissionProofDigest proof
  hostServicePolicySummary := proof.hostServicePolicy.map HostServicePolicyV2.staticSummary
  readinessLeaseDigest := none

/-- The record of an application before its first version. -/
def WasmApplicationRegistryRecord.fresh (applicationId : String) : WasmApplicationRegistryRecord where
  runtimeKind := "wasm"
  applicationId := applicationId
  versions := []
  active := .unavailable "wasm" applicationId 0
  routeGeneration := 0
  secretRevision := 0
  configRevision := 0

/-- `WasmKernelRouteRegistry::insert_admitted`; the application's record exists afterwards in any case. -/
def WasmKernelRouteRegistry.insertAdmitted (D : ProofDigest) (registry : WasmKernelRouteRegistry)
    (proof : AdmissionProofV1) : WasmKernelRouteRegistry × Except KernelError WasmVersionRegistryRow :=
  let row := projectRegistryRow D proof
  let application := (registry.applications[proof.applicationId]?).getD (.fresh proof.applicationId)
  match application.versions.find? fun candidate => candidate.versionId == row.versionId with
  | some existing =>
    let entered := ⟨registry.applications.insert proof.applicationId application⟩
    if existing == row then (entered, .ok existing)
    else (entered, .error ⟨wasmRegistryConflict,
      "the same versionId already projects to a different registry row"⟩)
  | none =>
    let application := { application with versions := application.versions ++ [row] }
    (⟨registry.applications.insert proof.applicationId application⟩, .ok row)

end Iweb
