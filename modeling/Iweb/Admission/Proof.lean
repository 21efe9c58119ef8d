import Iweb.Kernel.Identity

/-!
# Admission proofs

The proof every durable admission witness carries: the identity of the version, its normalized
manifest, runtime binding, capability record and, for a service-enabled version, its host-service
policy.
-/

namespace Iweb

structure WasmImportCapability where
  package : String
  interface : String
  direction : String
deriving DecidableEq

structure WasmRuntimeV1 where
  kind : String
  entryLayerDigest : String
  world : String
  hostAbi : String
  declaredHostImports : List WasmImportCapability
deriving DecidableEq

structure WasmResourcesV1 where
  cpuMillis : Nat
  memoryBytes : Nat
  pidLimit : Nat
  storageBytes : Nat
deriving DecidableEq

structure WasmEgressRuleV1 where
  host : String
  port : Nat
deriving DecidableEq

/-- The normalized manifest of a version. -/
structure NormalizedWasmManifestV1 where
  schemaVersion : Nat
  name : String
  runtime : WasmRuntimeV1
  resources : WasmResourcesV1
  storagePersistent : Bool
  storageRequestBytes : Nat
  egressDefault : String
  egressAllow : List WasmEgressRuleV1
deriving DecidableEq

/-- The host-service policy of a service-enabled version; the limits of its members are bound by the
policy digest and not read by the Kernel's control path. -/
structure HostServicePolicyV2 where
  policyDigest : String
  storageBytes : Nat
  reserveBytes : Nat
  dataDirectoryProfile : String
  durabilityProfile : String
  kvProfile : Option String
  sqlProfile : Option String
  loggingProfile : Option String
deriving DecidableEq

structure LifecycleAdmissionRecord where
  schemaVersion : Nat
  state : String
  admittedAt : String
  admissionJournalRevision : Nat
deriving DecidableEq

/-- The object shared by all durable witnesses of one admission. -/
structure AdmissionProofV1 where
  schemaVersion : Nat
  applicationId : String
  packageDigest : String
  versionDigest : String
  sequence : Nat
  versionId : String
  normalizedPolicy : NormalizedWasmManifestV1
  lifecycleAdmissionRecord : LifecycleAdmissionRecord
  runtimeBinding : RuntimeBindingIdentityV1
  capabilityRecordRevision : Nat
  capabilityRecordHash : String
  commitTokenHash : String
  /-- Present exactly for a service-enabled version. -/
  hostServicePolicy : Option HostServicePolicyV2
deriving DecidableEq

/-- The policy pin of a proof: empty without host services. -/
def AdmissionProofV1.policyDigest (proof : AdmissionProofV1) : String :=
  (proof.hostServicePolicy.map HostServicePolicyV2.policyDigest).getD ""

/-- `format!("admission-proof/{application_id}/{version_id}")` -/
def AdmissionProofV1.proofRef (proof : AdmissionProofV1) : String :=
  "admission-proof/" ++ proof.applicationId ++ "/" ++ proof.versionId

/-- `admissionProofDigest`: SHA-256 over a domain and the canonical bytes of the proof. -/
structure ProofDigest where
  admissionProofDigest : AdmissionProofV1 → String

/-- The admission proof of the repository's test vector. -/
def vectorProof : AdmissionProofV1 where
  schemaVersion := 1
  applicationId := "vector"
  packageDigest := String.ofList (List.replicate 64 '0')
  versionDigest := "a405ef8d2951e580f70c465aabb96a32b9a29526998b3ef920edfff3c1caa532"
  sequence := 1
  versionId := "a405ef8d2951e580f70c465aabb96a32b9a29526998b3ef920edfff3c1caa532-1"
  normalizedPolicy :=
    { schemaVersion := 1
      name := "vector"
      runtime :=
        { kind := "wasm"
          entryLayerDigest := "sha256:" ++ String.ofList (List.replicate 64 '1')
          world := wasmWorldLiteral
          hostAbi := wasmHostAbiLiteral
          declaredHostImports := [] }
      resources := { cpuMillis := 1, memoryBytes := 2, pidLimit := 3, storageBytes := 4 }
      storagePersistent := false
      storageRequestBytes := 0
      egressDefault := "deny"
      egressAllow := [] }
  lifecycleAdmissionRecord :=
    { schemaVersion := 1
      state := "admitted"
      admittedAt := "2026-08-26T00:00:00Z"
      admissionJournalRevision := 0 }
  runtimeBinding :=
    { kind := "wasm"
      catalogRevision := 9
      catalogHash := String.ofList (List.replicate 32 ['a', 'b']).flatten
      entryKey := "iweb-wasmd"
      imageDigest := "sha256:" ++ String.ofList (List.replicate 32 ['c', 'd']).flatten
      hostAbi := wasmHostAbiLiteral
      world := wasmWorldLiteral }
  capabilityRecordRevision := 5
  capabilityRecordHash := String.ofList (List.replicate 64 '2')
  commitTokenHash := "af8f000697558656f805d09b826276d91661e2ccde22d6242c2ab6236d7f51a0"
  hostServicePolicy := none

/-- The proof digest of the test vector. -/
def vectorProofDigest : ProofDigest where
  admissionProofDigest _ := "1dd357867fb385f557e1b4a9412cab01ecd004447cda836984b5c7f4fc278f63"

end Iweb
