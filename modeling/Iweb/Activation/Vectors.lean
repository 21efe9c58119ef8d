import Iweb.Activation.Rpc

/-!
# Vectors of the activation tests

The builders of the repository's activation tests: a candidate, its lease and its command over one
package, and a digest function given by a table of the digests that occur. Each builder seals its record
with the digest function, as the tests do.
-/

namespace Iweb.Vectors

/-- A hex text of one repeated digit. -/
def hex (n : Nat) (c : Char) : String := String.ofList (List.replicate n c)

/-- The version `a405…-<sequence>` of the test package. -/
def versionId (sequence : Nat) : String :=
  composeWasmVersionId "a405ef8d2951e580f70c465aabb96a32b9a29526998b3ef920edfff3c1caa532" sequence

/-- A digest function by table: by nonce, by activation id and application, or by event id. -/
def tableDigests (leases : List (String × String)) (commands : List ((String × String) × String))
    (events : List (String × String)) : Digests where
  digestV2 _ payload := match payload with
    | .lease record => (leases.lookup record.leaseNonce).getD (hex 64 '0')
    | .command record => (commands.lookup (record.activationId, record.applicationId)).getD (hex 64 '0')
    | .routeEvent record => (events.lookup record.eventId).getD (hex 64 '0')
    | .rollback _ => hex 64 '0'

def bindingV1 : RuntimeBindingIdentityV1 where
  kind := "wasm"
  catalogRevision := 9
  catalogHash := String.ofList (List.replicate 32 ['a', 'b']).flatten
  entryKey := "iweb-wasmd"
  imageDigest := "sha256:" ++ String.ofList (List.replicate 32 ['c', 'd']).flatten
  hostAbi := wasmHostAbiLiteral
  world := wasmWorldLiteral

variable (D : Digests)

/-- The lease of a version, valid for one minute from `2027-01-15T08:00:00Z`. -/
def lease (version : Nat) (nonce : String) (generation : Nat) : ServiceReadinessLeaseV2 :=
  let base : ServiceReadinessLeaseV2 :=
    { schemaVersion := 2
      leaseNonce := nonce
      sandboxId := "sbx-candidate"
      versionId := versionId version
      packageDigest := hex 64 '0'
      runtimeBinding := bindingV1.toV2
      capabilityRecordRevision := 5
      capabilityRecordHash := hex 64 '2'
      hostServicePolicyDigest := ""
      secretRevision := 3
      secretValuesDigest := hex 64 '6'
      configRevision := 0
      configSnapshotRef := none
      configValuesDigest := none
      preparationGeneration := generation
      executionGeneration := generation
      issuedAt := "2027-01-15T08:00:00.000Z"
      expiresAt := "2027-01-15T08:01:00.000Z"
      leaseDigest := "" }
  { base with leaseDigest := computeServiceReadinessLeaseDigest D base }

/-- The candidate a lease is for. -/
def candidate (applicationId : String) (version : Nat) (nonce : String) (generation : Nat) :
    ActivationCandidate where
  runtimeKind := "wasm"
  sandboxId := "sbx-candidate"
  versionId := versionId version
  packageDigest := hex 64 '0'
  runtimeBinding := bindingV1.toV2
  admissionProofRef := "admission-proof/" ++ applicationId ++ "/" ++ versionId version
  admissionProofDigest := hex 64 '3'
  preparationGeneration := generation
  executionGeneration := generation
  secretRevision := 3
  secretValuesDigest := hex 64 '6'
  configRevision := 0
  configSnapshotRef := none
  configValuesDigest := none
  leaseNonce := nonce
  leaseDigest := (lease D version nonce generation).leaseDigest

/-- Seal a command with its digest. -/
def sealCommand (command : ActivationCommand) : ActivationCommand :=
  { command with commandDigest := computeActivationCommandDigest D command }

/-- The command that activates a candidate. -/
def command (activationId applicationId : String) (candidate : ActivationCandidate)
    (expectedRouteGeneration : Nat) : ActivationCommand :=
  sealCommand D
    { schemaVersion := 2
      activationId := activationId
      applicationId := applicationId
      operation := .activate
      expectedRouteGeneration := expectedRouteGeneration
      expectedControlRevision := 0
      candidate := candidate
      hostServicePolicyDigest := ""
      capabilityRecordRevision := 5
      capabilityRecordHash := hex 64 '2'
      requestedAt := "2027-01-15T08:00:00.000Z"
      commandDigest := "" }

/-- The facts of a live candidate at `2027-01-15T08:00:00Z`. -/
def facts (generation : Nat) : ActivationCasFacts where
  nowEpochMillis := 1800000000000
  controlRevision := 0
  currentSecretStoreRevision := 3
  currentPreparationGeneration := generation
  candidateAlive := true
  registryRow := some
    { runtimeBinding := bindingV1
      capabilityRecordRevision := 5
      capabilityRecordHash := hex 64 '2'
      hostServicePolicyDigest := none
      lifecycleReady := true }
  bindingRevoked := false
  rollbackRetention := none

end Iweb.Vectors
