import Iweb.Admission.JournalFile
import Iweb.Admission.Transaction

/-!
# Vectors of the admission tests

The request for the version of the repository's test vector, with one blob, and the digests that occur
when it is admitted at `2026-08-26T00:00:00.000Z`.
-/

namespace Iweb.Vectors

/-- `2026-08-26T00:00:00.000Z` -/
def admissionTime : Nat := 1787702400000

/-- The magic number of a module. -/
def blob : List UInt8 := [0, 97, 115, 109]

def blobDigest : String := "cd5d4935a48c0672cb06407bb443bc0087aff947c6b864bac886982c73b3027f"

def commitToken : List UInt8 := (List.replicate 16 [0xbe, 0xef]).flatten

/-- The digests by table. -/
def admissionRules : AdmissionRules where
  sha256Hex content := if content = blob then blobDigest else String.ofList (List.replicate 64 '0')
  commitTokenHash token :=
    if token = commitToken then vectorProof.commitTokenHash else String.ofList (List.replicate 64 '0')
  wasmVersionDigestV1 _ _ := vectorProof.versionDigest
  wasmHostServiceVersionDigestV2 _ _ _ := .ok (String.ofList (List.replicate 64 '0'))
  materializationTarget proof :=
    if proof.sequence = 1 then "mat-077aa6391619843fb3bf6eb30a50e6838737ccaa"
    else "mat-3ea2d08862a3b6b53ccf69202e38e519c575877a"
  validateHostServicePolicy _ := .ok ()

/-- The request for the version of the test vector, with a lease of a minute. -/
def admissionRequest : AdmissionRequest where
  applicationId := vectorProof.applicationId
  packageDigest := vectorProof.packageDigest
  normalizedPolicy := vectorProof.normalizedPolicy
  runtimeBinding := vectorProof.runtimeBinding
  capabilityRecordRevision := vectorProof.capabilityRecordRevision
  capabilityRecordHash := vectorProof.capabilityRecordHash
  hostServicePolicy := vectorProof.hostServicePolicy
  stagingTtlSeconds := 60
  blobs := [(blobDigest, blob)]
  allowResequence := false

/-- The versions of the test vector. -/
def admissionKey (sequence : Nat) : VersionKey :=
  (vectorProof.applicationId, composeWasmVersionId vectorProof.versionDigest sequence)

/-! ## The journal rows as JSON -/

def jsonString (s : String) : List UInt8 := ascii '"' :: (bytes s ++ [ascii '"'])

def jsonNat (n : Nat) : List UInt8 := bytes (toString n)

/-- An object with its keys in the given order. -/
def jsonObject (fields : List (String × List UInt8)) : List UInt8 :=
  let members := fields.map fun field => jsonString field.1 ++ ascii ':' :: field.2
  ascii '\x7b' :: ((members.intersperse [ascii ',']).flatten ++ [ascii '\x7d'])

def manifestJson (policy : NormalizedWasmManifestV1) : List UInt8 :=
  jsonObject [
    ("egress", jsonObject [("allow", bytes "[]"), ("default", jsonString policy.egressDefault)]),
    ("name", jsonString policy.name),
    ("resources", jsonObject [
      ("cpuMillis", jsonNat policy.resources.cpuMillis), ("memoryBytes", jsonNat policy.resources.memoryBytes),
      ("pidLimit", jsonNat policy.resources.pidLimit), ("storageBytes", jsonNat policy.resources.storageBytes)]),
    ("runtime", jsonObject [
      ("declaredHostImports", bytes "[]"), ("entryLayerDigest", jsonString policy.runtime.entryLayerDigest),
      ("hostABI", jsonString policy.runtime.hostAbi), ("kind", jsonString policy.runtime.kind),
      ("world", jsonString policy.runtime.world)]),
    ("schemaVersion", jsonNat policy.schemaVersion),
    ("storage", jsonObject [
      ("persistent", bytes (toString policy.storagePersistent)),
      ("requestBytes", jsonNat policy.storageRequestBytes)])]

/-- A proof without egress rules, host imports and host services. -/
def proofJson (proof : AdmissionProofV1) : List UInt8 :=
  jsonObject [
    ("applicationId", jsonString proof.applicationId),
    ("capabilityRecordHash", jsonString proof.capabilityRecordHash),
    ("capabilityRecordRevision", jsonNat proof.capabilityRecordRevision),
    ("commitTokenHash", jsonString proof.commitTokenHash),
    ("lifecycleAdmissionRecord", jsonObject [
      ("admissionJournalRevision", jsonNat proof.lifecycleAdmissionRecord.admissionJournalRevision),
      ("admittedAt", jsonString proof.lifecycleAdmissionRecord.admittedAt),
      ("schemaVersion", jsonNat proof.lifecycleAdmissionRecord.schemaVersion),
      ("state", jsonString proof.lifecycleAdmissionRecord.state)]),
    ("normalizedPolicy", manifestJson proof.normalizedPolicy),
    ("packageDigest", jsonString proof.packageDigest),
    ("runtimeBinding", jsonObject [
      ("catalogHash", jsonString proof.runtimeBinding.catalogHash),
      ("catalogRevision", jsonNat proof.runtimeBinding.catalogRevision),
      ("entryKey", jsonString proof.runtimeBinding.entryKey),
      ("hostABI", jsonString proof.runtimeBinding.hostAbi),
      ("imageDigest", jsonString proof.runtimeBinding.imageDigest),
      ("kind", jsonString proof.runtimeBinding.kind), ("world", jsonString proof.runtimeBinding.world)]),
    ("schemaVersion", jsonNat proof.schemaVersion),
    ("sequence", jsonNat proof.sequence),
    ("versionDigest", jsonString proof.versionDigest),
    ("versionId", jsonString proof.versionId)]

/-- The first row of the admission of `admissionRequest`. -/
def stagedRow : AdmissionJournalRow where
  schemaVersion := 1
  proof := { vectorProof with
    lifecycleAdmissionRecord :=
      { vectorProof.lifecycleAdmissionRecord with admittedAt := "2026-08-26T00:00:00.000Z" } }
  state := .staging
  journalRevision := 0
  leaseExpiresAt := some "2026-08-26T00:01:00.000Z"

def validatedRow : AdmissionJournalRow := stagedRow.moved .validated

/-- A row whose lease and state are these. -/
def rowJson (row : AdmissionJournalRow) (lease state : String) : List UInt8 :=
  jsonObject [
    ("journalRevision", jsonNat row.journalRevision), ("leaseExpiresAt", jsonString lease),
    ("proof", proofJson row.proof), ("schemaVersion", jsonNat row.schemaVersion), ("state", jsonString state)]

def stagedText : List UInt8 := rowJson stagedRow "2026-08-26T00:01:00.000Z" "staging"

def validatedText : List UInt8 := rowJson validatedRow "2026-08-26T00:01:00.000Z" "validated"

/-- The JSON of the two rows by table. -/
def rowTable : JournalRowJson where
  jcsBytes row :=
    if row = stagedRow then .ok stagedText
    else if row = validatedRow then .ok validatedText
    else .error ⟨wasmAdmissionProofInvalid, "value is not serializable as JSON"⟩
  fromStr text :=
    if text = stagedText then .ok stagedRow
    else if text = validatedText then .ok validatedRow
    else .error "EOF while parsing an object"

end Iweb.Vectors
