import Iweb.Admission.Proof

/-!
# Validation of manifests, bindings and admission proofs

The checks an admission request and every durable proof pass. The digests, and the rules a host-service
policy has for its own limits and digest, are parameters (`AdmissionRules`); everything else is computed.
-/

namespace Iweb

/-! ## Codes -/

def wasmApplicationIdInvalid : String := "WASM_APPLICATION_ID_INVALID"
def invalidDigest : String := "INVALID_DIGEST"
def wasmManifestInvalid : String := "WASM_MANIFEST_INVALID"
def wasmBindingInvalid : String := "WASM_BINDING_INVALID"
def wasmVersionDigestMismatch : String := "WASM_VERSION_DIGEST_MISMATCH"
def wasmApplicationIdMismatch : String := "WASM_APPLICATION_ID_MISMATCH"
def wasmDeclarationMismatch : String := "WASM_DECLARATION_MISMATCH"
def wasmGuestMemoryReserveInvalid : String := "WASM_GUEST_MEMORY_RESERVE_INVALID"

/-- `WASM_MAX_EGRESS_RULES` -/
def wasmMaxEgressRules : Nat := 256

/-- The digests of admission, and the validation of a host-service policy by itself. -/
structure AdmissionRules where
  sha256Hex : List UInt8 → String
  commitTokenHash : List UInt8 → String
  wasmVersionDigestV1 : String → NormalizedWasmManifestV1 → String
  wasmHostServiceVersionDigestV2 : String → NormalizedWasmManifestV1 → String → Except KernelError String
  /-- `"mat-"` and a digest of the proof. -/
  materializationTarget : AdmissionProofV1 → String
  validateHostServicePolicy : HostServicePolicyV2 → Except KernelError Unit

/-! ## Names -/

def validateApplicationId (value : String) : Except KernelError Unit :=
  require (isApplicationId value) wasmApplicationIdInvalid
    ("applicationId must match ^[a-z0-9]([a-z0-9-]\x7b0,61\x7d[a-z0-9])?$: " ++ value)

def validateSha256Hex (value field : String) : Except KernelError Unit :=
  require (isSha256Hex value) invalidDigest (field ++ " must be 64 lower-case hex characters")

def validateOciSha256 (value field : String) : Except KernelError Unit :=
  require (isOciSha256 value) invalidDigest
    (field ++ " must be sha256: plus 64 lower-case hex characters")

def requireAdmissionU53 (value minimum maximum : Nat) (field : String) : Except KernelError Unit :=
  require (isU53Between value minimum maximum) wasmManifestInvalid
    (field ++ " must be an integer between " ++ toString minimum ++ " and " ++ toString maximum)

/-- The parts of a text between the occurrences of a separator. -/
def splitBytes (separator : UInt8) : List UInt8 → List (List UInt8)
  | [] => [[]]
  | b :: bs =>
    if b == separator then [] :: splitBytes separator bs
    else match splitBytes separator bs with
      | [] => [[b]]
      | part :: parts => (b :: part) :: parts

/-- `^[a-z][a-z0-9]*(-[a-z][a-z0-9]*)*$` -/
def isWitName (bs : List UInt8) : Bool :=
  (splitBytes (ascii '-') bs).all fun word =>
    match word with
    | [] => false
    | b :: rest => isLowerAlpha b && rest.all isLabelEdge

/-- `(0|[1-9][0-9]*)` -/
def isVersionNumber (bs : List UInt8) : Bool :=
  match bs with
  | [] => false
  | [b] => isDecimalDigit b
  | b :: rest => isDecimalDigit b && b != ascii '0' && rest.all isDecimalDigit

/-- A WIT package identity `namespace:name@major.minor.patch`. -/
def isWitPackage (s : String) : Bool :=
  match splitBytes (ascii '@') (bytes s) with
  | [name, version] =>
    (match splitBytes (ascii ':') name with
      | [namespaceName, packageName] => isWitName namespaceName && isWitName packageName
      | _ => false) &&
    (match splitBytes (ascii '.') version with
      | [major, minor, patch] =>
        isVersionNumber major && isVersionNumber minor && isVersionNumber patch
      | _ => false)
  | _ => false

/-- `^[a-z0-9]([a-z0-9-]{0,61}[a-z0-9])?$` on the bytes of a label. -/
def isHostLabel (bs : List UInt8) : Bool :=
  bs.length ≤ 63 && bs.all isLabelChar && bs.head?.any isLabelEdge && bs.getLast?.any isLabelEdge

/-- `^\d{1,3}(\.\d{1,3}){3}$` -/
def isIpv4 (bs : List UInt8) : Bool :=
  let parts := splitBytes (ascii '.') bs
  parts.length == 4 && parts.all fun part =>
    1 ≤ part.length && part.length ≤ 3 && part.all isDecimalDigit

def validateDnsName (host : String) : Except KernelError Unit := do
  let bs := bytes host
  require (!bs.isEmpty && bs.length ≤ 253) wasmManifestInvalid
    "egress host must be a DNS name of at most 253 bytes"
  require ((splitBytes (ascii '.') bs).all isHostLabel) wasmManifestInvalid
    "egress host must be a lower-case DNS name"
  require (!(isIpv4 bs || bs.contains (ascii ':') || host == "localhost")) wasmManifestInvalid
    "egress host must be a DNS name, not an address literal"

/-! ## The manifest -/

def validateImportCapability (entry : WasmImportCapability) : Except KernelError Unit := do
  require (isWitPackage entry.package) wasmManifestInvalid
    "declaredHostImports package must be a lower-case WIT namespace:name@major.minor.patch identity"
  require (isWitName (bytes entry.interface)) wasmManifestInvalid
    "declaredHostImports interface must be a lower-case WIT interface identifier"
  require (entry.direction == "import") wasmManifestInvalid
    "declaredHostImports direction must be the literal \"import\""

/-- Bytewise lexicographic comparison. -/
def compareBytes (a b : List UInt8) : Ordering := List.compareLex (fun x y => compare x.toNat y.toNat) a b

/-- `(package, interface, direction)` in UTF-8 byte order. -/
def compareImports (a b : WasmImportCapability) : Ordering :=
  (compareBytes (bytes a.package) (bytes b.package)).then
    ((compareBytes (bytes a.interface) (bytes b.interface)).then
      (compareBytes (bytes a.direction) (bytes b.direction)))

/-- A check on each pair of neighbours. -/
def forPairs {α : Type} (check : α → α → Except KernelError Unit) : List α → Except KernelError Unit
  | a :: b :: rest => do
    check a b
    forPairs check (b :: rest)
  | _ => .ok ()

def validateImportCapabilities (imports : List WasmImportCapability) : Except KernelError Unit := do
  imports.forM validateImportCapability
  forPairs (fun previous current => match compareImports previous current with
    | .gt => .error ⟨wasmManifestInvalid,
        "declaredHostImports must be sorted by (package, interface, direction) in UTF-8 byte order"⟩
    | .eq => .error ⟨wasmManifestInvalid,
        "declaredHostImports duplicate (package, interface, direction) key is rejected"⟩
    | .lt => .ok ()) imports

/-- Neighbouring egress rules: a host may not repeat, whatever its ports. -/
def checkEgressPair (previous current : WasmEgressRuleV1) : Except KernelError Unit :=
  match compareBytes (bytes previous.host) (bytes current.host) with
  | .lt => .ok ()
  | .eq =>
    .error ⟨wasmManifestInvalid, "/egress/allow " ++
      (if previous.port < current.port then "must be sorted by (host, port)"
        else "contains a duplicate (host, port) pair")⟩
  | .gt => .error ⟨wasmManifestInvalid, "/egress/allow contains a duplicate (host, port) pair"⟩

/-- `validate_normalized_manifest` -/
def validateNormalizedManifest (manifest : NormalizedWasmManifestV1) : Except KernelError Unit := do
  requireAdmissionU53 manifest.schemaVersion 1 1 "/schemaVersion"
  recodeAt wasmManifestInvalid "/name" (validateApplicationId manifest.name)
  let runtime := manifest.runtime
  require (runtime.kind == "wasm") wasmManifestInvalid "/runtime/kind must be exactly \"wasm\""
  recode wasmManifestInvalid (validateOciSha256 runtime.entryLayerDigest "/runtime/entryLayerDigest")
  require (runtime.world == wasmWorldLiteral) wasmManifestInvalid
    "/runtime/world must be the exact matrix world literal"
  require (runtime.hostAbi == wasmHostAbiLiteral) wasmManifestInvalid
    "/runtime/hostABI must be the exact matrix ABI literal"
  validateImportCapabilities runtime.declaredHostImports
  let resources := manifest.resources
  requireAdmissionU53 resources.cpuMillis 1 1000000 "/resources/cpuMillis"
  requireAdmissionU53 resources.memoryBytes 1 68719476736 "/resources/memoryBytes"
  requireAdmissionU53 resources.pidLimit 1 1000000 "/resources/pidLimit"
  requireAdmissionU53 resources.storageBytes 0 1099511627776 "/resources/storageBytes"
  requireAdmissionU53 manifest.storageRequestBytes 0 1099511627776 "/storage/requestBytes"
  require (manifest.storageRequestBytes ≤ resources.storageBytes) wasmManifestInvalid
    "/storage/requestBytes must be <= resources/storageBytes"
  require (manifest.egressDefault == "deny") wasmManifestInvalid "/egress/default must be exactly \"deny\""
  require (manifest.egressAllow.length ≤ wasmMaxEgressRules) wasmManifestInvalid
    ("/egress/allow must have at most " ++ toString wasmMaxEgressRules ++ " items")
  manifest.egressAllow.forM fun rule => do
    validateDnsName rule.host
    requireAdmissionU53 rule.port 1 65535 "/egress/allow/port"
  forPairs checkEgressPair manifest.egressAllow

/-! ## The runtime binding and the policy -/

/-- `validate_runtime_binding` -/
def validateRuntimeBinding (binding : RuntimeBindingIdentityV1) : Except KernelError Unit := do
  require (binding.kind == "wasm") wasmBindingInvalid "/kind must be exactly \"wasm\""
  recode wasmBindingInvalid (requireAdmissionU53 binding.catalogRevision 1 wasmU53Max "/catalogRevision")
  recode wasmBindingInvalid (validateSha256Hex binding.catalogHash "catalogHash")
  require (isEntryKey binding.entryKey) wasmBindingInvalid
    "/entryKey must match ^[a-z][a-z0-9.-]\x7b0,63\x7d$"
  recode wasmBindingInvalid (validateOciSha256 binding.imageDigest "imageDigest")
  require (binding.hostAbi == wasmHostAbiLiteral) wasmBindingInvalid
    "/hostABI must be the exact matrix ABI literal"
  require (binding.world == wasmWorldLiteral) wasmBindingInvalid
    "/world must be the exact matrix world literal"

/-- `check_wasm_guest_memory_reserve` -/
def checkWasmGuestMemoryReserve (memoryBytes reserveBytes : Nat) : Except KernelError Nat := do
  require (2 ≤ memoryBytes && memoryBytes ≤ wasmU53Max) wasmGuestMemoryReserveInvalid
    "memoryBytes must be an integer between 2 and the u53 maximum"
  require (1 ≤ reserveBytes && reserveBytes < memoryBytes) wasmGuestMemoryReserveInvalid
    "reserveBytes must be an integer with 1 <= reserveBytes < memoryBytes; no zero/default substitution"
  return memoryBytes - reserveBytes

/-- A host service is declared as an import exactly when the policy enables it. -/
def checkDeclared (imports : List WasmImportCapability) (kind : String) (enabled : Bool)
    (package interface : String) : Except KernelError Unit := do
  let declared := imports.any fun entry =>
    entry.package == package && entry.interface == interface && entry.direction == "import"
  require (!enabled || declared) wasmDeclarationMismatch
    ("hostServices." ++ kind ++ " is enabled but normalizedPolicy declares no " ++ package ++ "/" ++
      interface ++ " import")
  require (enabled || !declared) wasmDeclarationMismatch
    ("normalizedPolicy declares " ++ package ++ "/" ++ interface ++ " but hostServices." ++ kind ++
      " is null; the version must use the V2 policy")

variable (A : AdmissionRules)

/-- `verify_host_service_policy_binding` -/
def verifyHostServicePolicyBinding (policy : HostServicePolicyV2) (manifest : NormalizedWasmManifestV1) :
    Except KernelError Unit := do
  A.validateHostServicePolicy policy
  let imports := manifest.runtime.declaredHostImports
  checkDeclared imports "kv" policy.kvProfile.isSome "iweb:kv@1.0.0" "store"
  checkDeclared imports "sql" policy.sqlProfile.isSome "iweb:sql@1.0.0" "store"
  checkDeclared imports "logging" policy.loggingProfile.isSome "iweb:logging@1.0.0" "logger"
  let _ ← checkWasmGuestMemoryReserve manifest.resources.memoryBytes policy.reserveBytes
  return ()

/-- The version digest of a package and its manifest; a policy selects the service-enabled formula. -/
def admissionVersionDigest (packageDigest : String) (manifest : NormalizedWasmManifestV1)
    (policy : Option HostServicePolicyV2) : Except KernelError String :=
  match policy with
  | none => .ok (A.wasmVersionDigestV1 packageDigest manifest)
  | some policy => A.wasmHostServiceVersionDigestV2 packageDigest manifest policy.policyDigest

/-- The policy of a request or proof, if there is one, must fit its manifest. -/
def checkPolicyBinding (policy : Option HostServicePolicyV2) (manifest : NormalizedWasmManifestV1) :
    Except KernelError Unit :=
  match policy with
  | none => .ok ()
  | some policy => verifyHostServicePolicyBinding A policy manifest

/-- `verify_admission_proof` -/
def verifyAdmissionProof (proof : AdmissionProofV1) : Except KernelError Unit := do
  require (proof.schemaVersion == 1) wasmAdmissionProofInvalid "/schemaVersion must be 1"
  validateApplicationId proof.applicationId
  validateSha256Hex proof.packageDigest "packageDigest"
  validateSha256Hex proof.versionDigest "versionDigest"
  requireAdmissionU53 proof.sequence 1 wasmU53Max "/sequence"
  let _ ← parseWasmVersionId proof.versionId
  require (proof.versionId == composeWasmVersionId proof.versionDigest proof.sequence)
    wasmVersionIdInvalid "versionId must be versionDigest + '-' + decimal(sequence)"
  validateNormalizedManifest proof.normalizedPolicy
  require (proof.normalizedPolicy.name == proof.applicationId) wasmApplicationIdMismatch
    "normalizedPolicy.name must exactly equal applicationId"
  let record := proof.lifecycleAdmissionRecord
  require (record.schemaVersion == 1) wasmAdmissionProofInvalid
    "/lifecycleAdmissionRecord/schemaVersion must be 1"
  require (record.state == "admitted") wasmAdmissionProofInvalid
    "/lifecycleAdmissionRecord/state must be \"admitted\""
  let _ ← parseRfc3339UtcMillis record.admittedAt
  requireAdmissionU53 record.admissionJournalRevision 0 wasmU53Max
    "/lifecycleAdmissionRecord/admissionJournalRevision"
  validateRuntimeBinding proof.runtimeBinding
  requireAdmissionU53 proof.capabilityRecordRevision 1 wasmU53Max "/capabilityRecordRevision"
  validateSha256Hex proof.capabilityRecordHash "capabilityRecordHash"
  validateSha256Hex proof.commitTokenHash "commitTokenHash"
  checkPolicyBinding A proof.hostServicePolicy proof.normalizedPolicy
  let recomputed ← admissionVersionDigest A proof.packageDigest proof.normalizedPolicy
    proof.hostServicePolicy
  require (recomputed == proof.versionDigest) wasmVersionDigestMismatch
    "versionDigest must equal the generation-selected digest formula (wasmVersionDigestV1 without a host service policy; HostServiceIdentityV2 versionDigestV2 with one)"

end Iweb
