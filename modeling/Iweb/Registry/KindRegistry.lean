import Iweb.Foundations.CrashHoare
import Iweb.Foundations.CrashRefinement
import Iweb.Registry.RouteRegistry
import Mathlib.Data.List.Sort

/-!
# The kind registry

Every application id is bound to one runtime kind for its life. The shared index of all claims and one
binding record for each application are files of one directory; a claim writes its binding first and the
index second.
-/

namespace Iweb

open Std (ExtTreeMap)
open CrashHoare

/-! ## Codes and kinds -/

def applicationRuntimeKindConflict : String := "APPLICATION_RUNTIME_KIND_CONFLICT"
def applicationKindSplitBrain : String := "APPLICATION_KIND_SPLIT_BRAIN"
def wasmKindClaimInvalid : String := "WASM_KIND_CLAIM_INVALID"
def kindClaimBindingDigestMismatch : String := "KIND_CLAIM_BINDING_DIGEST_MISMATCH"
def kindRegistryRevisionConflict : String := "KIND_REGISTRY_REVISION_CONFLICT"

def runtimeKindCelld : String := "celld"
def runtimeKindWasm : String := "wasm"

/-! ## Records -/

structure RuntimeKindClaimV1 where
  applicationId : String
  runtimeKind : String
  bindingRevision : Nat
  bindingDigest : String
deriving DecidableEq

structure KindClaimBindingV1 where
  schemaVersion : Nat
  applicationId : String
  runtimeKind : String
  bindingRevision : Nat
  bindingDigest : String
deriving DecidableEq

structure KindClaimIndexV1 where
  schemaVersion : Nat
  registryRevision : Nat
  claims : List RuntimeKindClaimV1
deriving DecidableEq

/-- `KindClaimIndexV1::default` -/
def KindClaimIndexV1.empty : KindClaimIndexV1 := ⟨1, 0, []⟩

/-- `binding_from_claim` -/
def bindingFromClaim (claim : RuntimeKindClaimV1) : KindClaimBindingV1 where
  schemaVersion := 1
  applicationId := claim.applicationId
  runtimeKind := claim.runtimeKind
  bindingRevision := claim.bindingRevision
  bindingDigest := claim.bindingDigest

/-- The canonical bytes in a file of the registry directory: of an index or of a binding. -/
inductive KindFile
  | index (index : KindClaimIndexV1)
  | binding (binding : KindClaimBindingV1)

/-- The digest of a binding, the digest of a proof and the checks of a proof; and the message of
`serde_json` for bytes of the other record. -/
structure KindRegistryRules where
  admission : AdmissionRules
  proofDigest : ProofDigest
  kindBindingDigest : String → String → Nat → String
  parseError : KindFile → String

variable (R : KindRegistryRules)

/-! ## Validation -/

def validateKindApplicationId (value : String) : Except KernelError Unit :=
  require (isApplicationId value) wasmKindClaimInvalid
    ("applicationId must match ^[a-z0-9]([a-z0-9-]\x7b0,61\x7d[a-z0-9])?$: " ++ value)

def validateKindSha256Hex (value field : String) : Except KernelError Unit :=
  require (isSha256Hex value) wasmKindClaimInvalid (field ++ " must be 64 lower-case hex characters")

def requireKindU53 (value minimum : Nat) (field : String) : Except KernelError Unit :=
  require (minimum ≤ value && value ≤ wasmU53Max) wasmKindClaimInvalid
    (field ++ " must be an integer between " ++ toString minimum ++ " and the u53 maximum")

/-- `sort_claims`: bytewise by application id. -/
def sortClaims (claims : List RuntimeKindClaimV1) : List RuntimeKindClaimV1 :=
  claims.insertionSort fun a b => bytes a.applicationId ≤ bytes b.applicationId

/-- `claims_strictly_sorted` -/
def claimsStrictlySorted : List RuntimeKindClaimV1 → Bool
  | a :: b :: rest => bytes a.applicationId < bytes b.applicationId && claimsStrictlySorted (b :: rest)
  | _ => true

def isRuntimeKind (runtimeKind : String) : Bool :=
  runtimeKind == runtimeKindCelld || runtimeKind == runtimeKindWasm

/-- `validate_runtime_kind_claim` -/
def validateRuntimeKindClaim (claim : RuntimeKindClaimV1) : Except KernelError Unit := do
  validateKindApplicationId claim.applicationId
  require (isRuntimeKind claim.runtimeKind) wasmKindClaimInvalid "/runtimeKind must be one of: celld, wasm"
  require (claim.bindingRevision == 1) wasmKindClaimInvalid
    "/bindingRevision must be exactly 1 (it starts at 1 and never changes)"
  validateKindSha256Hex claim.bindingDigest "bindingDigest"
  require (R.kindBindingDigest claim.applicationId claim.runtimeKind claim.bindingRevision ==
      claim.bindingDigest) kindClaimBindingDigestMismatch
    "bindingDigest must equal the application-kind-binding-v1 domain digest of the claim"

/-- `validate_kind_claim_index` -/
def validateKindClaimIndex (index : KindClaimIndexV1) : Except KernelError Unit := do
  require (index.schemaVersion == 1) wasmKindClaimInvalid "/schemaVersion must be 1"
  requireKindU53 index.registryRevision 0 "registryRevision"
  index.claims.forM (validateRuntimeKindClaim R)
  require (claimsStrictlySorted index.claims) wasmKindClaimInvalid
    "/claims must be bytewise sorted by unique applicationId"

/-! ## The directory -/

/-- `KindRegistryStoreDir`: the files by name. -/
abbrev KindDirectory := ExtTreeMap String KindFile

def indexFileName : String := "index.json"

/-- `format!("{application_id}.json")` -/
def bindingFileName (applicationId : String) : String := applicationId ++ ".json"

/-- `parse_canonical` -/
def parseCanonicalFailure {α : Type} (noun : String) (file : KindFile) : Except KernelError α :=
  .error ⟨wasmKindClaimInvalid, noun ++ " bytes do not parse as the typed record: " ++ R.parseError file⟩

def parseIndex : KindFile → Except KernelError KindClaimIndexV1
  | .index index => .ok index
  | file => parseCanonicalFailure R "kind claim index" file

def parseBinding : KindFile → Except KernelError KindClaimBindingV1
  | .binding binding => .ok binding
  | file => parseCanonicalFailure R "kind binding record" file

/-! ## The registry -/

structure WasmKernelRouteRegistryV1 where
  index : KindClaimIndexV1
  records : WasmKernelRouteRegistry
  /-- The fenced applications with the reason. -/
  quarantined : ExtTreeMap String String

def WasmKernelRouteRegistryV1.empty : WasmKernelRouteRegistryV1 := ⟨.empty, .empty, ∅⟩

/-- The directory and the registry of the running Kernel. -/
structure KindState where
  directory : KindDirectory
  registry : WasmKernelRouteRegistryV1

/-- A call on the registry; its writes are the points where it can crash. -/
abbrev KindProg := Prog KindState KernelError

def writeBinding (applicationId : String) (binding : KindClaimBindingV1) : KindProg Unit :=
  .write fun s => ({ s with directory := s.directory.insert (bindingFileName applicationId) (.binding binding) },
    .ok ())

/-- The write of the index, and the index in memory after it. -/
def writeIndex (next : KindClaimIndexV1) : KindProg Unit :=
  .write fun s => (⟨s.directory.insert indexFileName (.index next), { s.registry with index := next }⟩, .ok ())

/-- `WasmKernelRouteRegistryV1::load` -/
def loadKindRegistry (directory : KindDirectory) : Except KernelError WasmKernelRouteRegistryV1 :=
  match directory[indexFileName]? with
  | none => .ok .empty
  | some file => do
    let index ← parseIndex R file
    validateKindClaimIndex R index
    return { WasmKernelRouteRegistryV1.empty with index := index }

def WasmKernelRouteRegistryV1.claim (registry : WasmKernelRouteRegistryV1) (applicationId : String) :
    Option RuntimeKindClaimV1 :=
  registry.index.claims.find? fun claim => claim.applicationId == applicationId

/-- `ensure_not_quarantined` -/
def ensureNotQuarantined (registry : WasmKernelRouteRegistryV1) (applicationId : String) :
    Except KernelError Unit :=
  match registry.quarantined[applicationId]? with
  | some reason => .error ⟨applicationKindSplitBrain,
      "applicationId " ++ applicationId ++ " is fenced (" ++ reason ++ ") and waits for an owner repair CAS"⟩
  | none => .ok ()

/-- The index with one more claim. -/
def KindClaimIndexV1.push (index : KindClaimIndexV1) (claim : RuntimeKindClaimV1) : KindClaimIndexV1 :=
  { index with
    registryRevision := index.registryRevision + 1
    claims := sortClaims (index.claims ++ [claim]) }

/-- Add a claim: validate the next index, write the binding, write the index. -/
def addClaim (index : KindClaimIndexV1) (claim : RuntimeKindClaimV1) : KindProg Unit := do
  let next := index.push claim
  Prog.lift (validateKindClaimIndex R next)
  writeBinding claim.applicationId (bindingFromClaim claim)
  writeIndex next

structure KindClaimOutcome where
  created : Bool
  claim : RuntimeKindClaimV1

/-- The claim of a kind with its digest. -/
def newKindClaim (applicationId runtimeKind : String) : RuntimeKindClaimV1 where
  applicationId := applicationId
  runtimeKind := runtimeKind
  bindingRevision := 1
  bindingDigest := R.kindBindingDigest applicationId runtimeKind 1

/-- `claim_runtime_kind` -/
def claimRuntimeKind (applicationId runtimeKind : String) (expectedKindRegistryRevision : Nat) :
    KindProg KindClaimOutcome := do
  let registry ← Prog.read KindState.registry
  Prog.lift (require (isRuntimeKind runtimeKind) wasmKindClaimInvalid "runtimeKind must be one of: celld, wasm")
  Prog.lift (ensureNotQuarantined registry applicationId)
  Prog.lift (validateKindApplicationId applicationId)
  match registry.claim applicationId with
  | some existing =>
    Prog.lift (require (existing.runtimeKind == runtimeKind) applicationRuntimeKindConflict
      ("applicationId " ++ applicationId ++ " is permanently " ++ existing.runtimeKind ++
        "-bound; changing runtime kind requires a new applicationId"))
    return ⟨false, existing⟩
  | none =>
    Prog.lift (require (expectedKindRegistryRevision == registry.index.registryRevision)
      kindRegistryRevisionConflict
      ("expectedKindRegistryRevision " ++ toString expectedKindRegistryRevision ++ " != current " ++
        toString registry.index.registryRevision ++ "; the claim CAS writes nothing on mismatch"))
    let claim := newKindClaim R applicationId runtimeKind
    addClaim R registry.index claim
    return ⟨true, claim⟩

/-- `WasmKernelRouteRegistry::insert_admitted` on the registry in memory. -/
def insertAdmittedRow (proof : AdmissionProofV1) : KindProg WasmVersionRegistryRow :=
  .write fun s =>
    let (records, row) := s.registry.records.insertAdmitted R.proofDigest proof
    ({ s with registry := { s.registry with records := records } }, row)

/-- An owner transaction that a recovery replays. -/
structure PendingKindTransaction where
  expectedKindRegistryRevision : Nat
  proof : AdmissionProofV1

/-- `apply_kind_transaction` -/
def applyKindTransaction (transaction : PendingKindTransaction) : KindProg WasmVersionRegistryRow := do
  Prog.lift (verifyAdmissionProof R.admission transaction.proof)
  let _ ← claimRuntimeKind R transaction.proof.applicationId runtimeKindWasm
    transaction.expectedKindRegistryRevision
  insertAdmittedRow R transaction.proof

/-- `register_wasm_admission` -/
def registerWasmAdmission (expectedKindRegistryRevision : Nat) (proof : AdmissionProofV1) :
    KindProg WasmVersionRegistryRow :=
  applyKindTransaction R ⟨expectedKindRegistryRevision, proof⟩

/-- One claim of `merge_route_derived_claims`. -/
def mergeRouteDerivedClaim (claim : RuntimeKindClaimV1) : KindProg Unit := do
  let registry ← Prog.read KindState.registry
  match registry.claim claim.applicationId with
  | some existing =>
    if existing == claim then return ()
    else if existing.runtimeKind == runtimeKindWasm then
      Prog.lift (.error ⟨applicationKindSplitBrain, "the route registry derives a celld claim on applicationId " ++
        claim.applicationId ++ " that the shared kind index already binds to wasm"⟩)
    else
      Prog.lift (.error ⟨applicationKindSplitBrain, "the index claim on applicationId " ++ claim.applicationId ++
        " disagrees with the deterministic route-registry derivation"⟩)
  | none => addClaim R registry.index claim

/-- `merge_route_derived_claims` -/
def mergeRouteDerivedClaims : List RuntimeKindClaimV1 → KindProg Unit
  | [] => return ()
  | claim :: rest => do
    mergeRouteDerivedClaim R claim
    mergeRouteDerivedClaims rest

/-! ## Recovery -/

structure KindRecoveryReport where
  replayed : List String
  quarantinedClaims : List String
  quarantinedRows : List String

/-- The applications the index binds to wasm. -/
def WasmKernelRouteRegistryV1.wasmClaims (registry : WasmKernelRouteRegistryV1) : List String :=
  (registry.index.claims.filter fun claim => claim.runtimeKind == runtimeKindWasm).map
    RuntimeKindClaimV1.applicationId

/-- The applications with rows. -/
def WasmKernelRouteRegistryV1.wasmRows (registry : WasmKernelRouteRegistryV1) : List String :=
  registry.records.applications.keys

/-- No celld application has wasm rows or a wasm claim. -/
def checkSplitBrain (registry : WasmKernelRouteRegistryV1) (celldApplicationIds : List String) :
    Except KernelError Unit :=
  celldApplicationIds.forM fun celldId =>
    require (!(registry.wasmRows.contains celldId || registry.wasmClaims.contains celldId))
      applicationKindSplitBrain ("both celld and wasm registries claim applicationId " ++ celldId ++
        "; all traffic for it is fenced pending an owner repair receipt")

/-- The binding of a claim: it must agree with the index, and is written again if its file is missing. -/
def recoverBinding (claim : RuntimeKindClaimV1) : KindProg Unit := do
  match (← Prog.read KindState.directory)[bindingFileName claim.applicationId]? with
  | some file =>
    let binding ← Prog.lift (parseBinding R file)
    Prog.lift (require (binding == bindingFromClaim claim) applicationKindSplitBrain
      ("the binding record and the shared kind index disagree on applicationId " ++ claim.applicationId))
  | none => writeBinding claim.applicationId (bindingFromClaim claim)

def recoverBindings : List RuntimeKindClaimV1 → KindProg Unit
  | [] => return ()
  | claim :: rest => do
    recoverBinding R claim
    recoverBindings rest

def replayTransactions : List PendingKindTransaction → KindProg (List String)
  | [] => return []
  | transaction :: rest => do
    let _ ← applyKindTransaction R transaction
    return transaction.proof.applicationId :: (← replayTransactions rest)

/-- Fence the orphans: claims without rows and rows without a claim. -/
def quarantineOrphans (replayed : List String) : KindProg KindRecoveryReport :=
  .write fun s =>
    let orphanClaims := s.registry.wasmClaims.filter fun id => !s.registry.records.applications.contains id
    let orphanRows := s.registry.wasmRows.filter fun id => !s.registry.wasmClaims.contains id
    let fence (reason : String) (quarantined : ExtTreeMap String String) (ids : List String) :=
      ids.foldl (fun quarantined id => quarantined.insert id reason) quarantined
    let quarantined := fence "wasm registry row without its global kind claim"
      (fence "wasm kind claim without its kind-specific registry row" s.registry.quarantined orphanClaims)
      orphanRows
    ({ s with registry := { s.registry with quarantined := quarantined } },
      .ok ⟨replayed, orphanClaims, orphanRows⟩)

/-- `WasmKernelRouteRegistryV1::recover` -/
def recoverKindRegistry (celldApplicationIds : List String) (pending : List PendingKindTransaction) :
    KindProg KindRecoveryReport := do
  let replayed ← replayTransactions R pending
  let registry ← Prog.read KindState.registry
  Prog.lift (checkSplitBrain registry celldApplicationIds)
  recoverBindings R registry.index.claims
  quarantineOrphans replayed

/-! ## Runs -/

/-- The directory, the registry of the Kernel if it runs, and the claims that were acknowledged so far. -/
structure KindWorld where
  directory : KindDirectory
  registry : Option WasmKernelRouteRegistryV1
  acknowledged : List (String × String)

def KindWorld.initial : KindWorld := ⟨∅, none, []⟩

inductive KindOp
  /-- The Kernel starts and loads the index. -/
  | load
  | claim (applicationId runtimeKind : String) (expectedKindRegistryRevision : Nat) (crash : Option Nat)
  | register (expectedKindRegistryRevision : Nat) (proof : AdmissionProofV1) (crash : Option Nat)
  | merge (derived : List RuntimeKindClaimV1) (crash : Option Nat)
  | recover (celldApplicationIds : List String) (pending : List PendingKindTransaction) (crash : Option Nat)

variable {R}

/-- A call of the running Kernel, and what its success acknowledges; after a crash the Kernel is down. -/
def KindWorld.call {α : Type} (world : KindWorld) (m : KindProg α) (acknowledges : α → List (String × String))
    (crash : Option Nat) : KindWorld :=
  match world.registry with
  | none => world
  | some registry =>
    let s : KindState := ⟨world.directory, registry⟩
    match crash with
    | some _ => { world with directory := (m.leaves crash s).directory, registry := none }
    | none =>
      { directory := (m s).final.directory
        registry := some (m s).final.registry
        acknowledged := match (m s).result with
          | .ok a => world.acknowledged ++ acknowledges a
          | .error _ => world.acknowledged }

def KindWorld.step (R : KindRegistryRules) (world : KindWorld) : KindOp → KindWorld
  | .load => { world with registry := (loadKindRegistry R world.directory).toOption }
  | .claim applicationId runtimeKind expected crash =>
    world.call (claimRuntimeKind R applicationId runtimeKind expected)
      (fun _ => [(applicationId, runtimeKind)]) crash
  | .register expected proof crash =>
    world.call (registerWasmAdmission R expected proof)
      (fun _ => [(proof.applicationId, runtimeKindWasm)]) crash
  | .merge derived crash =>
    world.call (mergeRouteDerivedClaims R derived)
      (fun _ => derived.map fun claim => (claim.applicationId, claim.runtimeKind)) crash
  | .recover celldApplicationIds pending crash =>
    world.call (recoverKindRegistry R celldApplicationIds pending) (fun _ => []) crash

/-- The application ids an operation names. -/
def KindOp.applicationIds : KindOp → List String
  | .load => []
  | .claim applicationId _ _ _ => [applicationId]
  | .register _ proof _ => [proof.applicationId]
  | .merge derived _ => derived.map RuntimeKindClaimV1.applicationId
  | .recover _ pending _ => pending.map fun transaction => transaction.proof.applicationId

/-- The registry opens again: the index loads, the recovery succeeds, and every acknowledged claim is
there. -/
structure KindRegistryReopens (R : KindRegistryRules) (world : KindWorld) (celldApplicationIds : List String)
    (registry : WasmKernelRouteRegistryV1) : Prop where
  loads : loadKindRegistry R world.directory = .ok registry
  recovers : ∃ report, (recoverKindRegistry R celldApplicationIds [] ⟨world.directory, registry⟩).result =
    .ok report
  acknowledged : ∀ p ∈ world.acknowledged, ∃ claim ∈ registry.index.claims,
    claim.applicationId = p.1 ∧ claim.runtimeKind = p.2
  revision : registry.index.registryRevision = registry.index.claims.length
  sorted : claimsStrictlySorted registry.index.claims = true

end Iweb
