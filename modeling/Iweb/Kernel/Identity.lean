import Iweb.Kernel.Wire

/-!
# Version identities, runtime bindings and route pointers

The admission facts carry a runtime binding at host ABI 1.0.0 (`RuntimeBindingIdentityV1`); commands
and leases carry the same seven fields at host ABI 1.1.0 (`RuntimeBindingIdentityV2`). A version id is
the version digest and the decimal sequence joined by a dash.
-/

namespace Iweb

/-- `WASM_HOST_ABI_LITERAL` -/
def wasmHostAbiLiteral : String := "iweb-wasmd-abi@1.0.0"

/-- `HOST_ABI_LITERAL_V2` -/
def hostAbiLiteralV2 : String := "iweb-wasmd-abi@1.1.0"

/-- `WASM_WORLD_LITERAL` -/
def wasmWorldLiteral : String := "wasi:http/proxy@0.2.8"

/-- The code of a malformed execution command. -/
def executionCommandV2Invalid : String := "EXECUTION_COMMAND_V2_INVALID"

/-- The code of a malformed version id. -/
def wasmVersionIdInvalid : String := "WASM_VERSION_ID_INVALID"

/-- The runtime binding as admission records it. -/
structure RuntimeBindingIdentityV1 where
  kind : String
  catalogRevision : Nat
  catalogHash : String
  entryKey : String
  imageDigest : String
  hostAbi : String
  world : String
deriving DecidableEq

/-- The runtime binding as commands and leases carry it. -/
structure RuntimeBindingIdentityV2 where
  kind : String
  catalogRevision : Nat
  catalogHash : String
  entryKey : String
  imageDigest : String
  hostAbi : String
  world : String
deriving DecidableEq

/-- The structural checks of a command's runtime binding. -/
def validateRuntimeBindingV2 (binding : RuntimeBindingIdentityV2) : Except KernelError Unit := do
  let check (ok : Bool) (detail : String) := require ok executionCommandV2Invalid detail
  check (binding.kind == "wasm") "/runtimeBinding/kind must be exactly \"wasm\""
  check (isU53Between binding.catalogRevision 1 wasmU53Max)
    "/runtimeBinding/catalogRevision must be an integer between 1 and the u53 maximum"
  check (isSha256Hex binding.catalogHash)
    "runtimeBinding/catalogHash must be 64 lower-case hex characters"
  check (isEntryKey binding.entryKey)
    "/runtimeBinding/entryKey must match ^[a-z][a-z0-9.-]\x7b0,63\x7d$"
  check (isOciSha256 binding.imageDigest)
    "/runtimeBinding/imageDigest must be sha256: plus 64 lower-case hex characters"
  check (binding.hostAbi == hostAbiLiteralV2)
    "/runtimeBinding/hostABI must be the exact service-enabled ABI literal iweb-wasmd-abi@1.1.0"
  check (binding.world == wasmWorldLiteral)
    "/runtimeBinding/world must be the exact matrix world literal"

/-- The admission binding with the host ABI literal of the service-enabled generation. -/
def RuntimeBindingIdentityV1.toV2 (binding : RuntimeBindingIdentityV1) : RuntimeBindingIdentityV2 where
  kind := binding.kind
  catalogRevision := binding.catalogRevision
  catalogHash := binding.catalogHash
  entryKey := binding.entryKey
  imageDigest := binding.imageDigest
  hostAbi := hostAbiLiteralV2
  world := binding.world

/-- A command binding brought back to the form admission records. -/
def RuntimeBindingIdentityV2.toV1 (binding : RuntimeBindingIdentityV2) : RuntimeBindingIdentityV1 where
  kind := binding.kind
  catalogRevision := binding.catalogRevision
  catalogHash := binding.catalogHash
  entryKey := binding.entryKey
  imageDigest := binding.imageDigest
  hostAbi := wasmHostAbiLiteral
  world := binding.world

/-- Derive the command binding from the admission binding; the result must be well formed. -/
def runtimeBindingV2FromV1 (binding : RuntimeBindingIdentityV1) :
    Except KernelError RuntimeBindingIdentityV2 := do
  validateRuntimeBindingV2 binding.toV2
  return binding.toV2

theorem runtimeBindingV2FromV1_eq_ok {b : RuntimeBindingIdentityV1} {d : RuntimeBindingIdentityV2}
    (h : runtimeBindingV2FromV1 b = .ok d) : d = b.toV2 := by
  simp only [runtimeBindingV2FromV1, bind_eq_ok, pure, Except.pure] at h
  obtain ⟨_, _, h⟩ := h
  exact (Except.ok.inj h).symm

/-! ## Version ids -/

/-- A version identity: the application, the version digest and the sequence number. -/
structure WasmVersionIdentity where
  applicationId : String
  digest : String
  sequence : Nat
deriving DecidableEq

/-- `format!("{version_digest}-{sequence}")` -/
def composeWasmVersionId (versionDigest : String) (sequence : Nat) : String :=
  versionDigest ++ "-" ++ toString sequence

/-- `^[a-f0-9]{64}-[1-9][0-9]{0,15}$` -/
def isWasmVersionId (bs : List UInt8) : Bool :=
  matchesShape (List.replicate 64 isHexLower ++ [fun b => b == ascii '-']) (bs.take 65) &&
    match bs.drop 65 with
    | [] => false
    | b :: rest => isDecimalDigit b && b != ascii '0' && rest.length ≤ 15 && rest.all isDecimalDigit

/-- Check the grammar of a version id and split it into version digest and sequence. -/
def parseWasmVersionId (versionId : String) : Except KernelError (String × Nat) :=
  let bs := bytes versionId
  if !isWasmVersionId bs then
    .error ⟨wasmVersionIdInvalid, "versionId must be <64 hex>-<positive sequence without leading zero>"⟩
  else
    let sequence := decimalValue (bs.drop 65)
    if sequence == 0 || wasmU53Max < sequence then
      .error ⟨wasmVersionIdInvalid, "versionId sequence must be within 1..=u53 max"⟩
    else .ok (String.ofList ((bs.take 64).map fun b => Char.ofNat b.toNat), sequence)

/-! ## The route pointer -/

/-- The members of an active route pointer. -/
structure ActivePointer where
  runtimeKind : String
  applicationId : String
  versionId : String
  identity : WasmVersionIdentity
  runtimeBinding : RuntimeBindingIdentityV1
  admissionProofRef : String
  admissionProofDigest : String
  routeGeneration : Nat
  hostServicePolicyDigest : Option String
  preparationGeneration : Option Nat
  executionGeneration : Option Nat
deriving DecidableEq

/-- Where an application's traffic goes. -/
inductive WasmActivePointerV1
  | active (pointer : ActivePointer)
  | unavailable (runtimeKind applicationId : String) (routeGeneration : Nat)
deriving DecidableEq

end Iweb
