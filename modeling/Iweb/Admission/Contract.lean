import Iweb.Admission.Validation
import Iweb.Catalog.Records
import Iweb.Kernel.Json
import Mathlib.Data.List.Chain

/-!
# The contract's manifest validator

A manifest reaches the Kernel as a JSON value that decodes into `NormalizedWasmManifestV1`; the contract
checks the value itself and collects issues. Both validators are compared on the values that decode.

A derived decoder reads a record from an object with exactly its fields, and from an array of its fields in
order. No decimal decodes where an integer is read, so the contract's checks of integers take none here.
-/

namespace Iweb

open Json

/-! ## Decoding -/

namespace Json

/-- `Object.keys` -/
def keys (members : List (String × Json)) : List String := members.map Prod.fst

/-- `isRecord` -/
def isRecord : Json → Bool
  | .object _ => true
  | _ => false

/-- A member of a value that has it. -/
def member (value : Json) (key : String) : Json :=
  match value with
  | .object members => field members key
  | _ => .null

/-- The items of a value that has any. -/
def elements : Json → List Json
  | .array items => items
  | _ => []

/-- A number of a machine width. -/
def asUnsigned (bits : Nat) : Json → Option Nat
  | .integer value => if 0 ≤ value ∧ value < 2 ^ bits then some value.toNat else none
  | _ => none

def asBool : Json → Option Bool
  | .bool value => some value
  | _ => none

/-- The fields of a record that denies unknown ones, in their order. -/
def decodeStruct (fields : List String) : Json → Option (List Json)
  | .object members =>
    if (keys members).Nodup ∧ ∀ key ∈ keys members, key ∈ fields then fields.mapM (members.lookup ·) else none
  | .array items => if items.length = fields.length then some items else none
  | _ => none

/-- `Vec` -/
def decodeList {α : Type} (decode : Json → Option α) : Json → Option (List α)
  | .array items => items.mapM decode
  | _ => none

end Json

def importCapabilityFields : List String := ["package", "interface", "direction"]

def decodeImportCapability (value : Json) : Option WasmImportCapability := do
  let [package, interface, direction] ← decodeStruct importCapabilityFields value | none
  return ⟨← package.asStr, ← interface.asStr, ← direction.asStr⟩

def runtimeFields : List String := ["kind", "entryLayerDigest", "world", "hostABI", "declaredHostImports"]

def decodeRuntime (value : Json) : Option WasmRuntimeV1 := do
  let [kind, entryLayerDigest, world, hostAbi, declaredHostImports] ← decodeStruct runtimeFields value | none
  return ⟨← kind.asStr, ← entryLayerDigest.asStr, ← world.asStr, ← hostAbi.asStr,
    ← decodeList decodeImportCapability declaredHostImports⟩

def resourceFields : List String := ["cpuMillis", "memoryBytes", "pidLimit", "storageBytes"]

def decodeResources (value : Json) : Option WasmResourcesV1 := do
  let [cpuMillis, memoryBytes, pidLimit, storageBytes] ← decodeStruct resourceFields value | none
  return ⟨← cpuMillis.asUnsigned 64, ← memoryBytes.asUnsigned 64, ← pidLimit.asUnsigned 64,
    ← storageBytes.asUnsigned 64⟩

def storageFields : List String := ["persistent", "requestBytes"]

def decodeStorage (value : Json) : Option (Bool × Nat) := do
  let [persistent, requestBytes] ← decodeStruct storageFields value | none
  return (← persistent.asBool, ← requestBytes.asUnsigned 64)

def egressRuleFields : List String := ["host", "port"]

def decodeEgressRule (value : Json) : Option WasmEgressRuleV1 := do
  let [host, port] ← decodeStruct egressRuleFields value | none
  return ⟨← host.asStr, ← port.asUnsigned 16⟩

def egressFields : List String := ["default", "allow"]

def decodeEgress (value : Json) : Option (String × List WasmEgressRuleV1) := do
  let [fallback, allow] ← decodeStruct egressFields value | none
  return (← fallback.asStr, ← decodeList decodeEgressRule allow)

def manifestFields : List String := ["schemaVersion", "name", "runtime", "resources", "storage", "egress"]

def decodeManifest (value : Json) : Option NormalizedWasmManifestV1 := do
  let [schemaVersion, name, runtime, resources, storage, egress] ← decodeStruct manifestFields value | none
  let schemaVersion ← schemaVersion.asUnsigned 64
  let name ← name.asStr
  let runtime ← decodeRuntime runtime
  let resources ← decodeResources resources
  let (persistent, requestBytes) ← decodeStorage storage
  let (fallback, allow) ← decodeEgress egress
  return ⟨schemaVersion, name, runtime, resources, persistent, requestBytes, fallback, allow⟩

/-- Every record of a manifest is an object. -/
def isWrittenAsObjects (value : Json) : Bool :=
  value.isRecord && (value.member "runtime").isRecord && (value.member "resources").isRecord &&
    (value.member "storage").isRecord && (value.member "egress").isRecord &&
    ((value.member "runtime").member "declaredHostImports").elements.all isRecord &&
    ((value.member "egress").member "allow").elements.all isRecord

/-! ## The contract's checks

A check gives the value it accepted, or none, and the issues it found. -/

namespace Contract

abbrev Checked (α : Type) : Type := Option α × List ValidationIssue

/-- An accepted value, or the issue of its refusal. -/
def checkedIf {α : Type} (ok : Bool) (value : α) (code path message : String) : Checked α :=
  if ok then (some value, []) else (none, [⟨code, path, message⟩])

def requireExactKeys (members : List (String × Json)) (path : String) (allowed : List String) (code : String) :
    List ValidationIssue :=
  ((keys members).flatMap fun key =>
    issueUnless (allowed.contains key) code (path ++ "/" ++ key) "unknown field is not allowed") ++
  allowed.flatMap fun key =>
    issueUnless ((keys members).contains key) code (path ++ "/" ++ key) "required field is missing"

def requireSafeInteger (value : Json) (path fieldName : String) (minimum maximum : Nat) (code : String) :
    Checked Nat :=
  match value with
  | .integer n => checkedIf (decide ((minimum : Int) ≤ n ∧ n ≤ maximum ∧ n ≤ wasmU53Max)) n.toNat code
      (path ++ "/" ++ fieldName)
      (fieldName ++ " must be an integer between " ++ toString minimum ++ " and " ++ toString maximum)
  | _ => (none, [⟨code, path ++ "/" ++ fieldName,
      fieldName ++ " must be an integer between " ++ toString minimum ++ " and " ++ toString maximum⟩])

/-- A text that passes a check. -/
def requireText (ok : String → Bool) (value : Json) (code path message : String) : Checked String :=
  match value with
  | .string text => checkedIf (ok text) text code path message
  | _ => (none, [⟨code, path, message⟩])

def requireOciSha256 (value : Json) (path fieldName code : String) : Checked String :=
  requireText isOciSha256 value code (path ++ "/" ++ fieldName)
    (fieldName ++ " must be sha256: plus 64 lower-case hex characters")

def requireStringLiteral (value : Json) (path fieldName literal code : String) : Checked String :=
  requireText (· == literal) value code (path ++ "/" ++ fieldName)
    (fieldName ++ " must be exactly \"" ++ literal ++ "\"")

/-- `isIpLiteral` -/
def isIpLiteral (s : String) : Bool := isIpv4 (bytes s) || (bytes s).contains (ascii ':') || s == "localhost"

/-- `DNS_NAME_PATTERN` -/
def isDnsName (s : String) : Bool :=
  !(bytes s).isEmpty && (bytes s).length ≤ 253 && (splitBytes (ascii '.') (bytes s)).all isHostLabel

/-- `validateDnsName` of the contract. -/
def requireDnsName (value : Json) (path fieldName : String) : Checked String :=
  requireText (fun s => isDnsName s && !isIpLiteral s) value "INVALID_HOST" path
    (fieldName ++ " must be a DNS name, not an address literal")

/-- The fields of a record, or an issue. -/
def requireObject (value : Json) (path noun code : String) : Except ValidationIssue (List (String × Json)) :=
  match value with
  | .object members => .ok members
  | _ => .error ⟨code, path, noun ++ " must be an object"⟩

/-- The issue of the first pair of neighbours that has one. -/
def firstIssue {α : Type} (check : α → α → Option ValidationIssue) : List α → Option ValidationIssue
  | a :: b :: rest => (check a b).or (firstIssue check (b :: rest))
  | _ => none

def checkImportCapability (value : Json) (path code : String) : Checked WasmImportCapability :=
  match requireObject value path "import capability" code with
  | .error issue => (none, [issue])
  | .ok members =>
    let package := requireText isWitPackage (field members "package") code (path ++ "/package")
      "package must be a lower-case WIT namespace:name@major.minor.patch identity"
    let interface := requireText (fun s => isWitName (bytes s)) (field members "interface") code
      (path ++ "/interface") "interface must be a lower-case WIT interface identifier"
    let direction := requireText (· == "import") (field members "direction") code (path ++ "/direction")
      "direction must be the literal \"import\" for a declared host import"
    (do return ⟨← package.1, ← interface.1, ← direction.1⟩,
      requireExactKeys members path importCapabilityFields code ++ package.2 ++ interface.2 ++ direction.2)

/-- The entries of an array from an index on, each under its own path. -/
def checkEach {α : Type} (check : Json → String → Checked α) (path : String) : Nat → List Json → Checked (List α)
  | _, [] => (some [], [])
  | i, item :: rest =>
    let (value, issues) := check item (path ++ "/" ++ toString i)
    let (values, later) := checkEach check path (i + 1) rest
    (do return (← value) :: (← values), issues ++ later)

/-- The issue of two neighbours that do not ascend. -/
def checkImportOrder (path code : String) (previous current : WasmImportCapability) : Option ValidationIssue :=
  match compareImports previous current with
  | .eq => some ⟨code, path, "duplicate (package, interface, direction) key is rejected"⟩
  | .gt => some ⟨code, path,
      "declaredHostImports must be sorted by (package, interface, direction) in UTF-8 byte order"⟩
  | .lt => none

def validateDeclaredHostImports (value : Json) (path code : String) : Checked (List WasmImportCapability) :=
  match value with
  | .array items =>
    let (list, issues) := checkEach (fun item path => checkImportCapability item path code) path 0 items
    match list with
    | none => (none, issues)
    | some list =>
      match firstIssue (checkImportOrder path code) list with
      | none => (some list, issues)
      | some issue => (none, issues ++ [issue])
  | _ => (none, [⟨code, path, "declaredHostImports must be an array"⟩])

def validateWasmRuntime (value : Json) (path : String) : Checked WasmRuntimeV1 :=
  match requireObject value path "runtime" wasmManifestInvalid with
  | .error issue => (none, [issue])
  | .ok members =>
    let kind := requireStringLiteral (field members "kind") path "kind" "wasm" wasmManifestInvalid
    let entryLayerDigest := requireOciSha256 (field members "entryLayerDigest") path "entryLayerDigest"
      wasmManifestInvalid
    let world := requireStringLiteral (field members "world") path "world" wasmWorldLiteral wasmManifestInvalid
    let hostAbi := requireStringLiteral (field members "hostABI") path "hostABI" wasmHostAbiLiteral
      wasmManifestInvalid
    let declaredHostImports := validateDeclaredHostImports (field members "declaredHostImports")
      (path ++ "/declaredHostImports") wasmManifestInvalid
    (do return ⟨← kind.1, ← entryLayerDigest.1, ← world.1, ← hostAbi.1, ← declaredHostImports.1⟩,
      requireExactKeys members path runtimeFields wasmManifestInvalid ++ kind.2 ++ entryLayerDigest.2 ++ world.2 ++
        hostAbi.2 ++ declaredHostImports.2)

def validateWasmResources (value : Json) (path : String) : Checked WasmResourcesV1 :=
  match requireObject value path "resources" wasmManifestInvalid with
  | .error issue => (none, [issue])
  | .ok members =>
    let integer := fun name minimum maximum =>
      requireSafeInteger (field members name) path name minimum maximum wasmManifestInvalid
    let cpuMillis := integer "cpuMillis" 1 1000000
    let memoryBytes := integer "memoryBytes" 1 68719476736
    let pidLimit := integer "pidLimit" 1 1000000
    let storageBytes := integer "storageBytes" 0 1099511627776
    (do return ⟨← cpuMillis.1, ← memoryBytes.1, ← pidLimit.1, ← storageBytes.1⟩,
      requireExactKeys members path resourceFields wasmManifestInvalid ++ cpuMillis.2 ++ memoryBytes.2 ++
        pidLimit.2 ++ storageBytes.2)

def validateWasmStorage (value : Json) (path : String) : Checked (Bool × Nat) :=
  match requireObject value path "storage" wasmManifestInvalid with
  | .error issue => (none, [issue])
  | .ok members =>
    let issues := requireExactKeys members path storageFields wasmManifestInvalid
    match field members "persistent" with
    | .bool persistent =>
      let requestBytes := requireSafeInteger (field members "requestBytes") path "requestBytes" 0 1099511627776
        wasmManifestInvalid
      (requestBytes.1.map (persistent, ·), issues ++ requestBytes.2)
    | _ => (none, issues ++ [⟨wasmManifestInvalid, path ++ "/persistent", "persistent must be a boolean"⟩])

def checkEgressRule (value : Json) (path : String) : Checked WasmEgressRuleV1 :=
  match requireObject value path "egress rule" wasmManifestInvalid with
  | .error issue => (none, [issue])
  | .ok members =>
    let host := requireDnsName (field members "host") path "host"
    let port := requireSafeInteger (field members "port") path "port" 1 65535 wasmManifestInvalid
    (do return ⟨← host.1, ← port.1⟩,
      requireExactKeys members path egressRuleFields wasmManifestInvalid ++ host.2 ++ port.2)

/-- The rules of the list up to the first that is refused. -/
def checkEgressRules (path : String) : Nat → List Json → Checked (List WasmEgressRuleV1)
  | _, [] => (some [], [])
  | i, value :: rest =>
    match checkEgressRule value (path ++ "/" ++ toString i) with
    | (none, issues) => (none, issues)
    | (some rule, issues) =>
      let (rules, later) := checkEgressRules path (i + 1) rest
      (rules.map (rule :: ·), issues ++ later)

/-- `(host, port)` in UTF-8 byte order, then by number. -/
def ruleBefore (previous current : WasmEgressRuleV1) : Bool :=
  match compareBytes (bytes previous.host) (bytes current.host) with
  | .lt => true
  | .eq => previous.port < current.port
  | .gt => false

def checkRuleOrder (path : String) (previous current : WasmEgressRuleV1) : Option ValidationIssue :=
  if ruleBefore previous current then none
  else some ⟨wasmManifestInvalid, path ++ "/allow", "allow must be sorted by (host, port) with no duplicate pair"⟩

def validateWasmEgress (value : Json) (path : String) : Checked (String × List WasmEgressRuleV1) :=
  match requireObject value path "egress" wasmManifestInvalid with
  | .error issue => (none, [issue])
  | .ok members =>
    let fallback := requireStringLiteral (field members "default") path "default" "deny" wasmManifestInvalid
    let issues := requireExactKeys members path egressFields wasmManifestInvalid ++ fallback.2
    match field members "allow" with
    | .array items =>
      if wasmMaxEgressRules < items.length then
        (none, issues ++ [⟨wasmManifestInvalid, path ++ "/allow",
          "allow must have at most " ++ toString wasmMaxEgressRules ++ " items"⟩])
      else
        match checkEgressRules (path ++ "/allow") 0 items with
        | (none, found) => (none, issues ++ found)
        | (some allow, found) =>
          match firstIssue (checkRuleOrder path) allow with
          | some issue => (none, issues ++ found ++ [issue])
          | none => (fallback.1.map (·, allow), issues ++ found)
    | _ => (none, issues ++ [⟨wasmManifestInvalid, path ++ "/allow", "allow must be an array"⟩])

/-- `validateNormalizedWasmManifestV1` -/
def validateNormalizedWasmManifestV1 (value : Json) : ValidationResult NormalizedWasmManifestV1 :=
  match requireObject value "" "normalized wasm manifest" wasmManifestInvalid with
  | .error issue => validationFailure [issue]
  | .ok members =>
    let schemaVersion := requireSafeInteger (field members "schemaVersion") "" "schemaVersion" 1 1 wasmManifestInvalid
    let name := requireText isApplicationId (field members "name") wasmManifestInvalid "/name"
      "name must be a lower-case application identifier of at most 63 ASCII bytes"
    let runtime := validateWasmRuntime (field members "runtime") "/runtime"
    let resources := validateWasmResources (field members "resources") "/resources"
    let storage := validateWasmStorage (field members "storage") "/storage"
    let egress := validateWasmEgress (field members "egress") "/egress"
    let exceeds := match resources.1, storage.1 with
      | some resources, some storage => issueUnless (storage.2 ≤ resources.storageBytes) wasmManifestInvalid
          "/storage/requestBytes" "storage.requestBytes must be <= resources.storageBytes"
      | _, _ => []
    let issues := requireExactKeys members "" manifestFields wasmManifestInvalid ++ schemaVersion.2 ++ name.2 ++
      runtime.2 ++ resources.2 ++ storage.2 ++ egress.2 ++ exceeds
    match name.1, runtime.1, resources.1, storage.1, egress.1 with
    | some name, some runtime, some resources, some storage, some egress =>
      acceptUnless issues ⟨1, name, runtime, resources, storage.1, storage.2, egress.1, egress.2⟩
    | _, _, _, _, _ => validationFailure issues

/-! ## What the contract asks of a manifest -/

def ImportValid (entry : WasmImportCapability) : Prop :=
  isWitPackage entry.package = true ∧ isWitName (bytes entry.interface) = true ∧ entry.direction = "import"

def RuleValid (rule : WasmEgressRuleV1) : Prop :=
  isDnsName rule.host = true ∧ isIpLiteral rule.host = false ∧ 1 ≤ rule.port ∧ rule.port ≤ 65535

/-- Strictly ascending by `(package, interface, direction)`. -/
def ImportsAscending (imports : List WasmImportCapability) : Prop :=
  imports.IsChain fun previous current => compareImports previous current = .lt

/-- Strictly ascending by `(host, port)`. -/
def RulesAscending (allow : List WasmEgressRuleV1) : Prop :=
  allow.IsChain fun previous current => ruleBefore previous current = true

structure RuntimeValid (runtime : WasmRuntimeV1) : Prop where
  kind : runtime.kind = "wasm"
  entryLayerDigest : isOciSha256 runtime.entryLayerDigest = true
  world : runtime.world = wasmWorldLiteral
  hostAbi : runtime.hostAbi = wasmHostAbiLiteral
  imports : ∀ entry ∈ runtime.declaredHostImports, ImportValid entry
  ascending : ImportsAscending runtime.declaredHostImports

structure ResourcesValid (resources : WasmResourcesV1) : Prop where
  cpuMillis : 1 ≤ resources.cpuMillis ∧ resources.cpuMillis ≤ 1000000
  memoryBytes : 1 ≤ resources.memoryBytes ∧ resources.memoryBytes ≤ 68719476736
  pidLimit : 1 ≤ resources.pidLimit ∧ resources.pidLimit ≤ 1000000
  storageBytes : resources.storageBytes ≤ 1099511627776

/-- Everything but the egress list. -/
structure FieldsValid (manifest : NormalizedWasmManifestV1) : Prop where
  schemaVersion : manifest.schemaVersion = 1
  name : isApplicationId manifest.name = true
  runtime : RuntimeValid manifest.runtime
  resources : ResourcesValid manifest.resources
  requestBytes : manifest.storageRequestBytes ≤ 1099511627776
  withinStorage : manifest.storageRequestBytes ≤ manifest.resources.storageBytes
  egressDefault : manifest.egressDefault = "deny"

/-- The egress list: its length, its rules and their order. -/
structure EgressValid (allow : List WasmEgressRuleV1) : Prop where
  length : allow.length ≤ wasmMaxEgressRules
  rules : ∀ rule ∈ allow, RuleValid rule
  ascending : RulesAscending allow

/-- No two neighbouring rules are for one host. -/
def NoHostRepeats (allow : List WasmEgressRuleV1) : Prop :=
  allow.IsChain fun previous current => previous.host ≠ current.host

/-- Both validators accept the value or both refuse it, and when nothing else is wrong each accepts it exactly
for a valid egress list. -/
structure ValidatorsAgree (value : Json) (manifest : NormalizedWasmManifestV1) : Prop where
  same : validateNormalizedManifest manifest = .ok () ↔
    ∃ accepted, validateNormalizedWasmManifestV1 value = .ok accepted
  kernel : FieldsValid manifest →
    (validateNormalizedManifest manifest = .ok () ↔ EgressValid manifest.egressAllow)
  contract : FieldsValid manifest →
    ((∃ accepted, validateNormalizedWasmManifestV1 value = .ok accepted) ↔ EgressValid manifest.egressAllow)

end Contract

end Iweb
