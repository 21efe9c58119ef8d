import Iweb.Admission.Validation
import Iweb.Kernel.Json
import Iweb.Runtime.Commands
import Mathlib.Logic.Function.Basic

/-!
# Engine metrics at the Kernel

The Kernel takes samples of an execution's engine counters from the supervisor. A sample must have the exact
form of version 1, must belong to the execution that the Kernel authorized last, and must not go back in time
or below the counters accepted before.
-/

namespace Iweb

def wasmEngineMetricsInvalid : String := "WASM_ENGINE_METRICS_INVALID"
def wasmEngineMetricsStale : String := "WASM_ENGINE_METRICS_STALE"
def wasmEngineMetricsTimeRegression : String := "WASM_ENGINE_METRICS_TIME_REGRESSION"
def wasmEngineMetricsCounterRegression : String := "WASM_ENGINE_METRICS_COUNTER_REGRESSION"
def wasmEngineMetricsFuelRepresentation : String := "WASM_ENGINE_METRICS_FUEL_REPRESENTATION"
def wasmEngineMetricsMismatch : String := "WASM_ENGINE_METRICS_MISMATCH"

/-- `METRICS_TOP_LEVEL_KEYS` -/
def metricsTopLevelKeys : List String :=
  ["schemaVersion", "sandboxId", "versionId", "packageDigest", "runtimeBinding", "capabilityRecordRevision",
    "capabilityRecordHash", "secretRevision", "configRevision", "configSnapshotRef", "preparationGeneration",
    "executionGeneration", "sampledAt", "availability", "engine"]

/-- `ENGINE_COUNTER_KEYS` -/
def engineCounterKeys : List String :=
  ["fuelConsumedCumulative", "epochTimeoutsCumulative", "instancesLiveInstant", "instancesHighWaterCumulative",
    "guestMemoryBytesInstant"]

/-- The keys of a runtime binding. -/
def runtimeBindingKeys : List String :=
  ["kind", "catalogRevision", "catalogHash", "entryKey", "imageDigest", "hostABI", "world"]

/-- The counters of an available sample; a fuel counter is null exactly where fuel is disabled. -/
structure WasmEngineCountersV1 where
  fuelConsumedCumulative : Option Nat
  epochTimeoutsCumulative : Nat
  instancesLiveInstant : Nat
  instancesHighWaterCumulative : Nat
  guestMemoryBytesInstant : Nat
deriving DecidableEq

inductive WasmEngineAvailability
  | available
  | unavailable
deriving DecidableEq

structure WasmEngineMetricsV1 where
  schemaVersion : Nat
  sandboxId : String
  versionId : String
  packageDigest : String
  runtimeBinding : RuntimeBindingIdentityV1
  capabilityRecordRevision : Nat
  capabilityRecordHash : String
  secretRevision : Nat
  configRevision : Nat
  configSnapshotRef : Option String
  preparationGeneration : Nat
  executionGeneration : Nat
  sampledAt : String
  availability : WasmEngineAvailability
  engine : Option WasmEngineCountersV1
deriving DecidableEq

/-- The execution a sample must belong to. -/
structure WasmEngineMetricsFence where
  sandboxId : String
  versionId : String
  packageDigest : String
  runtimeBinding : RuntimeBindingIdentityV1
  capabilityRecordRevision : Nat
  capabilityRecordHash : String
  secretRevision : Nat
  configRevision : Nat
  configSnapshotRef : Option String
  preparationGeneration : Nat
  executionGeneration : Nat
deriving DecidableEq

/-- `WasmEngineMetricsFence::from_command` -/
def WasmEngineMetricsFence.fromCommand (command : ExecutionCommand) : WasmEngineMetricsFence where
  sandboxId := command.identity.sandboxId
  versionId := command.identity.versionId
  packageDigest := command.packageDigest
  runtimeBinding := command.runtimeBinding.toV1
  capabilityRecordRevision := command.capabilityRecordRevision
  capabilityRecordHash := command.capabilityRecordHash
  secretRevision := command.secretRevision
  configRevision := command.configRevision
  configSnapshotRef := command.configSnapshotRef
  preparationGeneration := command.identity.preparationGeneration
  executionGeneration := command.identity.executionGeneration

/-! ## The form of a sample -/

namespace WasmEngineMetricsV1

def invalid (detail : String) : KernelError := ⟨wasmEngineMetricsInvalid, detail⟩

/-- `require_exact_keys`; the members of an object with exactly these keys. -/
def requireExactKeys (value : Json) (path : String) (keys : List String) :
    Except KernelError (List (String × Json)) :=
  match value with
  | .object members =>
    match members.find? fun member => !keys.contains member.1 with
    | some member => .error (invalid (path ++ "/" ++ member.1 ++ ": unknown field is not allowed"))
    | none =>
      match keys.find? fun key => (members.lookup key).isNone with
      | some key => .error (invalid (path ++ "/" ++ key ++ ": required field is missing"))
      | none => .ok members
  | _ => .error (invalid (path ++ " must be an object"))

/-- `require_metrics_u53` -/
def requireMetricsU53 (value : Json) (path : String) (minimum : Nat) : Except KernelError Nat :=
  match value.asU64 with
  | none => .error (invalid (path ++ " must be a non-negative integer (u53 range)"))
  | some number =>
    if number < minimum ∨ wasmU53Max < number then
      .error (invalid (path ++ " must be an integer between " ++ toString minimum ++ " and the u53 maximum"))
    else .ok number

/-- `require_metrics_sha256_hex` -/
def requireMetricsSha256Hex (value : Json) (path : String) : Except KernelError String :=
  match value.asStr with
  | none => .error (invalid (path ++ " must be a string"))
  | some text =>
    if isSha256Hex text = false then .error (invalid (path ++ " must be 64 lower-case hex characters"))
    else .ok text

def requireString (value : Json) (detail : String) : Except KernelError String :=
  match value.asStr with
  | none => .error (invalid detail)
  | some text => .ok text

/-- `^\d{4}-\d{2}-\d{2}T\d{2}:\d{2}:\d{2}(\.\d+)?Z$` -/
def isRfc3339Utc (text : String) : Bool :=
  matchesShape timestampShape ((bytes text).take 19) &&
    match (bytes text).drop 19 with
    | [] => false
    | b :: rest =>
      let digits := rest.takeWhile isDecimalDigit
      (b == ascii 'Z' && rest.isEmpty) ||
        (b == ascii '.' && !digits.isEmpty && rest.drop digits.length == [ascii 'Z'])

/-- The binding of a sample; the text of a type error is the parser's own. -/
def requireBinding (value : Json) : Except KernelError RuntimeBindingIdentityV1 := do
  let members ← requireExactKeys value "/runtimeBinding" runtimeBindingKeys
  let text (key : String) := requireString (Json.field members key) "/runtimeBinding: invalid type"
  let kind ← text "kind"
  let catalogRevision ←
    match (Json.field members "catalogRevision").asU64 with
    | none => .error (invalid "/runtimeBinding: invalid type")
    | some number => .ok number
  let catalogHash ← text "catalogHash"
  let entryKey ← text "entryKey"
  let imageDigest ← text "imageDigest"
  let hostAbi ← text "hostABI"
  let world ← text "world"
  let binding : RuntimeBindingIdentityV1 :=
    ⟨kind, catalogRevision, catalogHash, entryKey, imageDigest, hostAbi, world⟩
  recode wasmEngineMetricsInvalid (validateRuntimeBinding binding)
  return binding

/-- The counters of an available sample. -/
def requireCounters (value : Json) : Except KernelError WasmEngineCountersV1 := do
  let members ← requireExactKeys value "/engine" engineCounterKeys
  let counter (key : String) := requireMetricsU53 (Json.field members key) ("/engine/" ++ key) 0
  let fuelConsumedCumulative ←
    if (Json.field members "fuelConsumedCumulative").isNull then pure none
    else (counter "fuelConsumedCumulative").map some
  let epochTimeoutsCumulative ← counter "epochTimeoutsCumulative"
  let instancesLiveInstant ← counter "instancesLiveInstant"
  let instancesHighWaterCumulative ← counter "instancesHighWaterCumulative"
  let guestMemoryBytesInstant ← counter "guestMemoryBytesInstant"
  return ⟨fuelConsumedCumulative, epochTimeoutsCumulative, instancesLiveInstant, instancesHighWaterCumulative,
    guestMemoryBytesInstant⟩

def requireAvailability (value : Json) : Except KernelError WasmEngineAvailability :=
  if value.asStr = some "available" then .ok .available
  else if value.asStr = some "unavailable" then .ok .unavailable
  else .error (invalid "availability must be exactly \"available\" or \"unavailable\"")

/-- The engine is null exactly in an unavailable sample. -/
def requireEngine (availability : WasmEngineAvailability) (value : Json) :
    Except KernelError (Option WasmEngineCountersV1) :=
  match availability with
  | .unavailable =>
    if value.isNull then .ok none
    else .error (invalid "engine must be null exactly when availability is unavailable")
  | .available =>
    if value.isNull then .error (invalid "an available sample must carry the exact engine counters object")
    else (requireCounters value).map some

def requireSnapshotRef (value : Json) : Except KernelError (Option String) :=
  if value.isNull then .ok none
  else if value.asStr.isNone then
    .error (invalid "/configSnapshotRef must be null or a 64-character lower-case hex digest")
  else (requireMetricsSha256Hex value "/configSnapshotRef").map some

/-- `validate_wasm_engine_metrics_v1` -/
def validate (value : Json) : Except KernelError WasmEngineMetricsV1 := do
  let members ← requireExactKeys value "" metricsTopLevelKeys
  let field := Json.field members
  require ((field "schemaVersion").asU64 == some 1) wasmEngineMetricsInvalid "schemaVersion must be exactly 1"
  let sandboxId ← requireString (field "sandboxId") "sandboxId must be a string"
  require (isSandboxId sandboxId) wasmEngineMetricsInvalid
    "sandboxId must start with a lower-case letter and span at most 63 ASCII bytes"
  let versionId ← requireString (field "versionId") "versionId must be a string"
  let parsed ← recode wasmEngineMetricsInvalid (parseWasmVersionId versionId)
  require (composeWasmVersionId parsed.1 parsed.2 == versionId) wasmEngineMetricsInvalid
    "versionId must round-trip its digest-sequence label"
  let packageDigest ← requireMetricsSha256Hex (field "packageDigest") "/packageDigest"
  let runtimeBinding ← requireBinding (field "runtimeBinding")
  let capabilityRecordRevision ←
    requireMetricsU53 (field "capabilityRecordRevision") "/capabilityRecordRevision" 1
  let capabilityRecordHash ← requireMetricsSha256Hex (field "capabilityRecordHash") "/capabilityRecordHash"
  let secretRevision ← requireMetricsU53 (field "secretRevision") "/secretRevision" 0
  let configRevision ← requireMetricsU53 (field "configRevision") "/configRevision" 0
  let configSnapshotRef ← requireSnapshotRef (field "configSnapshotRef")
  require (decide (configRevision = 0) == configSnapshotRef.isNone) wasmEngineMetricsInvalid
    ("configRevision 0 requires configSnapshotRef null; " ++
      "a non-zero configRevision requires a configSnapshotRef")
  let preparationGeneration ← requireMetricsU53 (field "preparationGeneration") "/preparationGeneration" 1
  let executionGeneration ← requireMetricsU53 (field "executionGeneration") "/executionGeneration" 1
  let sampledAt ← requireString (field "sampledAt") "sampledAt must be an RFC3339 UTC timestamp ending in Z"
  require (isRfc3339Utc sampledAt) wasmEngineMetricsInvalid
    "sampledAt must be an RFC3339 UTC timestamp ending in Z"
  let _ ← recode wasmEngineMetricsInvalid (parseRfc3339UtcMillis sampledAt)
  let availability ← requireAvailability (field "availability")
  let engine ← requireEngine availability (field "engine")
  return ⟨1, sandboxId, versionId, packageDigest, runtimeBinding, capabilityRecordRevision, capabilityRecordHash,
    secretRevision, configRevision, configSnapshotRef, preparationGeneration, executionGeneration, sampledAt,
    availability, engine⟩

end WasmEngineMetricsV1

/-! ## Acceptance -/

/-- `correlate_wasm_engine_metrics` -/
def correlateWasmEngineMetrics (expected : WasmEngineMetricsFence) (reported : WasmEngineMetricsV1) :
    Except KernelError Unit := do
  let same (ok : Bool) (field detail : String) := require ok wasmEngineMetricsMismatch
    ("/" ++ field ++ ": metrics " ++ field ++ " does not match the current execution record (" ++ detail ++ ")")
  same (expected.sandboxId == reported.sandboxId) "sandboxId" "sandbox differs"
  same (expected.versionId == reported.versionId) "versionId" "version differs"
  require (expected.preparationGeneration == reported.preparationGeneration &&
      expected.executionGeneration == reported.executionGeneration) wasmEngineMetricsStale
    ("/executionGeneration: metrics preparation/execution generations do not match " ++
      "the current execution record")
  same (expected.packageDigest == reported.packageDigest) "packageDigest" "package digest differs"
  same (expected.runtimeBinding == reported.runtimeBinding) "runtimeBinding"
    "binding (including catalog revision/hash) differs"
  same (expected.capabilityRecordRevision == reported.capabilityRecordRevision &&
      expected.capabilityRecordHash == reported.capabilityRecordHash) "capabilityRecordRevision"
    "capability record pin differs"
  same (expected.secretRevision == reported.secretRevision) "secretRevision" "secret revision differs"
  same (expected.configRevision == reported.configRevision &&
      expected.configSnapshotRef == reported.configSnapshotRef) "configRevision"
    "config revision/reference differs"

/-- The counters accepted last in a tracking window. -/
structure WasmEngineMetricsBaseline where
  lastAcceptedSampledAt : String
  fuelConsumedCumulative : Option Nat
  epochTimeoutsCumulative : Nat
  instancesHighWaterCumulative : Nat
deriving DecidableEq

/-- The window of an execution generation; it tracks from its first available sample on. -/
structure WasmEngineMetricsWindow where
  executionGeneration : Nat
  tracking : Option WasmEngineMetricsBaseline
deriving DecidableEq

/-- The representation of fuel in a sample. -/
def checkFuel (fuelEnabled : Option Bool) (engine : WasmEngineCountersV1) : Except KernelError Unit := do
  require (!(fuelEnabled == some true && engine.fuelConsumedCumulative.isNone)) wasmEngineMetricsFuelRepresentation
    "fuel is enabled by the pinned node record; null is the disabled-only representation"
  require (!(fuelEnabled == some false && engine.fuelConsumedCumulative.isSome)) wasmEngineMetricsFuelRepresentation
    ("fuel is disabled by the pinned node record; fuelConsumedCumulative must remain null " ++
      "for that execution generation")

/-- A counter that only grows. -/
def checkGrows (prior current : Nat) (field : String) : Except KernelError Unit :=
  require (decide (prior ≤ current)) wasmEngineMetricsCounterRegression
    (field ++ " must be greater than or equal to its prior accepted value within the same execution generation")

/-- Fuel against the fuel accepted last. -/
def checkFuelGrows : Option Nat → Option Nat → Except KernelError Unit
  | some prior, some current => checkGrows prior current "fuelConsumedCumulative"
  | _, _ => .ok ()

/-- The counters against those accepted last. -/
def checkBaseline (baseline : WasmEngineMetricsBaseline) (engine : WasmEngineCountersV1) :
    Except KernelError Unit := do
  require (baseline.fuelConsumedCumulative.isSome == engine.fuelConsumedCumulative.isSome)
    wasmEngineMetricsFuelRepresentation
    "the fuel disabled/enabled representation must remain constant within one execution generation"
  checkFuelGrows baseline.fuelConsumedCumulative engine.fuelConsumedCumulative
  checkGrows baseline.epochTimeoutsCumulative engine.epochTimeoutsCumulative "epochTimeoutsCumulative"
  checkGrows baseline.instancesHighWaterCumulative engine.instancesHighWaterCumulative
    "instancesHighWaterCumulative"

/-- A later sample is taken later. -/
def checkLater (sampledMs : Nat) : Option WasmEngineMetricsBaseline → Except KernelError Unit
  | none => .ok ()
  | some baseline => do
    let lastMs ← recode wasmEngineMetricsInvalid (parseRfc3339UtcMillis baseline.lastAcceptedSampledAt)
    require (decide (lastMs < sampledMs)) wasmEngineMetricsTimeRegression
      "later accepted samples need strictly later sampledAt"

/-- Counters against the window. -/
def checkTracking (engine : WasmEngineCountersV1) : Option WasmEngineMetricsBaseline → Except KernelError Unit
  | none => .ok ()
  | some baseline => checkBaseline baseline engine

/-- The baseline an available sample leaves. -/
def WasmEngineCountersV1.baseline (engine : WasmEngineCountersV1) (sampledAt : String) :
    WasmEngineMetricsBaseline where
  lastAcceptedSampledAt := sampledAt
  fuelConsumedCumulative := engine.fuelConsumedCumulative
  epochTimeoutsCumulative := engine.epochTimeoutsCumulative
  instancesHighWaterCumulative := engine.instancesHighWaterCumulative

/-- `accept_wasm_engine_metrics_sample` -/
def acceptWasmEngineMetricsSample (window : WasmEngineMetricsWindow) (payload : WasmEngineMetricsV1)
    (fuelEnabled : Option Bool) : Except KernelError WasmEngineMetricsWindow := do
  require (payload.executionGeneration == window.executionGeneration) wasmEngineMetricsStale
    ("a delayed prior-generation metrics payload is stale, not a reset; a fresh baseline requires " ++
      "the Kernel-accepted new generation fence")
  let payloadSampledMs ← recode wasmEngineMetricsInvalid (parseRfc3339UtcMillis payload.sampledAt)
  checkLater payloadSampledMs window.tracking
  match payload.engine with
  | none =>
    -- The baseline stays; only the time of acceptance moves on.
    return { window with tracking := window.tracking.map fun baseline =>
      { baseline with lastAcceptedSampledAt := payload.sampledAt } }
  | some engine =>
    checkFuel fuelEnabled engine
    checkTracking engine window.tracking
    return { window with tracking := some (engine.baseline payload.sampledAt) }

structure WasmEngineMetricsEntry where
  applicationId : Option String
  fence : WasmEngineMetricsFence
  window : WasmEngineMetricsWindow
  lastAccepted : Option WasmEngineMetricsV1

/-- The windows by sandbox. -/
structure WasmEngineMetricsRegistry where
  entries : String → Option WasmEngineMetricsEntry

namespace WasmEngineMetricsRegistry

def empty : WasmEngineMetricsRegistry := ⟨fun _ => none⟩

/-- `open_window` -/
def openWindow (registry : WasmEngineMetricsRegistry) (fence : WasmEngineMetricsFence)
    (applicationId : Option String) : Except KernelError WasmEngineMetricsRegistry :=
  let fresh : Except KernelError WasmEngineMetricsRegistry :=
    if fence.preparationGeneration < 1 ∨ fence.executionGeneration < 1 then
      .error ⟨wasmEngineMetricsInvalid, "a metrics window requires an alive execution generation (>= 1)"⟩
    else
      .ok ⟨Function.update registry.entries fence.sandboxId
        (some ⟨applicationId, fence, ⟨fence.executionGeneration, none⟩, none⟩)⟩
  match registry.entries fence.sandboxId with
  | none => fresh
  | some existing =>
    if fence.executionGeneration < existing.window.executionGeneration then
      .error ⟨wasmEngineMetricsStale,
        "an engine metrics window may only move forward: the new fence carries a lower execution generation"⟩
    else if fence.executionGeneration = existing.window.executionGeneration then
      if existing.fence ≠ fence then
        .error ⟨wasmEngineMetricsMismatch,
          "re-fencing the same execution generation must carry the identical execution record"⟩
      else .ok registry
    else fresh

/-- `accept_validated` -/
def acceptValidated (registry : WasmEngineMetricsRegistry) (fence : WasmEngineMetricsFence)
    (validated : WasmEngineMetricsV1) (fuelEnabled : Option Bool) :
    Except KernelError WasmEngineMetricsRegistry := do
  correlateWasmEngineMetrics fence validated
  match registry.entries fence.sandboxId with
  | none =>
    .error ⟨wasmEngineMetricsStale, "no Kernel-accepted generation fence exists for this execution; " ++
      "open the window before accepting samples"⟩
  | some existing =>
    require (fence.executionGeneration == existing.window.executionGeneration) wasmEngineMetricsStale
      "the fence names an execution generation other than the Kernel-accepted current one"
    require (existing.fence == fence) wasmEngineMetricsMismatch
      "the fence differs from the Kernel-accepted execution record for this execution generation"
    let window ← acceptWasmEngineMetricsSample existing.window validated fuelEnabled
    return ⟨Function.update registry.entries fence.sandboxId
      (some { existing with window := window, lastAccepted := some validated })⟩

/-- `accept` -/
def accept (registry : WasmEngineMetricsRegistry) (fence : WasmEngineMetricsFence) (payload : Json)
    (fuelEnabled : Option Bool) : Except KernelError WasmEngineMetricsRegistry := do
  let validated ← WasmEngineMetricsV1.validate payload
  registry.acceptValidated fence validated fuelEnabled

end WasmEngineMetricsRegistry

/-- `wasm_engine_metrics`: what the Kernel makes of a response of the supervisor with a JSON body. -/
def wasmEngineMetrics (status : Nat) (body : Json) : Option WasmEngineMetricsV1 :=
  if status ≠ 200 then none
  else
    match WasmEngineMetricsV1.validate body with
    | .error _ => none
    | .ok metrics => some metrics

end Iweb
