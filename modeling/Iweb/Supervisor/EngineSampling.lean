import Iweb.Runtime.EngineMetrics
import Iweb.Supervisor.Fence

/-!
# Engine metrics of the supervisor

The supervisor samples the engine counters of the execution it accepted last for a sandbox. The identity of a
sample is that of the accepted record; counters that are no counters degrade the sample to an unavailable one.
-/

namespace Iweb

/-- A sample of a counter source; its engine may be any value. -/
structure WasmEngineCounterSample where
  available : Bool
  engine : Json

/-- `executorInternalEngineCounterSource` -/
def executorInternalEngineCounterSource (record : WasmAcceptedExecutionRecord) : WasmEngineCounterSample :=
  if record.substate = .running ∨ record.substate = .retiring then ⟨false, .null⟩
  else
    { available := true
      engine := .object
        [("fuelConsumedCumulative", .null),
          ("epochTimeoutsCumulative", .ofNat record.epochTimeoutsCumulative),
          ("instancesLiveInstant", .ofNat 0),
          ("instancesHighWaterCumulative", .ofNat record.instancesHighWaterCumulative),
          ("guestMemoryBytesInstant", .ofNat 0)] }

/-- What a sample takes over from the accepted record. -/
structure EngineMetricsIdentity where
  sandboxId : String
  versionId : String
  packageDigest : String
  runtimeBinding : RuntimeBindingIdentityV2
  hostServicePolicyDigest : String
  capabilityRecordRevision : Nat
  capabilityRecordHash : String
  secretRevision : Nat
  configRevision : Nat
  configSnapshotRef : Option String
  preparationGeneration : Nat
  executionGeneration : Nat
deriving DecidableEq

/-- `identityFields` -/
def WasmAcceptedExecutionRecord.metricsIdentity (current : WasmAcceptedExecutionRecord) :
    EngineMetricsIdentity where
  sandboxId := current.identity.sandboxId
  versionId := current.identity.versionId
  packageDigest := current.packageDigest
  runtimeBinding := current.runtimeBinding
  hostServicePolicyDigest := current.hostServicePolicyDigest
  capabilityRecordRevision := current.capabilityRecordRevision
  capabilityRecordHash := current.capabilityRecordHash
  secretRevision := current.secretRevision
  configRevision := current.configRevision
  configSnapshotRef := current.configSnapshotRef
  preparationGeneration := current.identity.preparationGeneration
  executionGeneration := current.identity.executionGeneration

structure ServiceEngineMetricsV2 where
  identity : EngineMetricsIdentity
  sampledAt : String
  availability : WasmEngineAvailability
  engine : Option WasmEngineCountersV1
deriving DecidableEq

/-- The two times the clock may be asked for, and whether `Date.parse` takes a text. -/
structure SamplingClock where
  first : String
  second : String
  isDate : String → Bool

namespace ServiceEngineMetricsV2

/-- `requireSafeInteger` -/
def requireSafeInteger (value : Json) (minimum : Nat) : Option Nat :=
  match value with
  | .integer number => if (minimum : Int) ≤ number ∧ number ≤ wasmU53Max then some number.toNat else none
  | _ => none

/-- `requireExactKeys` -/
def hasExactKeys (members : List (String × Json)) (allowed : List String) : Bool :=
  members.all (fun member => allowed.contains member.1) && allowed.all fun key => (members.lookup key).isSome

/-- `requireWasmEngineCountersV1` -/
def requireWasmEngineCountersV1 (input : Json) : Option WasmEngineCountersV1 :=
  match input with
  | .object members =>
    if hasExactKeys members engineCounterKeys = false then none
    else do
      let counter (key : String) := requireSafeInteger (Json.field members key) 0
      let fuelConsumedCumulative ←
        if (Json.field members "fuelConsumedCumulative").isNull then some none
        else (counter "fuelConsumedCumulative").map some
      let epochTimeoutsCumulative ← counter "epochTimeoutsCumulative"
      let instancesLiveInstant ← counter "instancesLiveInstant"
      let instancesHighWaterCumulative ← counter "instancesHighWaterCumulative"
      let guestMemoryBytesInstant ← counter "guestMemoryBytesInstant"
      return ⟨fuelConsumedCumulative, epochTimeoutsCumulative, instancesLiveInstant,
        instancesHighWaterCumulative, guestMemoryBytesInstant⟩
  | _ => none

/-- The checks of the fields a sample takes over, and of their coupling. -/
def isIdentityValid (identity : EngineMetricsIdentity) : Bool :=
  isSandboxId identity.sandboxId && (parseWasmVersionId identity.versionId).isOk &&
    isSha256Hex identity.packageDigest && (validateRuntimeBindingV2 identity.runtimeBinding).isOk &&
    isSha256Hex identity.hostServicePolicyDigest &&
    isU53Between identity.capabilityRecordRevision 1 wasmU53Max && isSha256Hex identity.capabilityRecordHash &&
    isU53Between identity.secretRevision 0 wasmU53Max && isU53Between identity.configRevision 0 wasmU53Max &&
    identity.configSnapshotRef.all isSha256Hex &&
    isU53Between identity.preparationGeneration 1 wasmU53Max &&
    isU53Between identity.executionGeneration 1 wasmU53Max &&
    decide (identity.configRevision = 0) == identity.configSnapshotRef.isNone

/-- The engine of a candidate: null exactly in an unavailable one. -/
def requireEngine (availability : WasmEngineAvailability) (engine : Json) : Option (Option WasmEngineCountersV1) :=
  match availability with
  | .available => if engine.isNull then none else (requireWasmEngineCountersV1 engine).map some
  | .unavailable => if engine.isNull then some none else none

/-- `validateServiceEngineMetricsV2` on a candidate with these fields. -/
def validate (isDate : String → Bool) (identity : EngineMetricsIdentity) (sampledAt : String)
    (availability : WasmEngineAvailability) (engine : Json) : Option ServiceEngineMetricsV2 :=
  if isIdentityValid identity = false ∨ WasmEngineMetricsV1.isRfc3339Utc sampledAt = false ∨
      isDate sampledAt = false then none
  else (requireEngine availability engine).map fun engine => ⟨identity, sampledAt, availability, engine⟩

/-- `sampleWasmEngineMetrics` -/
def sample (fence : WasmExecutionFenceRegistry) (sandboxId : String)
    (counterSource : WasmAcceptedExecutionRecord → WasmEngineCounterSample) (clock : SamplingClock) :
    Option ServiceEngineMetricsV2 :=
  match fence.current sandboxId with
  | none => none
  | some current =>
    let sampled := counterSource current
    let availability := if sampled.available then .available else .unavailable
    let engine := if sampled.available then sampled.engine else .null
    match validate clock.isDate current.metricsIdentity clock.first availability engine with
    | some payload => some payload
    -- The counters are no counters: the same identity without them.
    | none => validate clock.isDate current.metricsIdentity clock.second .unavailable .null

/-! ## The JSON text -/

def bindingJson (binding : RuntimeBindingIdentityV2) : Json :=
  .object
    [("kind", .string binding.kind), ("catalogRevision", .ofNat binding.catalogRevision),
      ("catalogHash", .string binding.catalogHash), ("entryKey", .string binding.entryKey),
      ("imageDigest", .string binding.imageDigest), ("hostABI", .string binding.hostAbi),
      ("world", .string binding.world)]

def countersJson (engine : WasmEngineCountersV1) : Json :=
  .object
    [("fuelConsumedCumulative", .nullable .ofNat engine.fuelConsumedCumulative),
      ("epochTimeoutsCumulative", .ofNat engine.epochTimeoutsCumulative),
      ("instancesLiveInstant", .ofNat engine.instancesLiveInstant),
      ("instancesHighWaterCumulative", .ofNat engine.instancesHighWaterCumulative),
      ("guestMemoryBytesInstant", .ofNat engine.guestMemoryBytesInstant)]

def availabilityText : WasmEngineAvailability → String
  | .available => "available"
  | .unavailable => "unavailable"

/-- `JSON.stringify` of a payload, as it is read back. -/
def toJson (payload : ServiceEngineMetricsV2) : Json :=
  .object
    [("schemaVersion", .ofNat 2), ("sandboxId", .string payload.identity.sandboxId),
      ("versionId", .string payload.identity.versionId),
      ("packageDigest", .string payload.identity.packageDigest),
      ("runtimeBinding", bindingJson payload.identity.runtimeBinding),
      ("hostServicePolicyDigest", .string payload.identity.hostServicePolicyDigest),
      ("capabilityRecordRevision", .ofNat payload.identity.capabilityRecordRevision),
      ("capabilityRecordHash", .string payload.identity.capabilityRecordHash),
      ("secretRevision", .ofNat payload.identity.secretRevision),
      ("configRevision", .ofNat payload.identity.configRevision),
      ("configSnapshotRef", .nullable .string payload.identity.configSnapshotRef),
      ("preparationGeneration", .ofNat payload.identity.preparationGeneration),
      ("executionGeneration", .ofNat payload.identity.executionGeneration),
      ("sampledAt", .string payload.sampledAt),
      ("availability", .string (availabilityText payload.availability)),
      ("engine", .nullable countersJson payload.engine)]

end ServiceEngineMetricsV2

/-- The answer of `/v1/execution-metrics/<sandboxId>`: its status and, for a sample, its body. -/
def executionMetricsResponse (payload : Option ServiceEngineMetricsV2) : Nat × Json :=
  match payload with
  | none =>
    (404, .object [("ok", .bool false), ("code", .string "EXECUTION_SANDBOX_UNKNOWN"),
      ("message", .string "unknown sandbox metrics target")])
  | some payload => (200, payload.toJson)

end Iweb
