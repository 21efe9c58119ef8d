import Iweb.Foundations.CrashRefinement
import Iweb.Runtime.EngineMetrics

/-!
# Runs of the engine metrics registry

The monitor shows the entry of a sandbox, or some entry of an application. A run remembers, beside the registry, the
samples it accepted and for which sandbox each application's window was opened last.
-/

namespace Iweb

/-! ## Projections -/

def WasmEngineCountersV1.toJson (engine : WasmEngineCountersV1) : Json :=
  .object [("fuelConsumedCumulative", .nullable .ofNat engine.fuelConsumedCumulative),
    ("epochTimeoutsCumulative", .ofNat engine.epochTimeoutsCumulative),
    ("instancesLiveInstant", .ofNat engine.instancesLiveInstant),
    ("instancesHighWaterCumulative", .ofNat engine.instancesHighWaterCumulative),
    ("guestMemoryBytesInstant", .ofNat engine.guestMemoryBytesInstant)]

def WasmEngineAvailability.asStr : WasmEngineAvailability → String
  | .available => "available"
  | .unavailable => "unavailable"

/-- The projection of a fence and the sample accepted last. -/
def projectWasmEngine (fence : WasmEngineMetricsFence) (lastAccepted : Option WasmEngineMetricsV1) : Json :=
  let availability := (lastAccepted.map WasmEngineMetricsV1.availability).getD .unavailable
  .object [("scope", .string "wasm-engine"), ("sandboxId", .string fence.sandboxId),
    ("versionId", .string fence.versionId), ("preparationGeneration", .ofNat fence.preparationGeneration),
    ("executionGeneration", .ofNat fence.executionGeneration),
    ("sampledAt", .nullable (fun sample => .string sample.sampledAt) lastAccepted),
    ("availability", .string availability.asStr),
    ("engine", .nullable WasmEngineCountersV1.toJson (lastAccepted.bind WasmEngineMetricsV1.engine))]

/-- `project_wasm_engine_entry` -/
def projectWasmEngineEntry (entry : WasmEngineMetricsEntry) : Json := projectWasmEngine entry.fence entry.lastAccepted

namespace WasmEngineMetricsRegistry

/-- `project_by_sandbox` -/
def projectBySandbox (registry : WasmEngineMetricsRegistry) (sandboxId : String) : Json :=
  match registry.entries sandboxId with
  | some entry => projectWasmEngineEntry entry
  | none => .null

/-- `project_by_application`, where the map yields its sandboxes in some order. -/
def projectByApplication (registry : WasmEngineMetricsRegistry) (order : List String) (applicationId : String) : Json :=
  match (order.filterMap registry.entries).find? fun entry => entry.applicationId == some applicationId with
  | some entry => projectWasmEngineEntry entry
  | none => .null

/-- An order in which the map may yield its sandboxes. -/
def IsOrder (registry : WasmEngineMetricsRegistry) (order : List String) : Prop :=
  order.Nodup ∧ ∀ sandboxId, sandboxId ∈ order ↔ (registry.entries sandboxId).isSome = true

end WasmEngineMetricsRegistry

/-! ## Runs -/

inductive MetricsCall
  | openWindow (fence : WasmEngineMetricsFence) (applicationId : Option String)
  | accept (fence : WasmEngineMetricsFence) (payload : Json) (fuelEnabled : Option Bool)

/-- The registry after a call, or its error. -/
def WasmEngineMetricsRegistry.call (registry : WasmEngineMetricsRegistry) :
    MetricsCall → Except KernelError WasmEngineMetricsRegistry
  | .openWindow fence applicationId => registry.openWindow fence applicationId
  | .accept fence payload fuelEnabled => registry.accept fence payload fuelEnabled

/-- The registry, the samples accepted so far, and the sandbox whose window was opened last for an application. -/
structure MetricsSystem where
  registry : WasmEngineMetricsRegistry
  accepted : List WasmEngineMetricsV1
  opened : String → Option String

namespace MetricsSystem

def initial : MetricsSystem := ⟨.empty, [], fun _ => none⟩

/-- A window of a sandbox is opened for an application, and for no other one any more. -/
def openedFor (opened : String → Option String) (sandboxId : String) (applicationId : Option String) :
    String → Option String :=
  fun other =>
    if applicationId = some other then some sandboxId
    else if opened other = some sandboxId then none
    else opened other

/-- A call; a refused one changes nothing. -/
def step (system : MetricsSystem) (call : MetricsCall) : MetricsSystem :=
  match system.registry.call call with
  | .error _ => system
  | .ok registry =>
    match call with
    | .openWindow fence applicationId =>
      { system with registry := registry, opened := openedFor system.opened fence.sandboxId applicationId }
    | .accept _ payload _ =>
      { system with
        registry := registry
        accepted := system.accepted ++ (WasmEngineMetricsV1.validate payload).toOption.toList }

end MetricsSystem

/-! ## Moving forward -/

/-- A sample was taken after another one. -/
def WasmEngineMetricsV1.Later (sample later : WasmEngineMetricsV1) : Prop :=
  ∃ ms laterMs, parseRfc3339UtcMillis sample.sampledAt = .ok ms ∧
    parseRfc3339UtcMillis later.sampledAt = .ok laterMs ∧ ms < laterMs

/-- Counters have the same fuel representation and are not below others. -/
structure WasmEngineMetricsBaseline.Below (baseline later : WasmEngineMetricsBaseline) : Prop where
  representation : baseline.fuelConsumedCumulative.isSome = later.fuelConsumedCumulative.isSome
  fuel : ∀ prior current, baseline.fuelConsumedCumulative = some prior → later.fuelConsumedCumulative = some current →
    prior ≤ current
  epochTimeouts : baseline.epochTimeoutsCumulative ≤ later.epochTimeoutsCumulative
  highWater : baseline.instancesHighWaterCumulative ≤ later.instancesHighWaterCumulative

/-- The counters of two available samples. -/
def WasmEngineMetricsV1.Grows (sample later : WasmEngineMetricsV1) : Prop :=
  ∀ engine laterEngine, sample.engine = some engine → later.engine = some laterEngine →
    (engine.baseline sample.sampledAt).Below (laterEngine.baseline later.sampledAt)

namespace MetricsSystem

/-- The samples accepted for a sandbox and a generation. -/
def samplesOf (system : MetricsSystem) (sandboxId : String) (executionGeneration : Nat) : List WasmEngineMetricsV1 :=
  system.accepted.filter fun sample =>
    sample.sandboxId == sandboxId && sample.executionGeneration == executionGeneration

/-- What the metrics show only moves forward. -/
structure MovesForward (system : MetricsSystem) : Prop where
  later : ∀ sandboxId generation, (system.samplesOf sandboxId generation).Pairwise WasmEngineMetricsV1.Later
  grows : ∀ sandboxId generation, (system.samplesOf sandboxId generation).Pairwise WasmEngineMetricsV1.Grows
  bySandbox : ∀ sandboxId entry, system.registry.entries sandboxId = some entry →
    system.registry.projectBySandbox sandboxId = projectWasmEngine entry.fence
      (system.samplesOf sandboxId entry.window.executionGeneration).getLast?
  byApplication : ∀ order applicationId, system.registry.IsOrder order →
    system.registry.projectByApplication order applicationId =
      match system.opened applicationId with
      | none => .null
      | some sandboxId => system.registry.projectBySandbox sandboxId

/-- A call that is taken opens a window for an application no other sandbox has, and again only for the application
it has; and takes no first sample that is not after the unavailable one before it. -/
def KeepsForward (system : MetricsSystem) (call : MetricsCall) : Prop :=
  (system.registry.call call).toOption.isSome = true →
    match call with
    | .openWindow fence applicationId =>
      (∀ sandboxId entry, sandboxId ≠ fence.sandboxId → system.registry.entries sandboxId = some entry →
        applicationId.isSome = true → entry.applicationId ≠ applicationId) ∧
      ∀ entry, system.registry.entries fence.sandboxId = some entry →
        entry.window.executionGeneration = fence.executionGeneration → entry.applicationId = applicationId
    | .accept fence payload _ =>
      ∀ entry before sample, system.registry.entries fence.sandboxId = some entry → entry.window.tracking = none →
        entry.lastAccepted = some before → WasmEngineMetricsV1.validate payload = .ok sample → before.Later sample

end MetricsSystem

end Iweb
