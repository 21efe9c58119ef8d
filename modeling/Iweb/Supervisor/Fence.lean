import Iweb.Foundations.CrashRefinement
import Iweb.Runtime.Commands
import Mathlib.Logic.Function.Basic

/-!
# The execution fence of the supervisor

The supervisor accepts execution commands. For every sandbox it keeps the execution it accepted last, and
for every accepted tuple the record it was accepted with. A command is decided against these two maps
alone; the answer is remembered under the digest of the command, and the same command gets it again.
-/

namespace Iweb

def wasmExecutionNotPrepared : String := "WASM_EXECUTION_NOT_PREPARED"
def executionDrainReceiptUnavailable : String := "EXECUTION_DRAIN_RECEIPT_UNAVAILABLE"

/-! ## Records and outcomes -/

inductive WasmExecutionSubstate
  | prepared
  | running
  | retiring
  | stopped
deriving DecidableEq

inductive WasmReadinessAdoptionState
  | unprobed
  | adopted
  | mismatch
  | stale
  | notReady
deriving DecidableEq

structure WasmAcceptedExecutionRecord where
  identity : WasmExecutionIdentityV1
  packageDigest : String
  runtimeBinding : RuntimeBindingIdentityV2
  hostServicePolicyDigest : String
  capabilityRecordRevision : Nat
  capabilityRecordHash : String
  secretRevision : Nat
  secretSnapshotRef : String
  secretValuesDigest : String
  configRevision : Nat
  configSnapshotRef : Option String
  configValuesDigest : Option String
  substate : WasmExecutionSubstate
  epochTimeoutsCumulative : Nat
  instancesHighWaterCumulative : Nat
  listenIndex : Option Nat
  /-- The start command that spawned this execution. -/
  spawnCommandId : Option String
  readiness : WasmReadinessAdoptionState
deriving DecidableEq

inductive WasmDrainResult
  | drained
  | forcedKill
deriving DecidableEq

structure DrainReceiptDraftV1 where
  schemaVersion : Nat
  commandId : String
  applicationId : String
  execution : WasmExecutionIdentityV1
  packageDigest : String
  runtimeBinding : RuntimeBindingIdentityV1
  routeGeneration : Nat
  drainedRequestCount : Nat
  deadlineAt : String
  forcedKillAt : Option String
  result : WasmDrainResult
  completedAt : String
deriving DecidableEq

structure WasmExecutionOutcome where
  result : AcknowledgementResult
  failureCode : Option String
  drainReceiptDraft : Option DrainReceiptDraftV1
deriving DecidableEq

/-- `stale` -/
def WasmExecutionOutcome.stale (failureCode : String) : WasmExecutionOutcome :=
  ⟨.rejected, some failureCode, none⟩

/-- `applied` -/
def WasmExecutionOutcome.applied : WasmExecutionOutcome := ⟨.applied, none, none⟩

/-! ## The registry -/

/-- The two maps of records and the remembered outcomes. The key of an accepted tuple joins its four
parts by line breaks, which no part contains, so it is the tuple itself here. -/
structure WasmExecutionFenceRegistry where
  currentBySandbox : String → Option WasmAcceptedExecutionRecord
  acceptedByIdentity : WasmExecutionIdentityV1 → Option WasmAcceptedExecutionRecord
  appliedOutcomes : String → Option WasmExecutionOutcome

namespace WasmExecutionFenceRegistry

/-- A new executor has accepted nothing. -/
def empty : WasmExecutionFenceRegistry := ⟨fun _ => none, fun _ => none, fun _ => none⟩

def current (fence : WasmExecutionFenceRegistry) (sandboxId : String) : Option WasmAcceptedExecutionRecord :=
  fence.currentBySandbox sandboxId

def findByIdentity (fence : WasmExecutionFenceRegistry) (identity : WasmExecutionIdentityV1) :
    Option WasmAcceptedExecutionRecord :=
  fence.acceptedByIdentity identity

def recordAppliedOutcome (fence : WasmExecutionFenceRegistry) (commandDigest : String)
    (outcome : WasmExecutionOutcome) : WasmExecutionFenceRegistry :=
  { fence with appliedOutcomes := Function.update fence.appliedOutcomes commandDigest (some outcome) }

def findAppliedOutcome (fence : WasmExecutionFenceRegistry) (commandDigest : String) :
    Option WasmExecutionOutcome :=
  fence.appliedOutcomes commandDigest

/-- The record a newly accepted command starts with. -/
def adoptedRecord (command : ExecutionCommand) (substate : WasmExecutionSubstate) :
    WasmAcceptedExecutionRecord where
  identity := command.identity
  packageDigest := command.packageDigest
  runtimeBinding := command.runtimeBinding
  hostServicePolicyDigest := command.hostServicePolicyDigest
  capabilityRecordRevision := command.capabilityRecordRevision
  capabilityRecordHash := command.capabilityRecordHash
  secretRevision := command.secretRevision
  secretSnapshotRef := command.secretSnapshotRef
  secretValuesDigest := command.secretValuesDigest
  configRevision := command.configRevision
  configSnapshotRef := command.configSnapshotRef
  configValuesDigest := command.configValuesDigest
  substate := substate
  epochTimeoutsCumulative := 0
  instancesHighWaterCumulative := if substate = .running then 1 else 0
  listenIndex := none
  spawnCommandId := none
  readiness := .unprobed

/-- Accept a new tuple; it becomes the current one of its sandbox whatever was current before. -/
def adopt (fence : WasmExecutionFenceRegistry) (command : ExecutionCommand)
    (substate : WasmExecutionSubstate) : WasmExecutionFenceRegistry :=
  let record := adoptedRecord command substate
  { fence with
    currentBySandbox := Function.update fence.currentBySandbox command.identity.sandboxId (some record)
    acceptedByIdentity := Function.update fence.acceptedByIdentity command.identity (some record) }

/-- The current record follows a changed record unless its execution generation is higher. -/
def syncCurrentIfNotNewer (fence : WasmExecutionFenceRegistry) (identity : WasmExecutionIdentityV1)
    (next : WasmAcceptedExecutionRecord) : WasmExecutionFenceRegistry :=
  match fence.currentBySandbox identity.sandboxId with
  | none => fence
  | some current =>
    -- only the execution generations are compared, whatever the tuples are
    if current.identity.executionGeneration ≤ identity.executionGeneration then
      { fence with
        currentBySandbox := Function.update fence.currentBySandbox identity.sandboxId (some next) }
    else fence

/-- Change the record of an accepted tuple in place. -/
def modify (fence : WasmExecutionFenceRegistry) (identity : WasmExecutionIdentityV1)
    (change : WasmAcceptedExecutionRecord → WasmAcceptedExecutionRecord) : WasmExecutionFenceRegistry :=
  match fence.acceptedByIdentity identity with
  | none => fence
  | some record =>
    syncCurrentIfNotNewer
      { fence with
        acceptedByIdentity := Function.update fence.acceptedByIdentity identity (some (change record)) }
      identity (change record)

def annotateSpawn (fence : WasmExecutionFenceRegistry) (identity : WasmExecutionIdentityV1)
    (spawnCommandId : Option String) (listenIndex : Nat) : WasmExecutionFenceRegistry :=
  fence.modify identity fun record =>
    { record with spawnCommandId := spawnCommandId, listenIndex := some listenIndex }

def annotateReadiness (fence : WasmExecutionFenceRegistry) (identity : WasmExecutionIdentityV1)
    (readiness : WasmReadinessAdoptionState) : WasmExecutionFenceRegistry :=
  fence.modify identity fun record => { record with readiness := readiness }

def updateSubstate (fence : WasmExecutionFenceRegistry) (identity : WasmExecutionIdentityV1)
    (substate : WasmExecutionSubstate) : WasmExecutionFenceRegistry :=
  fence.modify identity fun record =>
    { record with
      substate := substate
      instancesHighWaterCumulative :=
        if substate = .running then max record.instancesHighWaterCumulative 1
        else record.instancesHighWaterCumulative }

def noteEngineEpochTimeout (fence : WasmExecutionFenceRegistry) (identity : WasmExecutionIdentityV1) :
    WasmExecutionFenceRegistry :=
  fence.modify identity fun record =>
    { record with epochTimeoutsCumulative := record.epochTimeoutsCumulative + 1 }

end WasmExecutionFenceRegistry

/-- The command carries the pins its tuple was accepted with. -/
def matchesRecordedFenceFields (record : WasmAcceptedExecutionRecord) (command : ExecutionCommand) : Bool :=
  record.packageDigest == command.packageDigest &&
    record.runtimeBinding == command.runtimeBinding &&
    record.hostServicePolicyDigest == command.hostServicePolicyDigest &&
    record.capabilityRecordRevision == command.capabilityRecordRevision &&
    record.capabilityRecordHash == command.capabilityRecordHash &&
    record.secretRevision == command.secretRevision &&
    record.secretSnapshotRef == command.secretSnapshotRef &&
    record.secretValuesDigest == command.secretValuesDigest &&
    record.configRevision == command.configRevision &&
    record.configSnapshotRef == command.configSnapshotRef &&
    record.configValuesDigest == command.configValuesDigest

/-! ## Draining -/

/-- What a drain reads beside the registry. -/
structure DrainEnvironment where
  /-- `WasmRetirementLedger.find`, `none` everywhere without a ledger. -/
  retirements : String → Option RetiringExecutionRecord
  /-- The clock's text. -/
  now : String
  /-- What `Date.parse` makes of that text. -/
  nowMillis : Option Int
  /-- The count of drained requests, if it is a u53 integer. -/
  drainedRequestCount : RetiringExecutionRecord → ExecutionCommand → Option Nat

/-- `new Date(ms).toISOString()`: a date beyond the range of `Date` throws, and a year beyond four digits
is written with a sign and six digits. -/
def epochMillisToRfc3339Utc (epochMillis : Nat) : Option String :=
  if 8640000000000000 < epochMillis then none
  else
    let text := formatRfc3339UtcMillis epochMillis
    if 253402300799999 < epochMillis then
      some ("+" ++ String.ofList (List.replicate (26 - text.length) '0') ++ text)
    else some text

/-- The retiring record names the tuple, package and binding of the drain command. -/
def matchesRetirementFence (retirement : RetiringExecutionRecord) (command : ExecutionCommand) : Bool :=
  match runtimeBindingV2FromV1 retirement.runtimeBinding with
  | .error _ => false
  | .ok normalized =>
    retirement.execution == command.identity && retirement.packageDigest == command.packageDigest &&
      normalized == command.runtimeBinding

/-- What the tests in front of a drain come to. -/
inductive DrainPreflight
  | failed (outcome : WasmExecutionOutcome)
  | passed (retirement : RetiringExecutionRecord)

namespace WasmExecutionFenceRegistry

/-- The tests in front of a drain; the last two failures leave the tuple retiring. -/
def drainPreflight (env : DrainEnvironment) (fence : WasmExecutionFenceRegistry)
    (command : ExecutionCommand) : WasmExecutionFenceRegistry × DrainPreflight :=
  match fence.findByIdentity command.identity with
  | none => (fence, .failed (.stale wasmExecutionFenceStale))
  | some target =>
    if !matchesRecordedFenceFields target command then
      (fence, .failed (.stale wasmExecutionFenceStale))
    else if target.substate = .stopped then (fence, .failed (.stale wasmExecutionFenceStale))
    else
      match env.retirements command.commandId with
      | none =>
        (fence.updateSubstate command.identity .retiring,
          .failed (.stale executionDrainReceiptUnavailable))
      | some retirement =>
        if !matchesRetirementFence retirement command then
          (fence.updateSubstate command.identity .retiring, .failed (.stale wasmExecutionFenceStale))
        else (fence, .passed retirement)

/-- The draft of the receipt of a drain. -/
def drainReceiptDraft (env : DrainEnvironment) (command : ExecutionCommand)
    (retirement : RetiringExecutionRecord) (drainedRequestCount : Nat) (deadlineAt : String)
    (result : WasmDrainResult) : DrainReceiptDraftV1 where
  schemaVersion := 1
  commandId := command.commandId
  applicationId := retirement.applicationId
  execution := command.identity
  packageDigest := command.packageDigest
  runtimeBinding := retirement.runtimeBinding
  routeGeneration := retirement.routeGeneration
  drainedRequestCount := drainedRequestCount
  deadlineAt := deadlineAt
  forcedKillAt := if result = .forcedKill then some env.now else none
  result := result
  completedAt := env.now

/-! ## The decision -/

def decidePrepare (fence : WasmExecutionFenceRegistry) (command : ExecutionCommand) :
    WasmExecutionFenceRegistry × WasmExecutionOutcome :=
  match fence.current command.identity.sandboxId with
  | none => (fence.adopt command .prepared, .applied)
  | some current =>
    if current.identity = command.identity ∧ matchesRecordedFenceFields current command then
      (fence, .applied)
    else
      let preparationHigher :=
        current.identity.preparationGeneration < command.identity.preparationGeneration
      let executionHigher := current.identity.executionGeneration < command.identity.executionGeneration
      let noRegression :=
        current.identity.preparationGeneration ≤ command.identity.preparationGeneration ∧
          current.identity.executionGeneration ≤ command.identity.executionGeneration
      if ¬ noRegression ∨ (¬ preparationHigher ∧ ¬ executionHigher) then
        (fence, .stale wasmExecutionFenceStale)
      else (fence.adopt command .prepared, .applied)

def decideStart (fence : WasmExecutionFenceRegistry) (command : ExecutionCommand) :
    WasmExecutionFenceRegistry × WasmExecutionOutcome :=
  if !isAliveExecutionIdentity command.identity then (fence, .stale wasmExecutionFenceStale)
  else
    match fence.current command.identity.sandboxId with
    | none => (fence, .stale wasmExecutionNotPrepared)
    | some current =>
      if current.identity = command.identity then
        if !matchesRecordedFenceFields current command then (fence, .stale wasmExecutionFenceStale)
        else
          match fence.findByIdentity command.identity with
          | none => (fence, .stale wasmExecutionFenceStale)
          | some _ => (fence.updateSubstate command.identity .running, .applied)
      else if
          current.identity.preparationGeneration ≤ command.identity.preparationGeneration ∧
            current.identity.executionGeneration ≤ command.identity.executionGeneration then
        -- a restart or rebind; nothing is asked about its preparation
        (fence.adopt command .running, .applied)
      else (fence, .stale wasmExecutionFenceStale)

/-- `none`: the deadline is out of the range of dates and the decision throws. -/
def decideDrain (env : DrainEnvironment) (fence : WasmExecutionFenceRegistry)
    (command : ExecutionCommand) : WasmExecutionFenceRegistry × Option WasmExecutionOutcome :=
  match fence.drainPreflight env command with
  | (fence, .failed outcome) => (fence, some outcome)
  | (fence, .passed retirement) =>
    match env.nowMillis, env.drainedRequestCount retirement command with
    | some completedAtMillis, some drainedRequestCount =>
      match epochMillisToRfc3339Utc retirement.deadlineAtEpochMillis with
      | none => (fence, none)
      | some deadlineAt =>
        let draft := drainReceiptDraft env command retirement drainedRequestCount deadlineAt
        if completedAtMillis ≤ retirement.deadlineAtEpochMillis then
          (fence.updateSubstate command.identity .retiring,
            some ⟨.applied, none, some (draft .drained)⟩)
        else
          (fence.updateSubstate command.identity .stopped,
            some ⟨.applied, none, some (draft .forcedKill)⟩)
    | _, _ =>
      (fence.updateSubstate command.identity .retiring, some (.stale executionDrainReceiptUnavailable))

def decideStop (fence : WasmExecutionFenceRegistry) (command : ExecutionCommand) :
    WasmExecutionFenceRegistry × WasmExecutionOutcome :=
  match fence.findByIdentity command.identity with
  | none => (fence, .stale wasmExecutionFenceStale)
  | some target =>
    if !matchesRecordedFenceFields target command then (fence, .stale wasmExecutionFenceStale)
    else (fence.updateSubstate command.identity .stopped, .applied)

/-- `decide`: the pure decision of a command. -/
def decide (env : DrainEnvironment) (fence : WasmExecutionFenceRegistry) (command : ExecutionCommand) :
    WasmExecutionFenceRegistry × Option WasmExecutionOutcome :=
  match command.operation with
  | .prepare => (fence.decidePrepare command).map id some
  | .start => (fence.decideStart command).map id some
  | .drain => fence.decideDrain env command
  | .stop => (fence.decideStop command).map id some

/-- `applyCommand` of an executor without a runtime: a remembered answer, or a decision and its record. -/
def applyCommand (R : RuntimeRules) (env : DrainEnvironment) (fence : WasmExecutionFenceRegistry)
    (command : ExecutionCommand) : WasmExecutionFenceRegistry × Option WasmExecutionOutcome :=
  match fence.findAppliedOutcome (R.commandDigest command) with
  | some remembered => (fence, some remembered)
  | none =>
    match fence.decide env command with
    | (fence, none) => (fence, none)
    | (fence, some outcome) =>
      (fence.recordAppliedOutcome (R.commandDigest command) outcome, some outcome)

end WasmExecutionFenceRegistry

/-! ## Histories of commands -/

/-- The registry of an executor and the answers it gave so far. -/
structure FenceHistory where
  fence : WasmExecutionFenceRegistry
  answers : List (ExecutionCommand × Option WasmExecutionOutcome)

namespace FenceHistory

def start : FenceHistory := ⟨.empty, []⟩

/-- One more command, with what a drain would read at its time. -/
def step (R : RuntimeRules) (history : FenceHistory) (input : DrainEnvironment × ExecutionCommand) :
    FenceHistory :=
  let (fence, outcome) := history.fence.applyCommand R input.1 input.2
  ⟨fence, history.answers ++ [(input.2, outcome)]⟩

/-- A prepare for the sandbox, version and preparation generation of a tuple was answered as applied. -/
def prepareApplied (history : FenceHistory) (identity : WasmExecutionIdentityV1) : Bool :=
  history.answers.any fun (command, outcome) =>
    command.operation == .prepare && command.identity.sandboxId == identity.sandboxId &&
      command.identity.versionId == identity.versionId &&
      command.identity.preparationGeneration == identity.preparationGeneration &&
      outcome.map WasmExecutionOutcome.result == some .applied

/-- A new command, not one whose answer is remembered, that the fence lets through although it should not:
a start of a stopped tuple, a start of another tuple with the generations of the current one or without a
preparation, a drain or stop of another tuple with the execution generation of the current one. -/
def slips (R : RuntimeRules) (history : FenceHistory) (command : ExecutionCommand) : Bool :=
  (history.fence.findAppliedOutcome (R.commandDigest command)).isNone &&
    match history.fence.current command.identity.sandboxId with
    | none => false
    | some current =>
      match command.operation with
      | .prepare => false
      | .start =>
        isAliveExecutionIdentity command.identity &&
          if current.identity = command.identity then
            matchesRecordedFenceFields current command && current.substate == .stopped
          else
            current.identity.preparationGeneration ≤ command.identity.preparationGeneration &&
              current.identity.executionGeneration ≤ command.identity.executionGeneration &&
              (current.identity.preparationGeneration == command.identity.preparationGeneration &&
                  current.identity.executionGeneration == command.identity.executionGeneration ||
                !history.prepareApplied command.identity)
      | .drain | .stop =>
        match history.fence.findByIdentity command.identity with
        | none => false
        | some target =>
          matchesRecordedFenceFields target command &&
            (command.operation == .stop || target.substate != .stopped) &&
            current.identity != command.identity &&
            current.identity.executionGeneration == command.identity.executionGeneration

/-- The step does not let such a command through. -/
def sound (R : RuntimeRules) (history : FenceHistory) (input : DrainEnvironment × ExecutionCommand) : Prop :=
  history.slips R input.2 = false

instance (R : RuntimeRules) (history : FenceHistory) (input : DrainEnvironment × ExecutionCommand) :
    Decidable (history.sound R input) :=
  inferInstanceAs (Decidable (_ = _))

end FenceHistory

end Iweb
