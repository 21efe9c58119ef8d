import Iweb.Supervisor.ExecutionRpc

/-!
# The executor with a runtime, and its restart

With a runtime a command is first decided by the fence and then has side effects, which may turn the
decision into a rejection and annotate the accepted record. A restarted supervisor replays the journal:
the decisions again, in the order of the received entries, and no side effect.
-/

namespace Iweb

def wasmExecutionPolicyUnavailable : String := "WASM_EXECUTION_POLICY_UNAVAILABLE"
def wasmSpawnUnconfigured : String := "WASM_SPAWN_UNCONFIGURED"
def wasmHostPolicyDigestMismatch : String := "WASM_HOST_POLICY_DIGEST_MISMATCH"
def wasmSpawnRelayUnavailable : String := "WASM_SPAWN_RELAY_UNAVAILABLE"
def wasmExecutionSpawnFailed : String := "WASM_EXECUTION_SPAWN_FAILED"
def snapshotHandoffMissing : String := "SNAPSHOT_HANDOFF_MISSING"
def snapshotHandoffIdConflict : String := "SNAPSHOT_HANDOFF_ID_CONFLICT"

/-! ## Listen indexes -/

def wasmListenIndexMax : Nat := 1023

/-- `createDeterministicListenIndexAllocator`: the sandboxes that have an index. -/
abbrev ListenIndexAllocator := List (String × Nat)

/-- The index of a sandbox, the lowest free one at first; `none`: the pool is exhausted and the allocator
throws. -/
def ListenIndexAllocator.allocate (assigned : ListenIndexAllocator) (sandboxId : String) :
    Option (Nat × ListenIndexAllocator) :=
  match assigned.lookup sandboxId with
  | some index => some (index, assigned)
  | none =>
    let used := assigned.map Prod.snd
    match (List.range (wasmListenIndexMax + 1)).find? fun index => !used.contains index with
    | none => none
    | some index => some (index, assigned ++ [(sandboxId, index)])

/-! ## What the surroundings answer -/

/-- How a side effect ends: an error is a `RuntimeFailure` or another one. -/
inductive EffectResult
  | done
  | runtimeFailure
  | thrown
deriving DecidableEq

/-- The answer of a source of host service policies. -/
inductive PolicyAnswer
  | thrown
  | unavailable
  | resolved (isEmpty : Bool) (policyDigest : String)
deriving DecidableEq

/-- A snapshot in the relay, as the check of its handoff finds it. -/
inductive HandoffCheck
  | missing
  | refused (code : String)
  | accepted
deriving DecidableEq

inductive RelayLookup
  /-- A `SnapshotFdRelayError`. -/
  | failed
  | thrown
  | held (secret config : HandoffCheck)
deriving DecidableEq

/-- `WasmStopOutcome`, or an error. -/
inductive StopAnswer
  | stopped
  | forcedKill
  | runtimeFailure
  | thrown
deriving DecidableEq

/-- What the configured ports answer while one command is executed. An option that is not configured is
`none`; a gateway that is not configured is always done. -/
structure RuntimeAnswers where
  spawnConfigured : Bool
  policy : Option PolicyAnswer
  /-- The first error code of `buildWasmSandboxSpec`. -/
  specError : Option String
  /-- The failure code of `materializeComponentSnapshot`. -/
  materializeError : Option String
  relay : Option RelayLookup
  spawn : EffectResult
  ingressStart : EffectResult
  readiness : Option WasmReadinessAdoptionState
  removeSandbox : EffectResult
  discard : EffectResult
  ingressStop : EffectResult
  stopExecution : StopAnswer
  /-- What a drain reads after the stop. -/
  drain : DrainEnvironment

/-! ## The executor -/

structure WasmSupervisorExecutor where
  fence : WasmExecutionFenceRegistry
  listenIndexes : ListenIndexAllocator

/-- What comes of an effect that may refuse, throw, or yield a listen index. -/
inductive SpawnResult
  | thrown
  | refused (code : String)
  | index (listenIndex : Nat)
deriving DecidableEq

/-- `runtimeFailureOutcome`: `none` throws the error on. -/
def runtimeFailureOutcome : EffectResult → Option WasmExecutionOutcome
  | .runtimeFailure => some (.stale wasmExecutionSpawnFailed)
  | .done | .thrown => none

namespace WasmSupervisorExecutor

def empty : WasmSupervisorExecutor := ⟨.empty, []⟩

/-- `resolveSpawnSpec`: the index is allocated before the policy is asked for. -/
def resolveSpawnSpec (executor : WasmSupervisorExecutor) (answers : RuntimeAnswers)
    (command : ExecutionCommand) : WasmSupervisorExecutor × SpawnResult :=
  if !answers.spawnConfigured then (executor, .refused wasmSpawnUnconfigured)
  else
    match answers.policy with
    | none => (executor, .refused wasmExecutionPolicyUnavailable)
    | some policy =>
      match executor.listenIndexes.allocate command.identity.sandboxId with
      | none => (executor, .thrown)
      | some (listenIndex, listenIndexes) =>
        let executor := { executor with listenIndexes := listenIndexes }
        match policy with
        | .thrown => (executor, .thrown)
        | .unavailable => (executor, .refused wasmExecutionPolicyUnavailable)
        | .resolved isEmpty policyDigest =>
          if command.hostServicePolicyDigest = "" ∧ !isEmpty then
            (executor, .refused wasmHostPolicyDigestMismatch)
          -- without a pin the empty policy is taken, whose digest is the empty text
          else if command.hostServicePolicyDigest ≠ "" ∧
              policyDigest ≠ command.hostServicePolicyDigest then
            (executor, .refused wasmHostPolicyDigestMismatch)
          else
            match answers.specError with
            | some code => (executor, .refused code)
            | none => (executor, .index listenIndex)

/-- `effectPrepare` up to its annotation. -/
def tryPrepare (executor : WasmSupervisorExecutor) (answers : RuntimeAnswers) (command : ExecutionCommand) :
    WasmSupervisorExecutor × SpawnResult :=
  match executor.resolveSpawnSpec answers command with
  | (executor, .index listenIndex) =>
    match answers.materializeError with
    | some code => (executor, .refused code)
    | none => (executor, .index listenIndex)
  | (executor, result) => (executor, result)

/-- The snapshots a start takes from the relay; `none` if they are in order. -/
def handoffRefusal (command : ExecutionCommand) (secret config : HandoffCheck) : Option String :=
  match secret with
  | .missing => some snapshotHandoffMissing
  | .refused code => some code
  | .accepted =>
    if 0 < command.configRevision then
      match config with
      | .missing => some snapshotHandoffMissing
      | .refused code => some code
      | .accepted => none
    else if config = .missing then none
    else some snapshotHandoffIdConflict

/-- `effectStart` up to its annotation. -/
def tryStart (executor : WasmSupervisorExecutor) (answers : RuntimeAnswers) (command : ExecutionCommand) :
    WasmSupervisorExecutor × SpawnResult :=
  match executor.resolveSpawnSpec answers command with
  | (executor, .index listenIndex) =>
    match answers.relay with
    | none | some .failed => (executor, .refused wasmSpawnRelayUnavailable)
    | some .thrown => (executor, .thrown)
    | some (.held secret config) =>
      match handoffRefusal command secret config with
      | some code => (executor, .refused code)
      | none =>
        match answers.spawn with
        | .done => (executor, .index listenIndex)
        | .runtimeFailure => (executor, .refused wasmExecutionSpawnFailed)
        | .thrown => (executor, .thrown)
  | (executor, result) => (executor, result)

def annotateSpawn (executor : WasmSupervisorExecutor) (command : ExecutionCommand)
    (spawnCommandId : Option String) (listenIndex : Nat) : WasmSupervisorExecutor :=
  { executor with fence := executor.fence.annotateSpawn command.identity spawnCommandId listenIndex }

def effectPrepare (executor : WasmSupervisorExecutor) (answers : RuntimeAnswers)
    (command : ExecutionCommand) (decision : WasmExecutionOutcome) :
    WasmSupervisorExecutor × Option WasmExecutionOutcome :=
  match executor.tryPrepare answers command with
  | (executor, .thrown) => (executor, none)
  | (executor, .refused code) => (executor, some (.stale code))
  | (executor, .index listenIndex) => (executor.annotateSpawn command none listenIndex, some decision)

def effectStart (executor : WasmSupervisorExecutor) (answers : RuntimeAnswers)
    (command : ExecutionCommand) (decision : WasmExecutionOutcome) :
    WasmSupervisorExecutor × Option WasmExecutionOutcome :=
  match executor.tryStart answers command with
  | (executor, .thrown) => (executor, none)
  | (executor, .refused code) => (executor, some (.stale code))
  | (executor, .index listenIndex) =>
    let executor := executor.annotateSpawn command (some command.commandId) listenIndex
    match answers.ingressStart with
    | .runtimeFailure | .thrown => (executor, runtimeFailureOutcome answers.ingressStart)
    | .done =>
      match answers.readiness with
      | none => (executor, some decision)
      | some readiness =>
        ({ executor with fence := executor.fence.annotateReadiness command.identity readiness },
          some decision)

/-- The relay holds descriptors for the start that spawned the execution. -/
def discards (fence : WasmExecutionFenceRegistry) (answers : RuntimeAnswers) (command : ExecutionCommand) :
    Bool :=
  answers.relay.isSome &&
    (fence.findByIdentity command.identity).any fun target => target.spawnCommandId.isSome

def effectStop (executor : WasmSupervisorExecutor) (answers : RuntimeAnswers)
    (command : ExecutionCommand) (decision : WasmExecutionOutcome) :
    WasmSupervisorExecutor × Option WasmExecutionOutcome :=
  if answers.removeSandbox ≠ .done then (executor, runtimeFailureOutcome answers.removeSandbox)
  else if discards executor.fence answers command ∧ answers.discard ≠ .done then
    (executor, runtimeFailureOutcome answers.discard)
  else if answers.ingressStop ≠ .done then (executor, runtimeFailureOutcome answers.ingressStop)
  else (executor, some decision)

/-- Leave the tuple of a command in a substate. -/
def leave (executor : WasmSupervisorExecutor) (command : ExecutionCommand)
    (substate : WasmExecutionSubstate) : WasmSupervisorExecutor :=
  { executor with fence := executor.fence.updateSubstate command.identity substate }

/-- `performDrainWithRuntime` from the end of the stop on. -/
def settleDrain (executor : WasmSupervisorExecutor) (answers : RuntimeAnswers) (command : ExecutionCommand)
    (retirement : RetiringExecutionRecord) (forced : Bool) :
    WasmSupervisorExecutor × Option WasmExecutionOutcome :=
  match answers.drain.nowMillis, answers.drain.drainedRequestCount retirement command with
  | some completedAtMillis, some drainedRequestCount =>
    match epochMillisToRfc3339Utc retirement.deadlineAtEpochMillis with
    | none => (executor, none)
    | some deadlineAt =>
      let draft := WasmExecutionFenceRegistry.drainReceiptDraft answers.drain command retirement
        drainedRequestCount deadlineAt
      if discards executor.fence answers command ∧ answers.discard ≠ .done then (executor, none)
      else if forced ∧ completedAtMillis < retirement.deadlineAtEpochMillis then
        (executor.leave command .stopped, some (.stale executionDrainReceiptUnavailable))
      else if forced then
        (executor.leave command .stopped, some ⟨.applied, none, some (draft .forcedKill)⟩)
      else (executor.leave command .retiring, some ⟨.applied, none, some (draft .drained)⟩)
  | _, _ => (executor.leave command .retiring, some (.stale executionDrainReceiptUnavailable))

/-- `performDrainWithRuntime` after its tests. -/
def effectDrain (executor : WasmSupervisorExecutor) (answers : RuntimeAnswers) (command : ExecutionCommand)
    (retirement : RetiringExecutionRecord) : WasmSupervisorExecutor × Option WasmExecutionOutcome :=
  match answers.stopExecution with
  | .runtimeFailure => (executor.leave command .retiring, some (.stale wasmExecutionSpawnFailed))
  | .thrown => (executor.leave command .retiring, none)
  | .stopped => executor.settleDrain answers command retirement false
  | .forcedKill => executor.settleDrain answers command retirement true

/-- `performDrainWithRuntime` -/
def performDrain (executor : WasmSupervisorExecutor) (answers : RuntimeAnswers)
    (command : ExecutionCommand) : WasmSupervisorExecutor × Option WasmExecutionOutcome :=
  match executor.fence.drainPreflight answers.drain command with
  | (fence, .failed outcome) => ({ executor with fence := fence }, some outcome)
  | (fence, .passed retirement) => effectDrain { executor with fence := fence } answers command retirement

/-- `perform`: a rejected decision has no side effect. -/
def perform (executor : WasmSupervisorExecutor) (answers : RuntimeAnswers) (command : ExecutionCommand) :
    WasmSupervisorExecutor × Option WasmExecutionOutcome :=
  match command.operation with
  | .drain => executor.performDrain answers command
  | .prepare =>
    let (fence, decision) := executor.fence.decidePrepare command
    let executor := { executor with fence := fence }
    if decision.result = .rejected then (executor, some decision)
    else executor.effectPrepare answers command decision
  | .start =>
    let (fence, decision) := executor.fence.decideStart command
    let executor := { executor with fence := fence }
    if decision.result = .rejected then (executor, some decision)
    else executor.effectStart answers command decision
  | .stop =>
    let (fence, decision) := executor.fence.decideStop command
    let executor := { executor with fence := fence }
    if decision.result = .rejected then (executor, some decision)
    else executor.effectStop answers command decision

/-- `applyCommand`: `none` is an error that reaches the handler. -/
def execute (R : RuntimeRules) (executor : WasmSupervisorExecutor) (answers : RuntimeAnswers)
    (command : ExecutionCommand) : WasmSupervisorExecutor × Option WasmExecutionOutcome :=
  match executor.fence.findAppliedOutcome (R.commandDigest command) with
  | some remembered => (executor, some remembered)
  | none =>
    match executor.perform answers command with
    | (executor, none) => (executor, none)
    | (executor, some outcome) =>
      ({ executor with fence := executor.fence.recordAppliedOutcome (R.commandDigest command) outcome },
        some outcome)

/-! ## The restart -/

/-- One journal entry in the replay, given what a drain reads then; `none`: the construction fails. -/
def replayEntry (env : CommandReceivedV1 → DrainEnvironment) (executor : WasmSupervisorExecutor) :
    WasmExecutionJournalEntryV1 → Option WasmSupervisorExecutor
  | .received entry =>
    match executor.fence.decide (env entry) entry.command with
    | (_, none) => none
    | (fence, some outcome) =>
      if outcome.result = .applied ∧ entry.command.operation = .start then
        match executor.listenIndexes.allocate entry.command.identity.sandboxId with
        | none => none
        | some (listenIndex, listenIndexes) =>
          some ⟨fence.annotateSpawn entry.command.identity (some entry.commandId) listenIndex,
            listenIndexes⟩
      else some { executor with fence := fence }
  | .completed entry =>
    some { executor with
      fence := executor.fence.recordAppliedOutcome entry.commandDigest
        ⟨entry.acknowledgement.result, entry.acknowledgement.failureCode, none⟩ }

/-- A new executor from a journal. -/
def rebuild (env : CommandReceivedV1 → DrainEnvironment) (journal : WasmExecutionJournalFileV1) :
    Option WasmSupervisorExecutor :=
  journal.entries.foldlM (replayEntry env) empty

end WasmSupervisorExecutor

/-! ## Runs of one supervisor process -/

/-- A handled `command` or `replay` envelope with what the clock and the ports say to it. -/
structure HandledEnvelope where
  command : ExecutionCommand
  mode : DeliveryMode
  receivedAt : String
  answers : RuntimeAnswers
  completedAt : String

/-- The journal, the executor, and the indexes the sandboxes would have if each had got the lowest free one
when a start of it was first let through by the fence. -/
structure SupervisorWorld where
  journal : WasmExecutionJournalFileV1
  executor : WasmSupervisorExecutor
  startIndexes : ListenIndexAllocator

namespace SupervisorWorld

variable (S : SupervisorRules)

def start : SupervisorWorld := ⟨.empty, .empty, []⟩

/-- The journal never received the command. -/
def isNew (world : SupervisorWorld) (command : ExecutionCommand) : Bool :=
  (world.journal.findReceived command.commandId).isNone

/-- The record of first starts after a command that is new to the journal. -/
def startIndexesAfter (world : SupervisorWorld) (command : ExecutionCommand) : ListenIndexAllocator :=
  if world.isNew command ∧ command.operation = .start ∧
      (world.executor.fence.decideStart command).2.result = .applied then
    match world.startIndexes.allocate command.identity.sandboxId with
    | none => world.startIndexes
    | some (_, startIndexes) => startIndexes
  else world.startIndexes

/-- One envelope, from its arrival to its answer. -/
def handle (world : SupervisorWorld) (envelope : HandledEnvelope) : SupervisorWorld :=
  match performDelivery S world.journal envelope.command envelope.mode envelope.receivedAt with
  | (journal, .executing received commandDigest) =>
    let (executor, outcome) := world.executor.execute S.toRuntimeRules envelope.answers received.command
    { journal := (resumeDelivery S journal received commandDigest outcome envelope.completedAt).1
      executor := executor
      startIndexes := world.startIndexesAfter received.command }
  | (journal, .settled _) | (journal, .lost) => { world with journal := journal }

/-! ## Steps that a replay repeats -/

/-- A tuple is in a substate already, and is the current one or below it. -/
def settledIn (fence : WasmExecutionFenceRegistry) (identity : WasmExecutionIdentityV1)
    (substate : WasmExecutionSubstate) : Bool :=
  (fence.findByIdentity identity).any (fun record => record.substate == substate) &&
    (fence.current identity.sandboxId).all fun current =>
      current.identity == identity || identity.executionGeneration < current.identity.executionGeneration

/-- The retiring record a drain finds and matches. -/
def matchedRetirement (env : DrainEnvironment) (command : ExecutionCommand) :
    Option RetiringExecutionRecord :=
  (env.retirements command.commandId).filter fun retirement => matchesRetirementFence retirement command

/-- The clock and the count can be read. -/
def drainProvable (env : DrainEnvironment) (retirement : RetiringExecutionRecord)
    (command : ExecutionCommand) : Bool :=
  env.nowMillis.isSome && (env.drainedRequestCount retirement command).isSome

/-- After the stop nothing is thrown: the deadline is a date and the held descriptors are let go. -/
def drainCompletes (fence : WasmExecutionFenceRegistry) (answers : RuntimeAnswers)
    (command : ExecutionCommand) (retirement : RetiringExecutionRecord) : Bool :=
  (epochMillisToRfc3339Utc retirement.deadlineAtEpochMillis).isSome &&
    (!WasmSupervisorExecutor.discards fence answers command || answers.discard == .done)

/-- A drain of a live tuple leaves it retiring: it fails in a test or in the stop, or proves nothing, or the
execution stopped by itself. -/
def drainRetires (fence : WasmExecutionFenceRegistry) (answers : RuntimeAnswers)
    (command : ExecutionCommand) : Bool :=
  match matchedRetirement answers.drain command with
  | none => true
  | some retirement =>
    match answers.stopExecution with
    | .runtimeFailure | .thrown => true
    | .stopped =>
      !drainProvable answers.drain retirement command || drainCompletes fence answers command retirement
    | .forcedKill => !drainProvable answers.drain retirement command

/-- A drain of a live tuple leaves it stopped: the execution had to be killed. -/
def drainKills (fence : WasmExecutionFenceRegistry) (answers : RuntimeAnswers)
    (command : ExecutionCommand) : Bool :=
  match matchedRetirement answers.drain command with
  | none => false
  | some retirement =>
    answers.stopExecution == .forcedKill && drainProvable answers.drain retirement command &&
      drainCompletes fence answers command retirement

/-- The replay of such a drain comes before the deadline, or proves nothing either. -/
def replayRetires (env : DrainEnvironment) (command : ExecutionCommand) : Bool :=
  match matchedRetirement env command with
  | none => true
  | some retirement =>
    !drainProvable env retirement command ||
      (epochMillisToRfc3339Utc retirement.deadlineAtEpochMillis).isSome &&
        env.nowMillis.all fun now => decide (now ≤ (retirement.deadlineAtEpochMillis : Int))

/-- The replay of such a drain comes after the deadline. -/
def replayKills (env : DrainEnvironment) (command : ExecutionCommand) : Bool :=
  match matchedRetirement env command with
  | none => false
  | some retirement =>
    drainProvable env retirement command &&
      (epochMillisToRfc3339Utc retirement.deadlineAtEpochMillis).isSome &&
      env.nowMillis.any fun now => decide ((retirement.deadlineAtEpochMillis : Int) < now)

/-- The drain comes to its tests of the retiring record. -/
def drainReaches (fence : WasmExecutionFenceRegistry) (command : ExecutionCommand) : Bool :=
  (fence.findByIdentity command.identity).any fun target =>
    matchesRecordedFenceFields target command && target.substate != .stopped

/-- A command that is new to the journal does what its replay will do. -/
def replaysFirst (env : DrainEnvironment) (world : SupervisorWorld) (answers : RuntimeAnswers)
    (command : ExecutionCommand) : Bool :=
  let fence := world.executor.fence
  match command.operation with
  | .prepare =>
    -- the replay of a prepare annotates nothing
    (fence.decidePrepare command).2.result == .rejected ||
      match (world.executor.tryPrepare answers command).2 with
      | .index _ => false
      | .thrown | .refused _ => true
  | .start =>
    (fence.decideStart command).2.result == .rejected ||
      match (world.executor.tryStart answers command).2 with
      | .index listenIndex =>
        (world.startIndexes.allocate command.identity.sandboxId).map Prod.fst == some listenIndex
      | .thrown | .refused _ => false
  | .stop => true
  | .drain =>
    !drainReaches fence command ||
      drainRetires fence answers command && replayRetires env command ||
      drainKills fence answers command && replayKills env command ||
      !drainRetires fence answers command && !drainKills fence answers command &&
        settledIn fence command.identity .retiring && replayRetires env command

/-- A command that the journal received before changes nothing that a replay rebuilds. -/
def repeatsNothing (world : SupervisorWorld) (answers : RuntimeAnswers) (command : ExecutionCommand) : Bool :=
  let fence := world.executor.fence
  let isCurrent := (fence.current command.identity.sandboxId).any fun current =>
    current.identity == command.identity
  match command.operation with
  | .prepare =>
    (fence.decidePrepare command).2.result == .rejected ||
      isCurrent &&
        match (world.executor.tryPrepare answers command).2 with
        | .index _ => false
        | .thrown | .refused _ => true
  | .start =>
    (fence.decideStart command).2.result == .rejected ||
      isCurrent && settledIn fence command.identity .running &&
        match (world.executor.tryStart answers command).2 with
        | .index listenIndex =>
          (fence.findByIdentity command.identity).any fun record =>
            record.spawnCommandId == some command.commandId && record.listenIndex == some listenIndex
        | .thrown | .refused _ => true
  | .stop =>
    (fence.decideStop command).2.result == .rejected || settledIn fence command.identity .stopped
  | .drain =>
    !drainReaches fence command ||
      drainRetires fence answers command && settledIn fence command.identity .retiring ||
      !drainRetires fence answers command && !drainKills fence answers command

/-- The envelope's command, if it is executed, leaves what a replay of the journal leaves. -/
def replayable (env : CommandReceivedV1 → DrainEnvironment) (world : SupervisorWorld)
    (envelope : HandledEnvelope) : Bool :=
  match performDelivery S world.journal envelope.command envelope.mode envelope.receivedAt with
  | (_, .executing received _) =>
    match world.executor.fence.findAppliedOutcome (S.commandDigest received.command) with
    | some _ => !world.isNew received.command
    | none =>
      if world.isNew received.command then replaysFirst (env received) world envelope.answers received.command
      else repeatsNothing world envelope.answers received.command
  | (_, .settled _) | (_, .lost) => true

end SupervisorWorld

end Iweb
