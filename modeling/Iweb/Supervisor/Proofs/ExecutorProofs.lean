import Iweb.Supervisor.Executor
import Iweb.Supervisor.Proofs.FenceProofs

/-!
# The executor and its registry

Registries are compared on the facts of a record that commands decide and spawns annotate. A decision gives
registries that agree the same answer, and registries that agree. Side effects change the registry by
adoptions and by changes of records in place only.
-/

namespace Iweb

open WasmExecutionFenceRegistry

/-! ## The compared facts of a record -/

/-- A record without the facts that probes and counters observe. -/
def WasmAcceptedExecutionRecord.seen (record : WasmAcceptedExecutionRecord) : WasmAcceptedExecutionRecord :=
  { record with
    epochTimeoutsCumulative := 0
    instancesHighWaterCumulative := 0
    readiness := .unprobed }

open WasmAcceptedExecutionRecord

/-- Two registries agree on the compared facts of every record. -/
structure SameRecords (fence fence' : WasmExecutionFenceRegistry) : Prop where
  current : ∀ sandboxId, (fence.current sandboxId).map seen = (fence'.current sandboxId).map seen
  accepted : ∀ identity, (fence.findByIdentity identity).map seen = (fence'.findByIdentity identity).map seen

/-- Optional records that agree are both absent or both there. -/
theorem same_cases {record record' : Option WasmAcceptedExecutionRecord}
    (h : record.map seen = record'.map seen) :
    (record = none ∧ record' = none) ∨
      ∃ some some', record = .some some ∧ record' = .some some' ∧ some.seen = some'.seen := by
  cases record with
  | none => cases record' with
    | none => exact .inl ⟨rfl, rfl⟩
    | some _ => cases h
  | some record => cases record' with
    | none => cases h
    | some record' => exact .inr ⟨record, record', rfl, rfl, Option.some.inj h⟩

theorem seen_identity {record record' : WasmAcceptedExecutionRecord} (h : record.seen = record'.seen) :
    record.identity = record'.identity := by
  show record.seen.identity = record'.seen.identity
  rw [h]

theorem seen_substate {record record' : WasmAcceptedExecutionRecord} (h : record.seen = record'.seen) :
    record.substate = record'.substate := by
  show record.seen.substate = record'.seen.substate
  rw [h]

theorem seen_matches {record record' : WasmAcceptedExecutionRecord} (h : record.seen = record'.seen)
    (command : ExecutionCommand) :
    matchesRecordedFenceFields record command = matchesRecordedFenceFields record' command := by
  show matchesRecordedFenceFields record.seen command = matchesRecordedFenceFields record'.seen command
  rw [h]

section Modify

variable {fence : WasmExecutionFenceRegistry} {identity : WasmExecutionIdentityV1}
  {change : WasmAcceptedExecutionRecord → WasmAcceptedExecutionRecord} {record : WasmAcceptedExecutionRecord}

theorem modify_absent (hnone : fence.findByIdentity identity = none) : fence.modify identity change = fence := by
  have hnone : fence.acceptedByIdentity identity = none := hnone
  unfold WasmExecutionFenceRegistry.modify
  rw [hnone]

theorem modify_current_absent (hrecord : fence.findByIdentity identity = some record)
    (hnone : fence.current identity.sandboxId = none) :
    (fence.modify identity change).current = fence.current := by
  have hrecord : fence.acceptedByIdentity identity = some record := hrecord
  have hnone : fence.currentBySandbox identity.sandboxId = none := hnone
  simp only [WasmExecutionFenceRegistry.modify, hrecord, syncCurrentIfNotNewer, hnone]
  rfl

end Modify

namespace SameRecords

variable {fence fence' fence'' : WasmExecutionFenceRegistry}

theorem refl (fence : WasmExecutionFenceRegistry) : SameRecords fence fence :=
  ⟨fun _ => rfl, fun _ => rfl⟩

theorem symm (h : SameRecords fence fence') : SameRecords fence' fence :=
  ⟨fun s => (h.current s).symm, fun i => (h.accepted i).symm⟩

theorem trans (h : SameRecords fence fence') (h' : SameRecords fence' fence'') : SameRecords fence fence'' :=
  ⟨fun s => (h.current s).trans (h'.current s), fun i => (h.accepted i).trans (h'.accepted i)⟩

/-- A change that makes records that agree agree again. -/
def Respects (change : WasmAcceptedExecutionRecord → WasmAcceptedExecutionRecord) : Prop :=
  ∀ record record', record.seen = record'.seen → (change record).seen = (change record').seen

theorem adopt (h : SameRecords fence fence') (command : ExecutionCommand) (substate : WasmExecutionSubstate) :
    SameRecords (fence.adopt command substate) (fence'.adopt command substate) := by
  refine ⟨fun sandboxId => ?_, fun identity => ?_⟩
  · rw [adopt_current, adopt_current]
    split
    · rfl
    · exact h.current sandboxId
  · rw [adopt_findByIdentity, adopt_findByIdentity]
    split
    · rfl
    · exact h.accepted identity

theorem modify (h : SameRecords fence fence') (identity : WasmExecutionIdentityV1)
    {change : WasmAcceptedExecutionRecord → WasmAcceptedExecutionRecord} (hchange : Respects change) :
    SameRecords (fence.modify identity change) (fence'.modify identity change) := by
  obtain ⟨hnone, hnone'⟩ | ⟨record, record', hrecord, hrecord', hseen⟩ := same_cases (h.accepted identity)
  · rw [modify_absent hnone, modify_absent hnone']
    exact h
  refine ⟨fun sandboxId => ?_, fun other => ?_⟩
  · obtain ⟨hnone, hnone'⟩ | ⟨current, current', hcurrent, hcurrent', hcurrents⟩ :=
      same_cases (h.current identity.sandboxId)
    · rw [modify_current_absent hrecord hnone, modify_current_absent hrecord' hnone']
      exact h.current sandboxId
    · have hidentity := seen_identity hcurrents
      by_cases hle : current.identity.executionGeneration ≤ identity.executionGeneration
      · rw [modify_current hrecord hcurrent hle, modify_current hrecord' hcurrent' (hidentity ▸ hle)]
        split
        · exact congrArg some (hchange record record' hseen)
        · exact h.current sandboxId
      · have hlt := Nat.not_le.mp hle
        rw [modify_current_of_lower hrecord hcurrent hlt,
          modify_current_of_lower hrecord' hcurrent' (hidentity ▸ hlt)]
        exact h.current sandboxId
  · rw [modify_findByIdentity change hrecord, modify_findByIdentity change hrecord']
    split
    · exact congrArg some (hchange record record' hseen)
    · exact h.accepted other

theorem updateSubstate (h : SameRecords fence fence') (identity : WasmExecutionIdentityV1)
    (substate : WasmExecutionSubstate) :
    SameRecords (fence.updateSubstate identity substate) (fence'.updateSubstate identity substate) := by
  refine h.modify identity fun record record' hseen => ?_
  show { record.seen with substate := substate } = { record'.seen with substate := substate }
  rw [hseen]

theorem annotateSpawn (h : SameRecords fence fence') (identity : WasmExecutionIdentityV1)
    (spawnCommandId : Option String) (listenIndex : Nat) :
    SameRecords (fence.annotateSpawn identity spawnCommandId listenIndex)
      (fence'.annotateSpawn identity spawnCommandId listenIndex) := by
  refine h.modify identity fun record record' hseen => ?_
  show { record.seen with spawnCommandId := spawnCommandId, listenIndex := some listenIndex } =
    { record'.seen with spawnCommandId := spawnCommandId, listenIndex := some listenIndex }
  rw [hseen]

end SameRecords

/-! ## Decisions of registries that agree -/

section Decisions

variable {fence fence' : WasmExecutionFenceRegistry} {command : ExecutionCommand}

theorem SameRecords.decidePrepare (h : SameRecords fence fence') (command : ExecutionCommand) :
    (fence.decidePrepare command).2 = (fence'.decidePrepare command).2 ∧
      SameRecords (fence.decidePrepare command).1 (fence'.decidePrepare command).1 := by
  unfold WasmExecutionFenceRegistry.decidePrepare
  obtain ⟨hnone, hnone'⟩ | ⟨current, current', hcurrent, hcurrent', hseen⟩ :=
    same_cases (h.current command.identity.sandboxId)
  · rw [hnone, hnone']
    exact ⟨rfl, h.adopt command .prepared⟩
  · rw [hcurrent, hcurrent']
    dsimp only
    rw [seen_identity hseen, seen_matches hseen]
    split
    · exact ⟨rfl, h⟩
    · split
      · exact ⟨rfl, h⟩
      · exact ⟨rfl, h.adopt command .prepared⟩

theorem SameRecords.decideStart (h : SameRecords fence fence') (command : ExecutionCommand) :
    (fence.decideStart command).2 = (fence'.decideStart command).2 ∧
      SameRecords (fence.decideStart command).1 (fence'.decideStart command).1 := by
  unfold WasmExecutionFenceRegistry.decideStart
  split
  · exact ⟨rfl, h⟩
  obtain ⟨hnone, hnone'⟩ | ⟨current, current', hcurrent, hcurrent', hseen⟩ :=
    same_cases (h.current command.identity.sandboxId)
  · rw [hnone, hnone']
    exact ⟨rfl, h⟩
  · rw [hcurrent, hcurrent']
    dsimp only
    rw [seen_identity hseen, seen_matches hseen]
    split
    · split
      · exact ⟨rfl, h⟩
      · obtain ⟨hnone, hnone'⟩ | ⟨record, record', hrecord, hrecord', -⟩ :=
          same_cases (h.accepted command.identity)
        · rw [hnone, hnone']
          exact ⟨rfl, h⟩
        · rw [hrecord, hrecord']
          exact ⟨rfl, h.updateSubstate command.identity .running⟩
    · split
      · exact ⟨rfl, h.adopt command .running⟩
      · exact ⟨rfl, h⟩

theorem SameRecords.decideStop (h : SameRecords fence fence') (command : ExecutionCommand) :
    (fence.decideStop command).2 = (fence'.decideStop command).2 ∧
      SameRecords (fence.decideStop command).1 (fence'.decideStop command).1 := by
  unfold WasmExecutionFenceRegistry.decideStop
  obtain ⟨hnone, hnone'⟩ | ⟨record, record', hrecord, hrecord', hseen⟩ :=
    same_cases (h.accepted command.identity)
  · rw [hnone, hnone']
    exact ⟨rfl, h⟩
  · rw [hrecord, hrecord']
    dsimp only
    rw [seen_matches hseen]
    split
    · exact ⟨rfl, h⟩
    · exact ⟨rfl, h.updateSubstate command.identity .stopped⟩

end Decisions

/-! ## Changes of the registry -/

/-- What executing a command may make of the registry: adoptions, and changes of records in place. -/
inductive FenceChanges (fence : WasmExecutionFenceRegistry) : WasmExecutionFenceRegistry → Prop
  | kept : FenceChanges fence fence
  | adopted {fence' : WasmExecutionFenceRegistry} (h : FenceChanges fence fence')
      (command : ExecutionCommand) (substate : WasmExecutionSubstate) :
      FenceChanges fence (fence'.adopt command substate)
  | modified {fence' : WasmExecutionFenceRegistry} (h : FenceChanges fence fence')
      (identity : WasmExecutionIdentityV1)
      (change : WasmAcceptedExecutionRecord → WasmAcceptedExecutionRecord)
      (hidentity : ∀ record, (change record).identity = record.identity) :
      FenceChanges fence (fence'.modify identity change)

/-- The current record of a sandbox is the accepted record of its own tuple. -/
structure RecordsOwn (fence : WasmExecutionFenceRegistry) : Prop where
  current : ∀ sandboxId record, fence.current sandboxId = some record →
    record.identity.sandboxId = sandboxId ∧ fence.findByIdentity record.identity = some record
  accepted : ∀ identity record, fence.findByIdentity identity = some record → record.identity = identity

theorem recordsOwn_empty : RecordsOwn .empty :=
  ⟨(fun _ _ h => nomatch h), (fun _ _ h => nomatch h)⟩

theorem RecordsOwn.adopt {fence : WasmExecutionFenceRegistry} (hown : RecordsOwn fence)
    (command : ExecutionCommand) (substate : WasmExecutionSubstate) :
    RecordsOwn (fence.adopt command substate) := by
  refine ⟨fun sandboxId record h => ?_, fun identity record h => ?_⟩
  · rw [adopt_current] at h
    rw [adopt_findByIdentity]
    split at h
    · rename_i hsandbox
      cases h
      exact ⟨hsandbox.symm, if_pos rfl⟩
    · rename_i hsandbox
      obtain ⟨hid, hrecord⟩ := hown.current sandboxId record h
      refine ⟨hid, ?_⟩
      rw [if_neg fun heq => hsandbox (by rw [← hid, heq])]
      exact hrecord
  · rw [adopt_findByIdentity] at h
    split at h
    · rename_i hidentity
      cases h
      exact hidentity.symm
    · exact hown.accepted identity record h

theorem RecordsOwn.modify {fence : WasmExecutionFenceRegistry} (hown : RecordsOwn fence)
    (identity : WasmExecutionIdentityV1) {change : WasmAcceptedExecutionRecord → WasmAcceptedExecutionRecord}
    (hidentity : ∀ record, (change record).identity = record.identity) :
    RecordsOwn (fence.modify identity change) := by
  cases hrecord : fence.findByIdentity identity with
  | none => rw [modify_absent hrecord]; exact hown
  | some record =>
    have hchanged : (change record).identity = identity := by
      rw [hidentity, hown.accepted identity record hrecord]
    refine ⟨fun sandboxId other h => ?_, fun other found h => ?_⟩
    · rw [modify_findByIdentity change hrecord]
      -- a current record that is not replaced is that of another tuple
      have hkept : fence.current sandboxId = some other → other.identity ≠ identity →
          other.identity.sandboxId = sandboxId ∧
            (if other.identity = identity then some (change record)
              else fence.findByIdentity other.identity) = some other := by
        intro hother hne
        rw [if_neg hne]
        exact hown.current sandboxId other hother
      cases hcurrent : fence.current identity.sandboxId with
      | none =>
        rw [modify_current_absent hrecord hcurrent] at h
        refine hkept h fun heq => ?_
        rw [← heq, (hown.current sandboxId other h).1, h] at hcurrent
        cases hcurrent
      | some current =>
        by_cases hle : current.identity.executionGeneration ≤ identity.executionGeneration
        · rw [modify_current hrecord hcurrent hle] at h
          split at h
          · rename_i hsandbox
            cases h
            rw [hchanged, if_pos rfl]
            exact ⟨hsandbox.symm, rfl⟩
          · rename_i hsandbox
            exact hkept h fun heq => hsandbox (by rw [← heq, (hown.current sandboxId other h).1])
        · have hlt := Nat.not_le.mp hle
          rw [modify_current_of_lower hrecord hcurrent hlt] at h
          refine hkept h fun heq => ?_
          rw [← heq, (hown.current sandboxId other h).1, h] at hcurrent
          cases hcurrent
          rw [heq] at hlt
          exact Nat.lt_irrefl _ hlt
    · rw [modify_findByIdentity change hrecord] at h
      split at h
      · rename_i heq
        cases h
        rw [hchanged, heq]
      · exact hown.accepted other found h

namespace FenceChanges

variable {fence fence' fence'' : WasmExecutionFenceRegistry}

theorem trans (h : FenceChanges fence fence') (h' : FenceChanges fence' fence'') :
    FenceChanges fence fence'' := by
  induction h' with
  | kept => exact h
  | adopted _ command substate ih => exact ih.adopted command substate
  | modified _ identity change hidentity ih => exact ih.modified identity change hidentity

theorem own (h : FenceChanges fence fence') (hown : RecordsOwn fence) : RecordsOwn fence' := by
  induction h with
  | kept => exact hown
  | adopted _ command substate ih => exact ih.adopt command substate
  | modified _ identity _ hidentity ih => exact ih.modify identity hidentity

/-- No change touches the remembered answers. -/
theorem remembered (h : FenceChanges fence fence') : fence'.appliedOutcomes = fence.appliedOutcomes := by
  induction h with
  | kept => rfl
  | adopted _ _ _ ih => exact ih
  | modified _ identity change _ ih =>
    rw [← ih]
    unfold WasmExecutionFenceRegistry.modify syncCurrentIfNotNewer
    split
    · rfl
    · split
      · rfl
      · split <;> rfl

theorem updateSubstate (h : FenceChanges fence fence') (identity : WasmExecutionIdentityV1)
    (substate : WasmExecutionSubstate) : FenceChanges fence (fence'.updateSubstate identity substate) :=
  h.modified identity _ fun _ => rfl

theorem annotateSpawn (h : FenceChanges fence fence') (identity : WasmExecutionIdentityV1)
    (spawnCommandId : Option String) (listenIndex : Nat) :
    FenceChanges fence (fence'.annotateSpawn identity spawnCommandId listenIndex) :=
  h.modified identity _ fun _ => rfl

theorem annotateReadiness (h : FenceChanges fence fence') (identity : WasmExecutionIdentityV1)
    (readiness : WasmReadinessAdoptionState) :
    FenceChanges fence (fence'.annotateReadiness identity readiness) :=
  h.modified identity _ fun _ => rfl

end FenceChanges

theorem FenceDecision.changes {fence fence' : WasmExecutionFenceRegistry} {command : ExecutionCommand}
    {outcome : Option WasmExecutionOutcome} (h : FenceDecision fence command fence' outcome) :
    FenceChanges fence fence' := by
  cases h with
  | kept => exact .kept
  | prepared => exact FenceChanges.kept.adopted command .prepared
  | restarted => exact FenceChanges.kept.adopted command .running
  | started => exact FenceChanges.kept.updateSubstate command.identity .running
  | drained _ _ _ _ _ substate => exact FenceChanges.kept.updateSubstate command.identity substate
  | stopped => exact FenceChanges.kept.updateSubstate command.identity .stopped

/-! ## Changes that change nothing that is compared -/

/-- A change that keeps the compared facts of a tuple's record, and does not move the tuple to the front,
keeps the compared facts of the registry. -/
theorem RecordsOwn.modify_same {fence : WasmExecutionFenceRegistry} (hown : RecordsOwn fence)
    {identity : WasmExecutionIdentityV1}
    {change : WasmAcceptedExecutionRecord → WasmAcceptedExecutionRecord}
    (hkeeps : ∀ record, fence.findByIdentity identity = some record → (change record).seen = record.seen)
    (hplace : ∀ current, fence.current identity.sandboxId = some current →
      current.identity = identity ∨ identity.executionGeneration < current.identity.executionGeneration) :
    SameRecords (fence.modify identity change) fence := by
  cases hrecord : fence.findByIdentity identity with
  | none => rw [modify_absent hrecord]; exact .refl fence
  | some record =>
    have hseen := hkeeps record hrecord
    refine ⟨fun sandboxId => ?_, fun other => ?_⟩
    · cases hcurrent : fence.current identity.sandboxId with
      | none => rw [modify_current_absent hrecord hcurrent]
      | some current =>
        rcases hplace current hcurrent with heq | hlt
        · rw [modify_current hrecord hcurrent (Nat.le_of_eq (by rw [heq]))]
          split
          · rename_i hsandbox
            have hcurrent' := (hown.current _ current hcurrent).2
            rw [heq, hrecord] at hcurrent'
            cases hcurrent'
            rw [hsandbox, hcurrent]
            exact congrArg some hseen
          · rfl
        · rw [modify_current_of_lower hrecord hcurrent hlt]
    · rw [modify_findByIdentity change hrecord]
      split
      · rename_i heq
        rw [heq, hrecord]
        exact congrArg some hseen
      · rfl

/-! ## Side effects -/

namespace WasmSupervisorExecutor

variable {executor : WasmSupervisorExecutor} {answers : RuntimeAnswers} {command : ExecutionCommand}

/-- The tests in front of a spawn use the allocator only. -/
theorem resolveSpawnSpec_fence (executor : WasmSupervisorExecutor) (answers : RuntimeAnswers)
    (command : ExecutionCommand) (fence : WasmExecutionFenceRegistry) :
    ({ executor with fence := fence } : WasmSupervisorExecutor).resolveSpawnSpec answers command =
      ({ (executor.resolveSpawnSpec answers command).1 with fence := fence },
        (executor.resolveSpawnSpec answers command).2) := by
  unfold resolveSpawnSpec
  dsimp only
  split
  · rfl
  · split
    · rfl
    · split
      · rfl
      · split
        · rfl
        · rfl
        · split
          · rfl
          · split
            · rfl
            · split <;> rfl

theorem tryPrepare_fence (executor : WasmSupervisorExecutor) (answers : RuntimeAnswers)
    (command : ExecutionCommand) (fence : WasmExecutionFenceRegistry) :
    ({ executor with fence := fence } : WasmSupervisorExecutor).tryPrepare answers command =
      ({ (executor.tryPrepare answers command).1 with fence := fence },
        (executor.tryPrepare answers command).2) := by
  unfold tryPrepare
  rw [resolveSpawnSpec_fence]
  obtain ⟨executor', result⟩ := executor.resolveSpawnSpec answers command
  cases result with
  | thrown => rfl
  | refused => rfl
  | index => dsimp only; split <;> rfl

theorem tryStart_fence (executor : WasmSupervisorExecutor) (answers : RuntimeAnswers)
    (command : ExecutionCommand) (fence : WasmExecutionFenceRegistry) :
    ({ executor with fence := fence } : WasmSupervisorExecutor).tryStart answers command =
      ({ (executor.tryStart answers command).1 with fence := fence },
        (executor.tryStart answers command).2) := by
  unfold tryStart
  rw [resolveSpawnSpec_fence]
  obtain ⟨executor', result⟩ := executor.resolveSpawnSpec answers command
  cases result with
  | thrown => rfl
  | refused => rfl
  | index =>
    dsimp only
    split
    · rfl
    · rfl
    · rfl
    · split
      · rfl
      · split <;> rfl

/-- A prepare whose side effects do not come to their annotation leaves what its decision left. -/
theorem perform_prepare (hop : command.operation = .prepare)
    (h : (executor.fence.decidePrepare command).2.result = .rejected ∨
      ∀ listenIndex, (executor.tryPrepare answers command).2 ≠ .index listenIndex) :
    (executor.perform answers command).1.fence = (executor.fence.decidePrepare command).1 := by
  unfold perform
  rw [hop]
  dsimp only
  split
  · rfl
  · rename_i happlied
    have h := h.resolve_left happlied
    unfold effectPrepare
    rw [tryPrepare_fence]
    revert h
    obtain ⟨executor', result⟩ := executor.tryPrepare answers command
    intro h
    cases result with
    | thrown => rfl
    | refused => rfl
    | index listenIndex => exact absurd rfl (h listenIndex)

theorem perform_prepare_changes (hop : command.operation = .prepare) :
    FenceChanges executor.fence (executor.perform answers command).1.fence := by
  have hdecision : FenceChanges executor.fence (executor.fence.decidePrepare command).1 :=
    (decidePrepare_decision hop).changes
  unfold perform
  rw [hop]
  dsimp only
  split
  · exact hdecision
  · unfold effectPrepare
    rw [tryPrepare_fence]
    obtain ⟨executor', result⟩ := executor.tryPrepare answers command
    cases result with
    | thrown => exact hdecision
    | refused => exact hdecision
    | index => exact hdecision.annotateSpawn _ _ _

/-- A start whose side effects do not come to their annotation leaves what its decision left. -/
theorem perform_start (hop : command.operation = .start)
    (h : (executor.fence.decideStart command).2.result = .rejected ∨
      ∀ listenIndex, (executor.tryStart answers command).2 ≠ .index listenIndex) :
    (executor.perform answers command).1.fence = (executor.fence.decideStart command).1 := by
  unfold perform
  rw [hop]
  dsimp only
  split
  · rfl
  · rename_i happlied
    have h := h.resolve_left happlied
    unfold effectStart
    rw [tryStart_fence]
    revert h
    obtain ⟨executor', result⟩ := executor.tryStart answers command
    intro h
    cases result with
    | thrown => rfl
    | refused => rfl
    | index listenIndex => exact absurd rfl (h listenIndex)

/-- A start that spawned annotates the record, and may note what a probe saw. -/
theorem perform_start_spawned (hop : command.operation = .start) {listenIndex : Nat}
    (happlied : (executor.fence.decideStart command).2.result ≠ .rejected)
    (hspawned : (executor.tryStart answers command).2 = .index listenIndex) :
    let fence := (executor.fence.decideStart command).1.annotateSpawn command.identity
      (some command.commandId) listenIndex
    (executor.perform answers command).1.fence = fence ∨
      ∃ readiness, (executor.perform answers command).1.fence =
        fence.annotateReadiness command.identity readiness := by
  unfold perform
  rw [hop]
  dsimp only
  rw [if_neg happlied]
  unfold effectStart
  rw [tryStart_fence]
  revert hspawned
  obtain ⟨executor', result⟩ := executor.tryStart answers command
  rintro rfl
  dsimp only
  split
  · exact .inl rfl
  · exact .inl rfl
  · split
    · exact .inl rfl
    · exact .inr ⟨_, rfl⟩

theorem perform_start_changes (hop : command.operation = .start) :
    FenceChanges executor.fence (executor.perform answers command).1.fence := by
  have hdecision : FenceChanges executor.fence (executor.fence.decideStart command).1 :=
    (decideStart_decision hop).changes
  by_cases happlied : (executor.fence.decideStart command).2.result = .rejected
  · rw [perform_start hop (.inl happlied)]
    exact hdecision
  · cases hspawned : (executor.tryStart answers command).2 with
    | index listenIndex =>
      rcases perform_start_spawned hop happlied hspawned with h | ⟨readiness, h⟩
      · rw [h]
        exact hdecision.annotateSpawn _ _ _
      · rw [h]
        exact (hdecision.annotateSpawn _ _ _).annotateReadiness _ _
    | thrown =>
      rw [perform_start hop (.inr fun _ h => by rw [hspawned] at h; cases h)]
      exact hdecision
    | refused =>
      rw [perform_start hop (.inr fun _ h => by rw [hspawned] at h; cases h)]
      exact hdecision

/-- Whatever the side effects of a stop, they leave what its decision left. -/
theorem perform_stop (hop : command.operation = .stop) :
    (executor.perform answers command).1.fence = (executor.fence.decideStop command).1 := by
  unfold perform
  rw [hop]
  dsimp only
  split
  · rfl
  · unfold effectStop
    dsimp only
    split
    · rfl
    · split
      · rfl
      · split <;> rfl

end WasmSupervisorExecutor

/-! ## Drains -/

section Drains

open SupervisorWorld

variable {fence fence' : WasmExecutionFenceRegistry} {command : ExecutionCommand} {env : DrainEnvironment}
  {retirement : RetiringExecutionRecord}

theorem SameRecords.drainReaches (h : SameRecords fence fence') (command : ExecutionCommand) :
    drainReaches fence command = drainReaches fence' command := by
  unfold SupervisorWorld.drainReaches
  obtain ⟨hnone, hnone'⟩ | ⟨record, record', hrecord, hrecord', hseen⟩ :=
    same_cases (h.accepted command.identity)
  · rw [hnone, hnone']
  · rw [hrecord, hrecord']
    show (matchesRecordedFenceFields record command && record.substate != .stopped) =
      (matchesRecordedFenceFields record' command && record'.substate != .stopped)
    rw [seen_matches hseen, seen_substate hseen]

theorem drainPreflight_unreached (env : DrainEnvironment) (h : drainReaches fence command = false) :
    ∃ outcome, fence.drainPreflight env command = (fence, .failed outcome) := by
  unfold drainReaches at h
  unfold drainPreflight
  split
  · exact ⟨_, rfl⟩
  · rename_i target htarget
    rw [htarget] at h
    have h : (matchesRecordedFenceFields target command && target.substate != .stopped) = false := h
    split
    · exact ⟨_, rfl⟩
    · rename_i hmatch
      rw [Bool.not_eq_true', Bool.not_eq_false] at hmatch
      rw [hmatch, Bool.true_and] at h
      rw [if_pos (by simpa using h)]
      exact ⟨_, rfl⟩

theorem drainReaches_cases (h : drainReaches fence command = true) :
    ∃ target, fence.findByIdentity command.identity = some target ∧
      matchesRecordedFenceFields target command = true ∧ target.substate ≠ .stopped := by
  unfold drainReaches at h
  obtain ⟨target, htarget, h⟩ := (Option.any_eq_true _ _).mp h
  rw [Bool.and_eq_true] at h
  exact ⟨target, htarget, h.1, by simpa using h.2⟩

/-- Without a matching retiring record the tests fail and leave the tuple retiring. -/
theorem drainPreflight_unmatched (h : drainReaches fence command = true)
    (hmatched : matchedRetirement env command = none) :
    ∃ outcome, fence.drainPreflight env command =
      (fence.updateSubstate command.identity .retiring, .failed outcome) := by
  obtain ⟨target, htarget, hmatch, hlive⟩ := drainReaches_cases h
  unfold matchedRetirement at hmatched
  unfold drainPreflight
  rw [htarget]
  dsimp only
  rw [hmatch, if_neg (by decide), if_neg hlive]
  split
  · exact ⟨_, rfl⟩
  · rename_i retirement hretirement
    rw [hretirement, Option.filter_some] at hmatched
    split at hmatched
    · cases hmatched
    · rename_i hother
      rw [if_pos (by simpa using hother)]
      exact ⟨_, rfl⟩

theorem drainPreflight_matched (h : drainReaches fence command = true)
    (hmatched : matchedRetirement env command = some retirement) :
    fence.drainPreflight env command = (fence, .passed retirement) := by
  obtain ⟨target, htarget, hmatch, hlive⟩ := drainReaches_cases h
  unfold matchedRetirement at hmatched
  obtain ⟨hretirement, hechoes⟩ := Option.filter_eq_some_iff.mp hmatched
  unfold drainPreflight
  rw [htarget]
  dsimp only
  rw [hmatch, if_neg (by decide), if_neg hlive, hretirement]
  dsimp only
  rw [hechoes, if_neg (by decide)]

/-! ### The replayed decision -/

theorem decideDrain_unreached (env : DrainEnvironment) (h : drainReaches fence command = false) :
    ∃ outcome, fence.decideDrain env command = (fence, some outcome) := by
  obtain ⟨outcome, hpreflight⟩ := drainPreflight_unreached env h
  unfold decideDrain
  rw [hpreflight]
  exact ⟨_, rfl⟩

theorem decideDrain_retires (h : drainReaches fence command = true)
    (hretires : replayRetires env command = true) :
    ∃ outcome, fence.decideDrain env command =
      (fence.updateSubstate command.identity .retiring, some outcome) := by
  unfold decideDrain
  cases hmatched : matchedRetirement env command with
  | none =>
    obtain ⟨outcome, hpreflight⟩ := drainPreflight_unmatched h hmatched
    rw [hpreflight]
    exact ⟨_, rfl⟩
  | some retirement =>
    rw [drainPreflight_matched h hmatched]
    unfold replayRetires drainProvable at hretires
    rw [hmatched] at hretires
    dsimp only at hretires ⊢
    cases hnow : env.nowMillis with
    | none => exact ⟨_, rfl⟩
    | some now =>
      cases hcount : env.drainedRequestCount retirement command with
      | none => exact ⟨_, rfl⟩
      | some count =>
        rw [hnow, hcount] at hretires
        cases hdeadline : epochMillisToRfc3339Utc retirement.deadlineAtEpochMillis with
        | none => rw [hdeadline] at hretires; cases hretires
        | some deadline =>
          rw [hdeadline] at hretires
          have hle : now ≤ retirement.deadlineAtEpochMillis := by simpa using hretires
          dsimp only
          rw [if_pos hle]
          exact ⟨_, rfl⟩

theorem decideDrain_kills (h : drainReaches fence command = true) (hkills : replayKills env command = true) :
    ∃ outcome, fence.decideDrain env command =
      (fence.updateSubstate command.identity .stopped, some outcome) := by
  unfold decideDrain
  unfold replayKills drainProvable at hkills
  cases hmatched : matchedRetirement env command with
  | none => rw [hmatched] at hkills; cases hkills
  | some retirement =>
    rw [drainPreflight_matched h hmatched]
    rw [hmatched] at hkills
    dsimp only at hkills ⊢
    cases hnow : env.nowMillis with
    | none => rw [hnow] at hkills; cases hkills
    | some now =>
      cases hcount : env.drainedRequestCount retirement command with
      | none => rw [hnow, hcount] at hkills; cases hkills
      | some count =>
        cases hdeadline : epochMillisToRfc3339Utc retirement.deadlineAtEpochMillis with
        | none => rw [hnow, hcount, hdeadline] at hkills; cases hkills
        | some deadline =>
          rw [hnow, hcount, hdeadline] at hkills
          have hlt : (retirement.deadlineAtEpochMillis : Int) < now := by simpa using hkills
          dsimp only
          rw [if_neg (Int.not_le.mpr hlt)]
          exact ⟨_, rfl⟩

/-! ### The drain with its side effects -/

/-- What a drain with a runtime leaves behind, by the conditions on its surroundings. -/
inductive DrainLeaves (fence : WasmExecutionFenceRegistry) (answers : RuntimeAnswers)
    (command : ExecutionCommand) : WasmExecutionFenceRegistry → Prop
  | unreached (h : drainReaches fence command = false) : DrainLeaves fence answers command fence
  | retiring (hreaches : drainReaches fence command = true)
      (hretires : drainRetires fence answers command = true) :
      DrainLeaves fence answers command (fence.updateSubstate command.identity .retiring)
  | stopped (hreaches : drainReaches fence command = true)
      (hretires : drainRetires fence answers command = false)
      (hkills : drainKills fence answers command = true) :
      DrainLeaves fence answers command (fence.updateSubstate command.identity .stopped)
  | thrown (hreaches : drainReaches fence command = true)
      (hretires : drainRetires fence answers command = false)
      (hkills : drainKills fence answers command = false) : DrainLeaves fence answers command fence

theorem DrainLeaves.changes {answers : RuntimeAnswers} (h : DrainLeaves fence answers command fence') :
    FenceChanges fence fence' := by
  cases h with
  | unreached => exact .kept
  | retiring => exact FenceChanges.kept.updateSubstate _ _
  | stopped => exact FenceChanges.kept.updateSubstate _ _
  | thrown => exact .kept

open WasmSupervisorExecutor

theorem settleDrain_unprovable {executor : WasmSupervisorExecutor} {answers : RuntimeAnswers}
    (h : drainProvable answers.drain retirement command = false) (forced : Bool) :
    (executor.settleDrain answers command retirement forced).1 = executor.leave command .retiring := by
  unfold drainProvable at h
  unfold settleDrain
  cases hnow : answers.drain.nowMillis with
  | none => rfl
  | some now =>
    cases hcount : answers.drain.drainedRequestCount retirement command with
    | none => rfl
    | some count => rw [hnow, hcount] at h; cases h

theorem settleDrain_completed {executor : WasmSupervisorExecutor} {answers : RuntimeAnswers}
    (h : drainProvable answers.drain retirement command = true)
    (hcompletes : drainCompletes executor.fence answers command retirement = true) (forced : Bool) :
    (executor.settleDrain answers command retirement forced).1 =
      executor.leave command (if forced then .stopped else .retiring) := by
  unfold drainProvable at h
  unfold drainCompletes at hcompletes
  rw [Bool.and_eq_true, Option.isSome_iff_exists, Option.isSome_iff_exists] at h
  rw [Bool.and_eq_true, Option.isSome_iff_exists, Bool.or_eq_true, Bool.not_eq_true', beq_iff_eq]
    at hcompletes
  obtain ⟨⟨now, hnow⟩, ⟨count, hcount⟩⟩ := h
  obtain ⟨⟨deadline, hdeadline⟩, hdiscard⟩ := hcompletes
  have hdiscard : ¬ (discards executor.fence answers command = true ∧ answers.discard ≠ .done) := by
    rintro ⟨hheld, hfailed⟩
    rcases hdiscard with hfree | hdone
    · rw [hheld] at hfree; cases hfree
    · exact hfailed hdone
  unfold settleDrain
  rw [hnow, hcount, hdeadline]
  dsimp only
  rw [if_neg hdiscard]
  cases forced with
  | false => rfl
  | true =>
    split
    · rfl
    · rfl

theorem settleDrain_thrown {executor : WasmSupervisorExecutor} {answers : RuntimeAnswers}
    (h : drainProvable answers.drain retirement command = true)
    (hthrown : drainCompletes executor.fence answers command retirement = false) (forced : Bool) :
    (executor.settleDrain answers command retirement forced).1 = executor := by
  unfold drainProvable at h
  unfold drainCompletes at hthrown
  rw [Bool.and_eq_true, Option.isSome_iff_exists, Option.isSome_iff_exists] at h
  obtain ⟨⟨now, hnow⟩, ⟨count, hcount⟩⟩ := h
  unfold settleDrain
  rw [hnow, hcount]
  dsimp only
  cases hdeadline : epochMillisToRfc3339Utc retirement.deadlineAtEpochMillis with
  | none => rfl
  | some deadline =>
    rw [hdeadline, Option.isSome_some, Bool.true_and, Bool.or_eq_false_iff, Bool.not_eq_false',
      beq_eq_false_iff_ne] at hthrown
    dsimp only
    rw [if_pos hthrown]

/-- A drain that passed its tests, by the end of the stop. -/
theorem effectDrain_leaves {executor : WasmSupervisorExecutor} {answers : RuntimeAnswers}
    (hreaches : drainReaches executor.fence command = true)
    (hmatched : matchedRetirement answers.drain command = some retirement) :
    DrainLeaves executor.fence answers command
      (executor.effectDrain answers command retirement).1.fence := by
  have hretires : drainRetires executor.fence answers command =
      (answers.stopExecution == .runtimeFailure || answers.stopExecution == .thrown ||
        !drainProvable answers.drain retirement command ||
        (answers.stopExecution == .stopped && drainCompletes executor.fence answers command retirement)) := by
    unfold drainRetires
    cases answers.stopExecution <;> simp only [hmatched] <;>
      cases drainProvable answers.drain retirement command <;>
      cases drainCompletes executor.fence answers command retirement <;> rfl
  have hkills : drainKills executor.fence answers command =
      (answers.stopExecution == .forcedKill && drainProvable answers.drain retirement command &&
        drainCompletes executor.fence answers command retirement) := by
    unfold drainKills
    rw [hmatched]
  -- a drain that proves nothing leaves the tuple retiring, however it was stopped
  have hunprovable (forced : Bool) (h : drainProvable answers.drain retirement command = false)
      (hretires : drainRetires executor.fence answers command = true) :
      DrainLeaves executor.fence answers command
        (executor.settleDrain answers command retirement forced).1.fence := by
    rw [settleDrain_unprovable h]
    exact .retiring hreaches hretires
  unfold effectDrain
  cases hstop : answers.stopExecution with
  | runtimeFailure => rw [hstop] at hretires; exact .retiring hreaches hretires
  | thrown => rw [hstop] at hretires; exact .retiring hreaches hretires
  | stopped =>
    rw [hstop] at hretires hkills
    cases hprovable : drainProvable answers.drain retirement command with
    | false => rw [hprovable] at hretires; exact hunprovable false hprovable hretires
    | true =>
      rw [hprovable] at hretires
      cases hcompletes : drainCompletes executor.fence answers command retirement with
      | true =>
        rw [hcompletes] at hretires
        show DrainLeaves _ _ _ (executor.settleDrain answers command retirement false).1.fence
        rw [settleDrain_completed hprovable hcompletes]
        exact .retiring hreaches hretires
      | false =>
        rw [hcompletes] at hretires
        show DrainLeaves _ _ _ (executor.settleDrain answers command retirement false).1.fence
        rw [settleDrain_thrown hprovable hcompletes]
        exact .thrown hreaches hretires hkills
  | forcedKill =>
    rw [hstop] at hretires hkills
    cases hprovable : drainProvable answers.drain retirement command with
    | false => rw [hprovable] at hretires; exact hunprovable true hprovable hretires
    | true =>
      rw [hprovable] at hretires hkills
      cases hcompletes : drainCompletes executor.fence answers command retirement with
      | true =>
        rw [hcompletes] at hkills
        show DrainLeaves _ _ _ (executor.settleDrain answers command retirement true).1.fence
        rw [settleDrain_completed hprovable hcompletes]
        exact .stopped hreaches hretires hkills
      | false =>
        rw [hcompletes] at hkills
        show DrainLeaves _ _ _ (executor.settleDrain answers command retirement true).1.fence
        rw [settleDrain_thrown hprovable hcompletes]
        exact .thrown hreaches hretires hkills

theorem perform_drain (executor : WasmSupervisorExecutor) (answers : RuntimeAnswers)
    (hop : command.operation = .drain) :
    DrainLeaves executor.fence answers command (executor.perform answers command).1.fence := by
  unfold perform performDrain
  rw [hop]
  dsimp only
  cases hreaches : drainReaches executor.fence command with
  | false =>
    obtain ⟨outcome, hpreflight⟩ := drainPreflight_unreached answers.drain hreaches
    rw [hpreflight]
    exact .unreached hreaches
  | true =>
    cases hmatched : matchedRetirement answers.drain command with
    | none =>
      obtain ⟨outcome, hpreflight⟩ := drainPreflight_unmatched hreaches hmatched
      rw [hpreflight]
      refine .retiring hreaches ?_
      unfold drainRetires
      rw [hmatched]
    | some retirement =>
      rw [drainPreflight_matched hreaches hmatched]
      exact effectDrain_leaves hreaches hmatched

end Drains

end Iweb
