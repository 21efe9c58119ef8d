import Iweb.Supervisor.Proofs.ExecutionRpcProofs
import Iweb.Supervisor.Proofs.ExecutorProofs
import Iweb.Supervisor.Vectors

/-!
# What a restart rebuilds

A command that is new to the journal leaves live what its replay leaves; a command that was received before
leaves the compared facts as they are. So the executor rebuilt from the journal agrees with the live one
after every run of such commands.
-/

namespace Iweb

open CrashRefinement WasmExecutionFenceRegistry WasmAcceptedExecutionRecord

/-! ## One command -/

section Commands

open SupervisorWorld WasmSupervisorExecutor

theorem perform_changes (executor : WasmSupervisorExecutor) (answers : RuntimeAnswers)
    (command : ExecutionCommand) : FenceChanges executor.fence (executor.perform answers command).1.fence := by
  cases hop : command.operation with
  | prepare => exact perform_prepare_changes hop
  | start => exact perform_start_changes hop
  | drain => exact (perform_drain executor answers hop).changes
  | stop =>
    rw [perform_stop hop]
    exact (decideStop_decision hop).changes

theorem result_cases (outcome : WasmExecutionOutcome) :
    outcome.result = .rejected ∨ outcome.result = .applied := by
  cases outcome.result with
  | applied => exact .inr rfl
  | rejected => exact .inl rfl

variable {env : CommandReceivedV1 → DrainEnvironment} {entry : CommandReceivedV1}
  {rebuilt : WasmSupervisorExecutor} {fence : WasmExecutionFenceRegistry} {outcome : WasmExecutionOutcome}

theorem replayEntry_decided (hdecide : rebuilt.fence.decide (env entry) entry.command = (fence, some outcome))
    (h : outcome.result = .rejected ∨ entry.command.operation ≠ .start) :
    rebuilt.replayEntry env (.received entry) = some { rebuilt with fence := fence } := by
  unfold replayEntry
  dsimp only
  rw [hdecide]
  dsimp only
  rw [if_neg]
  rintro ⟨happlied, hstart⟩
  rcases h with hrejected | hother
  · rw [happlied] at hrejected; cases hrejected
  · exact hother hstart

theorem replayEntry_started (hdecide : rebuilt.fence.decide (env entry) entry.command = (fence, some outcome))
    (happlied : outcome.result = .applied) (hop : entry.command.operation = .start)
    {listenIndex : Nat} {listenIndexes : ListenIndexAllocator}
    (hindex : rebuilt.listenIndexes.allocate entry.command.identity.sandboxId =
      some (listenIndex, listenIndexes)) :
    rebuilt.replayEntry env (.received entry) =
      some ⟨fence.annotateSpawn entry.command.identity (some entry.commandId) listenIndex, listenIndexes⟩ := by
  unfold replayEntry
  dsimp only
  rw [hdecide]
  dsimp only
  rw [if_pos ⟨happlied, hop⟩, hindex]

theorem decide_prepare (env : DrainEnvironment) (fence : WasmExecutionFenceRegistry)
    {command : ExecutionCommand} (hop : command.operation = .prepare) :
    fence.decide env command = ((fence.decidePrepare command).1, some (fence.decidePrepare command).2) := by
  unfold WasmExecutionFenceRegistry.decide
  rw [hop]
  rfl

theorem decide_start (env : DrainEnvironment) (fence : WasmExecutionFenceRegistry)
    {command : ExecutionCommand} (hop : command.operation = .start) :
    fence.decide env command = ((fence.decideStart command).1, some (fence.decideStart command).2) := by
  unfold WasmExecutionFenceRegistry.decide
  rw [hop]
  rfl

theorem decide_stop (env : DrainEnvironment) (fence : WasmExecutionFenceRegistry)
    {command : ExecutionCommand} (hop : command.operation = .stop) :
    fence.decide env command = ((fence.decideStop command).1, some (fence.decideStop command).2) := by
  unfold WasmExecutionFenceRegistry.decide
  rw [hop]
  rfl

theorem decide_drain (env : DrainEnvironment) (fence : WasmExecutionFenceRegistry)
    {command : ExecutionCommand} (hop : command.operation = .drain) :
    fence.decide env command = fence.decideDrain env command := by
  unfold WasmExecutionFenceRegistry.decide
  rw [hop]

variable {world : SupervisorWorld} {answers : RuntimeAnswers}

theorem startIndexesAfter_other (h : entry.command.operation ≠ .start) :
    world.startIndexesAfter entry.command = world.startIndexes :=
  if_neg fun hall => h hall.2.1

/-- The tuple of an applied start is the current one. -/
theorem decideStart_current {fence : WasmExecutionFenceRegistry} (hown : RecordsOwn fence)
    {command : ExecutionCommand} (happlied : (fence.decideStart command).2.result ≠ .rejected)
    {current : WasmAcceptedExecutionRecord}
    (hcurrent : (fence.decideStart command).1.current command.identity.sandboxId = some current) :
    current.identity = command.identity := by
  unfold decideStart at happlied hcurrent
  split at hcurrent
  · rename_i hdead
    rw [if_pos hdead] at happlied
    exact absurd rfl happlied
  · rename_i halive
    rw [if_neg halive] at happlied
    split at hcurrent
    · rename_i hnone
      rw [hnone] at happlied
      exact absurd rfl happlied
    · rename_i before hbefore
      rw [hbefore] at happlied
      dsimp only at happlied
      split at hcurrent
      · rename_i hsame
        rw [if_pos hsame] at happlied
        split at hcurrent
        · rename_i hother
          rw [if_pos hother] at happlied
          exact absurd rfl happlied
        · rename_i hmatch
          rw [if_neg hmatch] at happlied
          split at hcurrent
          · rename_i hnone
            rw [hnone] at happlied
            exact absurd rfl happlied
          · rename_i record hrecord
            unfold WasmExecutionFenceRegistry.updateSubstate at hcurrent
            rw [modify_current hrecord hbefore (Nat.le_of_eq (by rw [hsame])), if_pos rfl] at hcurrent
            cases hcurrent
            exact hown.accepted command.identity record hrecord
      · rename_i hother
        rw [if_neg hother] at happlied
        split at hcurrent
        · rw [adopt_current, if_pos rfl] at hcurrent
          cases hcurrent
          rfl
        · rename_i hlower
          rw [if_neg hlower] at happlied
          exact absurd rfl happlied

/-- A start that spawned leaves the annotated record, whatever a probe saw. -/
theorem perform_start_same (hown : RecordsOwn world.executor.fence) {command : ExecutionCommand}
    (hop : command.operation = .start) {listenIndex : Nat}
    (happlied : (world.executor.fence.decideStart command).2.result ≠ .rejected)
    (hspawned : (world.executor.tryStart answers command).2 = .index listenIndex) :
    SameRecords (world.executor.perform answers command).1.fence
      ((world.executor.fence.decideStart command).1.annotateSpawn command.identity
        (some command.commandId) listenIndex) := by
  rcases perform_start_spawned hop happlied hspawned with h | ⟨readiness, h⟩
  · rw [h]
    exact .refl _
  · rw [h]
    have hdecided : FenceChanges world.executor.fence (world.executor.fence.decideStart command).1 :=
      (decideStart_decision hop).changes
    have hannotated := hdecided.annotateSpawn command.identity (some command.commandId) listenIndex
    refine (hannotated.own hown).modify_same (fun _ _ => rfl) fun current hcurrent => .inl ?_
    -- the annotation leaves the tuple of the start the current one
    have hdecided := hdecided.own hown
    cases hrecord : (world.executor.fence.decideStart command).1.findByIdentity command.identity with
    | none =>
      unfold WasmExecutionFenceRegistry.annotateSpawn at hcurrent
      rw [modify_absent hrecord] at hcurrent
      exact decideStart_current hown happlied hcurrent
    | some record =>
      cases hbefore : (world.executor.fence.decideStart command).1.current command.identity.sandboxId with
      | none =>
        unfold WasmExecutionFenceRegistry.annotateSpawn at hcurrent
        rw [modify_current_absent hrecord hbefore, hbefore] at hcurrent
        cases hcurrent
      | some before =>
        have hidentity := decideStart_current hown happlied hbefore
        unfold WasmExecutionFenceRegistry.annotateSpawn at hcurrent
        rw [modify_current hrecord hbefore (Nat.le_of_eq (by rw [hidentity])), if_pos rfl] at hcurrent
        cases hcurrent
        exact hdecided.accepted command.identity record hrecord

theorem drainKills_of_retires {fence : WasmExecutionFenceRegistry} {command : ExecutionCommand}
    (h : drainRetires fence answers command = true) : drainKills fence answers command = false := by
  unfold drainRetires at h
  unfold drainKills
  split
  · rfl
  · rename_i retirement hmatched
    rw [hmatched] at h
    cases hstop : answers.stopExecution with
    | forcedKill =>
      rw [hstop] at h
      dsimp only at h
      rw [Bool.not_eq_true'] at h
      rw [h]
      rfl
    | stopped => rfl
    | runtimeFailure => rfl
    | thrown => rfl

/-- Setting a tuple to the substate it is settled in changes nothing that is compared. -/
theorem settledIn_same {fence : WasmExecutionFenceRegistry} (hown : RecordsOwn fence)
    {identity : WasmExecutionIdentityV1} {substate : WasmExecutionSubstate}
    (h : settledIn fence identity substate = true) :
    SameRecords (fence.updateSubstate identity substate) fence := by
  unfold settledIn at h
  rw [Bool.and_eq_true, Option.any_eq_true, Option.all_eq_true] at h
  obtain ⟨⟨record, hrecord, hsubstate⟩, hplace⟩ := h
  refine hown.modify_same (fun found hfound => ?_) fun current hcurrent => ?_
  · rw [hrecord] at hfound
    cases hfound
    show { record.seen with substate := substate } = record.seen
    rw [← beq_iff_eq.mp hsubstate]
    rfl
  · have hplace := hplace current hcurrent
    rw [Bool.or_eq_true, beq_iff_eq, decide_eq_true_eq] at hplace
    exact hplace

/-- The replay of a new command rebuilds what the command left. -/
theorem replaysFirst_rebuilds (hown : RecordsOwn world.executor.fence)
    (hsame : SameRecords rebuilt.fence world.executor.fence)
    (hindexes : rebuilt.listenIndexes = world.startIndexes) (hnew : world.isNew entry.command = true)
    (hid : entry.commandId = entry.command.commandId)
    (h : replaysFirst (env entry) world answers entry.command = true) :
    ∃ rebuilt', rebuilt.replayEntry env (.received entry) = some rebuilt' ∧
      SameRecords rebuilt'.fence (world.executor.perform answers entry.command).1.fence ∧
      rebuilt'.listenIndexes = world.startIndexesAfter entry.command := by
  unfold replaysFirst at h
  cases hop : entry.command.operation with
  | prepare =>
    have hother : entry.command.operation ≠ .start := by rw [hop]; intro h; cases h
    obtain ⟨-, hdecided⟩ := hsame.decidePrepare entry.command
    refine ⟨_, replayEntry_decided (decide_prepare _ _ hop) (.inr hother), ?_,
      hindexes.trans (startIndexesAfter_other hother).symm⟩
    rw [perform_prepare hop]
    · exact hdecided
    · rw [hop] at h
      dsimp only at h
      rw [Bool.or_eq_true, beq_iff_eq] at h
      refine h.imp_right fun h listenIndex hindex => ?_
      rw [hindex] at h
      cases h
  | stop =>
    have hother : entry.command.operation ≠ .start := by rw [hop]; intro h; cases h
    obtain ⟨-, hdecided⟩ := hsame.decideStop entry.command
    refine ⟨_, replayEntry_decided (decide_stop _ _ hop) (.inr hother), ?_,
      hindexes.trans (startIndexesAfter_other hother).symm⟩
    rw [perform_stop hop]
    exact hdecided
  | start =>
    obtain ⟨hanswer, hdecided⟩ := hsame.decideStart entry.command
    rw [hop] at h
    dsimp only at h
    rw [Bool.or_eq_true, beq_iff_eq] at h
    by_cases happlied : (world.executor.fence.decideStart entry.command).2.result = .rejected
    · refine ⟨_, replayEntry_decided (decide_start _ _ hop) (.inl (hanswer ▸ happlied)), ?_, ?_⟩
      · rw [perform_start hop (.inl happlied)]
        exact hdecided
      · refine hindexes.trans (if_neg fun hall => ?_).symm
        rw [hall.2.2] at happlied
        cases happlied
    · have h := h.resolve_left happlied
      have hresult := (result_cases _).resolve_left happlied
      split at h
      · rename_i listenIndex hspawned
        obtain ⟨⟨index, startIndexes⟩, hallocate, hindex⟩ := Option.map_eq_some_iff.mp (beq_iff_eq.mp h)
        cases hindex
        refine ⟨_, replayEntry_started (decide_start _ _ hop) (hanswer ▸ hresult) hop
          (hindexes ▸ hallocate), ?_, ?_⟩
        · rw [hid]
          exact (hdecided.annotateSpawn _ _ _).trans (perform_start_same hown hop happlied hspawned).symm
        · unfold startIndexesAfter
          rw [if_pos ⟨hnew, hop, hresult⟩, hallocate]
      · cases h
      · cases h
  | drain =>
    have hother : entry.command.operation ≠ .start := by rw [hop]; intro h; cases h
    have hindexes := hindexes.trans (startIndexesAfter_other hother).symm
    have hreached := hsame.drainReaches entry.command
    -- the replay of the drain comes to the fence its environment sends it to
    have hreplay {fence : WasmExecutionFenceRegistry} {outcome : WasmExecutionOutcome}
        (hdrain : rebuilt.fence.decideDrain (env entry) entry.command = (fence, some outcome)) :
        rebuilt.replayEntry env (.received entry) = some { rebuilt with fence := fence } :=
      replayEntry_decided ((decide_drain _ _ hop).trans hdrain) (.inr hother)
    rw [hop] at h
    dsimp only at h
    rw [Bool.or_eq_true, Bool.or_eq_true, Bool.or_eq_true, Bool.not_eq_true', Bool.and_eq_true,
      Bool.and_eq_true, Bool.and_eq_true, Bool.and_eq_true, Bool.and_eq_true, Bool.not_eq_true',
      Bool.not_eq_true'] at h
    have hleaves := perform_drain world.executor answers hop
    revert hleaves
    generalize (world.executor.perform answers entry.command).1.fence = left
    intro hleaves
    cases hleaves with
    | unreached hunreached =>
      obtain ⟨outcome, hdrain⟩ := decideDrain_unreached (env entry) (hreached.trans hunreached)
      exact ⟨_, hreplay hdrain, hsame, hindexes⟩
    | retiring hreaches hretires =>
      rw [hreaches, hretires] at h
      obtain ((h | h) | h) | h := h
      · cases h
      · obtain ⟨outcome, hdrain⟩ := decideDrain_retires (hreached.trans hreaches) h.2
        exact ⟨_, hreplay hdrain, hsame.updateSubstate _ _, hindexes⟩
      · rw [drainKills_of_retires hretires] at h
        cases h.1
      · cases h.1.1.1
    | stopped hreaches hretires hkills =>
      rw [hreaches, hretires, hkills] at h
      obtain ((h | h) | h) | h := h
      · cases h
      · cases h.1
      · obtain ⟨outcome, hdrain⟩ := decideDrain_kills (hreached.trans hreaches) h.2
        exact ⟨_, hreplay hdrain, hsame.updateSubstate _ _, hindexes⟩
      · cases h.1.1.2
    | thrown hreaches hretires hkills =>
      rw [hreaches, hretires, hkills] at h
      obtain ((h | h) | h) | h := h
      · cases h
      · cases h.1
      · cases h.1
      · obtain ⟨outcome, hdrain⟩ := decideDrain_retires (hreached.trans hreaches) h.2
        exact ⟨_, hreplay hdrain, (hsame.updateSubstate _ _).trans (settledIn_same hown h.1.2), hindexes⟩

theorem decidePrepare_kept {fence : WasmExecutionFenceRegistry} {command : ExecutionCommand}
    (h : (fence.decidePrepare command).2.result = .rejected ∨
      ∃ current, fence.current command.identity.sandboxId = some current ∧
        current.identity = command.identity) : (fence.decidePrepare command).1 = fence := by
  unfold decidePrepare at h ⊢
  split
  · rename_i hnone
    rw [hnone] at h
    rcases h with h | ⟨current, h, -⟩
    · cases h
    · cases h
  · rename_i current hcurrent
    rw [hcurrent] at h
    dsimp only at h
    split
    · rfl
    · rename_i hother
      rw [if_neg hother] at h
      dsimp only at h ⊢
      split
      · rfl
      · rename_i hhigher
        rw [if_neg hhigher] at h
        rcases h with h | ⟨current', hcurrent', hsame⟩
        · cases h
        · cases hcurrent'
          rw [hsame] at hhigher
          omega

/-- A decision on the start of the current tuple keeps the registry or sets the tuple running. -/
theorem decideStart_kept {fence : WasmExecutionFenceRegistry} {command : ExecutionCommand}
    (h : (fence.decideStart command).2.result = .rejected ∨
      ∃ current, fence.current command.identity.sandboxId = some current ∧
        current.identity = command.identity) :
    (fence.decideStart command).1 = fence ∨ (fence.decideStart command).2.result = .applied ∧
      (fence.decideStart command).1 = fence.updateSubstate command.identity .running := by
  unfold decideStart at h ⊢
  split
  · exact .inl rfl
  · rename_i halive
    rw [if_neg halive] at h
    split
    · exact .inl rfl
    · rename_i current hcurrent
      rw [hcurrent] at h
      dsimp only at h
      split
      · split
        · exact .inl rfl
        · split
          · exact .inl rfl
          · exact .inr ⟨rfl, rfl⟩
      · rename_i hother
        rw [if_neg hother] at h
        split
        · rename_i hle
          rw [if_pos hle] at h
          rcases h with h | ⟨current', hcurrent', hsame⟩
          · cases h
          · cases hcurrent'
            exact absurd hsame hother
        · exact .inl rfl

theorem decideStop_kept {fence : WasmExecutionFenceRegistry} (hown : RecordsOwn fence)
    {command : ExecutionCommand} (h : (fence.decideStop command).2.result = .rejected ∨
      settledIn fence command.identity .stopped = true) : SameRecords (fence.decideStop command).1 fence := by
  unfold decideStop at h ⊢
  split
  · exact .refl fence
  · rename_i target htarget
    rw [htarget] at h
    dsimp only at h
    split
    · exact .refl fence
    · rename_i hmatch
      rw [if_neg hmatch] at h
      rcases h with h | h
      · cases h
      · exact settledIn_same hown h

/-- A repeated command leaves the compared facts as they are. -/
theorem repeatsNothing_same (hown : RecordsOwn world.executor.fence) {command : ExecutionCommand}
    (h : repeatsNothing world answers command = true) :
    SameRecords (world.executor.perform answers command).1.fence world.executor.fence := by
  unfold repeatsNothing at h
  cases hop : command.operation with
  | prepare =>
    rw [hop] at h
    dsimp only at h
    rw [Bool.or_eq_true, beq_iff_eq, Bool.and_eq_true, Option.any_eq_true] at h
    rw [perform_prepare hop, decidePrepare_kept]
    · exact .refl _
    · exact h.imp_right fun h => h.1.imp fun current hcurrent => ⟨hcurrent.1, beq_iff_eq.mp hcurrent.2⟩
    · refine h.imp_right fun h listenIndex hindex => ?_
      have h := h.2
      rw [hindex] at h
      cases h
  | start =>
    rw [hop] at h
    dsimp only at h
    rw [Bool.or_eq_true, beq_iff_eq, Bool.and_eq_true, Bool.and_eq_true, Option.any_eq_true] at h
    have hkept := decideStart_kept (h.imp_right fun h => h.1.1.imp fun current hcurrent =>
      ⟨hcurrent.1, beq_iff_eq.mp hcurrent.2⟩)
    by_cases hrejected : (world.executor.fence.decideStart command).2.result = .rejected
    · rw [perform_start hop (.inl hrejected)]
      rcases hkept with hkept | ⟨happlied, -⟩
      · rw [hkept]
        exact .refl _
      · rw [happlied] at hrejected
        cases hrejected
    · obtain ⟨⟨⟨current, hcurrent, hcurrents⟩, hsettled⟩, h⟩ := h.resolve_left hrejected
      have hcurrents : current.identity = command.identity := beq_iff_eq.mp hcurrents
      have hdecided : SameRecords (world.executor.fence.decideStart command).1 world.executor.fence := by
        rcases hkept with hkept | ⟨-, hkept⟩
        · rw [hkept]
          exact .refl _
        · rw [hkept]
          exact settledIn_same hown hsettled
      cases hspawned : (world.executor.tryStart answers command).2 with
      | thrown =>
        rw [perform_start hop (.inr fun _ h => by rw [hspawned] at h; cases h)]
        exact hdecided
      | refused =>
        rw [perform_start hop (.inr fun _ h => by rw [hspawned] at h; cases h)]
        exact hdecided
      | index listenIndex =>
        rw [hspawned] at h
        dsimp only at h
        obtain ⟨record, hrecord, h⟩ := (Option.any_eq_true _ _).mp h
        rw [Bool.and_eq_true, beq_iff_eq, beq_iff_eq] at h
        refine ((perform_start_same hown hop hrejected hspawned).trans
          (hdecided.annotateSpawn _ _ _)).trans (hown.modify_same (fun found hfound => ?_) ?_)
        · rw [hrecord] at hfound
          cases hfound
          show { record.seen with spawnCommandId := some command.commandId, listenIndex := some listenIndex }
            = record.seen
          rw [← h.1, ← h.2]
          rfl
        · intro found hfound
          rw [hcurrent] at hfound
          cases hfound
          exact .inl hcurrents
  | stop =>
    rw [hop] at h
    dsimp only at h
    rw [Bool.or_eq_true, beq_iff_eq] at h
    rw [perform_stop hop]
    exact decideStop_kept hown h
  | drain =>
    rw [hop] at h
    dsimp only at h
    rw [Bool.or_eq_true, Bool.or_eq_true, Bool.not_eq_true', Bool.and_eq_true, Bool.and_eq_true,
      Bool.not_eq_true', Bool.not_eq_true'] at h
    have hleaves := perform_drain world.executor answers hop
    revert hleaves
    generalize (world.executor.perform answers command).1.fence = left
    intro hleaves
    cases hleaves with
    | unreached => exact .refl _
    | retiring hreaches hretires =>
      rw [hreaches, hretires] at h
      obtain (h | h) | h := h
      · cases h
      · exact settledIn_same hown h.2
      · cases h.1
    | stopped hreaches hretires hkills =>
      rw [hreaches, hretires, hkills] at h
      obtain (h | h) | h := h
      · cases h
      · cases h.1
      · cases h.2
    | thrown => exact .refl _

end Commands

/-! ## The answers that are remembered -/

section Remembered

variable {R : RuntimeRules} {executor : WasmSupervisorExecutor} {answers : RuntimeAnswers}
  {command : ExecutionCommand}

open WasmSupervisorExecutor

/-- What executing a command comes to: a remembered answer, or the effects of the command, whose answer is
remembered from then on. -/
inductive Executed (R : RuntimeRules) (executor : WasmSupervisorExecutor) (answers : RuntimeAnswers)
    (command : ExecutionCommand) : WasmSupervisorExecutor → Option WasmExecutionOutcome → Prop
  | remembered (outcome : WasmExecutionOutcome)
      (h : executor.fence.findAppliedOutcome (R.commandDigest command) = some outcome) :
      Executed R executor answers command executor (some outcome)
  | failed (hnone : executor.fence.findAppliedOutcome (R.commandDigest command) = none) :
      Executed R executor answers command (executor.perform answers command).1 none
  | answered (hnone : executor.fence.findAppliedOutcome (R.commandDigest command) = none)
      (outcome : WasmExecutionOutcome) :
      Executed R executor answers command
        { (executor.perform answers command).1 with
          fence := (executor.perform answers command).1.fence.recordAppliedOutcome
            (R.commandDigest command) outcome } (some outcome)

theorem execute_executed (R : RuntimeRules) (executor : WasmSupervisorExecutor) (answers : RuntimeAnswers)
    (command : ExecutionCommand) :
    Executed R executor answers command (executor.execute R answers command).1
      (executor.execute R answers command).2 := by
  unfold execute
  split
  · rename_i outcome h
    exact .remembered outcome h
  · rename_i hnone
    have hfailed : Executed R executor answers command _ none := .failed hnone
    have hanswered : ∀ outcome, Executed R executor answers command _ (some outcome) := .answered hnone
    revert hfailed hanswered
    obtain ⟨executor', outcome⟩ := executor.perform answers command
    intro hfailed hanswered
    cases outcome with
    | none => exact hfailed
    | some outcome => exact hanswered outcome

theorem perform_remembers (executor : WasmSupervisorExecutor) (answers : RuntimeAnswers)
    (command : ExecutionCommand) (digest : String) :
    (executor.perform answers command).1.fence.findAppliedOutcome digest =
      executor.fence.findAppliedOutcome digest :=
  congrFun (perform_changes executor answers command).remembered digest

/-- Recording an answer leaves the records alone. -/
theorem recordAppliedOutcome_same (fence : WasmExecutionFenceRegistry) (digest : String)
    (outcome : WasmExecutionOutcome) : SameRecords (fence.recordAppliedOutcome digest outcome) fence :=
  ⟨fun _ => rfl, fun _ => rfl⟩

/-- An execution never forgets an answer, and remembers the one it gives. -/
theorem Executed.remembers {executor' : WasmSupervisorExecutor} {outcome : Option WasmExecutionOutcome}
    (h : Executed R executor answers command executor' outcome) :
    (∀ digest before, executor.fence.findAppliedOutcome digest = some before →
        executor'.fence.findAppliedOutcome digest = some before) ∧
      ∀ answer, outcome = some answer →
        executor'.fence.findAppliedOutcome (R.commandDigest command) = some answer := by
  cases h with
  | remembered outcome h => exact ⟨fun _ _ h => h, fun answer hanswer => by cases hanswer; exact h⟩
  | failed =>
    refine ⟨fun digest before hbefore => ?_, fun answer hanswer => nomatch hanswer⟩
    rw [perform_remembers]
    exact hbefore
  | answered hnone outcome =>
    refine ⟨fun digest before hbefore => ?_, fun answer hanswer => ?_⟩
    · have hne : digest ≠ R.commandDigest command := fun heq => by
        rw [← heq, hbefore] at hnone
        cases hnone
      refine (Function.update_of_ne hne _ _).trans ?_
      exact (perform_remembers executor answers command digest).trans hbefore
    · cases hanswer
      exact Function.update_self _ _ _

end Remembered

/-! ## Runs -/

section Runs

open WasmSupervisorExecutor

variable {S : SupervisorRules} {env : CommandReceivedV1 → DrainEnvironment}

theorem draftAcknowledgement_answer {command : ExecutionCommand} {outcome : WasmExecutionOutcome}
    {revision : Nat} {acknowledgement : ExecutionAcknowledgement}
    (h : draftAcknowledgement S command outcome revision = some acknowledgement) :
    acknowledgement.result = outcome.result ∧ acknowledgement.failureCode = outcome.failureCode := by
  unfold draftAcknowledgement at h
  split at h
  · cases h
  · dsimp only at h
    split at h
    · cases h
      exact ⟨rfl, rfl⟩
    · cases h

/-- The end of a delivery keeps the journal, or stores the executor's answer under the command's digest. -/
theorem resumeDelivery_answer (S : SupervisorRules) (journal : WasmExecutionJournalFileV1)
    (received : CommandReceivedV1) (commandDigest : String) (outcome : Option WasmExecutionOutcome)
    (completedAt : String) :
    (resumeDelivery S journal received commandDigest outcome completedAt).1 = journal ∨
      ∃ entry answer, outcome = some answer ∧ journal.findCompleted entry.commandId = none ∧
        entry.commandDigest = commandDigest ∧ entry.acknowledgement.result = answer.result ∧
        entry.acknowledgement.failureCode = answer.failureCode ∧
        (resumeDelivery S journal received commandDigest outcome completedAt).1 =
          ⟨journal.journalRevision + 1, journal.entries ++ [.completed entry]⟩ := by
  unfold resumeDelivery
  split
  · exact .inl rfl
  · rename_i answer
    split
    · exact .inl rfl
    · dsimp only
      split
      · exact .inl rfl
      · rename_i happended
        unfold WasmExecutionJournalFileV1.appendCompleted at happended
        split at happended
        · cases happended
          exact .inl rfl
        · rename_i hcompleted
          split at happended
          · cases happended
          · split at happended
            · cases happended
            · dsimp only at happended
              split at happended
              · cases happended
              · rename_i acknowledgement hbuild
                split at hbuild
                · cases hbuild
                · rename_i drafted hdraft
                  cases hbuild
                  obtain ⟨hresult, hfailure⟩ := draftAcknowledgement_answer hdraft
                  split at happended
                  · cases happended
                    exact .inr ⟨_, answer, rfl, hcompleted, rfl, hresult, hfailure, rfl⟩
                  · cases happended

/-- A rebuilt executor agrees with the live one. -/
structure RebuildAgrees (env : CommandReceivedV1 → DrainEnvironment) (world : SupervisorWorld)
    (rebuilt : WasmSupervisorExecutor) : Prop where
  replayed : rebuild env world.journal = some rebuilt
  same : SameRecords rebuilt.fence world.executor.fence
  indexes : rebuilt.listenIndexes = world.startIndexes
  remembered : ∀ entry, .completed entry ∈ world.journal.entries →
    ∃ live stored, world.executor.fence.findAppliedOutcome entry.commandDigest = some live ∧
      rebuilt.fence.findAppliedOutcome entry.commandDigest = some stored ∧
      stored.result = live.result ∧ stored.failureCode = live.failureCode

theorem rebuild_append (journal : WasmExecutionJournalFileV1) (revision : Nat)
    (entry : WasmExecutionJournalEntryV1) :
    rebuild env ⟨revision, journal.entries ++ [entry]⟩ =
      (rebuild env journal).bind fun rebuilt => rebuilt.replayEntry env entry := by
  unfold rebuild
  rw [List.foldlM_append]
  refine congrArg _ (funext fun rebuilt => ?_)
  simp

/-- The replay of a received entry touches no remembered answer. -/
theorem replayEntry_remembers {rebuilt rebuilt' : WasmSupervisorExecutor} {entry : CommandReceivedV1}
    (h : rebuilt.replayEntry env (.received entry) = some rebuilt') (digest : String) :
    rebuilt'.fence.findAppliedOutcome digest = rebuilt.fence.findAppliedOutcome digest := by
  have hchanges := (decide_decision (env entry) rebuilt.fence entry.command).changes
  unfold replayEntry at h
  dsimp only at h
  split at h
  · cases h
  · rename_i fence outcome hdecide
    rw [hdecide] at hchanges
    split at h
    · split at h
      · cases h
      · cases h
        exact congrFun (hchanges.annotateSpawn _ _ _).remembered digest
    · cases h
      exact congrFun hchanges.remembered digest

/-- The end of a delivery keeps the agreement, if the live executor remembers the answer. -/
theorem RebuildAgrees.resumed {world : SupervisorWorld} {rebuilt : WasmSupervisorExecutor}
    (h : RebuildAgrees env world rebuilt) (hinv : JournalInv S world.journal) (received : CommandReceivedV1)
    (commandDigest : String) (outcome : Option WasmExecutionOutcome) (completedAt : String)
    (hremembered : ∀ answer, outcome = some answer →
      world.executor.fence.findAppliedOutcome commandDigest = some answer) :
    let journal := (resumeDelivery S world.journal received commandDigest outcome completedAt).1
    JournalInv S journal ∧ ∃ rebuilt', RebuildAgrees env { world with journal := journal } rebuilt' := by
  intro journal
  obtain hkept | ⟨entry, answer, rfl, hnone, rfl, hresult, hfailure, hjournal⟩ :=
    resumeDelivery_answer S world.journal received commandDigest outcome completedAt
  · rw [show journal = world.journal from hkept]
    exact ⟨hinv, rebuilt, h⟩
  · have hlive := hremembered answer rfl
    rw [show journal = _ from hjournal]
    refine ⟨(JournalStep.completed entry hnone).inv hinv,
      ⟨rebuilt.fence.recordAppliedOutcome entry.commandDigest
        ⟨entry.acknowledgement.result, entry.acknowledgement.failureCode, none⟩, rebuilt.listenIndexes⟩,
      ?_, ?_, h.indexes, ?_⟩
    · rw [rebuild_append, h.replayed]
      rfl
    · exact (recordAppliedOutcome_same _ _ _).trans h.same
    · intro entry' hentry'
      by_cases hdigest : entry'.commandDigest = entry.commandDigest
      · refine ⟨answer, ⟨entry.acknowledgement.result, entry.acknowledgement.failureCode, none⟩,
          hdigest ▸ hlive, ?_, hresult, hfailure⟩
        rw [hdigest]
        exact Function.update_self _ _ _
      · rcases List.mem_append.mp hentry' with hold | hnew
        · obtain ⟨live, stored, hfound, hstored, hanswers⟩ := h.remembered entry' hold
          exact ⟨live, stored, hfound, (Function.update_of_ne hdigest _ _).trans hstored, hanswers⟩
        · rw [List.mem_singleton] at hnew
          cases hnew
          exact absurd rfl hdigest

/-- The invariant of a run: the journal is in order, and a restart rebuilds the executor. -/
structure SupervisorInv (S : SupervisorRules) (env : CommandReceivedV1 → DrainEnvironment)
    (world : SupervisorWorld) : Prop where
  journal : JournalInv S world.journal
  own : RecordsOwn world.executor.fence
  rebuilds : ∃ rebuilt, RebuildAgrees env world rebuilt

theorem supervisorInv_start : SupervisorInv S env .start := by
  refine ⟨journalInv_empty, recordsOwn_empty, .empty, rfl, .refl _, rfl, ?_⟩
  intro entry hentry
  cases hentry

/-- An execution changes the records as its effects do, or not at all. -/
theorem Executed.own {R : RuntimeRules} {executor executor' : WasmSupervisorExecutor}
    {answers : RuntimeAnswers} {command : ExecutionCommand} {outcome : Option WasmExecutionOutcome}
    (h : Executed R executor answers command executor' outcome) (hown : RecordsOwn executor.fence) :
    RecordsOwn executor'.fence := by
  have hperformed := (perform_changes executor answers command).own hown
  cases h with
  | remembered => exact hown
  | failed => exact hperformed
  | answered => exact ⟨hperformed.current, hperformed.accepted⟩

/-- An execution whose command was not remembered leaves the records its effects leave. -/
theorem Executed.same {R : RuntimeRules} {executor executor' : WasmSupervisorExecutor}
    {answers : RuntimeAnswers} {command : ExecutionCommand} {outcome : Option WasmExecutionOutcome}
    (h : Executed R executor answers command executor' outcome)
    (hnone : executor.fence.findAppliedOutcome (R.commandDigest command) = none) :
    SameRecords executor'.fence (executor.perform answers command).1.fence := by
  cases h with
  | remembered outcome h => rw [h] at hnone; cases hnone
  | failed => exact .refl _
  | answered => exact recordAppliedOutcome_same _ _ _

/-- A live answer given before is still remembered after an execution. -/
theorem RebuildAgrees.executed {world : SupervisorWorld} {rebuilt rebuilt' : WasmSupervisorExecutor}
    (h : RebuildAgrees env world rebuilt) {R : RuntimeRules} {answers : RuntimeAnswers}
    {command : ExecutionCommand} {executor : WasmSupervisorExecutor} {outcome : Option WasmExecutionOutcome}
    (hexecuted : Executed R world.executor answers command executor outcome)
    (hstored : ∀ digest, rebuilt'.fence.findAppliedOutcome digest = rebuilt.fence.findAppliedOutcome digest)
    (entry : CommandCompletedV1) (hentry : .completed entry ∈ world.journal.entries) :
    ∃ live stored, executor.fence.findAppliedOutcome entry.commandDigest = some live ∧
      rebuilt'.fence.findAppliedOutcome entry.commandDigest = some stored ∧
      stored.result = live.result ∧ stored.failureCode = live.failureCode := by
  obtain ⟨live, stored, hlive, hfound, hanswers⟩ := h.remembered entry hentry
  exact ⟨live, stored, hexecuted.remembers.1 _ _ hlive, (hstored _).trans hfound, hanswers⟩

/-- One envelope keeps the invariant if a replay repeats what its command does. -/
theorem SupervisorInv.handle {world : SupervisorWorld} (hinv : SupervisorInv S env world)
    {envelope : HandledEnvelope} (h : world.replayable S env envelope = true) :
    SupervisorInv S env (world.handle S envelope) := by
  obtain ⟨hjournal, hown, rebuilt, hrebuilds⟩ := hinv
  unfold SupervisorWorld.replayable at h
  unfold SupervisorWorld.handle
  have hdelivery := performDelivery_outcome S world.journal envelope.command envelope.mode envelope.receivedAt
  revert h hdelivery
  generalize performDelivery S world.journal envelope.command envelope.mode envelope.receivedAt = delivered
  obtain ⟨journal, state⟩ := delivered
  intro h hdelivery
  cases hdelivery with
  | settled result => exact ⟨hjournal, hown, rebuilt, hrebuilds⟩
  | resumed received hreceived hcompleted hdigest =>
    dsimp only at h ⊢
    obtain ⟨-, hid, hdigests⟩ := hjournal.own _ _ (WasmExecutionJournalFileV1.findReceived_mem hreceived)
    have hold : world.isNew received.command = false := by
      unfold SupervisorWorld.isNew
      rw [hid, hreceived]
      rfl
    have hexecuted := execute_executed S.toRuntimeRules world.executor envelope.answers received.command
    have hstart : world.startIndexesAfter received.command = world.startIndexes :=
      if_neg fun hall => by rw [hold] at hall; cases hall.1
    generalize world.executor.execute S.toRuntimeRules envelope.answers received.command = executed at *
    obtain ⟨executor, outcome⟩ := executed
    dsimp only at hexecuted ⊢
    have hsame : SameRecords executor.fence world.executor.fence := by
      cases hmemory : world.executor.fence.findAppliedOutcome (S.commandDigest received.command) with
      | some answer =>
        cases hexecuted with
        | remembered => exact .refl _
        | failed hnone => rw [hmemory] at hnone; cases hnone
        | answered hnone => rw [hmemory] at hnone; cases hnone
      | none =>
        rw [hmemory, hold] at h
        exact (hexecuted.same hmemory).trans (repeatsNothing_same hown h)
    have hagrees : RebuildAgrees env ⟨world.journal, executor, world.startIndexesAfter received.command⟩ rebuilt :=
      ⟨hrebuilds.replayed, hrebuilds.same.trans hsame.symm, hrebuilds.indexes.trans hstart.symm,
        hrebuilds.executed hexecuted fun _ => rfl⟩
    obtain ⟨hjournal', hrebuilds'⟩ := hagrees.resumed hjournal received (S.commandDigest envelope.command)
      outcome envelope.completedAt fun answer hanswer => by
        rw [← hdigest, hdigests]
        exact hexecuted.remembers.2 answer hanswer
    exact ⟨hjournal', hexecuted.own hown, hrebuilds'⟩
  | received receivedAt hreceived hcompleted =>
    dsimp only at h ⊢
    have hnew : world.isNew envelope.command = true := by
      unfold SupervisorWorld.isNew
      rw [hreceived]
      rfl
    generalize hentry : receivedEntry S world.journal.journalRevision envelope.command receivedAt = entry at *
    have hcommand : entry.command = envelope.command := by rw [← hentry]; rfl
    have hid : entry.commandId = entry.command.commandId := by rw [← hentry]; rfl
    have hjournal := (JournalStep.received envelope.command receivedAt hreceived hcompleted).inv hjournal
    rw [hentry] at hjournal
    have hexecuted := execute_executed S.toRuntimeRules world.executor envelope.answers entry.command
    generalize world.executor.execute S.toRuntimeRules envelope.answers entry.command = executed at *
    obtain ⟨executor, outcome⟩ := executed
    dsimp only at hexecuted ⊢
    rw [hcommand] at h
    rw [hnew] at h
    -- the answer to a command that is new to the journal is not remembered
    cases hmemory : world.executor.fence.findAppliedOutcome (S.commandDigest envelope.command) with
    | some answer => rw [hmemory] at h; cases h
    | none =>
      rw [hmemory] at h
      rw [← hcommand] at h hnew hmemory
      obtain ⟨rebuilt', hreplayed, hsame, hindexes⟩ :=
        replaysFirst_rebuilds hown hrebuilds.same hrebuilds.indexes hnew hid h
      have hagrees : RebuildAgrees env ⟨⟨world.journal.journalRevision + 1, world.journal.entries ++
          [.received entry]⟩, executor, world.startIndexesAfter entry.command⟩ rebuilt' := by
        refine ⟨?_, hsame.trans (hexecuted.same hmemory).symm, hindexes, fun completed hcompleted => ?_⟩
        · rw [rebuild_append, hrebuilds.replayed]
          exact hreplayed
        · refine hrebuilds.executed hexecuted (replayEntry_remembers hreplayed) completed ?_
          rcases List.mem_append.mp hcompleted with hold | hnew
          · exact hold
          · rw [List.mem_singleton] at hnew
            cases hnew
      obtain ⟨hjournal', hrebuilds'⟩ := hagrees.resumed hjournal entry (S.commandDigest envelope.command)
        outcome envelope.completedAt fun answer hanswer => by
          rw [← hcommand]
          exact hexecuted.remembers.2 answer hanswer
      exact ⟨hjournal', hexecuted.own hown, hrebuilds'⟩

/-- The supervisor after a list of envelopes. -/
def SupervisorWorld.after (S : SupervisorRules) (envelopes : List HandledEnvelope) : SupervisorWorld :=
  run (SupervisorWorld.handle S) .start envelopes

/-- What an accepted execution comes back as: its substate, the start that spawned it and its listen
index. -/
def WasmAcceptedExecutionRecord.spawned (record : WasmAcceptedExecutionRecord) :
    WasmExecutionSubstate × Option String × Option Nat :=
  (record.substate, record.spawnCommandId, record.listenIndex)

/-- A new executor from the journal has the current tuples, the accepted tuples and the remembered answers
of the live one. -/
def RestartRebuilds (env : CommandReceivedV1 → DrainEnvironment) (world : SupervisorWorld) : Prop :=
  ∃ rebuilt, rebuild env world.journal = some rebuilt ∧
    (∀ sandboxId, (rebuilt.fence.current sandboxId).map WasmAcceptedExecutionRecord.identity =
      (world.executor.fence.current sandboxId).map WasmAcceptedExecutionRecord.identity) ∧
    (∀ identity, (rebuilt.fence.findByIdentity identity).map WasmAcceptedExecutionRecord.spawned =
      (world.executor.fence.findByIdentity identity).map WasmAcceptedExecutionRecord.spawned) ∧
    ∀ entry, .completed entry ∈ world.journal.entries →
      ∃ live stored, world.executor.fence.findAppliedOutcome entry.commandDigest = some live ∧
        rebuilt.fence.findAppliedOutcome entry.commandDigest = some stored ∧
        stored.result = live.result ∧ stored.failureCode = live.failureCode

/-- Facts that do not look at what is observed are the same for records that agree. -/
theorem map_of_seen {α : Type} {found found' : Option WasmAcceptedExecutionRecord}
    (h : found.map seen = found'.map seen) {facts : WasmAcceptedExecutionRecord → α}
    (hfacts : ∀ record, facts record.seen = facts record) : found.map facts = found'.map facts := by
  obtain ⟨rfl, rfl⟩ | ⟨record, record', rfl, rfl, hseen⟩ := same_cases h
  · rfl
  · refine congrArg some ?_
    rw [← hfacts record, ← hfacts record', hseen]

theorem SupervisorInv.restart {world : SupervisorWorld} (hinv : SupervisorInv S env world) :
    RestartRebuilds env world := by
  obtain ⟨rebuilt, h⟩ := hinv.rebuilds
  exact ⟨rebuilt, h.replayed, fun sandboxId => map_of_seen (h.same.current sandboxId) fun _ => rfl,
    fun identity => map_of_seen (h.same.accepted identity) fun _ => rfl, h.remembered⟩

/-- In a run whose every envelope leaves what a replay leaves, a restart rebuilds the executor. -/
theorem restart_rebuilds_replayable (S : SupervisorRules) (env : CommandReceivedV1 → DrainEnvironment)
    (envelopes : List HandledEnvelope)
    (h : Along (SupervisorWorld.handle S)
      (fun world envelope => world.replayable S env envelope = true) .start envelopes) :
    ∀ earlier, earlier <+: envelopes → RestartRebuilds env (SupervisorWorld.after S earlier) := by
  rintro earlier ⟨later, rfl⟩
  obtain ⟨h, -⟩ := along_append.mp h
  exact (h.invariant (fun _ _ hreplayable hinv => hinv.handle hreplayable) supervisorInv_start).restart

end Runs

section Vectors

open Vectors

/-- Every port is configured and does what it is asked for. -/
def workingPorts : RuntimeAnswers where
  spawnConfigured := true
  policy := some (.resolved true "")
  specError := none
  materializeError := none
  relay := some (.held .accepted .missing)
  spawn := .done
  ingressStart := .done
  readiness := some .adopted
  removeSandbox := .done
  discard := .done
  ingressStop := .done
  stopExecution := .stopped
  drain := drainEnvironment fun _ => some (retirement 3 (execution 1 1 2))

/-- The commands of a test in order, each for the journal its predecessors leave when all are completed. -/
def handled (position : Nat) : List (WasmExecutionOperation × WasmExecutionIdentityV1 × RuntimeAnswers) →
    List HandledEnvelope
  | [] => []
  | (operation, identity, answers) :: rest =>
    { command := { executionCommand (position + 1) operation identity with
        expectedJournalRevision := 2 * position }
      mode := .command
      receivedAt := "2026-08-26T00:00:00.000Z"
      answers := answers
      completedAt := "2026-08-26T00:00:00.000Z" } :: handled (position + 1) rest

/-- A replay a day after the drains, which finds the same retiring records. -/
def dayLater (_ : CommandReceivedV1) : DrainEnvironment :=
  { workingPorts.drain with now := "2026-08-27T00:00:00.000Z", nowMillis := some 1787788800000 }

/-- A version whose component is not there when it is prepared, and which is started and stopped. -/
def unmaterialized : List HandledEnvelope :=
  handled 0
    [(.prepare, execution 1 1 1, { workingPorts with materializeError := some "WASM_COMPONENT_MATERIALIZE_FAILED" }),
      (.start, execution 1 1 2, workingPorts), (.stop, execution 1 1 2, workingPorts)]

theorem restart_rebuilds_replayable_unmaterialized :
    RestartRebuilds dayLater (SupervisorWorld.after supervisorRules unmaterialized) ∧
      (SupervisorWorld.after supervisorRules unmaterialized).journal.entries.length = 6 :=
  ⟨restart_rebuilds_replayable supervisorRules dayLater unmaterialized (by decide +kernel) unmaterialized
    (List.prefix_refl _), by decide +kernel⟩

/-- A prepare. -/
def preparedOnly : List HandledEnvelope := handled 0 [(.prepare, execution 1 1 1, workingPorts)]

/-- A start whose process cannot be spawned. -/
def unspawned : List HandledEnvelope :=
  handled 0 [(.prepare, execution 1 1 1, workingPorts),
    (.start, execution 1 1 2, { workingPorts with spawn := .runtimeFailure })]

/-- An execution that stopped in time when it was drained. -/
def drainedInTime : List HandledEnvelope :=
  handled 0 [(.prepare, execution 1 1 1, workingPorts), (.start, execution 1 1 2, workingPorts),
    (.drain, execution 1 1 2, workingPorts)]

/-- The live record of a tuple and the one a restart a day later rebuilds. -/
def liveAndRebuilt (envelopes : List HandledEnvelope) (identity : WasmExecutionIdentityV1) :
    Option (WasmExecutionSubstate × Option String × Option Nat) ×
      Option (WasmExecutionSubstate × Option String × Option Nat) :=
  let world := SupervisorWorld.after supervisorRules envelopes
  ((world.executor.fence.findByIdentity identity).map WasmAcceptedExecutionRecord.spawned,
    ((WasmSupervisorExecutor.rebuild dayLater world.journal).bind fun rebuilt =>
      rebuilt.fence.findByIdentity identity).map WasmAcceptedExecutionRecord.spawned)

theorem RestartRebuilds.liveAndRebuilt {envelopes : List HandledEnvelope}
    (h : RestartRebuilds dayLater (SupervisorWorld.after supervisorRules envelopes))
    (identity : WasmExecutionIdentityV1) :
    (liveAndRebuilt envelopes identity).2 = (liveAndRebuilt envelopes identity).1 := by
  obtain ⟨rebuilt, hrebuilt, -, hspawned, -⟩ := h
  unfold Iweb.liveAndRebuilt
  dsimp only
  rw [hrebuilt]
  exact hspawned identity

/-- A successful prepare, a start whose side effects fail, and a drain that ended in time come back as other
records. -/
theorem restart_rebuilds_fails :
    (∀ envelope ∈ preparedOnly ++ unspawned ++ drainedInTime,
      validateExecutionCommand envelope.command = .ok ()) ∧
    ¬ RestartRebuilds dayLater (SupervisorWorld.after supervisorRules preparedOnly) ∧
    ¬ RestartRebuilds dayLater (SupervisorWorld.after supervisorRules unspawned) ∧
    ¬ RestartRebuilds dayLater (SupervisorWorld.after supervisorRules drainedInTime) := by
  refine ⟨by decide +kernel, ?_, ?_, ?_⟩
  · intro h
    have hrestarted : liveAndRebuilt preparedOnly (execution 1 1 1) =
        (some (.prepared, none, some 0), some (.prepared, none, none)) := by decide +kernel
    have h := h.liveAndRebuilt (execution 1 1 1)
    rw [hrestarted] at h
    cases h
  · intro h
    have hrestarted : liveAndRebuilt unspawned (execution 1 1 2) =
        (some (.running, none, none), some (.running, some (commandId 2), some 0)) := by decide +kernel
    have h := h.liveAndRebuilt (execution 1 1 2)
    rw [hrestarted] at h
    cases h
  · intro h
    have hrestarted : liveAndRebuilt drainedInTime (execution 1 1 2) =
        (some (.retiring, some (commandId 2), some 0), some (.stopped, some (commandId 2), some 0)) := by
      decide +kernel
    have h := h.liveAndRebuilt (execution 1 1 2)
    rw [hrestarted] at h
    cases h

end Vectors

end Iweb
