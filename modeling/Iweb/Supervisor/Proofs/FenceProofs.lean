import Iweb.Supervisor.Vectors

/-!
# The dual-generation fence over command histories

Every decision keeps the registry, adopts the command's tuple, or changes the substate of an accepted
tuple. The invariant says that the current record of a sandbox is the record of its tuple, that every
accepted tuple of the sandbox is at most the current one in both generations, and that two accepted
tuples of a sandbox differ in a generation.
-/

namespace Iweb

open CrashRefinement

/-! ## What a decision does -/

/-- What a decision may make of the registry and answer. -/
inductive FenceDecision (fence : WasmExecutionFenceRegistry) (command : ExecutionCommand) :
    WasmExecutionFenceRegistry → Option WasmExecutionOutcome → Prop
  | kept (outcome : Option WasmExecutionOutcome) : FenceDecision fence command fence outcome
  | prepared (hop : command.operation = .prepare)
      (hhigher : ∀ current, fence.current command.identity.sandboxId = some current →
        current.identity.preparationGeneration ≤ command.identity.preparationGeneration ∧
        current.identity.executionGeneration ≤ command.identity.executionGeneration ∧
        (current.identity.preparationGeneration < command.identity.preparationGeneration ∨
          current.identity.executionGeneration < command.identity.executionGeneration)) :
      FenceDecision fence command (fence.adopt command .prepared) (some .applied)
  | restarted (hop : command.operation = .start) (halive : isAliveExecutionIdentity command.identity = true)
      (current : WasmAcceptedExecutionRecord)
      (hcurrent : fence.current command.identity.sandboxId = some current)
      (hother : current.identity ≠ command.identity)
      (hp : current.identity.preparationGeneration ≤ command.identity.preparationGeneration)
      (he : current.identity.executionGeneration ≤ command.identity.executionGeneration) :
      FenceDecision fence command (fence.adopt command .running) (some .applied)
  | started (hop : command.operation = .start) (halive : isAliveExecutionIdentity command.identity = true)
      (current : WasmAcceptedExecutionRecord)
      (hcurrent : fence.current command.identity.sandboxId = some current)
      (hsame : current.identity = command.identity)
      (hmatch : matchesRecordedFenceFields current command = true) :
      FenceDecision fence command (fence.updateSubstate command.identity .running) (some .applied)
  | drained (hop : command.operation = .drain) (target : WasmAcceptedExecutionRecord)
      (htarget : fence.findByIdentity command.identity = some target)
      (hmatch : matchesRecordedFenceFields target command = true) (hlive : target.substate ≠ .stopped)
      (substate : WasmExecutionSubstate) (hsubstate : substate = .retiring ∨ substate = .stopped)
      (outcome : Option WasmExecutionOutcome) :
      FenceDecision fence command (fence.updateSubstate command.identity substate) outcome
  | stopped (hop : command.operation = .stop) (target : WasmAcceptedExecutionRecord)
      (htarget : fence.findByIdentity command.identity = some target)
      (hmatch : matchesRecordedFenceFields target command = true) :
      FenceDecision fence command (fence.updateSubstate command.identity .stopped) (some .applied)

namespace WasmExecutionFenceRegistry

variable {R : RuntimeRules} {env : DrainEnvironment} {fence : WasmExecutionFenceRegistry}
  {command : ExecutionCommand}

theorem decidePrepare_decision (hop : command.operation = .prepare) :
    FenceDecision fence command (fence.decidePrepare command).1 (some (fence.decidePrepare command).2) := by
  unfold decidePrepare
  split
  · rename_i hnone
    exact .prepared hop fun current hcurrent => by rw [hnone] at hcurrent; cases hcurrent
  · rename_i current hcurrent
    split
    · exact .kept _
    · dsimp only
      split
      · exact .kept _
      · rename_i hfresh
        refine .prepared hop fun current' hcurrent' => ?_
        rw [hcurrent] at hcurrent'
        cases hcurrent'
        omega

theorem decideStart_decision (hop : command.operation = .start) :
    FenceDecision fence command (fence.decideStart command).1 (some (fence.decideStart command).2) := by
  unfold decideStart
  split
  · exact .kept _
  · rename_i halive
    have halive : isAliveExecutionIdentity command.identity = true := by simpa using halive
    split
    · exact .kept _
    · rename_i current hcurrent
      split
      · rename_i hsame
        split
        · exact .kept _
        · rename_i hmatch
          have hmatch : matchesRecordedFenceFields current command = true := by simpa using hmatch
          split
          · exact .kept _
          · exact .started hop halive current hcurrent hsame hmatch
      · rename_i hother
        split
        · rename_i hle
          exact .restarted hop halive current hcurrent hother hle.1 hle.2
        · exact .kept _

/-- A drain that fails its first tests keeps the registry; every other failure leaves the tuple
retiring. -/
theorem drainPreflight_decision (env : DrainEnvironment) (fence : WasmExecutionFenceRegistry)
    (hop : command.operation = .drain) :
    (∃ outcome, (fence.drainPreflight env command).2 = .failed outcome ∧
      FenceDecision fence command (fence.drainPreflight env command).1 (some outcome)) ∨
    ∃ retirement target, fence.drainPreflight env command = (fence, .passed retirement) ∧
      fence.findByIdentity command.identity = some target ∧
      matchesRecordedFenceFields target command = true ∧ target.substate ≠ .stopped := by
  unfold drainPreflight
  split
  · exact .inl ⟨_, rfl, .kept _⟩
  · rename_i target htarget
    split
    · exact .inl ⟨_, rfl, .kept _⟩
    · rename_i hmatch
      have hmatch : matchesRecordedFenceFields target command = true := by simpa using hmatch
      split
      · exact .inl ⟨_, rfl, .kept _⟩
      · rename_i hlive
        split
        · exact .inl ⟨_, rfl, .drained hop target htarget hmatch hlive _ (.inl rfl) _⟩
        · split
          · exact .inl ⟨_, rfl, .drained hop target htarget hmatch hlive _ (.inl rfl) _⟩
          · exact .inr ⟨_, target, rfl, htarget, hmatch, hlive⟩

theorem decideDrain_decision (hop : command.operation = .drain) :
    FenceDecision fence command (fence.decideDrain env command).1 (fence.decideDrain env command).2 := by
  unfold decideDrain
  obtain ⟨outcome, hfailed, hdecision⟩ | ⟨retirement, target, hpassed, htarget, hmatch, hlive⟩ :=
    drainPreflight_decision env fence hop
  · cases hpreflight : fence.drainPreflight env command with
    | mk fence' preflight =>
      rw [hpreflight] at hfailed hdecision
      dsimp only at hfailed hdecision
      rw [hfailed]
      exact hdecision
  · rw [hpassed]
    dsimp only
    split
    · split
      · exact .kept _
      · split
        · exact .drained hop target htarget hmatch hlive _ (.inl rfl) _
        · exact .drained hop target htarget hmatch hlive _ (.inr rfl) _
    · exact .drained hop target htarget hmatch hlive _ (.inl rfl) _

theorem decideStop_decision (hop : command.operation = .stop) :
    FenceDecision fence command (fence.decideStop command).1 (some (fence.decideStop command).2) := by
  unfold decideStop
  split
  · exact .kept _
  · rename_i target htarget
    split
    · exact .kept _
    · rename_i hmatch
      exact .stopped hop target htarget (by simpa using hmatch)

/-- A decision keeps the registry, adopts the tuple or changes the substate of an accepted tuple. -/
theorem decide_decision (env : DrainEnvironment) (fence : WasmExecutionFenceRegistry)
    (command : ExecutionCommand) :
    FenceDecision fence command (fence.decide env command).1 (fence.decide env command).2 := by
  unfold WasmExecutionFenceRegistry.decide
  split
  · rename_i hop; exact decidePrepare_decision hop
  · rename_i hop; exact decideStart_decision hop
  · rename_i hop; exact decideDrain_decision hop
  · rename_i hop; exact decideStop_decision hop

/-! ## The two maps after a change -/

theorem adopt_current (substate : WasmExecutionSubstate) (sandboxId : String) :
    (fence.adopt command substate).current sandboxId =
      if sandboxId = command.identity.sandboxId then some (adoptedRecord command substate)
      else fence.current sandboxId := by
  simp [adopt, current, Function.update_apply]

theorem adopt_findByIdentity (substate : WasmExecutionSubstate) (identity : WasmExecutionIdentityV1) :
    (fence.adopt command substate).findByIdentity identity =
      if identity = command.identity then some (adoptedRecord command substate)
      else fence.findByIdentity identity := by
  simp [adopt, findByIdentity, Function.update_apply]

theorem syncCurrentIfNotNewer_findByIdentity (identity : WasmExecutionIdentityV1)
    (next : WasmAcceptedExecutionRecord) :
    (fence.syncCurrentIfNotNewer identity next).findByIdentity = fence.findByIdentity := by
  unfold syncCurrentIfNotNewer
  split
  · rfl
  · split <;> rfl

variable {identity : WasmExecutionIdentityV1}
  {change : WasmAcceptedExecutionRecord → WasmAcceptedExecutionRecord}
  {record current : WasmAcceptedExecutionRecord}

theorem modify_findByIdentity (change : WasmAcceptedExecutionRecord → WasmAcceptedExecutionRecord)
    (hrecord : fence.findByIdentity identity = some record) (other : WasmExecutionIdentityV1) :
    (fence.modify identity change).findByIdentity other =
      if other = identity then some (change record) else fence.findByIdentity other := by
  have hrecord : fence.acceptedByIdentity identity = some record := hrecord
  unfold modify
  rw [hrecord]
  dsimp only
  rw [syncCurrentIfNotNewer_findByIdentity]
  simp [findByIdentity, Function.update_apply]

/-- The record of the current execution of a sandbox takes its current place along. -/
theorem modify_current (hrecord : fence.findByIdentity identity = some record)
    (hcurrent : fence.current identity.sandboxId = some current)
    (hle : current.identity.executionGeneration ≤ identity.executionGeneration) (sandboxId : String) :
    (fence.modify identity change).current sandboxId =
      if sandboxId = identity.sandboxId then some (change record) else fence.current sandboxId := by
  have hrecord : fence.acceptedByIdentity identity = some record := hrecord
  have hcurrent : fence.currentBySandbox identity.sandboxId = some current := hcurrent
  simp only [modify, hrecord, syncCurrentIfNotNewer, hcurrent, if_pos hle]
  simp [WasmExecutionFenceRegistry.current, Function.update_apply]

/-- A record with a lower execution generation than the current one leaves the current one alone. -/
theorem modify_current_of_lower (hrecord : fence.findByIdentity identity = some record)
    (hcurrent : fence.current identity.sandboxId = some current)
    (hlt : identity.executionGeneration < current.identity.executionGeneration) :
    (fence.modify identity change).current = fence.current := by
  have hrecord : fence.acceptedByIdentity identity = some record := hrecord
  have hcurrent : fence.currentBySandbox identity.sandboxId = some current := hcurrent
  simp only [modify, hrecord, syncCurrentIfNotNewer, hcurrent, if_neg (Nat.not_le.mpr hlt)]
  rfl

end WasmExecutionFenceRegistry

/-! ## The invariant -/

/-- The invariant of the two maps. -/
structure FenceInv (fence : WasmExecutionFenceRegistry) : Prop where
  current : ∀ sandboxId record, fence.current sandboxId = some record →
    record.identity.sandboxId = sandboxId ∧ fence.findByIdentity record.identity = some record
  accepted : ∀ identity record, fence.findByIdentity identity = some record →
    record.identity = identity ∧ ∃ current, fence.current identity.sandboxId = some current ∧
      identity.preparationGeneration ≤ current.identity.preparationGeneration ∧
      identity.executionGeneration ≤ current.identity.executionGeneration
  distinct : ∀ first second firstRecord secondRecord,
    fence.findByIdentity first = some firstRecord → fence.findByIdentity second = some secondRecord →
    first.sandboxId = second.sandboxId → first.preparationGeneration = second.preparationGeneration →
    first.executionGeneration = second.executionGeneration → first = second

/-- What no change of the registry may undo: the current tuple never goes back in a generation, accepted
tuples stay accepted and stopped ones stay stopped. -/
structure FenceProgress (fence fence' : WasmExecutionFenceRegistry) : Prop where
  current : ∀ sandboxId before, fence.current sandboxId = some before →
    ∃ after, fence'.current sandboxId = some after ∧
      before.identity.preparationGeneration ≤ after.identity.preparationGeneration ∧
      before.identity.executionGeneration ≤ after.identity.executionGeneration
  accepted : ∀ identity before, fence.findByIdentity identity = some before →
    ∃ after, fence'.findByIdentity identity = some after ∧
      (before.substate = .stopped → after.substate = .stopped)

theorem FenceProgress.refl (fence : WasmExecutionFenceRegistry) : FenceProgress fence fence :=
  ⟨fun _ before h => ⟨before, h, Nat.le_refl _, Nat.le_refl _⟩, fun _ before h => ⟨before, h, fun h => h⟩⟩

theorem FenceProgress.trans {first second third : WasmExecutionFenceRegistry}
    (h : FenceProgress first second) (h' : FenceProgress second third) : FenceProgress first third := by
  constructor
  · intro sandboxId before hbefore
    obtain ⟨between, hbetween, hp, he⟩ := h.current sandboxId before hbefore
    obtain ⟨after, hafter, hp', he'⟩ := h'.current sandboxId between hbetween
    exact ⟨after, hafter, Nat.le_trans hp hp', Nat.le_trans he he'⟩
  · intro identity before hbefore
    obtain ⟨between, hbetween, hstopped⟩ := h.accepted identity before hbefore
    obtain ⟨after, hafter, hstopped'⟩ := h'.accepted identity between hbetween
    exact ⟨after, hafter, fun hbefore => hstopped' (hstopped hbefore)⟩

theorem fenceInv_empty : FenceInv .empty := by
  refine ⟨?_, ?_, ?_⟩ <;> intros <;> contradiction

/-- Registries with the same two maps satisfy the same invariant. -/
theorem FenceInv.congr {fence fence' : WasmExecutionFenceRegistry} (hinv : FenceInv fence)
    (hcurrent : fence'.current = fence.current) (hfind : fence'.findByIdentity = fence.findByIdentity) :
    FenceInv fence' := by
  refine ⟨?_, ?_, ?_⟩ <;> rw [hfind]
  · rw [hcurrent]; exact hinv.current
  · rw [hcurrent]; exact hinv.accepted
  · exact hinv.distinct

theorem FenceProgress.congr {fence between fence' : WasmExecutionFenceRegistry}
    (hprogress : FenceProgress fence between) (hcurrent : fence'.current = between.current)
    (hfind : fence'.findByIdentity = between.findByIdentity) : FenceProgress fence fence' := by
  refine ⟨?_, ?_⟩
  · rw [hcurrent]; exact hprogress.current
  · rw [hfind]; exact hprogress.accepted

section Changes

variable {fence : WasmExecutionFenceRegistry} {command : ExecutionCommand}

/-- The tuple of a command is above the current one of its sandbox, if there is one. -/
def AboveCurrent (fence : WasmExecutionFenceRegistry) (identity : WasmExecutionIdentityV1) : Prop :=
  ∀ current, fence.current identity.sandboxId = some current →
    current.identity.preparationGeneration ≤ identity.preparationGeneration ∧
    current.identity.executionGeneration ≤ identity.executionGeneration ∧
    (current.identity.preparationGeneration < identity.preparationGeneration ∨
      current.identity.executionGeneration < identity.executionGeneration)

/-- A tuple above the current one differs from every accepted tuple of its sandbox in a generation. -/
theorem FenceInv.above_differs (hinv : FenceInv fence) {identity other : WasmExecutionIdentityV1}
    (habove : AboveCurrent fence identity) {record : WasmAcceptedExecutionRecord}
    (haccepted : fence.findByIdentity other = some record) (hsandbox : other.sandboxId = identity.sandboxId) :
    other.preparationGeneration ≤ identity.preparationGeneration ∧
      other.executionGeneration ≤ identity.executionGeneration ∧
      ¬ (other.preparationGeneration = identity.preparationGeneration ∧
        other.executionGeneration = identity.executionGeneration) := by
  obtain ⟨_, current, hcurrent, hp, he⟩ := hinv.accepted other record haccepted
  rw [hsandbox] at hcurrent
  have := habove current hcurrent
  omega

theorem FenceInv.adopt (hinv : FenceInv fence) (habove : AboveCurrent fence command.identity)
    (substate : WasmExecutionSubstate) : FenceInv (fence.adopt command substate) := by
  have hfresh : ∀ other record, fence.findByIdentity other = some record → other ≠ command.identity := by
    intro other record haccepted heq
    have := hinv.above_differs habove haccepted (by rw [heq])
    rw [heq] at this
    exact this.2.2 ⟨rfl, rfl⟩
  refine ⟨?_, ?_, ?_⟩
  · intro sandboxId record hrecord
    rw [WasmExecutionFenceRegistry.adopt_current] at hrecord
    split at hrecord
    · rename_i hsandbox
      cases hrecord
      refine ⟨hsandbox.symm, ?_⟩
      rw [WasmExecutionFenceRegistry.adopt_findByIdentity]
      exact if_pos rfl
    · obtain ⟨hsandbox, hfind⟩ := hinv.current sandboxId record hrecord
      refine ⟨hsandbox, ?_⟩
      rw [WasmExecutionFenceRegistry.adopt_findByIdentity, if_neg (hfresh _ _ hfind)]
      exact hfind
  · intro identity record hrecord
    rw [WasmExecutionFenceRegistry.adopt_findByIdentity] at hrecord
    rw [WasmExecutionFenceRegistry.adopt_current]
    split at hrecord
    · rename_i hidentity
      cases hrecord
      subst hidentity
      exact ⟨rfl, _, if_pos rfl, Nat.le_refl _, Nat.le_refl _⟩
    · obtain ⟨hkey, current, hcurrent, hp, he⟩ := hinv.accepted identity record hrecord
      refine ⟨hkey, ?_⟩
      by_cases hsandbox : identity.sandboxId = command.identity.sandboxId
      · have := hinv.above_differs habove hrecord hsandbox
        exact ⟨_, if_pos hsandbox, this.1, this.2.1⟩
      · exact ⟨current, by rw [if_neg hsandbox]; exact hcurrent, hp, he⟩
  · intro first second firstRecord secondRecord hfirst hsecond hsandbox hp he
    rw [WasmExecutionFenceRegistry.adopt_findByIdentity] at hfirst hsecond
    split at hfirst <;> split at hsecond
    · rename_i h h'; rw [h, h']
    · rename_i h _
      subst h
      have := hinv.above_differs habove hsecond hsandbox.symm
      omega
    · rename_i _ h
      subst h
      have := hinv.above_differs habove hfirst hsandbox
      omega
    · exact hinv.distinct first second firstRecord secondRecord hfirst hsecond hsandbox hp he

theorem FenceInv.adopt_progress (hinv : FenceInv fence) (habove : AboveCurrent fence command.identity)
    (substate : WasmExecutionSubstate) : FenceProgress fence (fence.adopt command substate) := by
  constructor
  · intro sandboxId before hbefore
    rw [WasmExecutionFenceRegistry.adopt_current]
    by_cases hsandbox : sandboxId = command.identity.sandboxId
    · subst hsandbox
      have := habove before hbefore
      exact ⟨_, if_pos rfl, this.1, this.2.1⟩
    · exact ⟨before, by rw [if_neg hsandbox]; exact hbefore, Nat.le_refl _, Nat.le_refl _⟩
  · intro identity before hbefore
    rw [WasmExecutionFenceRegistry.adopt_findByIdentity]
    by_cases hidentity : identity = command.identity
    · have := hinv.above_differs habove hbefore (by rw [hidentity])
      rw [hidentity] at this
      exact absurd ⟨rfl, rfl⟩ this.2.2
    · exact ⟨before, by rw [if_neg hidentity]; exact hbefore, fun h => h⟩

variable {identity : WasmExecutionIdentityV1}
  {change : WasmAcceptedExecutionRecord → WasmAcceptedExecutionRecord}
  {record : WasmAcceptedExecutionRecord}

/-- The current tuple of the sandbox is the changed one, or it has a higher execution generation. -/
def CurrentOrLower (fence : WasmExecutionFenceRegistry) (identity : WasmExecutionIdentityV1) : Prop :=
  ∀ current, fence.current identity.sandboxId = some current →
    current.identity = identity ∨ identity.executionGeneration < current.identity.executionGeneration

/-- The current records after the change of an accepted record. -/
theorem FenceInv.modify_current (hinv : FenceInv fence)
    (change : WasmAcceptedExecutionRecord → WasmAcceptedExecutionRecord)
    (hrecord : fence.findByIdentity identity = some record) (hlower : CurrentOrLower fence identity)
    (sandboxId : String) :
    (fence.modify identity change).current sandboxId =
      if fence.current sandboxId = some record then some (change record) else fence.current sandboxId := by
  obtain ⟨hkey, current, hcurrent, -⟩ := hinv.accepted identity record hrecord
  rcases hlower current hcurrent with hsame | hlt
  · have hrecord' : fence.findByIdentity current.identity = some current :=
      (hinv.current _ current hcurrent).2
    rw [hsame, hrecord] at hrecord'
    cases hrecord'
    rw [WasmExecutionFenceRegistry.modify_current hrecord hcurrent (Nat.le_of_eq (by rw [hsame]))]
    by_cases hsandbox : sandboxId = identity.sandboxId
    · rw [if_pos hsandbox, if_pos (by rw [hsandbox]; exact hcurrent)]
    · rw [if_neg hsandbox, if_neg]
      intro hother
      have := (hinv.current sandboxId record hother).1
      rw [hkey] at this
      exact hsandbox this.symm
  · rw [WasmExecutionFenceRegistry.modify_current_of_lower hrecord hcurrent hlt, if_neg]
    intro hother
    have hsandbox := (hinv.current sandboxId record hother).1
    rw [hkey] at hsandbox
    rw [hsandbox, hother] at hcurrent
    cases hcurrent
    rw [hkey] at hlt
    exact Nat.lt_irrefl _ hlt

theorem FenceInv.modify (hinv : FenceInv fence) (hrecord : fence.findByIdentity identity = some record)
    (hlower : CurrentOrLower fence identity) (hchange : (change record).identity = record.identity) :
    FenceInv (fence.modify identity change) := by
  have hkey := (hinv.accepted identity record hrecord).1
  have hcurrent' := fun sandboxId => hinv.modify_current change hrecord hlower sandboxId
  have hfind' := WasmExecutionFenceRegistry.modify_findByIdentity change hrecord
  refine ⟨?_, ?_, ?_⟩
  · intro sandboxId after hafter
    rw [hcurrent'] at hafter
    split at hafter
    · rename_i hwas
      cases hafter
      rw [hchange, hfind', hkey, if_pos rfl]
      have := (hinv.current sandboxId record hwas).1
      rw [hkey] at this
      exact ⟨this, rfl⟩
    · rename_i hother
      obtain ⟨hsandbox, hfind⟩ := hinv.current sandboxId after hafter
      refine ⟨hsandbox, ?_⟩
      rw [hfind', if_neg]
      · exact hfind
      · intro heq
        rw [heq, hrecord] at hfind
        cases hfind
        exact hother hafter
  · intro other after hafter
    rw [hfind'] at hafter
    have hbefore : ∃ before, fence.findByIdentity other = some before ∧ after.identity = before.identity := by
      split at hafter
      · rename_i heq
        cases hafter
        exact ⟨record, by rw [heq]; exact hrecord, hchange⟩
      · exact ⟨after, hafter, rfl⟩
    obtain ⟨before, hbefore, hsame⟩ := hbefore
    obtain ⟨hkey', current, hcurrent, hp, he⟩ := hinv.accepted other before hbefore
    refine ⟨by rw [hsame]; exact hkey', ?_⟩
    rw [hcurrent', hcurrent]
    split
    · rename_i hwas
      cases hwas
      exact ⟨_, rfl, by rw [hchange]; exact hp, by rw [hchange]; exact he⟩
    · exact ⟨current, rfl, hp, he⟩
  · intro first second firstRecord secondRecord hfirst hsecond hsandbox hp he
    have hbefore : ∀ other after, (fence.modify identity change).findByIdentity other = some after →
        ∃ before, fence.findByIdentity other = some before := by
      intro other after hafter
      rw [hfind'] at hafter
      split at hafter
      · rename_i heq; rw [heq]; exact ⟨record, hrecord⟩
      · exact ⟨after, hafter⟩
    obtain ⟨_, hfirst⟩ := hbefore first _ hfirst
    obtain ⟨_, hsecond⟩ := hbefore second _ hsecond
    exact hinv.distinct first second _ _ hfirst hsecond hsandbox hp he

theorem FenceInv.modify_progress (hinv : FenceInv fence)
    (hrecord : fence.findByIdentity identity = some record) (hlower : CurrentOrLower fence identity)
    (hchange : (change record).identity = record.identity)
    (hstopped : record.substate = .stopped → (change record).substate = .stopped) :
    FenceProgress fence (fence.modify identity change) := by
  constructor
  · intro sandboxId before hbefore
    rw [hinv.modify_current change hrecord hlower, hbefore]
    split
    · rename_i hwas
      cases hwas
      exact ⟨_, rfl, Nat.le_of_eq (by rw [hchange]), Nat.le_of_eq (by rw [hchange])⟩
    · exact ⟨before, rfl, Nat.le_refl _, Nat.le_refl _⟩
  · intro other before hbefore
    rw [WasmExecutionFenceRegistry.modify_findByIdentity change hrecord]
    split
    · rename_i heq
      rw [heq, hrecord] at hbefore
      cases hbefore
      exact ⟨_, rfl, hstopped⟩
    · exact ⟨before, hbefore, fun h => h⟩

end Changes

/-! ## One command -/

/-- A record of a tuple in one of the two maps. -/
def Recorded (fence : WasmExecutionFenceRegistry) (identity : WasmExecutionIdentityV1)
    (record : WasmAcceptedExecutionRecord) : Prop :=
  fence.findByIdentity identity = some record ∨
    fence.current identity.sandboxId = some record ∧ record.identity = identity

/-- A prepare for the sandbox, version and preparation generation of a tuple was applied. -/
def PreparedBefore (history : FenceHistory) (identity : WasmExecutionIdentityV1) : Prop :=
  ∃ command outcome, (command, some outcome) ∈ history.answers ∧ command.operation = .prepare ∧
    outcome.result = .applied ∧ command.identity.sandboxId = identity.sandboxId ∧
    command.identity.versionId = identity.versionId ∧
    command.identity.preparationGeneration = identity.preparationGeneration

/-- The invariant of a history: that of its registry, and every accepted tuple was prepared. -/
structure FenceHistoryInv (history : FenceHistory) : Prop where
  fence : FenceInv history.fence
  prepared : ∀ identity record, history.fence.findByIdentity identity = some record →
    PreparedBefore history identity

/-- A tuple has one record. -/
theorem FenceInv.recorded {fence : WasmExecutionFenceRegistry} (hinv : FenceInv fence)
    {identity : WasmExecutionIdentityV1} {record : WasmAcceptedExecutionRecord}
    (h : Recorded fence identity record) : fence.findByIdentity identity = some record := by
  rcases h with h | ⟨h, hidentity⟩
  · exact h
  · rw [← hidentity]
    exact (hinv.current _ record h).2

theorem prepareApplied_iff {history : FenceHistory} {identity : WasmExecutionIdentityV1} :
    history.prepareApplied identity = true ↔ PreparedBefore history identity := by
  constructor
  · intro h
    obtain ⟨⟨command, outcome⟩, hmem, h⟩ := List.any_eq_true.mp h
    cases outcome with
    | none => simp at h
    | some outcome =>
      simp only [Bool.and_eq_true, beq_iff_eq, Option.map_some, Option.some.injEq] at h
      obtain ⟨⟨⟨⟨hop, hsandbox⟩, hversion⟩, hp⟩, happlied⟩ := h
      exact ⟨command, outcome, hmem, hop, happlied, hsandbox, hversion, hp⟩
  · rintro ⟨command, outcome, hmem, hop, happlied, hsandbox, hversion, hp⟩
    refine List.any_eq_true.mpr ⟨(command, some outcome), hmem, ?_⟩
    simp [hop, happlied, hsandbox, hversion, hp]

section Step

variable {R : RuntimeRules} {history : FenceHistory} {input : DrainEnvironment × ExecutionCommand}

/-- A step gives a remembered answer or decides a new command; remembering the answer leaves both maps
alone. -/
theorem FenceHistory.step_cases (R : RuntimeRules) (history : FenceHistory)
    (input : DrainEnvironment × ExecutionCommand) :
    ∃ fence outcome, (history.step R input).answers = history.answers ++ [(input.2, outcome)] ∧
      (history.step R input).fence.current = fence.current ∧
      (history.step R input).fence.findByIdentity = fence.findByIdentity ∧
      (fence = history.fence ∨ history.fence.findAppliedOutcome (R.commandDigest input.2) = none ∧
        FenceDecision history.fence input.2 fence outcome) := by
  unfold FenceHistory.step WasmExecutionFenceRegistry.applyCommand
  split
  · rename_i hcall
    split at hcall
    · cases hcall
      exact ⟨_, _, rfl, rfl, rfl, .inl rfl⟩
    · rename_i hnew
      have hdecision := WasmExecutionFenceRegistry.decide_decision input.1 history.fence input.2
      split at hcall
      · rename_i hdecide
        cases hcall
        rw [hdecide] at hdecision
        exact ⟨_, _, rfl, rfl, rfl, .inr ⟨hnew, hdecision⟩⟩
      · rename_i decided outcome' hdecide
        cases hcall
        rw [hdecide] at hdecision
        exact ⟨decided, _, rfl, rfl, rfl, .inr ⟨hnew, hdecision⟩⟩

/-- A sound new start of another tuple has a higher pair of generations and a preparation. -/
theorem FenceHistory.sound_restarted (hsound : history.sound R input)
    (hnew : history.fence.findAppliedOutcome (R.commandDigest input.2) = none)
    (hop : input.2.operation = .start) (halive : isAliveExecutionIdentity input.2.identity = true)
    {current : WasmAcceptedExecutionRecord}
    (hcurrent : history.fence.current input.2.identity.sandboxId = some current)
    (hother : current.identity ≠ input.2.identity)
    (hp : current.identity.preparationGeneration ≤ input.2.identity.preparationGeneration)
    (he : current.identity.executionGeneration ≤ input.2.identity.executionGeneration) :
    AboveCurrent history.fence input.2.identity ∧ PreparedBefore history input.2.identity := by
  have hslips : history.slips R input.2 = false := hsound
  simp only [FenceHistory.slips, hnew, hcurrent, hop, halive, hother, hp, he] at hslips
  simp at hslips
  obtain ⟨hpair, hprepared⟩ := hslips
  refine ⟨?_, prepareApplied_iff.mp hprepared⟩
  intro current' hcurrent'
  rw [hcurrent] at hcurrent'
  cases hcurrent'
  omega

/-- A sound new start of the current tuple does not start a stopped one. -/
theorem FenceHistory.sound_started (hsound : history.sound R input)
    (hnew : history.fence.findAppliedOutcome (R.commandDigest input.2) = none)
    (hop : input.2.operation = .start) (halive : isAliveExecutionIdentity input.2.identity = true)
    {current : WasmAcceptedExecutionRecord}
    (hcurrent : history.fence.current input.2.identity.sandboxId = some current)
    (hsame : current.identity = input.2.identity)
    (hmatch : matchesRecordedFenceFields current input.2 = true) : current.substate ≠ .stopped := by
  have hslips : history.slips R input.2 = false := hsound
  simp only [FenceHistory.slips, hnew, hcurrent, hop, halive, hsame, hmatch] at hslips
  simpa using hslips

/-- A sound new drain or stop of an accepted tuple leaves a newer tuple its place. -/
theorem FenceHistory.sound_settled (hsound : history.sound R input) (hinv : FenceInv history.fence)
    (hnew : history.fence.findAppliedOutcome (R.commandDigest input.2) = none)
    {target : WasmAcceptedExecutionRecord}
    (htarget : history.fence.findByIdentity input.2.identity = some target)
    (hmatch : matchesRecordedFenceFields target input.2 = true)
    (hop : input.2.operation = .stop ∨ input.2.operation = .drain ∧ target.substate ≠ .stopped) :
    CurrentOrLower history.fence input.2.identity := by
  intro current hcurrent
  have hslips : history.slips R input.2 = false := hsound
  obtain ⟨_, current', hcurrent', _, he⟩ := hinv.accepted _ target htarget
  rw [hcurrent] at hcurrent'
  cases hcurrent'
  have hdiffers : current.identity = input.2.identity ∨
      current.identity.executionGeneration ≠ input.2.identity.executionGeneration := by
    rcases hop with hop | ⟨hop, hlive⟩
    · simp only [FenceHistory.slips, hnew, hcurrent, hop, htarget, hmatch] at hslips
      simpa [or_iff_not_imp_left] using hslips
    · simp only [FenceHistory.slips, hnew, hcurrent, hop, htarget, hmatch] at hslips
      simpa [or_iff_not_imp_left, hlive] using hslips
  rcases hdiffers with hsame | hne
  · exact .inl hsame
  · exact .inr (by omega)

theorem PreparedBefore.mono {history' : FenceHistory} {identity : WasmExecutionIdentityV1}
    {answer : ExecutionCommand × Option WasmExecutionOutcome}
    (hanswers : history'.answers = history.answers ++ [answer]) (h : PreparedBefore history identity) :
    PreparedBefore history' identity := by
  obtain ⟨command, outcome, hmem, h⟩ := h
  refine ⟨command, outcome, ?_, h⟩
  rw [hanswers]
  exact List.mem_append_left _ hmem

/-- What a sound decision does to a registry with the invariant. -/
theorem FenceHistory.decision_sound (hsound : history.sound R input) (hinv : FenceHistoryInv history)
    (hnew : history.fence.findAppliedOutcome (R.commandDigest input.2) = none)
    {fence : WasmExecutionFenceRegistry} {outcome : Option WasmExecutionOutcome}
    (hdecision : FenceDecision history.fence input.2 fence outcome) :
    FenceInv fence ∧ FenceProgress history.fence fence := by
  cases hdecision with
  | kept => exact ⟨hinv.fence, .refl _⟩
  | prepared hop hhigher => exact ⟨hinv.fence.adopt hhigher _, hinv.fence.adopt_progress hhigher _⟩
  | restarted hop halive current hcurrent hother hp he =>
    obtain ⟨habove, -⟩ := sound_restarted hsound hnew hop halive hcurrent hother hp he
    exact ⟨hinv.fence.adopt habove _, hinv.fence.adopt_progress habove _⟩
  | started hop halive current hcurrent hsame hmatch =>
    have hlive := sound_started hsound hnew hop halive hcurrent hsame hmatch
    have hrecord := (hinv.fence.current _ current hcurrent).2
    rw [hsame] at hrecord
    have hlower : CurrentOrLower history.fence input.2.identity := by
      intro current' hcurrent'
      rw [hcurrent] at hcurrent'
      cases hcurrent'
      exact .inl hsame
    exact ⟨hinv.fence.modify hrecord hlower rfl,
      hinv.fence.modify_progress hrecord hlower rfl fun h => absurd h hlive⟩
  | drained hop target htarget hmatch hlive substate hsubstate =>
    have hlower := sound_settled hsound hinv.fence hnew htarget hmatch (.inr ⟨hop, hlive⟩)
    exact ⟨hinv.fence.modify htarget hlower rfl,
      hinv.fence.modify_progress htarget hlower rfl fun h => absurd h hlive⟩
  | stopped hop target htarget hmatch =>
    have hlower := sound_settled hsound hinv.fence hnew htarget hmatch (.inl hop)
    exact ⟨hinv.fence.modify htarget hlower rfl, hinv.fence.modify_progress htarget hlower rfl fun _ => rfl⟩

/-- After a sound decision every accepted tuple is prepared, counting the answer itself. -/
theorem FenceHistory.decision_prepared (hsound : history.sound R input) (hinv : FenceHistoryInv history)
    (hnew : history.fence.findAppliedOutcome (R.commandDigest input.2) = none)
    {fence : WasmExecutionFenceRegistry} {outcome : Option WasmExecutionOutcome}
    (hdecision : FenceDecision history.fence input.2 fence outcome) {history' : FenceHistory}
    (hanswers : history'.answers = history.answers ++ [(input.2, outcome)])
    {identity : WasmExecutionIdentityV1} {record : WasmAcceptedExecutionRecord}
    (hrecord : fence.findByIdentity identity = some record) : PreparedBefore history' identity := by
  have hold : ∀ before, history.fence.findByIdentity identity = some before →
      PreparedBefore history' identity :=
    fun before hbefore => (hinv.prepared identity before hbefore).mono hanswers
  have hmodified : ∀ target change, history.fence.findByIdentity input.2.identity = some target →
      (history.fence.modify input.2.identity change).findByIdentity identity = some record →
      PreparedBefore history' identity := by
    intro target change htarget hrecord
    rw [WasmExecutionFenceRegistry.modify_findByIdentity change htarget] at hrecord
    split at hrecord
    · rename_i heq
      exact hold target (by rw [heq]; exact htarget)
    · exact hold record hrecord
  cases hdecision with
  | kept => exact hold record hrecord
  | prepared hop =>
    rw [WasmExecutionFenceRegistry.adopt_findByIdentity] at hrecord
    split at hrecord
    · rename_i heq
      refine ⟨input.2, .applied, ?_, hop, rfl, by rw [heq], by rw [heq], by rw [heq]⟩
      rw [hanswers]
      exact List.mem_append_right _ (List.mem_singleton_self _)
    · exact hold record hrecord
  | restarted hop halive current hcurrent hother hp he =>
    rw [WasmExecutionFenceRegistry.adopt_findByIdentity] at hrecord
    split at hrecord
    · rename_i heq
      rw [heq]
      exact (sound_restarted hsound hnew hop halive hcurrent hother hp he).2.mono hanswers
    · exact hold record hrecord
  | started hop halive current hcurrent hsame =>
    have htarget := (hinv.fence.current _ current hcurrent).2
    rw [hsame] at htarget
    exact hmodified current _ htarget hrecord
  | drained hop target htarget => exact hmodified target _ htarget hrecord
  | stopped hop target htarget => exact hmodified target _ htarget hrecord

/-- A sound step keeps the invariant and makes progress only. -/
theorem FenceHistory.step_sound (hsound : history.sound R input) (hinv : FenceHistoryInv history) :
    FenceHistoryInv (history.step R input) ∧
      FenceProgress history.fence (history.step R input).fence := by
  obtain ⟨fence, outcome, hanswers, hcurrent, hfind, rfl | ⟨hnew, hdecision⟩⟩ := step_cases R history input
  · refine ⟨⟨hinv.fence.congr hcurrent hfind, ?_⟩, (FenceProgress.refl _).congr hcurrent hfind⟩
    intro identity record hrecord
    rw [hfind] at hrecord
    exact (hinv.prepared identity record hrecord).mono hanswers
  · obtain ⟨hfence, hprogress⟩ := decision_sound hsound hinv hnew hdecision
    refine ⟨⟨hfence.congr hcurrent hfind, ?_⟩, hprogress.congr hcurrent hfind⟩
    intro identity record hrecord
    rw [hfind] at hrecord
    exact decision_prepared hsound hinv hnew hdecision hanswers hrecord

/-- A sound drain or stop of another tuple than the current one leaves all current records as they are. -/
theorem FenceHistory.step_settled (hsound : history.sound R input) (hinv : FenceHistoryInv history)
    (hop : input.2.operation = .drain ∨ input.2.operation = .stop)
    (hother : ∀ current, history.fence.current input.2.identity.sandboxId = some current →
      current.identity ≠ input.2.identity) :
    (history.step R input).fence.current = history.fence.current := by
  have hkept : ∀ target change, history.fence.findByIdentity input.2.identity = some target →
      CurrentOrLower history.fence input.2.identity →
      (history.fence.modify input.2.identity change).current = history.fence.current := by
    intro target change htarget hlower
    funext sandboxId
    rw [hinv.fence.modify_current change htarget hlower, if_neg]
    intro hcurrent
    have hkey := (hinv.fence.accepted _ target htarget).1
    have hsandbox := (hinv.fence.current sandboxId target hcurrent).1
    rw [hkey] at hsandbox
    rw [← hsandbox] at hcurrent
    exact hother target hcurrent hkey
  obtain ⟨fence, outcome, _, hcurrent, _, rfl | ⟨hnew, hdecision⟩⟩ := step_cases R history input
  · exact hcurrent
  · rw [hcurrent]
    cases hdecision with
    | kept => rfl
    | prepared hop' => rw [hop'] at hop; rcases hop with hop | hop <;> cases hop
    | restarted hop' => rw [hop'] at hop; rcases hop with hop | hop <;> cases hop
    | started hop' => rw [hop'] at hop; rcases hop with hop | hop <;> cases hop
    | drained hop' target htarget hmatch hlive =>
      exact hkept target _ htarget (sound_settled hsound hinv.fence hnew htarget hmatch (.inr ⟨hop', hlive⟩))
    | stopped hop' target htarget hmatch =>
      exact hkept target _ htarget (sound_settled hsound hinv.fence hnew htarget hmatch (.inl hop'))

end Step

/-! ## Histories -/

/-- The history of an executor that answered a list of commands. -/
def FenceHistory.after (R : RuntimeRules) (inputs : List (DrainEnvironment × ExecutionCommand)) :
    FenceHistory :=
  run (FenceHistory.step R) .start inputs

/-- The dual-generation fence over a list of commands, at each of its moments. -/
structure DualGenerationFence (R : RuntimeRules) (inputs : List (DrainEnvironment × ExecutionCommand)) :
    Prop where
  /-- The current tuple of a sandbox never goes back in a generation. -/
  noRegression : ∀ earlier later, earlier ++ later <+: inputs → ∀ sandboxId before,
    (FenceHistory.after R earlier).fence.current sandboxId = some before →
    ∃ after, (FenceHistory.after R (earlier ++ later)).fence.current sandboxId = some after ∧
      before.identity.preparationGeneration ≤ after.identity.preparationGeneration ∧
      before.identity.executionGeneration ≤ after.identity.executionGeneration
  /-- Two tuples of a sandbox never have the same pair of generations. -/
  noReuse : ∀ earlier later, earlier ++ later <+: inputs → ∀ first second firstRecord secondRecord,
    Recorded (FenceHistory.after R earlier).fence first firstRecord →
    Recorded (FenceHistory.after R (earlier ++ later)).fence second secondRecord →
    first.sandboxId = second.sandboxId → first.preparationGeneration = second.preparationGeneration →
    first.executionGeneration = second.executionGeneration → first = second
  /-- A running tuple was prepared. -/
  runningPrepared : ∀ earlier, earlier <+: inputs → ∀ identity record,
    Recorded (FenceHistory.after R earlier).fence identity record → record.substate = .running →
    PreparedBefore (FenceHistory.after R earlier) identity
  /-- A drain or stop of another tuple than the current one leaves the current one as it is. -/
  olderKept : ∀ earlier input, earlier ++ [input] <+: inputs →
    input.2.operation = .drain ∨ input.2.operation = .stop → ∀ current,
    (FenceHistory.after R earlier).fence.current input.2.identity.sandboxId = some current →
    current.identity ≠ input.2.identity →
    (FenceHistory.after R (earlier ++ [input])).fence.current input.2.identity.sandboxId = some current
  /-- A stopped tuple never runs again. -/
  stoppedStays : ∀ earlier later, earlier ++ later <+: inputs → ∀ identity before after,
    Recorded (FenceHistory.after R earlier).fence identity before → before.substate = .stopped →
    Recorded (FenceHistory.after R (earlier ++ later)).fence identity after → after.substate ≠ .running

theorem fenceHistoryInv_start : FenceHistoryInv .start :=
  ⟨fenceInv_empty, fun _ _ h => by cases h⟩

/-- Sound steps keep the invariant and make progress only, over any number of them. -/
theorem FenceHistory.run_sound {R : RuntimeRules} {inputs : List (DrainEnvironment × ExecutionCommand)}
    {history : FenceHistory} (hsound : Along (FenceHistory.step R) (FenceHistory.sound R) history inputs)
    (hinv : FenceHistoryInv history) :
    FenceHistoryInv (run (FenceHistory.step R) history inputs) ∧
      FenceProgress history.fence (run (FenceHistory.step R) history inputs).fence :=
  hsound.invariant_rel (r := fun (before after : FenceHistory) => FenceProgress before.fence after.fence)
    (fun _ => .refl _) (fun _ _ _ h h' => h.trans h') (fun _ _ hstep h => step_sound hstep h) hinv

/-- A history splits into the steps before and after a moment. -/
theorem FenceHistory.split_sound {R : RuntimeRules}
    {inputs earlier later : List (DrainEnvironment × ExecutionCommand)}
    (hsound : Along (FenceHistory.step R) (FenceHistory.sound R) .start inputs)
    (hpre : earlier ++ later <+: inputs) :
    FenceHistoryInv (FenceHistory.after R earlier) ∧
      FenceHistoryInv (FenceHistory.after R (earlier ++ later)) ∧
      FenceProgress (FenceHistory.after R earlier).fence (FenceHistory.after R (earlier ++ later)).fence ∧
      Along (FenceHistory.step R) (FenceHistory.sound R) (FenceHistory.after R earlier) later := by
  obtain ⟨rest, rfl⟩ := hpre
  obtain ⟨hsound, -⟩ := along_append.mp hsound
  obtain ⟨hearlier, hlater⟩ := along_append.mp hsound
  have hinv := (run_sound hearlier fenceHistoryInv_start).1
  obtain ⟨hinv', hprogress⟩ := run_sound hlater hinv
  unfold FenceHistory.after
  rw [run_append]
  exact ⟨hinv, hinv', hprogress, hlater⟩

/-- The dual-generation fence holds over every history in which no command slips through. -/
theorem dual_generation_fence_holds (R : RuntimeRules)
    (inputs : List (DrainEnvironment × ExecutionCommand))
    (hsound : Along (FenceHistory.step R) (FenceHistory.sound R) .start inputs) :
    DualGenerationFence R inputs := by
  refine ⟨?_, ?_, ?_, ?_, ?_⟩
  · intro earlier later hpre
    obtain ⟨-, -, hprogress, -⟩ := FenceHistory.split_sound hsound hpre
    exact hprogress.current
  · intro earlier later hpre first second firstRecord secondRecord hfirst hsecond
    obtain ⟨hinv, hinv', hprogress, -⟩ := FenceHistory.split_sound hsound hpre
    obtain ⟨_, hfirst', -⟩ := hprogress.accepted first firstRecord (hinv.fence.recorded hfirst)
    exact hinv'.fence.distinct first second _ secondRecord hfirst' (hinv'.fence.recorded hsecond)
  · intro earlier hpre identity record hrecord _
    rw [← List.append_nil earlier] at hpre
    obtain ⟨hinv, -⟩ := FenceHistory.split_sound hsound hpre
    exact hinv.prepared identity record (hinv.fence.recorded hrecord)
  · intro earlier input hpre hop current hcurrent hother
    obtain ⟨hinv, -, -, hlater⟩ := FenceHistory.split_sound hsound hpre
    have hkept := FenceHistory.step_settled hlater.1 hinv hop fun current' hcurrent' => by
      rw [hcurrent] at hcurrent'
      cases hcurrent'
      exact hother
    unfold FenceHistory.after at hcurrent hkept ⊢
    rw [run_append, run_cons, run_nil, hkept]
    exact hcurrent
  · intro earlier later hpre identity before after hbefore hstopped hafter
    obtain ⟨hinv, hinv', hprogress, -⟩ := FenceHistory.split_sound hsound hpre
    obtain ⟨after', hafter', hstays⟩ := hprogress.accepted identity before (hinv.fence.recorded hbefore)
    have hafter := hinv'.fence.recorded hafter
    rw [hafter'] at hafter
    cases hafter
    rw [hstays hstopped]
    intro h
    cases h

section Vectors

open Vectors

/-- Two versions of an application, one after the other; the first drains and is stopped. -/
def replacedVersion : List (DrainEnvironment × ExecutionCommand) :=
  commands [executionCommand 1 .prepare (execution 1 1 1), executionCommand 2 .start (execution 1 1 2),
      executionCommand 3 .prepare (execution 2 2 3), executionCommand 4 .start (execution 2 2 4)] ++
    [(drainEnvironment fun _ => some (retirement 5 (execution 1 1 2)),
      executionCommand 5 .drain (execution 1 1 2))] ++
    commands [executionCommand 6 .stop (execution 1 1 2)]

theorem dual_generation_fence_holds_replaced_version :
    Along (FenceHistory.step runtimeRules) (FenceHistory.sound runtimeRules) .start replacedVersion ∧
      DualGenerationFence runtimeRules replacedVersion ∧
      ((FenceHistory.after runtimeRules replacedVersion).fence.current "sbx-orders").map
        (fun record => (record.identity, record.substate)) = some (execution 2 2 4, .running) :=
  ⟨by decide +kernel, dual_generation_fence_holds runtimeRules replacedVersion (by decide +kernel),
    by decide +kernel⟩

/-- A start of a version that no prepare was ever given for. -/
def unpreparedStart : List (DrainEnvironment × ExecutionCommand) :=
  commands [executionCommand 1 .prepare (execution 1 1 1), executionCommand 2 .start (execution 2 2 2)]

/-- A start of the tuple that was just stopped. -/
def restartAfterStop : List (DrainEnvironment × ExecutionCommand) :=
  commands [executionCommand 1 .prepare (execution 1 1 1), executionCommand 2 .start (execution 1 1 2),
    executionCommand 3 .stop (execution 1 1 2), executionCommand 4 .start (execution 1 1 2)]

/-- A stop of the replaced version while both versions have the same execution generation. -/
def stopOfOlder : List (DrainEnvironment × ExecutionCommand) :=
  commands [executionCommand 1 .prepare (execution 1 1 1), executionCommand 2 .start (execution 1 1 2),
    executionCommand 3 .prepare (execution 2 2 2), executionCommand 4 .stop (execution 1 1 2)]

/-- A start of another version with the generations of the prepared one. -/
def reusedPair : List (DrainEnvironment × ExecutionCommand) :=
  commands [executionCommand 1 .prepare (execution 1 1 1), executionCommand 2 .start (execution 2 1 1)]

/-- Well-formed commands break each part of the fence. -/
theorem dual_generation_fence_slips :
    (∀ input ∈ unpreparedStart ++ restartAfterStop ++ stopOfOlder ++ reusedPair,
      validateExecutionCommand input.2 = .ok ()) ∧
    ¬ DualGenerationFence runtimeRules unpreparedStart ∧
    ¬ DualGenerationFence runtimeRules restartAfterStop ∧
    ¬ DualGenerationFence runtimeRules stopOfOlder ∧
    ¬ DualGenerationFence runtimeRules reusedPair := by
  have found : ∀ (fence : WasmExecutionFenceRegistry) (identity : WasmExecutionIdentityV1)
      (substate : WasmExecutionSubstate),
      (fence.findByIdentity identity).map WasmAcceptedExecutionRecord.substate = some substate →
      ∃ record, Recorded fence identity record ∧ record.substate = substate := by
    intro fence identity substate h
    obtain ⟨record, hrecord, hsubstate⟩ := Option.map_eq_some_iff.mp h
    exact ⟨record, .inl hrecord, hsubstate⟩
  refine ⟨by decide +kernel, ?_, ?_, ?_, ?_⟩
  · intro h
    obtain ⟨record, hrecord, hrunning⟩ := found
      (FenceHistory.after runtimeRules unpreparedStart).fence (execution 2 2 2) .running (by decide +kernel)
    have hprepared := h.runningPrepared unpreparedStart (List.prefix_refl _) _ record hrecord hrunning
    exact absurd (prepareApplied_iff.mpr hprepared) (by decide +kernel)
  · intro h
    obtain ⟨before, hbefore, hstopped⟩ := found
      (FenceHistory.after runtimeRules (restartAfterStop.take 3)).fence (execution 1 1 2) .stopped
      (by decide +kernel)
    obtain ⟨after, hafter, hrunning⟩ := found
      (FenceHistory.after runtimeRules (restartAfterStop.take 3 ++ restartAfterStop.drop 3)).fence
      (execution 1 1 2) .running (by decide +kernel)
    exact h.stoppedStays (restartAfterStop.take 3) (restartAfterStop.drop 3)
      ⟨[], by rw [List.append_nil, List.take_append_drop]⟩ _ before after hbefore hstopped hafter hrunning
  · intro h
    obtain ⟨before, hbefore, hidentity⟩ := Option.map_eq_some_iff.mp
      (show ((FenceHistory.after runtimeRules (stopOfOlder.take 3)).fence.current "sbx-orders").map
        WasmAcceptedExecutionRecord.identity = some (execution 2 2 2) by decide +kernel)
    obtain ⟨after, hafter, hp, -⟩ := h.noRegression (stopOfOlder.take 3) (stopOfOlder.drop 3)
      ⟨[], by rw [List.append_nil, List.take_append_drop]⟩ _ before hbefore
    obtain ⟨after', hafter', hidentity'⟩ := Option.map_eq_some_iff.mp
      (show ((FenceHistory.after runtimeRules (stopOfOlder.take 3 ++ stopOfOlder.drop 3)).fence.current
        "sbx-orders").map WasmAcceptedExecutionRecord.identity = some (execution 1 1 2) by decide +kernel)
    rw [hafter] at hafter'
    cases hafter'
    rw [hidentity, hidentity'] at hp
    exact absurd hp (by decide)
  · intro h
    obtain ⟨first, hfirst, -⟩ := found
      (FenceHistory.after runtimeRules reusedPair).fence (execution 1 1 1) .prepared (by decide +kernel)
    obtain ⟨second, hsecond, -⟩ := found
      (FenceHistory.after runtimeRules (reusedPair ++ [])).fence (execution 2 1 1) .running
      (by decide +kernel)
    have := h.noReuse reusedPair [] ⟨[], by rw [List.append_nil, List.append_nil]⟩ _ _ first second hfirst hsecond rfl rfl rfl
    exact absurd this (by decide +kernel)

end Vectors

end Iweb
