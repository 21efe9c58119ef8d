import Iweb.Secrets.Proofs.RotationConvergenceProofs

/-!
# Proofs: refused rotations

A rotation that nothing interrupts is refused before it acquires the mutation fence, under the fence, or after
its commit. Only the first kind and the conflict of revisions leave the state as it was: the exhaustion of the
revisions keeps the fence, and the checks that follow the commit keep what it has written.
-/

namespace Iweb

open SupervisorSecretJournalState
open CrashRefinement (run)

variable {rotation : SecretRotation} {call : RotationCall} {record : SecretInvalidationOutboxRecord}
  {rows : List SecretInvalidationOutboxRecord} {command : SecretInvalidationCommand} {nextRevision : Nat}

/-! ## The row of the commit is the last one -/

theorem updateLastRecord_append (change : SecretInvalidationOutboxRecord → SecretInvalidationOutboxRecord)
    (rows : List SecretInvalidationOutboxRecord) (record : SecretInvalidationOutboxRecord) :
    updateLastRecord record.commandId change (rows ++ [record]) = some (rows ++ [change record]) := by
  induction rows with
  | nil => simp [updateLastRecord]
  | cons row rows ih =>
    rw [List.cons_append]
    unfold updateLastRecord
    rw [ih]
    rfl

namespace SecretRotation

theorem changeRecord_last (change : SecretInvalidationOutboxRecord → SecretInvalidationOutboxRecord)
    (houtbox : rotation.kernel.outbox = rows ++ [record]) (hid : record.commandId = call.commandId) :
    rotation.changeRecord call.commandId change = .ok (rotation.withOutbox (rows ++ [change record])) := by
  unfold changeRecord
  rw [houtbox, ← hid, updateLastRecord_append]

theorem outboxRecord_last (houtbox : rotation.kernel.outbox = rows ++ [record])
    (hid : record.commandId = call.commandId) : rotation.outboxRecord call.commandId = .ok record := by
  unfold outboxRecord
  rw [houtbox, List.reverse_append, List.reverse_singleton, List.singleton_append,
    List.find?_cons_of_pos (by simpa using hid)]

end SecretRotation

/-! ## The journal -/

theorem completedEntry_of_not_hasCommand {supervisor : SupervisorSecretJournalState} {commandId : String}
    (h : supervisor.hasCommand commandId = false) : supervisor.completedEntry commandId = none := by
  unfold SupervisorSecretJournalState.completedEntry
  refine List.find?_eq_none.mpr fun entry hentry => ?_
  have hother := List.any_eq_false.mp h entry (List.mem_reverse.mp hentry)
  simp only [Bool.and_eq_true, not_and]
  exact fun hid => absurd hid hother

/-- The delivery of a new command makes its completed entry. -/
theorem completedEntry_invalidated (supervisor : SupervisorSecretJournalState) (command : SecretInvalidationCommand) :
    ∃ completed, (supervisor.invalidated command).completedEntry command.commandId = some completed ∧
      completed.secretRevision = command.secretRevision ∧ completed.secretSnapshotRef = command.secretSnapshotRef := by
  obtain ⟨received, completed, hentries, -, hkind, hfields⟩ := invalidated_entries supervisor command
  obtain ⟨hid, hrevision, href⟩ := hfields completed (by simp)
  refine ⟨completed, ?_, hrevision, href⟩
  unfold SupervisorSecretJournalState.completedEntry
  rw [hentries, List.reverse_append]
  show List.find? _ (completed :: received :: supervisor.entries.reverse) = _
  rw [List.find?_cons_of_pos (by simp [hid, hkind])]

/-! ## The end of a rotation -/

/-- How a committed rotation ends, over what the journal had completed under the id of its command. -/
inductive RotationEnd (completed : Option SupervisorSecretJournalEntry) (command : SecretInvalidationCommand) :
    Except SecretRotationError RotationOutcome → Prop
  | answered (outcome : RotationOutcome)
      (hagrees : ∀ entry ∈ completed, entry.secretRevision = command.secretRevision ∧
        entry.secretSnapshotRef = command.secretSnapshotRef) : RotationEnd completed command (.ok outcome)
  | panicked (text : String) (hnone : completed = none) : RotationEnd completed command (.error ⟨"panic", text⟩)
  | mismatched (text : String) (entry : SupervisorSecretJournalEntry) (hentry : completed = some entry)
      (hdiffers : ¬(entry.secretRevision = command.secretRevision ∧
        entry.secretSnapshotRef = command.secretSnapshotRef)) :
      RotationEnd completed command (.error ⟨wasmSecretJournalInvalid, text⟩)

/-- A completed entry that agrees with the command ends a rotation as none does. -/
theorem RotationEnd.of_agrees {completed : SupervisorSecretJournalEntry}
    {answer : Except SecretRotationError RotationOutcome} (h : RotationEnd (some completed) command answer)
    (hagrees : completed.secretRevision = command.secretRevision ∧
      completed.secretSnapshotRef = command.secretSnapshotRef) : RotationEnd none command answer := by
  cases h with
  | answered outcome _ => exact .answered outcome fun _ hentry => nomatch hentry
  | panicked text hnone => cases hnone
  | mismatched text entry hentry hdiffers =>
    cases hentry
    exact absurd hagrees hdiffers

/-- A rotation that has changed something keeps the claim of its refusals only where it is not refused. -/
theorem RotationEnd.refusal {completed : Option SupervisorSecretJournalEntry}
    {answer : Except SecretRotationError RotationOutcome} {rotation' : SecretRotation}
    (h : RotationEnd completed command answer) (hchanged : rotation' ≠ rotation) :
    (∀ e, answer = .error e → e.code ≠ "panic" → rotation' = rotation) ↔
      (completed.all fun entry => entry.secretRevision == command.secretRevision &&
        entry.secretSnapshotRef == command.secretSnapshotRef) = true := by
  cases h with
  | answered outcome hagrees =>
    refine ⟨fun _ => ?_, fun _ e he => nomatch he⟩
    cases completed with
    | none => rfl
    | some entry => simpa using hagrees entry rfl
  | panicked text hnone =>
    subst hnone
    refine ⟨fun _ => rfl, fun _ e he hcode => ?_⟩
    cases he
    exact absurd rfl hcode
  | mismatched text entry hentry hdiffers =>
    subst hentry
    constructor
    · exact fun hkeeps => absurd (hkeeps _ rfl (show wasmSecretJournalInvalid ≠ "panic" by decide)) hchanged
    · intro hagrees
      rw [Option.all_some] at hagrees
      exact absurd (by simpa using hagrees) hdiffers

namespace SecretRotation

/-- The acknowledgement compares the completed entry with the row of the commit. -/
theorem projectAcknowledgement_last {completed : SupervisorSecretJournalEntry}
    (hcompleted : rotation.supervisor.completedEntry call.commandId = some completed)
    (houtbox : rotation.kernel.outbox = rows ++ [record]) (hid : record.commandId = call.commandId)
    (hcommand : record.invalidationCommand = some command)
    (hrevision : record.secretRevision = command.secretRevision) :
    rotation.projectInvalidationAcknowledgement call.commandId =
      if completed.secretRevision = command.secretRevision ∧ completed.secretSnapshotRef = command.secretSnapshotRef
      then .ok (rotation.withOutbox (rows ++ [{ record with deliveryState := .acknowledged }]))
      else .error ⟨wasmSecretJournalInvalid, "the journal entry does not match the outbox row"⟩ := by
  have hchange := changeRecord_last (fun record => { record with deliveryState := .acknowledged }) houtbox hid
  have href : ((record.invalidationCommand.map SecretInvalidationCommand.secretSnapshotRef).or
      record.pendingSnapshotRef).getD "" = command.secretSnapshotRef := by
    rw [hcommand]
    rfl
  unfold projectInvalidationAcknowledgement
  rw [hcompleted]
  dsimp only
  rw [outboxRecord_last houtbox hid]
  simp only [bind, Except.bind, href, hrevision, hchange, require]
  by_cases hagrees : completed.secretRevision = command.secretRevision ∧
      completed.secretSnapshotRef = command.secretSnapshotRef
  · simp [hagrees]
  · rw [if_neg hagrees, if_neg (by simpa using hagrees)]

theorem acknowledging_end (rotation : SecretRotation) (nextRevision : Nat) {completed : SupervisorSecretJournalEntry}
    (hcompleted : rotation.supervisor.completedEntry call.commandId = some completed)
    (houtbox : rotation.kernel.outbox = rows ++ [record]) (hid : record.commandId = call.commandId)
    (hcommand : record.invalidationCommand = some command)
    (hrevision : record.secretRevision = command.secretRevision) (hcrash : call.crash = none) :
    RotationEnd (some completed) command (rotation.acknowledging call nextRevision).2 ∧
      (rotation.acknowledging call nextRevision).1.kernel.store = rotation.kernel.store := by
  have hacknowledged : (rotation.withOutbox (rows ++ [{ record with deliveryState := .acknowledged }])).outboxRecord
      call.commandId = .ok { record with deliveryState := .acknowledged } := outboxRecord_last rfl hid
  unfold acknowledging
  rw [projectAcknowledgement_last hcompleted houtbox hid hcommand hrevision]
  by_cases hagrees : completed.secretRevision = command.secretRevision ∧
      completed.secretSnapshotRef = command.secretSnapshotRef
  · rw [if_pos hagrees]
    dsimp only
    rw [hacknowledged]
    dsimp only
    rw [if_neg (by simp [hcrash])]
    exact ⟨.answered _ fun entry hentry => by rw [← Option.some.inj hentry]; exact hagrees, rfl⟩
  · rw [if_neg hagrees]
    exact ⟨.mismatched _ completed rfl hagrees, rfl⟩

/-- The delivery runs the command through the supervisor's journal, which does nothing a second time. -/
theorem delivering_end (rotation : SecretRotation) (nextRevision : Nat)
    (houtbox : rotation.kernel.outbox = rows ++ [record])
    (hid : record.commandId = call.commandId) (hcommand : record.invalidationCommand = some command)
    (hcommandId : command.commandId = call.commandId) (hrevision : record.secretRevision = command.secretRevision)
    (hvalid : command.validate = .ok ()) (hcrash : call.crash = none) :
    RotationEnd (rotation.supervisor.completedEntry call.commandId) command
        (rotation.delivering call nextRevision).2 ∧
      (rotation.delivering call nextRevision).1.kernel.store = rotation.kernel.store := by
  have hsent : ∀ supervisor : SupervisorSecretJournalState,
      ({ rotation with supervisor := supervisor } : SecretRotation).changeRecord call.commandId
        (fun record => { record with deliveryState := .sent, attempts := record.attempts + 1 }) =
      .ok (({ rotation with supervisor := supervisor } : SecretRotation).withOutbox
        (rows ++ [{ record with deliveryState := .sent, attempts := record.attempts + 1 }])) :=
    fun supervisor => changeRecord_last _ houtbox hid
  unfold delivering deliverInvalidation
  rw [if_neg (by simp [hcrash]), outboxRecord_last houtbox hid]
  dsimp only
  rw [hcommand]
  dsimp only
  cases hknown : rotation.supervisor.hasCommand command.commandId with
  | false =>
    obtain ⟨journalRevision, happly⟩ := applyInvalidation_new hvalid hknown
    obtain ⟨completed, hcompleted, hsame⟩ := completedEntry_invalidated rotation.supervisor command
    rw [hcommandId] at hcompleted hknown
    rw [happly]
    dsimp only
    rw [hsent]
    dsimp only
    rw [if_neg (by simp [hcrash]), completedEntry_of_not_hasCommand hknown]
    obtain ⟨hend, hstore⟩ := acknowledging_end (({ rotation with
      supervisor := rotation.supervisor.invalidated command } : SecretRotation).withOutbox
        (rows ++ [{ record with deliveryState := .sent, attempts := record.attempts + 1 }])) nextRevision
      hcompleted rfl hid hcommand hrevision hcrash
    exact ⟨hend.of_agrees hsame, hstore⟩
  | true =>
    unfold applyInvalidation
    rw [hvalid]
    dsimp only
    rw [if_pos hknown, hcommandId]
    rcases hcompleted : rotation.supervisor.completedEntry call.commandId with _ | completed
    · exact ⟨.panicked _ rfl, rfl⟩
    · dsimp only
      rw [hsent]
      dsimp only
      rw [if_neg (by simp [hcrash])]
      exact acknowledging_end _ nextRevision hcompleted rfl hid hcommand hrevision hcrash

theorem persisting_end (rotation : SecretRotation) (nextRevision : Nat)
    (hlock : rotation.kernel.lockStep = .secretRowLockReleased)
    (houtbox : rotation.kernel.outbox = rows ++ [record]) (hid : record.commandId = call.commandId)
    (hcommandId : command.commandId = call.commandId) (hrevision : record.secretRevision = command.secretRevision)
    (hvalid : command.validate = .ok ()) (hcrash : call.crash = none) :
    RotationEnd (rotation.supervisor.completedEntry call.commandId) command
        (rotation.persisting call nextRevision command).2 ∧
      (rotation.persisting call nextRevision command).1.kernel.store = rotation.kernel.store := by
  have hpersisted : checkRotationLockOrder rotation.kernel.lockStep .invalidationCommandPersisted = .ok () := by
    rw [hlock]
    rfl
  unfold persisting
  rw [changeRecord_last _ houtbox hid]
  dsimp only
  rw [show ∀ outbox, (rotation.withOutbox outbox).kernel.lockStep = rotation.kernel.lockStep from fun _ => rfl,
    advanceLock_eq_ok hpersisted rfl]
  dsimp only
  rw [advanceLock_eq_ok (rfl : checkRotationLockOrder .invalidationCommandPersisted .completed = .ok ()) rfl]
  dsimp only
  have houtbox' : ((rotation.withOutbox (rows ++ [{ record with invalidationCommand := some command }])).withLock
      .idle).kernel.outbox = rows ++ [{ record with invalidationCommand := some command }] := rfl
  exact delivering_end _ nextRevision houtbox' hid rfl hcommandId hrevision hvalid hcrash

/-- After the commit, an ill-formed target keeps the mutation fence; otherwise the rotation goes to its end. -/
theorem invalidating_end (rotation : SecretRotation) (nextRevision : Nat)
    (hlock : rotation.kernel.lockStep = .appFenceAcquired)
    (houtbox : rotation.kernel.outbox = rows ++ [record]) (hid : record.commandId = call.commandId)
    (hrevision : record.secretRevision = nextRevision) (hcrash : call.crash = none) :
    let command := invalidationCommandFor rotation.supervisor call.commandId call.request.applicationId nextRevision
      call.pendingSnapshotRef
    (∃ e, command.validate = .error e ∧ rotation.invalidating call nextRevision =
        (rotation.withLock .secretRowLockReleased, .error e)) ∨
      command.validate = .ok () ∧ RotationEnd (rotation.supervisor.completedEntry call.commandId) command
          (rotation.invalidating call nextRevision).2 ∧
        (rotation.invalidating call nextRevision).1.kernel.store = rotation.kernel.store := by
  intro command
  have hcommitted : checkRotationLockOrder rotation.kernel.lockStep .secretRowCasCommitted = .ok () := by
    rw [hlock]
    rfl
  unfold invalidating
  rw [advanceLock_eq_ok hcommitted rfl]
  dsimp only
  rw [advanceLock_eq_ok (rfl : checkRotationLockOrder .secretRowCasCommitted .secretRowLockReleased = .ok ()) rfl]
  dsimp only
  rw [if_neg (by simp [hcrash]), show (invalidationCommandFor (rotation.withLock .secretRowLockReleased).supervisor
    call.commandId call.request.applicationId nextRevision call.pendingSnapshotRef) = command from rfl]
  rcases hvalid : command.validate with e | _
  · exact .inl ⟨e, rfl, rfl⟩
  · exact .inr ⟨rfl, persisting_end (rotation.withLock .secretRowLockReleased) nextRevision rfl houtbox hid rfl
      hrevision hvalid hcrash⟩

end SecretRotation

/-! ## Refusals -/

/-- No check fails as a panic. -/
theorem noPanic_validate (command : SecretInvalidationCommand) : FailsOnlyWith (· ≠ "panic") command.validate := by
  unfold SecretInvalidationCommand.validate validateSecretApplicationId requireSecretU53 validateSecretSnapshotRef
  refine (FailsOnlyWith.require (by decide)).bind fun _ => (FailsOnlyWith.require (by decide)).bind fun _ =>
    (FailsOnlyWith.require (by decide)).bind fun _ => (FailsOnlyWith.require (by decide)).bind fun _ =>
    (FailsOnlyWith.require (by decide)).bind fun _ => FailsOnlyWith.forM fun fence => ?_
  unfold SecretIdentityFence.validate requireSecretU53
  exact (FailsOnlyWith.require (by decide)).bind fun _ => (FailsOnlyWith.require (by decide)).bind fun _ =>
    (FailsOnlyWith.require (by decide)).bind fun _ => FailsOnlyWith.require (by decide)

/-- A loop over a list that succeeds has a body that succeeds on every member. -/
theorem of_forM_eq_ok {α : Type} {f : α → Except KernelError PUnit} {l : List α} (h : l.forM f = .ok ())
    (a : α) (ha : a ∈ l) : f a = .ok () := by
  induction l with
  | nil => exact (List.not_mem_nil ha).elim
  | cons b l ih =>
    change (f b >>= fun _ => l.forM f) = .ok () at h
    obtain ⟨_, hfirst, hrest⟩ := bind_eq_ok.mp h
    rcases List.mem_cons.mp ha with rfl | ha
    · exact hfirst
    · exact ih hrest ha

/-- The next revision is missing exactly at the end of the space. -/
theorem nextSecretRevision_bounded {current : Nat} (h : current ≤ wasmU53Max) :
    nextSecretRevision current =
      if current = wasmU53Max then .error ⟨secretRevisionExhausted,
        "secret revision space is exhausted; no strictly higher u53 revision exists"⟩
      else .ok (current + 1) := by
  unfold nextSecretRevision requireSecretU53
  by_cases hmax : current = wasmU53Max
  · simp [require, hmax, bind, Except.bind]
  · simp [require, hmax, h, bind, Except.bind, pure, Except.pure]

namespace SecretRotation

/-- What the checks before the commit have found. -/
theorem precheck_eq_ok (h : rotation.precheck call = .ok ()) :
    call.request.expectedSecretRevision ≤ wasmU53Max ∧ isApplicationId call.request.applicationId = true ∧
      isSha256Hex call.pendingSnapshotRef = true := by
  simp only [precheck, SecretAllowlistMutation.validate, bind_eq_ok, require_eq_ok, validateSecretSnapshotRef,
    validateSecretApplicationId, requireSecretU53, decide_eq_true_eq] at h
  obtain ⟨_, ⟨_, -, _, happlication, _, hexpected, -⟩, _, -, _, href, -⟩ := h
  exact ⟨hexpected, happlication, href⟩

theorem withLock_eq (h : rotation.kernel.lockStep = .idle) (lockStep : RotationLockStep) :
    (rotation.withLock lockStep).withLock .idle = rotation := by
  unfold withLock
  rw [← h]

/-- The command of a commit is well formed exactly if its targets are. -/
theorem commandFor_validate (rotation : SecretRotation) (hchecked : rotation.precheck call = .ok ())
    (hbound : rotation.kernel.store.secretRevision + 1 ≤ wasmU53Max) :
    (invalidationCommandFor rotation.supervisor call.commandId call.request.applicationId
        (rotation.kernel.store.secretRevision + 1) call.pendingSnapshotRef).validate = .ok () ↔
      (rotation.supervisor.fenceTargets (rotation.kernel.store.secretRevision + 1)).all
        (fun fence => fence.validate.toOption.isSome) = true := by
  obtain ⟨-, happlication, href⟩ := precheck_eq_ok hchecked
  rw [List.all_eq_true]
  constructor
  · intro hvalid fence hfence
    simp only [SecretInvalidationCommand.validate, bind_eq_ok, require_eq_ok] at hvalid
    obtain ⟨_, -, _, -, _, -, _, -, _, -, htargets⟩ := hvalid
    rw [of_forM_eq_ok htargets fence hfence]
    rfl
  · intro htargets
    refine validate_secretCommand rfl happlication (by show 1 ≤ _ + 1; omega) hbound href fun fence hfence => ?_
    have hsome := htargets fence hfence
    rcases hvalid : fence.validate with e | _
    · rw [hvalid] at hsome
      cases hsome
    · rfl

/-- A rotation that passes its checks and is refused has changed something. -/
theorem committed_changed (hquiet : rotation.Quiet) (hcrash : call.crash = none)
    (hchecked : rotation.precheck call = .ok ())
    (hexpected : call.request.expectedSecretRevision = rotation.kernel.store.secretRevision) :
    rotation.RefusalKeeps call ↔ rotation.commitCarriesThrough call = true := by
  have hbound := (precheck_eq_ok hchecked).1
  rw [hexpected] at hbound
  have hacquired : checkRotationLockOrder rotation.kernel.lockStep .appFenceAcquired = .ok () := by
    rw [hquiet.1]
    rfl
  have hrun : rotation.runSecretRotation call = (rotation.withLock .appFenceAcquired).committing call := by
    unfold runSecretRotation
    rw [hchecked]
    dsimp only
    rw [advanceLock_eq_ok hacquired rfl]
  unfold committing at hrun
  rw [if_neg (by simp [hcrash]), if_neg (fun hne => hne hexpected), show (rotation.withLock
    .appFenceAcquired).kernel.store.secretRevision = rotation.kernel.store.secretRevision from rfl,
    nextSecretRevision_bounded hbound] at hrun
  unfold RefusalKeeps commitCarriesThrough
  by_cases hmax : rotation.kernel.store.secretRevision = wasmU53Max
  · -- the mutation fence stays
    rw [if_pos hmax] at hrun
    rw [hrun]
    constructor
    · intro hkeeps
      have hsame := hkeeps _ rfl (by decide)
      have hlock := congrArg (fun rotation : SecretRotation => rotation.kernel.lockStep) hsame
      rw [hquiet.1] at hlock
      cases hlock
    · simp [hmax]
  · rw [if_neg hmax] at hrun
    dsimp only at hrun
    have htargets := commandFor_validate rotation hchecked (by omega)
    have hrevision : (rotation.kernel.store.secretRevision != wasmU53Max) = true := by simpa using hmax
    rw [hrun, hrevision, Bool.true_and]
    obtain ⟨e, hinvalid, hrefused⟩ | ⟨hvalid, hend, hstore⟩ := invalidating_end
      ((rotation.withLock .appFenceAcquired).commit call (rotation.kernel.store.secretRevision + 1))
      (rotation.kernel.store.secretRevision + 1) rfl rfl rfl rfl hcrash
    · -- an ill-formed target is found after the commit
      have hinvalid' : ¬(rotation.supervisor.fenceTargets (rotation.kernel.store.secretRevision + 1)).all
          (fun fence => fence.validate.toOption.isSome) = true := by
        rw [← htargets]
        intro hvalid
        cases hinvalid.symm.trans hvalid
      rw [hrefused]
      constructor
      · intro hkeeps
        have hsame := hkeeps e rfl (noPanic_validate _ e hinvalid)
        have hlock := congrArg (fun rotation : SecretRotation => rotation.kernel.lockStep) hsame
        rw [hquiet.1] at hlock
        cases hlock
      · intro hcarries
        exact absurd ((Bool.and_eq_true_iff.mp hcarries).1) hinvalid'
    · rw [htargets.mp hvalid, Bool.true_and]
      have hrisen : (SecretRotation.invalidating ((rotation.withLock .appFenceAcquired).commit call
          (rotation.kernel.store.secretRevision + 1)) call (rotation.kernel.store.secretRevision + 1)).1 ≠ rotation := by
        intro hsame
        rw [hsame] at hstore
        have hrevision := congrArg SecretStoreRow.secretRevision hstore
        change rotation.kernel.store.secretRevision = rotation.kernel.store.secretRevision + 1 at hrevision
        omega
      exact hend.refusal hrisen

/-- A request that fails a check before the commit changes nothing. -/
theorem unchecked_unchanged (hquiet : rotation.Quiet) (hcrash : call.crash = none)
    (hfails : rotation.passesChecks call = false) : (rotation.runSecretRotation call).1 = rotation := by
  unfold runSecretRotation
  rcases hchecked : rotation.precheck call with e | _
  · rfl
  · have hexpected : call.request.expectedSecretRevision ≠ rotation.kernel.store.secretRevision := by
      unfold passesChecks at hfails
      rw [hchecked] at hfails
      simpa [Except.toOption] using hfails
    have hacquired : checkRotationLockOrder rotation.kernel.lockStep .appFenceAcquired = .ok () := by
      rw [hquiet.1]
      rfl
    dsimp only
    rw [advanceLock_eq_ok hacquired rfl]
    dsimp only
    unfold committing
    rw [if_neg (by simp [hcrash]), if_pos (show call.request.expectedSecretRevision ≠
      (rotation.withLock .appFenceAcquired).kernel.store.secretRevision from hexpected)]
    exact withLock_eq hquiet.1 _

end SecretRotation

/-- A rotation that nothing interrupts and that is refused leaves the state as it was, exactly if it fails a check
before the commit or nothing after these checks can fail. -/
theorem refusal_keeps_iff (rotation : SecretRotation) (call : RotationCall) (hquiet : rotation.Quiet)
    (hcrash : call.crash = none) :
    rotation.RefusalKeeps call ↔
      (rotation.passesChecks call = true → rotation.commitCarriesThrough call = true) := by
  cases hpasses : rotation.passesChecks call with
  | false =>
    have hunchanged := SecretRotation.unchecked_unchanged hquiet hcrash hpasses
    exact ⟨fun _ h => (nomatch h), fun _ _ _ _ => hunchanged⟩
  | true =>
    unfold SecretRotation.passesChecks at hpasses
    obtain ⟨hsome, hexpected⟩ := Bool.and_eq_true_iff.mp hpasses
    rcases hchecked : rotation.precheck call with e | _
    · rw [hchecked] at hsome
      cases hsome
    · rw [SecretRotation.committed_changed hquiet hcrash hchecked (by simpa using hexpected)]
      exact ⟨fun h _ => h, fun h => h rfl⟩

/-- A shop whose first rotation has been acknowledged. -/
def rotatedShop : SecretRotation :=
  (run SecretSystem.step (.start shopKernel) [.rotate (emptyRotation "cmd-1" 0 none)]).rotation

theorem rotatedShop_quiet : rotatedShop.Quiet :=
  ⟨by decide +kernel, fun record hrecord => List.all_eq_true.mp
    (show (rotatedShop.kernel.outbox.all fun record => record.invalidationCommand.isSome) = true by decide +kernel)
    record hrecord⟩

/-- A second rotation under a new command id keeps its refusals clean. -/
theorem refusal_keeps_new_command : rotatedShop.RefusalKeeps (emptyRotation "cmd-2" 1 none) :=
  (refusal_keeps_iff rotatedShop (emptyRotation "cmd-2" 1 none) rotatedShop_quiet rfl).mpr (by decide +kernel)

/-- A second rotation under the command id of the first is refused after its commit. -/
theorem reused_command_id_commits : ¬∀ (rotation : SecretRotation) (call : RotationCall), rotation.Quiet →
    call.crash = none → rotation.RefusalKeeps call := by
  intro h
  have hrefused : (rotatedShop.runSecretRotation (emptyRotation "cmd-1" 1 none)).2 =
      .error ⟨wasmSecretJournalInvalid, "the journal entry does not match the outbox row"⟩ := by
    decide +kernel
  have hkeeps := h rotatedShop (emptyRotation "cmd-1" 1 none) rotatedShop_quiet rfl _ hrefused (by decide)
  have hrevision : (rotatedShop.runSecretRotation (emptyRotation "cmd-1" 1 none)).1.kernel.store.secretRevision ≠
      rotatedShop.kernel.store.secretRevision := by
    decide +kernel
  rw [hkeeps] at hrevision
  exact hrevision rfl

end Iweb
