import Iweb.Secrets.Proofs.RotationProofs

/-!
# Rotations and recoveries as whole operations

A rotation either changes nothing but the lock, or it commits one row and keeps the agreement of the two
sides, wherever it crashes. A recovery acknowledges every row.
-/

namespace Iweb

open CrashRefinement SecretRotation

section Runs

variable {rotation first : SecretRotation} {committed : List String} {spared : List Nat}
  {record : SecretInvalidationOutboxRecord} {command : SecretInvalidationCommand} {call : RotationCall}
  {nextRevision : Nat}

/-! ## A rotation -/

theorem RotationOk.withLock {lockStep : RotationLockStep} (h : RotationOk rotation committed spared) :
    RotationOk (rotation.withLock lockStep) committed spared :=
  ⟨h.application, h.ids, h.distinct, h.revisions, h.count, h.rows, h.states, h.journal, h.candidates⟩

theorem RotationDuring.withLock {lockStep : RotationLockStep}
    (h : RotationDuring first committed spared rotation) :
    RotationDuring first committed spared (rotation.withLock lockStep) := ⟨h.ok.withLock, h.fenced, h.rises⟩

theorem mem_changedRows (change : SecretInvalidationOutboxRecord → SecretInvalidationOutboxRecord)
    (hmem : record ∈ rotation.kernel.outbox) :
    change record ∈ rotation.changedRows record.commandId change := by
  have h := List.mem_map_of_mem
    (f := fun row => if row.commandId = record.commandId then change row else row) hmem
  rw [if_pos rfl] at h
  exact h

/-- What a stage after the commit ends in. -/
def Committed (first : SecretRotation) (committed : List String) (spared : List Nat)
    (result : SecretRotation × Except SecretRotationError RotationOutcome) : Prop :=
  RotationDuring first committed spared result.1 ∧ passedCommit result.2 = true

theorem acknowledging_spec (h : RotationDuring first committed spared rotation)
    (hmem : record ∈ rotation.kernel.outbox) (hid : record.commandId = call.commandId)
    (hcommand : record.invalidationCommand = some command) (hsent : record.deliveryState = .sent) :
    Committed first committed spared (rotation.acknowledging call nextRevision) := by
  have hknown := (h.ok.states record hmem (by rw [hsent]; simp)).2
  obtain ⟨rotation', hproject, hduring, hkernel⟩ := h.project hmem hcommand hknown
  have hmem' : { record with deliveryState := .acknowledged } ∈ rotation'.kernel.outbox := by
    rw [hkernel]
    exact mem_changedRows _ hmem
  have hrecord := outboxRecord_eq_ok hduring.ok hmem'
  unfold acknowledging
  rw [← hid, hproject]
  dsimp only at hrecord ⊢
  rw [hrecord]
  dsimp only
  split
  · exact ⟨hduring, rfl⟩
  · exact ⟨hduring, rfl⟩

theorem delivering_spec (h : RotationDuring first committed spared rotation)
    (hmem : record ∈ rotation.kernel.outbox) (hid : record.commandId = call.commandId)
    (hcommand : record.invalidationCommand = some command) :
    Committed first committed spared (rotation.delivering call nextRevision) := by
  obtain ⟨rotation', hdeliver, hduring, hkernel⟩ := h.deliver hmem hcommand
  have hmem' : { record with deliveryState := .sent, attempts := record.attempts + 1 } ∈
      rotation'.kernel.outbox := by
    rw [hkernel]
    exact mem_changedRows _ hmem
  unfold delivering
  split
  · exact ⟨h, rfl⟩
  · rw [← hid, hdeliver]
    dsimp only
    split
    · exact ⟨hduring, rfl⟩
    · exact acknowledging_spec hduring hmem' hid hcommand rfl

theorem persisting_spec (h : RotationDuring first committed spared rotation)
    (hlock : rotation.kernel.lockStep = .secretRowLockReleased) (hmem : record ∈ rotation.kernel.outbox)
    (hid : record.commandId = call.commandId) (hvalid : command.validate = .ok ())
    (hcommandId : command.commandId = record.commandId)
    (hrevision : command.secretRevision = record.secretRevision)
    (href : some command.secretSnapshotRef = record.pendingSnapshotRef) :
    Committed first committed spared (rotation.persisting call nextRevision command) := by
  have hrows : RotationOk (rotation.withOutbox (rotation.changedRows record.commandId fun row =>
      { row with invalidationCommand := some command })) committed
      (first.supervisor.sparedAfter rotation.supervisor spared) := by
    refine h.ok.mapRows (fun row hrow => ?_) (fun row hrow => ?_) fun row hrow hnot => ?_
    · split
      · exact ⟨rfl, rfl, rfl, fun _ => rfl⟩
      · exact ⟨rfl, rfl, rfl, id⟩
    · have hold := h.ok.rows row hrow
      split
      · rename_i hsame
        have heq := h.ok.row_unique hmem hrow hsame
        subst heq
        refine ⟨hold.application, hold.positive, hold.bounded, hold.ref, fun other hother => ?_⟩
        cases hother
        exact ⟨hvalid, hcommandId, hrevision, href⟩
      · exact hold
    · split at hnot
      · rename_i hsame
        rw [if_pos hsame]
        exact h.ok.states row hrow hnot
      · rename_i hother
        rw [if_neg hother]
        exact h.ok.states row hrow hnot
  have hpersisted : checkRotationLockOrder rotation.kernel.lockStep .invalidationCommandPersisted = .ok () := by
    rw [hlock]
    rfl
  have hadvance := advanceLock_eq_ok hpersisted rfl
  have hcompleted := advanceLock_eq_ok
    (rfl : checkRotationLockOrder .invalidationCommandPersisted .completed = .ok ()) rfl
  unfold persisting
  rw [← hid, changeRecord_eq_ok (fun row => { row with invalidationCommand := some command }) h.ok hmem]
  dsimp only
  rw [show (rotation.withOutbox (rotation.changedRows record.commandId fun row =>
    { row with invalidationCommand := some command })).kernel.lockStep = rotation.kernel.lockStep from rfl,
    hadvance]
  dsimp only
  rw [hcompleted]
  have hpersistedRow := mem_changedRows (fun row => { row with invalidationCommand := some command }) hmem
  exact delivering_spec (RotationDuring.withLock ⟨hrows, h.fenced, h.rises⟩) hpersistedRow hid rfl

theorem invalidating_spec (h : RotationDuring first committed spared rotation)
    (hlock : rotation.kernel.lockStep = .appFenceAcquired) (hmem : record ∈ rotation.kernel.outbox)
    (hid : record.commandId = call.commandId) (hrevision : record.secretRevision = nextRevision)
    (happlication : record.applicationId = call.request.applicationId)
    (href : record.pendingSnapshotRef = some call.pendingSnapshotRef) :
    Committed first committed spared (rotation.invalidating call nextRevision) := by
  have hrow := h.ok.rows record hmem
  have hsha : isSha256Hex call.pendingSnapshotRef = true := by
    obtain ⟨ref, href', hsha⟩ := hrow.ref
    rw [href] at href'
    cases href'
    exact hsha
  have hvalid : (invalidationCommandFor rotation.supervisor call.commandId call.request.applicationId
      nextRevision call.pendingSnapshotRef).validate = .ok () := by
    refine validate_secretCommand rfl ?_ (hrevision ▸ hrow.positive) (hrevision ▸ hrow.bounded) hsha
      fun fence hfence => ?_
    · show isApplicationId call.request.applicationId = true
      rw [← happlication, hrow.application]
      exact h.ok.application
    · obtain ⟨candidate, hcandidate, rfl⟩ := List.mem_map.mp hfence
      exact h.ok.candidates.valid candidate (List.mem_filter.mp hcandidate).1
  have hcommitted : checkRotationLockOrder rotation.kernel.lockStep .secretRowCasCommitted = .ok () := by
    rw [hlock]
    rfl
  have hadvance := advanceLock_eq_ok hcommitted rfl
  have hreleased := advanceLock_eq_ok
    (rfl : checkRotationLockOrder .secretRowCasCommitted .secretRowLockReleased = .ok ()) rfl
  unfold invalidating
  rw [hadvance]
  dsimp only
  rw [hreleased]
  dsimp only
  rw [show (rotation.withLock .secretRowLockReleased).supervisor = rotation.supervisor from rfl, hvalid]
  dsimp only
  split
  · exact ⟨h.withLock.withLock, rfl⟩
  · exact persisting_spec h.withLock rfl hmem hid hvalid hid.symm hrevision.symm href.symm

/-- The row that a commit adds. -/
theorem RotationOk.commit (h : RotationOk rotation committed spared)
    (hchecked : rotation.precheck call = .ok ()) (hid : call.commandId ∉ committed)
    (hnext : nextRevision = rotation.kernel.store.secretRevision + 1) (hbound : nextRevision ≤ wasmU53Max) :
    RotationOk (rotation.commit call nextRevision) (committed ++ [call.commandId]) spared := by
  simp only [precheck, bind_eq_ok, require_eq_ok, validateSecretSnapshotRef, beq_iff_eq] at hchecked
  obtain ⟨-, -, -, happlication, -, hsha, -⟩ := hchecked
  have hlength : (rotation.commit call nextRevision).kernel.outbox.length =
      rotation.kernel.outbox.length + 1 := List.length_append
  refine ⟨h.application, ?_, ?_, ?_, ?_, fun row hrow => ?_, fun row hrow hstate => ?_,
    ⟨h.journal.pairs, fun entry hentry => ?_, h.journal.fence⟩, ⟨h.candidates.valid, fun candidate hmem => ?_,
    h.candidates.active, h.candidates.stale⟩⟩
  · rw [← h.ids]
    exact List.map_append
  · rw [List.nodup_append]
    refine ⟨h.distinct, List.nodup_singleton _, fun id hid' other hother => ?_⟩
    rw [List.mem_singleton.mp hother]
    rintro rfl
    exact hid hid'
  · rw [hlength, List.range'_concat, ← h.revisions]
    show (rotation.kernel.outbox ++ _).map _ = _
    rw [List.map_append, List.map_singleton]
    have hrevision : nextRevision = 1 + 1 * rotation.kernel.outbox.length := by
      rw [hnext, h.count]
      omega
    rw [hrevision]
  · rw [hlength, ← h.count]
    exact hnext
  · rcases List.mem_append.mp hrow with hold | hnew
    · exact h.rows row hold
    · rw [List.mem_singleton.mp hnew]
      exact ⟨happlication.symm, by show 1 ≤ nextRevision; omega, hbound, ⟨_, rfl, hsha⟩,
        fun _ hcommand => absurd hcommand (Option.some_ne_none _).symm⟩
  · rcases List.mem_append.mp hrow with hold | hnew
    · exact h.states row hold hstate
    · rw [List.mem_singleton.mp hnew] at hstate
      exact absurd rfl hstate
  · obtain ⟨row, hrow, hrest⟩ := h.journal.known entry hentry
    exact ⟨row, List.mem_append_left _ hrow, hrest⟩
  · have := h.candidates.revision candidate hmem
    show candidate.secretRevision ≤ nextRevision
    omega

/-! ### What is not a crash -/

theorem FailsOnlyWith.forM {α : Type} {P : String → Prop} {f : α → Except KernelError PUnit} {l : List α}
    (h : ∀ a, FailsOnlyWith P (f a)) : FailsOnlyWith P (l.forM f) := by
  induction l with
  | nil => exact .ok _
  | cons a l ih => exact (h a).bind fun _ => ih

/-- Only a simulated crash has its code. -/
def NoCrash {α : Type} (x : Except SecretRotationError α) : Prop :=
  FailsOnlyWith (· ≠ wasmSecretSimulatedCrash) x

theorem noCrash_validate (request : SecretAllowlistMutation) : NoCrash request.validate := by
  unfold NoCrash SecretAllowlistMutation.validate validateSecretApplicationId requireSecretU53
  refine (FailsOnlyWith.require (by decide)).bind fun _ => (FailsOnlyWith.require (by decide)).bind fun _ =>
    (FailsOnlyWith.require (by decide)).bind fun _ => (FailsOnlyWith.require (by decide)).bind fun _ =>
    (FailsOnlyWith.require (by decide)).bind fun _ => (FailsOnlyWith.forM fun key => ?_).bind fun _ =>
    (FailsOnlyWith.require (by decide)).bind fun _ => FailsOnlyWith.forM fun value => ?_
  · exact FailsOnlyWith.require (by decide)
  · exact FailsOnlyWith.require (by decide)

theorem noCrash_precheck (rotation : SecretRotation) (call : RotationCall) : NoCrash (rotation.precheck call) := by
  unfold NoCrash precheck validateSecretSnapshotRef requireSecretU53
  exact (noCrash_validate call.request).bind fun _ => (FailsOnlyWith.require (by decide)).bind fun _ =>
    (FailsOnlyWith.require (by decide)).bind fun _ => (FailsOnlyWith.require (by decide)).bind fun _ =>
    (FailsOnlyWith.require (by decide)).bind fun _ => FailsOnlyWith.require (by decide)

theorem noCrash_nextSecretRevision (revision : Nat) : NoCrash (nextSecretRevision revision) := by
  unfold NoCrash nextSecretRevision requireSecretU53
  exact (FailsOnlyWith.require (by decide)).bind fun _ => (FailsOnlyWith.require (by decide)).bind fun _ => .ok _

theorem passedCommit_error {e : SecretRotationError} (h : e.code ≠ wasmSecretSimulatedCrash) :
    ¬passedCommit (.error e) = true := by
  unfold passedCommit
  simp [h]

/-- A rotation keeps the agreement, and it commits a row exactly when it passes the commit point. -/
theorem runSecretRotation_spec (h : RotationOk rotation committed spared) (hid : call.commandId ∉ committed) :
    RotationDuring rotation
      (if passedCommit (rotation.runSecretRotation call).2 then committed ++ [call.commandId] else committed)
      spared (rotation.runSecretRotation call).1 := by
  have hbegin := RotationDuring.begin h
  unfold runSecretRotation
  rcases hchecked : rotation.precheck call with e | _
  · dsimp only
    rw [if_neg (passedCommit_error (noCrash_precheck rotation call e hchecked))]
    exact hbegin
  · have hidle : rotation.kernel.lockStep = .idle := by
      simp only [precheck, bind_eq_ok, require_eq_ok, beq_iff_eq] at hchecked
      obtain ⟨-, -, -, -, -, -, -, -, -, hidle, -⟩ := hchecked
      exact hidle
    have hacquired : checkRotationLockOrder rotation.kernel.lockStep .appFenceAcquired = .ok () := by
      rw [hidle]
      rfl
    dsimp only
    rw [advanceLock_eq_ok hacquired rfl]
    dsimp only
    unfold committing
    split
    · -- the crash before the commit
      have hnot : ¬passedCommit (.error (simulatedCrash "before secret-store commit")) = true := by decide
      rw [if_neg hnot]
      exact hbegin.withLock.withLock
    · split
      · have hcode : secretRevisionConflict ≠ wasmSecretSimulatedCrash := by decide
        rw [if_neg (passedCommit_error hcode)]
        exact hbegin.withLock.withLock
      · split
        · rename_i e hnext
          rw [if_neg (passedCommit_error (noCrash_nextSecretRevision _ e hnext))]
          exact hbegin.withLock
        · rename_i next hnext
          obtain ⟨heq, hbound⟩ := nextSecretRevision_eq_ok hnext
          have hcommit : RotationDuring (rotation.commit call next) (committed ++ [call.commandId]) spared
              (rotation.commit call next) := .begin (h.commit hchecked hid heq hbound)
          have hdone : Committed rotation (committed ++ [call.commandId]) spared
              (((rotation.withLock .appFenceAcquired).commit call next).invalidating call next) := by
            have hduring : RotationDuring rotation (committed ++ [call.commandId]) spared
                ((rotation.withLock .appFenceAcquired).commit call next) := by
              have hunlocked : RotationDuring rotation (committed ++ [call.commandId]) spared
                  (rotation.commit call next) := ⟨hcommit.ok, hcommit.fenced, hcommit.rises⟩
              exact hunlocked.withLock
            exact invalidating_spec hduring rfl (List.mem_append_right _ List.mem_cons_self) rfl rfl rfl rfl
          rw [if_pos hdone.2]
          exact hdone.1

/-! ## A recovery -/

/-- A row with its command, which the recovery makes where it is missing. -/
def materialize (supervisor : SupervisorSecretJournalState) (record : SecretInvalidationOutboxRecord) :
    SecretInvalidationOutboxRecord :=
  if record.invalidationCommand.isSome then record
  else { record with
    invalidationCommand := some (invalidationCommandFor supervisor record.commandId record.applicationId
      record.secretRevision (record.pendingSnapshotRef.getD "")) }

theorem rebuilt_valid (h : RotationOk rotation committed spared) (hmem : record ∈ rotation.kernel.outbox) :
    (invalidationCommandFor rotation.supervisor record.commandId record.applicationId record.secretRevision
      (record.pendingSnapshotRef.getD "")).validate = .ok () := by
  have hrow := h.rows record hmem
  obtain ⟨ref, href, hsha⟩ := hrow.ref
  refine validate_secretCommand rfl ?_ hrow.positive hrow.bounded ?_ fun fence hfence => ?_
  · show isApplicationId record.applicationId = true
    rw [hrow.application]
    exact h.application
  · show isSha256Hex (record.pendingSnapshotRef.getD "") = true
    rw [href]
    exact hsha
  · obtain ⟨candidate, hcandidate, rfl⟩ := List.mem_map.mp hfence
    exact h.candidates.valid candidate (List.mem_filter.mp hcandidate).1

theorem rebuildCommands_eq (h : RotationOk rotation committed spared)
    {rows : List SecretInvalidationOutboxRecord} (hrows : ∀ record ∈ rows, record ∈ rotation.kernel.outbox) :
    ∃ rebuilt, rebuildCommands rotation.supervisor rows =
      (rows.map (materialize rotation.supervisor), .ok rebuilt) := by
  induction rows with
  | nil => exact ⟨[], rfl⟩
  | cons row rows ih =>
    obtain ⟨rebuilt, hrest⟩ := ih fun record hrecord => hrows record (List.mem_cons_of_mem _ hrecord)
    unfold rebuildCommands
    rw [hrest]
    dsimp only
    by_cases hsome : row.invalidationCommand.isSome = true
    · rw [if_pos hsome, List.map_cons]
      refine ⟨rebuilt, ?_⟩
      unfold materialize
      rw [if_pos hsome]
    · have hmem := hrows row List.mem_cons_self
      have hvalid := rebuilt_valid h hmem
      obtain ⟨ref, href, -⟩ := (h.rows row hmem).ref
      have hbuild : rebuildInvalidationCommand rotation.supervisor row =
          .ok (invalidationCommandFor rotation.supervisor row.commandId row.applicationId row.secretRevision
            (row.pendingSnapshotRef.getD "")) := by
        unfold rebuildInvalidationCommand
        rw [href] at hvalid ⊢
        dsimp only
        rw [Option.getD_some] at hvalid ⊢
        rw [hvalid]
        rfl
      rw [if_neg hsome, hbuild, List.map_cons]
      refine ⟨row.commandId :: rebuilt, ?_⟩
      unfold materialize
      rw [if_neg hsome]
      rfl

theorem RotationOk.materialize (h : RotationOk rotation committed spared) :
    RotationOk (rotation.withOutbox (rotation.kernel.outbox.map (Iweb.materialize rotation.supervisor))) committed
      spared := by
  refine h.mapRows (fun row hrow => ?_) (fun row hrow => ?_) fun row hrow hnot => ?_
  · unfold Iweb.materialize
    split
    · exact ⟨rfl, rfl, rfl, id⟩
    · exact ⟨rfl, rfl, rfl, fun _ => rfl⟩
  · have hold := h.rows row hrow
    obtain ⟨ref, href, -⟩ := hold.ref
    unfold Iweb.materialize
    split
    · exact hold
    · refine ⟨hold.application, hold.positive, hold.bounded, hold.ref, fun command hcommand => ?_⟩
      cases hcommand
      refine ⟨rebuilt_valid h hrow, rfl, rfl, ?_⟩
      show some (row.pendingSnapshotRef.getD "") = row.pendingSnapshotRef
      rw [href]
      rfl
  · have hsame : (Iweb.materialize rotation.supervisor row).deliveryState = row.deliveryState := by
      unfold Iweb.materialize
      split <;> rfl
    rw [hsame] at hnot ⊢
    exact h.states row hrow hnot

theorem materialize_isSome (supervisor : SupervisorSecretJournalState) (record : SecretInvalidationOutboxRecord) :
    (materialize supervisor record).invalidationCommand.isSome = true := by
  unfold materialize
  split
  · assumption
  · rfl

/-- Every row has its command. -/
def Materialized (rotation : SecretRotation) : Prop :=
  ∀ row ∈ rotation.kernel.outbox, row.invalidationCommand.isSome = true

/-- The row of a command is changed, the others are kept. -/
theorem forall_changedRows {change : SecretInvalidationOutboxRecord → SecretInvalidationOutboxRecord}
    {P : SecretInvalidationOutboxRecord → Prop} {commandId : String}
    (hchanged : ∀ row ∈ rotation.kernel.outbox, row.commandId = commandId → P (change row))
    (hkept : ∀ row ∈ rotation.kernel.outbox, row.commandId ≠ commandId → P row) :
    ∀ row ∈ rotation.changedRows commandId change, P row := by
  intro row hrow
  obtain ⟨before, hbefore, rfl⟩ := List.mem_map.mp hrow
  split
  · rename_i hsame
    exact hchanged before hbefore hsame
  · rename_i hother
    exact hkept before hbefore hother

/-- Every row that is not acknowledged is delivered. -/
theorem deliverAll_spec (ids : List String) (h : RotationDuring first committed spared rotation)
    (hmaterialized : Materialized rotation) (hids : ∀ id ∈ ids, id ∈ committed)
    (hrows : ∀ row ∈ rotation.kernel.outbox,
      row.deliveryState = .acknowledged ∨ row.deliveryState = .sent ∨ row.commandId ∈ ids) :
    ∃ rotation', rotation.deliverAll ids = (rotation', .ok ()) ∧
      RotationDuring first committed spared rotation' ∧ Materialized rotation' ∧
      ∀ row ∈ rotation'.kernel.outbox, row.deliveryState = .acknowledged ∨ row.deliveryState = .sent := by
  induction ids generalizing rotation with
  | nil =>
    refine ⟨rotation, rfl, h, hmaterialized, fun row hrow => ?_⟩
    rcases hrows row hrow with hacked | hsent | hmem
    · exact .inl hacked
    · exact .inr hsent
    · exact absurd hmem List.not_mem_nil
  | cons id ids ih =>
    have hid := hids id List.mem_cons_self
    rw [← h.ok.ids] at hid
    obtain ⟨record, hmem, rfl⟩ := List.mem_map.mp hid
    obtain ⟨command, hcommand⟩ := Option.isSome_iff_exists.mp (hmaterialized record hmem)
    obtain ⟨rotation', hdeliver, hduring, hkernel⟩ := h.deliver hmem hcommand
    have hmaterialized' : Materialized rotation' := by
      unfold Materialized
      rw [hkernel]
      exact forall_changedRows (fun row hrow _ => hmaterialized row hrow) fun row hrow _ => hmaterialized row hrow
    have hrows' : ∀ row ∈ rotation'.kernel.outbox,
        row.deliveryState = .acknowledged ∨ row.deliveryState = .sent ∨ row.commandId ∈ ids := by
      rw [hkernel]
      refine forall_changedRows (fun row _ _ => .inr (.inl rfl)) fun row hrow hother => ?_
      rcases hrows row hrow with hacked | hsent | hlater
      · exact .inl hacked
      · exact .inr (.inl hsent)
      · exact .inr (.inr ((List.mem_cons.mp hlater).resolve_left hother))
    obtain ⟨last, hall, hlast⟩ := ih hduring hmaterialized'
      (fun id hid => hids id (List.mem_cons_of_mem _ hid)) hrows'
    refine ⟨last, ?_, hlast⟩
    unfold deliverAll
    rw [hdeliver]
    exact hall

/-- Every delivered row is acknowledged. -/
theorem projectAll_spec (ids : List String) (h : RotationDuring first committed spared rotation)
    (hmaterialized : Materialized rotation) (hids : ∀ id ∈ ids, id ∈ committed)
    (hsent : ∀ row ∈ rotation.kernel.outbox, row.deliveryState ≠ .pending)
    (hrows : ∀ row ∈ rotation.kernel.outbox, row.deliveryState = .acknowledged ∨ row.commandId ∈ ids) :
    ∃ rotation', rotation.projectAll ids = (rotation', .ok ()) ∧
      RotationDuring first committed spared rotation' ∧ Materialized rotation' ∧
      ∀ row ∈ rotation'.kernel.outbox, row.deliveryState = .acknowledged := by
  induction ids generalizing rotation with
  | nil =>
    exact ⟨rotation, rfl, h, hmaterialized, fun row hrow => (hrows row hrow).resolve_right List.not_mem_nil⟩
  | cons id ids ih =>
    have hid := hids id List.mem_cons_self
    rw [← h.ok.ids] at hid
    obtain ⟨record, hmem, rfl⟩ := List.mem_map.mp hid
    obtain ⟨command, hcommand⟩ := Option.isSome_iff_exists.mp (hmaterialized record hmem)
    have hknown := (h.ok.states record hmem (hsent record hmem)).2
    obtain ⟨rotation', hproject, hduring, hkernel⟩ := h.project hmem hcommand hknown
    have hmaterialized' : Materialized rotation' := by
      unfold Materialized
      rw [hkernel]
      exact forall_changedRows (fun row hrow _ => hmaterialized row hrow) fun row hrow _ => hmaterialized row hrow
    have hsent' : ∀ row ∈ rotation'.kernel.outbox, row.deliveryState ≠ .pending := by
      rw [hkernel]
      exact forall_changedRows (fun row _ _ => by simp) fun row hrow _ => hsent row hrow
    have hrows' : ∀ row ∈ rotation'.kernel.outbox, row.deliveryState = .acknowledged ∨ row.commandId ∈ ids := by
      rw [hkernel]
      refine forall_changedRows (fun row _ _ => .inl rfl) fun row hrow hother => ?_
      exact (hrows row hrow).imp_right fun hlater => (List.mem_cons.mp hlater).resolve_left hother
    obtain ⟨last, hall, hlast⟩ := ih hduring hmaterialized'
      (fun id hid => hids id (List.mem_cons_of_mem _ hid)) hsent' hrows'
    refine ⟨last, ?_, hlast⟩
    unfold projectAll
    rw [hproject]
    exact hall

theorem mem_commandsWhere {p : SecretOutboxDeliveryState → Bool} {id : String}
    (h : RotationOk rotation committed spared) (hid : id ∈ rotation.commandsWhere p) : id ∈ committed := by
  obtain ⟨row, hrow, rfl⟩ := List.mem_map.mp hid
  rw [← h.ids]
  exact List.mem_map_of_mem (List.mem_filter.mp hrow).1

/-- A recovery succeeds and acknowledges every row. -/
theorem recoverRotation_spec (h : RotationOk rotation committed spared) :
    ∃ rotation' report, rotation.recoverRotation = (rotation', .ok report) ∧
      RotationDuring rotation committed spared rotation' ∧ Materialized rotation' ∧
      ∀ row ∈ rotation'.kernel.outbox, row.deliveryState = .acknowledged := by
  have hidle : RotationOk (rotation.withLock .idle) committed spared := h.withLock
  obtain ⟨rebuilt, hrebuild⟩ := rebuildCommands_eq hidle fun _ hrecord => hrecord
  -- the rows have their commands
  have hbuilt := hidle.materialize
  generalize hrotation₁ : (rotation.withLock .idle).withOutbox ((rotation.withLock .idle).kernel.outbox.map
    (materialize (rotation.withLock .idle).supervisor)) = rotation₁ at hbuilt
  have hsupervisor : rotation₁.supervisor = rotation.supervisor := by
    rw [← hrotation₁]
    rfl
  have hduring : RotationDuring rotation committed spared rotation₁ := by
    refine ⟨?_, ?_, ?_⟩
    · rw [hsupervisor]
      unfold SupervisorSecretJournalState.sparedAfter
      rw [if_neg (Nat.lt_irrefl _)]
      exact hbuilt
    · rw [hsupervisor]
      exact .refl _
    · exact Nat.le_of_eq (by rw [hsupervisor])
  have hmaterialized : Materialized rotation₁ := by
    intro row hrow
    rw [← hrotation₁] at hrow
    obtain ⟨before, -, rfl⟩ := List.mem_map.mp hrow
    exact materialize_isSome _ before
  -- the deliveries
  have hpending : ∀ row ∈ rotation₁.kernel.outbox, row.deliveryState = .acknowledged ∨
      row.deliveryState = .sent ∨ row.commandId ∈ rotation₁.commandsWhere fun state => state != .acknowledged := by
    intro row hrow
    by_cases hacked : row.deliveryState = .acknowledged
    · exact .inl hacked
    · exact .inr (.inr (List.mem_map_of_mem (List.mem_filter.mpr ⟨hrow, bne_iff_ne.mpr hacked⟩)))
  obtain ⟨rotation₂, hdeliver, hduring₂, hmaterialized₂, hdelivered⟩ :=
    deliverAll_spec _ hduring hmaterialized (fun id hid => mem_commandsWhere hduring.ok hid) hpending
  -- the acknowledgements
  have hsent : ∀ row ∈ rotation₂.kernel.outbox, row.deliveryState ≠ .pending := by
    intro row hrow
    rcases hdelivered row hrow with hacked | hsent
    · rw [hacked]
      simp
    · rw [hsent]
      simp
  have hrows : ∀ row ∈ rotation₂.kernel.outbox, row.deliveryState = .acknowledged ∨
      row.commandId ∈ rotation₂.commandsWhere fun state => state == .sent := by
    intro row hrow
    refine (hdelivered row hrow).imp_right fun hsent => ?_
    exact List.mem_map_of_mem (List.mem_filter.mpr ⟨hrow, beq_iff_eq.mpr hsent⟩)
  obtain ⟨rotation₃, hproject, hduring₃, hmaterialized₃, hacked⟩ :=
    projectAll_spec _ hduring₂ hmaterialized₂ (fun id hid => mem_commandsWhere hduring₂.ok hid) hsent hrows
  unfold recoverRotation
  dsimp only
  rw [hrebuild]
  dsimp only
  rw [hrotation₁]
  unfold redelivering
  dsimp only
  rw [hdeliver]
  dsimp only
  rw [hproject]
  dsimp only
  unfold report
  dsimp only
  rw [if_neg (not_not.mpr hduring₃.ok.journal.fence)]
  exact ⟨rotation₃, _, rfl, hduring₃, hmaterialized₃, hacked⟩

end Runs

end Iweb
