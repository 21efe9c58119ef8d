import Iweb.Secrets.Proofs.RotationRunProofs

/-!
# Convergence

After every sequence of rotations, crashes, recoveries, preparations and activations, one recovery brings the
Kernel store, the outbox and the journal to the one state that the commits determine.
-/

namespace Iweb

open CrashRefinement SecretRotation

/-! ## The statement -/

/-- Both sides after a recovery. -/
structure SecretSystem.Converged (system : SecretSystem) : Prop where
  revision : system.rotation.kernel.store.secretRevision = system.committed.length
  rows : system.rotation.kernel.outbox.map SecretInvalidationOutboxRecord.commandId = system.committed
  acknowledged : ∀ record ∈ system.rotation.kernel.outbox, record.deliveryState = .acknowledged
  pairs : ∀ commandId ∈ system.committed,
    (system.rotation.supervisor.entries.filter fun entry => entry.commandId == commandId).map
      SupervisorSecretJournalEntry.kind = [.received, .completed]
  known : ∀ entry ∈ system.rotation.supervisor.entries, entry.commandId ∈ system.committed
  reduced : system.rotation.supervisor.invalidationFenceRevision =
    system.rotation.supervisor.reduceMaxInvalidationRevision
  fence : system.rotation.supervisor.invalidationFenceRevision = system.rotation.kernel.store.secretRevision
  stale : ∀ (i : Nat) (candidate : SupervisorCandidate), system.rotation.supervisor.candidates[i]? = some candidate →
    candidate.isActive = false → candidate.secretRevision < system.rotation.kernel.store.secretRevision →
    candidate.state = .stopped ∨ i ∈ system.spared

/-- No candidate is restarted or removed, and no active one is stopped. -/
def OneWay (supervisor supervisor' : SupervisorSecretJournalState) : Prop :=
  ∀ (i : Nat) (candidate : SupervisorCandidate), supervisor.candidates[i]? = some candidate →
    ∃ candidate' : SupervisorCandidate, supervisor'.candidates[i]? = some candidate' ∧
      candidate'.identityFence = candidate.identityFence ∧
      candidate'.secretRevision = candidate.secretRevision ∧
      (candidate.state = .stopped → candidate'.state = .stopped) ∧
      (candidate.isActive = true → candidate'.state = candidate.state)

/-- The command ids of the rotations. -/
def rotationIds (ops : List SecretOp) : List String :=
  ops.filterMap fun op =>
    match op with
    | .rotate call => some call.commandId
    | _ => none

/-- A rotation whose command is new. -/
def freshRotation (system : SecretSystem) : SecretOp → Prop
  | .rotate call => call.commandId ∉ system.committed
  | _ => True

/-- Two operations that differ in the secret values of valid requests only. -/
def SameButValues : SecretOp → SecretOp → Prop
  | .rotate call, .rotate call' => call.request.validate = .ok () ∧ call'.request.validate = .ok () ∧
      call' = { call with request := { call.request with values := call'.request.values } }
  | op, op' => op = op'

/-! ## Every operation keeps the agreement -/

section Operations

variable {system : SecretSystem} {op : SecretOp}

def SecretSystem.Ok (system : SecretSystem) : Prop :=
  RotationOk system.rotation system.committed system.spared

theorem CandidatesFenced.oneWay {supervisor supervisor' : SupervisorSecretJournalState}
    (h : CandidatesFenced supervisor supervisor') : OneWay supervisor supervisor' := by
  intro i candidate hget
  have hlt : i < supervisor'.candidates.length := by
    rw [← List.Forall₂.length_eq h]
    exact (List.getElem?_eq_some_iff.mp hget).1
  have hget' := List.getElem?_eq_getElem hlt
  obtain ⟨before, hbefore, hfence, hrevision, hactive, hstate⟩ := h.get hget'
  rw [hget] at hbefore
  cases hbefore
  refine ⟨_, hget', hfence, hrevision, fun hstopped => ?_, fun hlive => ?_⟩
  · rcases hstate with hsame | ⟨-, hstop⟩
    · exact hsame.trans hstopped
    · exact hstop
  · rcases hstate with hsame | ⟨hidle, -⟩
    · exact hsame
    · rw [hlive] at hidle
      cases hidle

theorem oneWay_refl (supervisor : SupervisorSecretJournalState) : OneWay supervisor supervisor :=
  CandidatesFenced.oneWay (.refl supervisor)

/-- The agreement does not depend on the candidates beyond what is known of them. -/
theorem SecretSystem.Ok.withCandidates {candidates : List SupervisorCandidate} (h : system.Ok)
    (hcandidates : CandidatesOk { system.rotation.supervisor with candidates := candidates }
      system.rotation.kernel.store.secretRevision system.spared) : (system.withCandidates candidates).Ok :=
  ⟨h.application, h.ids, h.distinct, h.revisions, h.count, h.rows, h.states,
    ⟨h.journal.pairs, h.journal.known, h.journal.fence⟩, hcandidates⟩

/-- The fence does not exceed the committed revision. -/
theorem RotationOk.fence_le {rotation : SecretRotation} {committed : List String} {spared : List Nat}
    (h : RotationOk rotation committed spared) :
    rotation.supervisor.invalidationFenceRevision ≤ rotation.kernel.store.secretRevision := by
  rw [h.journal.fence]
  have hentries : ∀ revision ∈ rotation.supervisor.entries.map SupervisorSecretJournalEntry.secretRevision,
      revision ≤ rotation.kernel.store.secretRevision := by
    intro revision hrevision
    obtain ⟨entry, hentry, rfl⟩ := List.mem_map.mp hrevision
    obtain ⟨record, hrecord, -, hsame, -⟩ := h.journal.known entry hentry
    have hrange : record.secretRevision ∈ List.range' 1 rotation.kernel.outbox.length := by
      rw [← h.revisions]
      exact List.mem_map_of_mem hrecord
    rw [List.mem_range'_1] at hrange
    rw [← hsame, h.count]
    omega
  have hfold : ∀ (l : List Nat) (a bound : Nat), a ≤ bound → (∀ n ∈ l, n ≤ bound) → l.foldl max a ≤ bound := by
    intro l
    induction l with
    | nil => exact fun a bound ha _ => ha
    | cons n l ih =>
      intro a bound ha hl
      exact ih _ _ (Nat.max_le.mpr ⟨ha, hl n List.mem_cons_self⟩) fun m hm => hl m (List.mem_cons_of_mem _ hm)
  exact hfold _ 0 _ (Nat.zero_le _) hentries

theorem SecretSystem.Ok.prepare {fence : SecretIdentityFence} {ready : Bool} (h : system.Ok) :
    (system.prepare fence ready).Ok ∧
      OneWay system.rotation.supervisor (system.prepare fence ready).rotation.supervisor := by
  unfold SecretSystem.prepare
  split
  · exact ⟨h, oneWay_refl _⟩
  · rename_i hvalid
    have hfence := RotationOk.fence_le h
    refine ⟨h.withCandidates ⟨fun candidate hmem => ?_, fun candidate hmem => ?_, fun candidate hmem hactive => ?_,
      fun i candidate hget hlow => ?_⟩, fun i candidate hget => ?_⟩
    · rcases List.mem_append.mp hmem with hold | hnew
      · exact h.candidates.valid candidate hold
      · rw [List.mem_singleton.mp hnew]
        exact hvalid
    · rcases List.mem_append.mp hmem with hold | hnew
      · exact h.candidates.revision candidate hold
      · exact Nat.le_of_eq (by rw [List.mem_singleton.mp hnew])
    · rcases List.mem_append.mp hmem with hold | hnew
      · exact h.candidates.active candidate hold hactive
      · rw [List.mem_singleton.mp hnew] at hactive
        cases hactive
    · rcases Nat.lt_or_ge i system.rotation.supervisor.candidates.length with hlt | hge
      · dsimp only at hget
        rw [List.getElem?_append_left hlt] at hget
        exact h.candidates.stale i candidate hget hlow
      · -- the new candidate is of the current revision, so it is not below the fence
        dsimp only at hget
        rw [List.getElem?_append_right hge] at hget
        have hnew := List.mem_singleton.mp (List.mem_of_getElem? hget)
        rw [hnew] at hlow
        exact absurd hlow (Nat.not_lt.mpr hfence)
    · refine ⟨candidate, ?_, rfl, rfl, id, fun _ => rfl⟩
      have hlt := (List.getElem?_eq_some_iff.mp hget).1
      exact (List.getElem?_append_left hlt).trans hget

/-- What an activation leaves of the candidates. -/
theorem adopted_get {candidates : List SupervisorCandidate} {i j : Nat} {candidate adopted : SupervisorCandidate}
    {replacing : Bool} (hget : candidates[i]? = some candidate)
    (hadopted : ((candidates.map fun other => { other with isActive := other.isActive && !replacing }).set i
      { candidate with isActive := true })[j]? = some adopted) :
    ∃ before, candidates[j]? = some before ∧ adopted.identityFence = before.identityFence ∧
      adopted.secretRevision = before.secretRevision ∧ adopted.state = before.state ∧
      (adopted.isActive = true → j = i ∨ before.isActive = true) := by
  by_cases hj : j = i
  · subst hj
    have hlt : j < (candidates.map fun other => { other with isActive := other.isActive && !replacing }).length := by
      rw [List.length_map]
      exact (List.getElem?_eq_some_iff.mp hget).1
    rw [List.getElem?_set_self hlt] at hadopted
    cases hadopted
    exact ⟨candidate, hget, rfl, rfl, rfl, fun _ => .inl rfl⟩
  · rw [List.getElem?_set_ne (Ne.symm hj), List.getElem?_map] at hadopted
    obtain ⟨before, hbefore, rfl⟩ := Option.map_eq_some_iff.mp hadopted
    refine ⟨before, hbefore, rfl, rfl, rfl, fun hactive => .inr ?_⟩
    exact (Bool.and_eq_true _ _ ▸ hactive).1

theorem SecretSystem.Ok.adopt {i : Nat} {secretSnapshotRef : String} {replacing : Bool} (h : system.Ok) :
    (system.adopt i secretSnapshotRef replacing).Ok ∧
      OneWay system.rotation.supervisor (system.adopt i secretSnapshotRef replacing).rotation.supervisor := by
  unfold SecretSystem.adopt
  split
  · exact ⟨h, oneWay_refl _⟩
  · rename_i candidate hget
    split
    · rename_i hready
      rw [Bool.and_eq_true, bne_iff_ne] at hready
      split
      · exact ⟨h, oneWay_refl _⟩
      · rename_i kernel hadopt
        simp only [KernelSecretRotationState.adoptActiveSnapshot, bind_eq_ok] at hadopt
        obtain ⟨_, _, _, _, _, _, hret⟩ := hadopt
        cases hret
        have hsystem : ({ system with rotation := { system.rotation with kernel :=
            { system.rotation.kernel with
              activeSnapshot := some ⟨candidate.secretRevision, secretSnapshotRef⟩ } } } : SecretSystem).Ok :=
          ⟨h.application, h.ids, h.distinct, h.revisions, h.count, h.rows, h.states, h.journal, h.candidates⟩
        have hbefore : ∀ adopted ∈ (system.rotation.supervisor.candidates.map fun other =>
            { other with isActive := other.isActive && !replacing }).set i { candidate with isActive := true },
            ∃ before ∈ system.rotation.supervisor.candidates, adopted.identityFence = before.identityFence ∧
              adopted.secretRevision = before.secretRevision ∧ adopted.state = before.state ∧
              (adopted.isActive = true → before = candidate ∨ before.isActive = true) := by
          intro adopted hmem
          obtain ⟨j, hadopted⟩ := List.mem_iff_getElem?.mp hmem
          obtain ⟨before, hget', hfence, hrevision, hstate, hactive⟩ := adopted_get hget hadopted
          refine ⟨before, List.mem_of_getElem? hget', hfence, hrevision, hstate, fun hlive => ?_⟩
          refine (hactive hlive).imp_left fun hj => ?_
          subst hj
          rw [hget] at hget'
          exact (Option.some.inj hget').symm
        refine ⟨hsystem.withCandidates ⟨fun adopted hmem => ?_, fun adopted hmem => ?_, fun adopted hmem hlive => ?_,
          fun j adopted hadopted hlow => ?_⟩, fun j before hold => ?_⟩
        · obtain ⟨before, hmem', hfence, -⟩ := hbefore adopted hmem
          rw [hfence]
          exact h.candidates.valid before hmem'
        · obtain ⟨before, hmem', -, hrevision, -⟩ := hbefore adopted hmem
          rw [hrevision]
          exact h.candidates.revision before hmem'
        · obtain ⟨before, hmem', -, -, hstate, hactive⟩ := hbefore adopted hmem
          rw [hstate]
          rcases hactive hlive with rfl | hlive'
          · exact hready.1
          · exact h.candidates.active before hmem' hlive'
        · obtain ⟨before, hget', -, hrevision, hstate, -⟩ := adopted_get hget hadopted
          rw [hstate]
          exact h.candidates.stale j before hget' (hrevision ▸ hlow)
        · have hlt : j < ((system.rotation.supervisor.candidates.map fun other =>
              { other with isActive := other.isActive && !replacing }).set i
              { candidate with isActive := true }).length := by
            rw [List.length_set, List.length_map]
            exact (List.getElem?_eq_some_iff.mp hold).1
          have hadopted := List.getElem?_eq_getElem hlt
          obtain ⟨before', hget', hfence, hrevision, hstate, -⟩ := adopted_get hget hadopted
          rw [hold] at hget'
          cases hget'
          exact ⟨_, hadopted, hfence, hrevision, hstate.trans, fun _ => hstate⟩
    · exact ⟨h, oneWay_refl _⟩

theorem SecretSystem.Ok.moveTo {rotation : SecretRotation} {committed : List String}
    (h : RotationDuring system.rotation committed system.spared rotation) :
    (system.moveTo rotation committed).Ok ∧
      OneWay system.rotation.supervisor (system.moveTo rotation committed).rotation.supervisor :=
  ⟨h.ok, h.fenced.oneWay⟩

theorem SecretSystem.Ok.step (h : system.Ok) (hfresh : freshRotation system op) :
    (system.step op).Ok ∧ OneWay system.rotation.supervisor (system.step op).rotation.supervisor := by
  cases op with
  | rotate call => exact Ok.moveTo (runSecretRotation_spec h hfresh)
  | recover =>
    obtain ⟨rotation', report, hrecover, hduring, -, -⟩ := recoverRotation_spec h
    have hstate : system.rotation.recoverRotation.1 = rotation' := by rw [hrecover]
    show (system.moveTo system.rotation.recoverRotation.1 system.committed).Ok ∧ _
    exact Ok.moveTo (hstate ▸ hduring)
  | prepare fence ready => exact h.prepare
  | adopt i secretSnapshotRef replacing => exact h.adopt

theorem ok_start {applicationId : String} {kernel : KernelSecretRotationState}
    (h : KernelSecretRotationState.new applicationId = .ok kernel) : (SecretSystem.start kernel).Ok := by
  simp only [KernelSecretRotationState.new, bind_eq_ok, validateSecretApplicationId, require_eq_ok] at h
  obtain ⟨_, happlication, hret⟩ := h
  cases hret
  refine ⟨happlication, rfl, List.nodup_nil, rfl, rfl, fun _ h => ?_, fun _ h => ?_,
    ⟨fun _ => .inl rfl, fun _ h => ?_, rfl⟩, ⟨fun _ h => ?_, fun _ h => ?_, fun _ h => ?_, fun i _ h => ?_⟩⟩
  · exact absurd h List.not_mem_nil
  · exact absurd h List.not_mem_nil
  · exact absurd h List.not_mem_nil
  · exact absurd h List.not_mem_nil
  · exact absurd h List.not_mem_nil
  · exact absurd h List.not_mem_nil
  · cases h

/-- An operation commits no other command than its own. -/
theorem step_committed {commandId : String} (h : commandId ∈ (system.step op).committed) :
    commandId ∈ system.committed ∨ commandId ∈ rotationIds [op] := by
  cases op with
  | rotate call =>
    unfold SecretSystem.step SecretSystem.moveTo at h
    dsimp only at h
    split at h
    · rcases List.mem_append.mp h with hold | hnew
      · exact .inl hold
      · exact .inr hnew
    · exact .inl h
  | recover => exact .inl h
  | prepare fence ready =>
    left
    unfold SecretSystem.step SecretSystem.prepare at h
    dsimp only at h
    split at h <;> exact h
  | adopt i secretSnapshotRef replacing =>
    left
    unfold SecretSystem.step SecretSystem.adopt at h
    dsimp only at h
    split at h
    · exact h
    · split at h
      · split at h <;> exact h
      · exact h

/-- Distinct command ids are new when they are used. -/
theorem along_freshRotation {ops : List SecretOp} (hids : (rotationIds ops).Nodup)
    (hnew : ∀ commandId ∈ system.committed, commandId ∉ rotationIds ops) :
    Along SecretSystem.step freshRotation system ops := by
  induction ops generalizing system with
  | nil => trivial
  | cons op ops ih =>
    have hsplit : rotationIds (op :: ops) = rotationIds [op] ++ rotationIds ops := by
      unfold rotationIds
      rw [← List.filterMap_append]
      rfl
    rw [hsplit] at hids hnew
    rw [List.nodup_append] at hids
    refine ⟨?_, ih hids.2.1 fun commandId hcommitted hlater => ?_⟩
    · cases op with
      | rotate call => exact fun hmem => hnew _ hmem (List.mem_append_left _ List.mem_cons_self)
      | recover => trivial
      | prepare fence ready => trivial
      | adopt i secretSnapshotRef replacing => trivial
    · rcases step_committed hcommitted with hold | hown
      · exact hnew _ hold (List.mem_append_right _ hlater)
      · exact hids.2.2 _ hown _ hlater rfl

theorem ok_run {ops : List SecretOp} (h : system.Ok) (hfresh : Along SecretSystem.step freshRotation system ops) :
    (run SecretSystem.step system ops).Ok :=
  hfresh.invariant (fun _ _ hgood hok => (hok.step hgood).1) h

/-! ## After a recovery -/

/-- A fold of maxima is at least each member. -/
theorem le_foldl_max {l : List Nat} {n : Nat} (a : Nat) (h : n ∈ l ∨ n ≤ a) : n ≤ l.foldl max a := by
  induction l generalizing a with
  | nil => exact h.resolve_left List.not_mem_nil
  | cons m l ih =>
    refine ih (max a m) ?_
    rcases h with hmem | hle
    · rcases List.mem_cons.mp hmem with rfl | hmem
      · exact .inr (Nat.le_max_right _ _)
      · exact .inl hmem
    · exact .inr (Nat.le_trans hle (Nat.le_max_left _ _))

theorem SecretSystem.Ok.recovered (h : system.Ok) : (system.step .recover).Converged := by
  obtain ⟨rotation, report, hrecover, hduring, -, hacked⟩ := recoverRotation_spec h
  have hfresh : freshRotation system .recover := trivial
  have hok : (system.step .recover).Ok := (h.step hfresh).1
  have hrotation : (system.step .recover).rotation = rotation := by
    show system.rotation.recoverRotation.1 = rotation
    rw [hrecover]
  have hknown : ∀ record ∈ (system.step .recover).rotation.kernel.outbox,
      (system.step .recover).rotation.supervisor.hasCommand record.commandId = true := by
    intro record hrecord
    have hstate := hacked record (hrotation ▸ hrecord)
    exact (hok.states record hrecord (by rw [hstate]; simp)).2
  have hlength : (system.step .recover).rotation.kernel.outbox.length = (system.step .recover).committed.length := by
    rw [← hok.ids, List.length_map]
  have hfence : (system.step .recover).rotation.supervisor.invalidationFenceRevision =
      (system.step .recover).rotation.kernel.store.secretRevision := by
    refine Nat.le_antisymm (RotationOk.fence_le hok) ?_
    rw [hok.journal.fence, hok.count]
    rcases Nat.eq_zero_or_pos (system.step .recover).rotation.kernel.outbox.length with hnone | hpos
    · rw [hnone]
      exact Nat.zero_le _
    · -- the last row has the greatest revision, and the journal has its entry
      have hlast : (system.step .recover).rotation.kernel.outbox.length ∈
          (system.step .recover).rotation.kernel.outbox.map SecretInvalidationOutboxRecord.secretRevision := by
        rw [hok.revisions, List.mem_range'_1]
        omega
      obtain ⟨record, hrecord, hrevision⟩ := List.mem_map.mp hlast
      obtain ⟨entry, hentry, hid⟩ := List.any_eq_true.mp (hknown record hrecord)
      obtain ⟨row, hrow, hrowId, hrowRevision, -⟩ := hok.journal.known entry hentry
      have hsame : row = record := RotationOk.row_unique hok hrecord hrow (hrowId.trans (beq_iff_eq.mp hid))
      rw [← hrevision, ← hsame, hrowRevision]
      exact le_foldl_max 0 (.inl (List.mem_map_of_mem hentry))
  refine ⟨hok.count.trans hlength, hok.ids, fun record hrecord => hacked record (hrotation ▸ hrecord),
    fun commandId hcommitted => ?_, fun entry hentry => ?_, hok.journal.fence, hfence,
    fun i candidate hget hidle hlow => ?_⟩
  · rw [← hok.ids] at hcommitted
    obtain ⟨record, hrecord, rfl⟩ := List.mem_map.mp hcommitted
    refine (hok.journal.pairs record.commandId).resolve_left fun hnone => ?_
    obtain ⟨entry, hentry, hid⟩ := List.any_eq_true.mp (hknown record hrecord)
    have hmem : entry ∈ (system.step .recover).rotation.supervisor.entries.filter fun entry =>
        entry.commandId == record.commandId := List.mem_filter.mpr ⟨hentry, hid⟩
    rw [List.map_eq_nil_iff.mp hnone] at hmem
    exact absurd hmem List.not_mem_nil
  · obtain ⟨record, hrecord, hid, -⟩ := hok.journal.known entry hentry
    rw [← hid, ← hok.ids]
    exact List.mem_map_of_mem hrecord
  · exact hok.candidates.stale i candidate hget (hfence ▸ hlow)

end Operations

/-! ## The secret values -/

section Values

variable (rotation : SecretRotation) (values : Std.ExtTreeMap String String)

def SecretRotation.withValues (rotation : SecretRotation) (values : Std.ExtTreeMap String String) :
    SecretRotation :=
  { rotation with
    kernel := { rotation.kernel with store := { rotation.kernel.store with values := values } } }

/-- A result with other values in the store. -/
def withValuesIn {α : Type} (values : Std.ExtTreeMap String String) (result : SecretRotation × α) :
    SecretRotation × α := (result.1.withValues values, result.2)

theorem changeRecord_withValues (commandId : String)
    (change : SecretInvalidationOutboxRecord → SecretInvalidationOutboxRecord) :
    (rotation.withValues values).changeRecord commandId change =
      (rotation.changeRecord commandId change).map (·.withValues values) := by
  unfold changeRecord
  rw [show (rotation.withValues values).kernel.outbox = rotation.kernel.outbox from rfl]
  split <;> rfl

theorem deliverInvalidation_withValues (commandId : String) :
    (rotation.withValues values).deliverInvalidation commandId =
      withValuesIn values (rotation.deliverInvalidation commandId) := by
  unfold deliverInvalidation
  rw [show (rotation.withValues values).outboxRecord commandId = rotation.outboxRecord commandId from rfl]
  rcases rotation.outboxRecord commandId with e | record
  · rfl
  · dsimp only
    rcases record.invalidationCommand with _ | command
    · rfl
    · dsimp only
      rw [show (rotation.withValues values).supervisor = rotation.supervisor from rfl]
      generalize rotation.supervisor.applyInvalidation command = applied
      obtain ⟨supervisor, answer⟩ := applied
      rcases answer with e | journalRevision
      · rfl
      · dsimp only
        rw [show ({ (rotation.withValues values) with supervisor := supervisor } : SecretRotation) =
          ({ rotation with supervisor := supervisor } : SecretRotation).withValues values from rfl,
          changeRecord_withValues]
        generalize SecretRotation.changeRecord _ commandId _ = changed
        cases changed <;> rfl

theorem project_withValues (commandId : String) :
    (rotation.withValues values).projectInvalidationAcknowledgement commandId =
      (rotation.projectInvalidationAcknowledgement commandId).map (·.withValues values) := by
  unfold projectInvalidationAcknowledgement
  rw [show (rotation.withValues values).supervisor = rotation.supervisor from rfl]
  rcases rotation.supervisor.completedEntry commandId with _ | completed
  · rfl
  · dsimp only
    rw [show (rotation.withValues values).outboxRecord commandId = rotation.outboxRecord commandId from rfl]
    rcases rotation.outboxRecord commandId with e | record
    · rfl
    · show (require _ _ _ >>= fun _ => _) = Except.map _ (require _ _ _ >>= fun _ => _)
      generalize require _ _ _ = checked
      rcases checked with e | _
      · rfl
      · exact changeRecord_withValues rotation values commandId _

theorem acknowledging_withValues (call : RotationCall) (nextRevision : Nat) :
    (rotation.withValues values).acknowledging call nextRevision =
      withValuesIn values (rotation.acknowledging call nextRevision) := by
  unfold acknowledging
  rw [project_withValues]
  rcases rotation.projectInvalidationAcknowledgement call.commandId with e | projected
  · rfl
  · dsimp only [Except.map]
    rw [show (projected.withValues values).outboxRecord call.commandId = projected.outboxRecord call.commandId
      from rfl]
    rcases projected.outboxRecord call.commandId with e | record
    · rfl
    · dsimp only
      split <;> rfl

theorem delivering_withValues (call : RotationCall) (nextRevision : Nat) :
    (rotation.withValues values).delivering call nextRevision =
      withValuesIn values (rotation.delivering call nextRevision) := by
  unfold delivering
  split
  · rfl
  · rw [deliverInvalidation_withValues]
    generalize rotation.deliverInvalidation call.commandId = delivered
    obtain ⟨after, answer⟩ := delivered
    rcases answer with e | _
    · rfl
    · show (if _ then _ else (after.withValues values).acknowledging call nextRevision) = _
      rw [acknowledging_withValues]
      dsimp only
      split <;> rfl

theorem persisting_withValues (call : RotationCall) (nextRevision : Nat) (command : SecretInvalidationCommand) :
    (rotation.withValues values).persisting call nextRevision command =
      withValuesIn values (rotation.persisting call nextRevision command) := by
  unfold persisting
  rw [changeRecord_withValues]
  rcases rotation.changeRecord call.commandId _ with e | persisted
  · rfl
  · dsimp only [Except.map]
    rw [show (persisted.withValues values).kernel.lockStep = persisted.kernel.lockStep from rfl]
    rcases advanceLock persisted.kernel.lockStep .invalidationCommandPersisted with e | step
    · rfl
    · dsimp only
      rcases advanceLock step .completed with e | done
      · rfl
      · exact delivering_withValues (persisted.withLock .idle) values call nextRevision

theorem invalidating_withValues (call : RotationCall) (nextRevision : Nat) :
    (rotation.withValues values).invalidating call nextRevision =
      withValuesIn values (rotation.invalidating call nextRevision) := by
  unfold invalidating
  rw [show (rotation.withValues values).kernel.lockStep = rotation.kernel.lockStep from rfl]
  rcases advanceLock rotation.kernel.lockStep .secretRowCasCommitted with e | committed
  · rfl
  · dsimp only
    rcases advanceLock committed .secretRowLockReleased with e | released
    · rfl
    · dsimp only
      rw [show ((rotation.withValues values).withLock released).supervisor =
        (rotation.withLock released).supervisor from rfl]
      rcases (invalidationCommandFor (rotation.withLock released).supervisor call.commandId
        call.request.applicationId nextRevision call.pendingSnapshotRef).validate with e | _
      · rfl
      · dsimp only
        split
        · rfl
        · exact persisting_withValues (rotation.withLock released) values call nextRevision _

/-- A rotation with other valid secret values differs in the values of the store only. -/
theorem runSecretRotation_withValues {call : RotationCall} (newValues : Std.ExtTreeMap String String)
    (hvalid : call.request.validate = .ok ())
    (hvalid' : ({ call.request with values := newValues } : SecretAllowlistMutation).validate = .ok ()) :
    ∃ last, (rotation.withValues values).runSecretRotation
        { call with request := { call.request with values := newValues } } =
      withValuesIn last (rotation.runSecretRotation call) := by
  have hprecheck : (rotation.withValues values).precheck
      { call with request := { call.request with values := newValues } } = rotation.precheck call := by
    unfold precheck
    dsimp only
    rw [hvalid, hvalid']
    rfl
  unfold runSecretRotation
  rw [hprecheck]
  rcases rotation.precheck call with e | _
  · exact ⟨values, rfl⟩
  · dsimp only
    rw [show (rotation.withValues values).kernel.lockStep = rotation.kernel.lockStep from rfl]
    rcases advanceLock rotation.kernel.lockStep .appFenceAcquired with e | acquired
    · exact ⟨values, rfl⟩
    · dsimp only
      unfold committing
      rw [show ((rotation.withValues values).withLock acquired).kernel.store.secretRevision =
        (rotation.withLock acquired).kernel.store.secretRevision from rfl]
      dsimp only
      by_cases hcrash : call.crash = some .beforeSecretStoreCommit
      · rw [if_pos hcrash, if_pos hcrash]
        exact ⟨values, rfl⟩
      · rw [if_neg hcrash, if_neg hcrash]
        by_cases hconflict : call.request.expectedSecretRevision ≠
            (rotation.withLock acquired).kernel.store.secretRevision
        · rw [if_pos hconflict, if_pos hconflict]
          exact ⟨values, rfl⟩
        · rw [if_neg hconflict, if_neg hconflict]
          rcases nextSecretRevision (rotation.withLock acquired).kernel.store.secretRevision with e | next
          · exact ⟨values, rfl⟩
          · exact ⟨newValues, invalidating_withValues ((rotation.withLock acquired).commit call next) newValues call
              next⟩

theorem deliverAll_withValues (ids : List String) :
    (rotation.withValues values).deliverAll ids = withValuesIn values (rotation.deliverAll ids) := by
  induction ids generalizing rotation with
  | nil => rfl
  | cons id ids ih =>
    unfold deliverAll
    rw [deliverInvalidation_withValues]
    generalize rotation.deliverInvalidation id = delivered
    obtain ⟨after, answer⟩ := delivered
    rcases answer with e | _
    · rfl
    · exact ih after

theorem projectAll_withValues (ids : List String) :
    (rotation.withValues values).projectAll ids = withValuesIn values (rotation.projectAll ids) := by
  induction ids generalizing rotation with
  | nil => rfl
  | cons id ids ih =>
    unfold projectAll
    rw [project_withValues]
    rcases rotation.projectInvalidationAcknowledgement id with e | after
    · rfl
    · exact ih after

theorem report_withValues (rebuilt delivered acknowledged : List String) :
    (rotation.withValues values).report rebuilt delivered acknowledged =
      withValuesIn values (rotation.report rebuilt delivered acknowledged) := by
  unfold report
  dsimp only
  rw [show (rotation.withValues values).supervisor = rotation.supervisor from rfl]
  split <;> rfl

theorem redelivering_withValues (rebuilt : List String) :
    (rotation.withValues values).redelivering rebuilt = withValuesIn values (rotation.redelivering rebuilt) := by
  unfold redelivering
  dsimp only
  rw [show (rotation.withValues values).commandsWhere = rotation.commandsWhere from rfl, deliverAll_withValues]
  generalize rotation.deliverAll _ = delivered
  obtain ⟨after, answer⟩ := delivered
  rcases answer with e | _
  · rfl
  · unfold withValuesIn
    dsimp only
    rw [projectAll_withValues, show (after.withValues values).commandsWhere = after.commandsWhere from rfl]
    generalize after.projectAll _ = projected
    obtain ⟨last, answer⟩ := projected
    rcases answer with e | _
    · rfl
    · exact report_withValues last values _ _ _

theorem recoverRotation_withValues :
    (rotation.withValues values).recoverRotation = withValuesIn values rotation.recoverRotation := by
  unfold recoverRotation
  dsimp only
  rw [show ((rotation.withValues values).withLock .idle).supervisor = (rotation.withLock .idle).supervisor from rfl,
    show ((rotation.withValues values).withLock .idle).kernel.outbox = (rotation.withLock .idle).kernel.outbox from
      rfl]
  generalize rebuildCommands (rotation.withLock .idle).supervisor (rotation.withLock .idle).kernel.outbox = built
  obtain ⟨outbox, answer⟩ := built
  rcases answer with e | rebuilt
  · rfl
  · exact redelivering_withValues ((rotation.withLock .idle).withOutbox outbox) values rebuilt

/-- The system with other values in the store. -/
def SecretSystem.withValues (system : SecretSystem) (values : Std.ExtTreeMap String String) : SecretSystem :=
  { system with rotation := system.rotation.withValues values }

theorem step_withValues (system : SecretSystem) {op op' : SecretOp} (h : SameButValues op op') :
    ∃ last, (system.withValues values).step op' = (system.step op).withValues last := by
  cases op with
  | rotate call =>
    cases op' with
    | rotate call' =>
      obtain ⟨hvalid, hvalid', hcall⟩ := h
      rw [hcall] at hvalid' ⊢
      obtain ⟨last, hrun⟩ := runSecretRotation_withValues system.rotation values call'.request.values hvalid hvalid'
      refine ⟨last, ?_⟩
      unfold SecretSystem.step
      rw [show (system.withValues values).rotation = system.rotation.withValues values from rfl]
      dsimp only
      rw [hrun]
      rfl
    | recover => cases h
    | prepare fence ready => cases h
    | adopt i secretSnapshotRef replacing => cases h
  | recover =>
    cases op' with
    | recover =>
      refine ⟨values, ?_⟩
      unfold SecretSystem.step
      dsimp only
      rw [show (system.withValues values).rotation = system.rotation.withValues values from rfl,
        recoverRotation_withValues]
      rfl
    | rotate call' => cases h
    | prepare fence ready => cases h
    | adopt i secretSnapshotRef replacing => cases h
  | prepare fence ready =>
    cases op' with
    | prepare fence' ready' =>
      cases h
      refine ⟨values, ?_⟩
      unfold SecretSystem.step SecretSystem.prepare
      dsimp only
      split <;> rfl
    | rotate call' => cases h
    | recover => cases h
    | adopt i secretSnapshotRef replacing => cases h
  | adopt i secretSnapshotRef replacing =>
    cases op' with
    | adopt i' secretSnapshotRef' replacing' =>
      cases h
      refine ⟨values, ?_⟩
      unfold SecretSystem.step SecretSystem.adopt
      dsimp only
      rw [show (system.withValues values).rotation.supervisor = system.rotation.supervisor from rfl]
      split
      · rfl
      · rename_i candidate hget
        rw [show (system.withValues values).rotation.kernel.store.secretRevision =
          system.rotation.kernel.store.secretRevision from rfl]
        split
        · have hadopt : (system.withValues values).rotation.kernel.adoptActiveSnapshot candidate.secretRevision
              secretSnapshotRef = (system.rotation.kernel.adoptActiveSnapshot candidate.secretRevision
                secretSnapshotRef).map fun kernel =>
                  { kernel with store := { kernel.store with values := values } } := by
            unfold KernelSecretRotationState.adoptActiveSnapshot
            rw [show (system.withValues values).rotation.kernel.store.secretRevision =
              system.rotation.kernel.store.secretRevision from rfl]
            generalize requireSecretU53 candidate.secretRevision "secretRevision" = bounded
            generalize validateSecretSnapshotRef secretSnapshotRef = valid
            rcases bounded with e | _
            · rfl
            · rcases valid with e | _
              · rfl
              · show (require _ _ _ >>= fun _ => _) = Except.map _ (require _ _ _ >>= fun _ => _)
                generalize require _ _ _ = committed
                rcases committed with e | _ <;> rfl
          rw [hadopt]
          rcases system.rotation.kernel.adoptActiveSnapshot candidate.secretRevision secretSnapshotRef with e | kernel
          · rfl
          · rfl
        · rfl
    | rotate call' => cases h
    | recover => cases h
    | prepare fence ready => cases h

theorem run_withValues {ops ops' : List SecretOp} (h : List.Forall₂ SameButValues ops ops')
    (system : SecretSystem) : ∃ last, run SecretSystem.step (system.withValues values) ops' =
      (run SecretSystem.step system ops).withValues last := by
  induction h generalizing values system with
  | nil => exact ⟨values, rfl⟩
  | cons hop _ ih =>
    obtain ⟨next, hstep⟩ := step_withValues values system hop
    rw [run_cons, run_cons, hstep]
    exact ih next _

end Values

/-! ## Every run -/

/-- Rotations converge from every crash: after any operations and one recovery the revision counts the
commits, every row is acknowledged, the journal has one pair of entries for each commit and its fence is the
committed revision, and the candidates of a lower revision are stopped unless they were active when that
fence was journaled; on the way no candidate was restarted and no active one stopped; and nothing but the
store depends on the secret values. -/
theorem rotations_converge {applicationId : String} {kernel : KernelSecretRotationState}
    (hnew : KernelSecretRotationState.new applicationId = .ok kernel) (ops : List SecretOp)
    (hids : (rotationIds ops).Nodup) :
    (run SecretSystem.step (.start kernel) (ops ++ [.recover])).Converged ∧
    (∀ before op after, ops ++ [.recover] = before ++ op :: after →
      OneWay (run SecretSystem.step (.start kernel) before).rotation.supervisor
        (run SecretSystem.step (.start kernel) (before ++ [op])).rotation.supervisor) ∧
    (∀ before after, ops ++ [.recover] = before ++ after →
      ∀ candidate ∈ (run SecretSystem.step (.start kernel) before).rotation.supervisor.candidates,
        candidate.isActive = true → candidate.state ≠ .stopped) ∧
    ∀ ops', List.Forall₂ SameButValues ops ops' →
      (run SecretSystem.step (.start kernel) (ops' ++ [.recover])).rotation.kernel.outbox =
        (run SecretSystem.step (.start kernel) (ops ++ [.recover])).rotation.kernel.outbox ∧
      (run SecretSystem.step (.start kernel) (ops' ++ [.recover])).rotation.supervisor =
        (run SecretSystem.step (.start kernel) (ops ++ [.recover])).rotation.supervisor := by
  have hstart := ok_start hnew
  have hfresh : Along SecretSystem.step freshRotation (.start kernel) ops :=
    along_freshRotation hids fun _ h => absurd h List.not_mem_nil
  have hall : Along SecretSystem.step freshRotation (.start kernel) (ops ++ [.recover]) :=
    along_append.mpr ⟨hfresh, trivial, trivial⟩
  refine ⟨?_, fun before op after hsplit => ?_, fun before after hsplit => ?_, fun ops' hsame => ?_⟩
  · rw [run_append]
    exact (ok_run hstart hfresh).recovered
  · rw [hsplit, along_append] at hall
    rw [run_append]
    exact ((ok_run hstart hall.1).step hall.2.1).2
  · rw [hsplit, along_append] at hall
    exact (ok_run hstart hall.1).candidates.active
  · have hrecover : List.Forall₂ SameButValues (ops ++ [.recover]) (ops' ++ [.recover]) :=
      List.rel_append hsame (.cons rfl .nil)
    obtain ⟨last, hrun⟩ := run_withValues kernel.store.values hrecover (.start kernel)
    rw [show (SecretSystem.start kernel).withValues kernel.store.values = .start kernel from rfl] at hrun
    rw [hrun]
    exact ⟨rfl, rfl⟩

/-! ## A replaced candidate -/

def shopKernel : KernelSecretRotationState := ⟨⟨"shop", 0, [], ∅⟩, [], .idle, none⟩

theorem new_shop : KernelSecretRotationState.new "shop" = .ok shopKernel := by
  have happlication : isApplicationId "shop" = true := by decide +kernel
  unfold KernelSecretRotationState.new validateSecretApplicationId
  rw [happlication]
  rfl

def shopVersion : String := "a405ef8d2951e580f70c465aabb96a32b9a29526998b3ef920edfff3c1caa532-1"

def shopRef : String := "a405ef8d2951e580f70c465aabb96a32b9a29526998b3ef920edfff3c1caa532"

/-- A rotation of the empty allowlist. -/
def emptyRotation (commandId : String) (expectedSecretRevision : Nat) (crash : Option RotationCrashPoint) :
    RotationCall :=
  ⟨⟨1, "shop", expectedSecretRevision, [], ∅⟩, commandId, shopRef, 1000, crash⟩

/-- A rotation crashes after its commit, the next one is refused, and the recovery completes the first. -/
def crashOps : List SecretOp :=
  [.prepare ⟨"sbx-spare", shopVersion, 1, 1⟩ true,
    .rotate (emptyRotation "cmd-1" 0 (some .afterCommitBeforeInvalidation)), .rotate (emptyRotation "cmd-2" 1 none)]

theorem rotations_converge_crash :
    (run SecretSystem.step (.start shopKernel) (crashOps ++ [.recover])).Converged ∧
      (run SecretSystem.step (.start shopKernel) (crashOps ++ [.recover])).committed = ["cmd-1"] :=
  ⟨(rotations_converge new_shop crashOps (by decide)).1, by decide +kernel⟩

/-- A candidate is adopted, a rotation spares it, and an activation replaces it. -/
def replacedOps : List SecretOp :=
  [.prepare ⟨"sbx-first", shopVersion, 1, 1⟩ true, .adopt 0 shopRef true, .rotate (emptyRotation "cmd-1" 0 none),
    .prepare ⟨"sbx-second", shopVersion, 2, 2⟩ true, .adopt 1 shopRef true]

/-- A candidate of a lower revision that an activation has replaced is not active, and it is not stopped. -/
theorem replaced_candidate_not_stopped :
    ¬∀ (applicationId : String) (kernel : KernelSecretRotationState),
      KernelSecretRotationState.new applicationId = .ok kernel → ∀ ops : List SecretOp, (rotationIds ops).Nodup →
      ∀ candidate ∈ (run SecretSystem.step (.start kernel)
          (ops ++ [.recover])).rotation.supervisor.candidates, candidate.isActive = false →
        candidate.secretRevision < (run SecretSystem.step (.start kernel)
          (ops ++ [.recover])).rotation.kernel.store.secretRevision → candidate.state = .stopped := by
  intro h
  have hstopped := h "shop" shopKernel new_shop replacedOps (by decide)
    ⟨⟨"sbx-first", shopVersion, 1, 1⟩, 0, .ready, false⟩ (by decide +kernel) rfl (by decide +kernel)
  exact absurd hstopped (by decide)

end Iweb
