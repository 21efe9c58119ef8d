import Mathlib.Data.List.Nodup
import Iweb.Secrets.Rotation

/-!
# Where rotations and recoveries lead

Every operation keeps the outbox, the journal and the candidates in agreement, whatever the crash; a recovery
then acknowledges every row, and the journal's fence is the committed revision.
-/

namespace Iweb

open CrashRefinement

/-! ## Checks that succeed -/

theorem advanceLock_eq_ok {source target step : RotationLockStep}
    (h : checkRotationLockOrder source target = .ok ()) (hstep : step = target) :
    advanceLock source target = .ok step := by
  subst hstep
  unfold advanceLock
  rw [h]
  rfl

theorem nextSecretRevision_eq_ok {current next : Nat} (h : nextSecretRevision current = .ok next) :
    next = current + 1 ∧ next ≤ wasmU53Max := by
  simp only [nextSecretRevision, bind_eq_ok, requireSecretU53, require_eq_ok, decide_eq_true_eq] at h
  obtain ⟨_, hbound, _, hne, hret⟩ := h
  cases hret
  exact ⟨rfl, by omega⟩

theorem validate_secretCommand {command : SecretInvalidationCommand} (hschema : command.schemaVersion = 1)
    (happlication : isApplicationId command.applicationId = true) (hpos : 1 ≤ command.secretRevision)
    (hbound : command.secretRevision ≤ wasmU53Max) (href : isSha256Hex command.secretSnapshotRef = true)
    (htargets : ∀ fence ∈ command.fenceTargets, fence.validate = .ok ()) : command.validate = .ok () := by
  have hne : command.secretRevision ≠ 0 := by omega
  simp only [SecretInvalidationCommand.validate, bind_eq_ok, require_eq_ok, validateSecretApplicationId,
    requireSecretU53, validateSecretSnapshotRef, beq_iff_eq, decide_eq_true_eq]
  exact ⟨(), hschema, (), happlication, (), hbound, (), href, (), hne, forM_eq_ok htargets⟩

/-! ## Rows of the outbox -/

namespace SecretRotation

theorem updateLastRecord_none {commandId : String}
    {change : SecretInvalidationOutboxRecord → SecretInvalidationOutboxRecord}
    {rows : List SecretInvalidationOutboxRecord} (h : ∀ record ∈ rows, record.commandId ≠ commandId) :
    updateLastRecord commandId change rows = none := by
  induction rows with
  | nil => rfl
  | cons row rows ih =>
    unfold updateLastRecord
    rw [ih fun record hrecord => h record (List.mem_cons_of_mem _ hrecord)]
    exact if_neg (h row List.mem_cons_self)

/-- The row of a command is changed and no other, where commands are distinct. -/
theorem updateLastRecord_eq {commandId : String}
    {change : SecretInvalidationOutboxRecord → SecretInvalidationOutboxRecord}
    {rows : List SecretInvalidationOutboxRecord} {record : SecretInvalidationOutboxRecord}
    (hids : (rows.map SecretInvalidationOutboxRecord.commandId).Nodup) (hmem : record ∈ rows)
    (hid : record.commandId = commandId) :
    updateLastRecord commandId change rows =
      some (rows.map fun row => if row.commandId = commandId then change row else row) := by
  induction rows with
  | nil => exact absurd hmem List.not_mem_nil
  | cons row rows ih =>
    rw [List.map_cons, List.nodup_cons] at hids
    unfold updateLastRecord
    rcases List.mem_cons.mp hmem with rfl | hrest
    · have hothers : ∀ other ∈ rows, other.commandId ≠ commandId := by
        intro other hother hsame
        exact hids.1 (List.mem_map.mpr ⟨other, hother, hsame.trans hid.symm⟩)
      have hsame : (rows.map fun row => if row.commandId = commandId then change row else row) = rows := by
        conv => rhs; rw [← List.map_id rows]
        exact List.map_congr_left fun other hother => if_neg (hothers other hother)
      rw [updateLastRecord_none hothers, List.map_cons, hsame]
      simp only [hid, if_true]
    · have hrow : row.commandId ≠ commandId := by
        intro hsame
        exact hids.1 (List.mem_map.mpr ⟨record, hrest, hid.trans hsame.symm⟩)
      rw [ih hids.2 hrest, List.map_cons]
      simp only [hrow, if_false]

/-- The row of a command, where commands are distinct. -/
theorem find?_row {commandId : String} {rows : List SecretInvalidationOutboxRecord}
    {record : SecretInvalidationOutboxRecord}
    (hids : (rows.map SecretInvalidationOutboxRecord.commandId).Nodup) (hmem : record ∈ rows)
    (hid : record.commandId = commandId) :
    rows.reverse.find? (fun row => row.commandId == commandId) = some record := by
  rcases hfind : rows.reverse.find? (fun row => row.commandId == commandId) with _ | found
  · have hnone := List.find?_eq_none.mp hfind record (List.mem_reverse.mpr hmem)
    rw [hid, beq_self_eq_true] at hnone
    exact absurd rfl hnone
  · have hfound : found ∈ rows := List.mem_reverse.mp (List.mem_of_find?_eq_some hfind)
    have hkey : found.commandId = commandId := by
      have := List.find?_some hfind
      exact beq_iff_eq.mp this
    rw [hfind, List.inj_on_of_nodup_map hids hfound hmem (hkey.trans hid.symm)]

end SecretRotation

/-! ## The invariant -/

/-- A row carries its revision, a reference, and a command that agrees with both. -/
structure RowOk (applicationId : String) (record : SecretInvalidationOutboxRecord) : Prop where
  application : record.applicationId = applicationId
  positive : 1 ≤ record.secretRevision
  bounded : record.secretRevision ≤ wasmU53Max
  ref : ∃ ref, record.pendingSnapshotRef = some ref ∧ isSha256Hex ref = true
  command : ∀ command ∈ record.invalidationCommand, command.validate = .ok () ∧
    command.commandId = record.commandId ∧ command.secretRevision = record.secretRevision ∧
    some command.secretSnapshotRef = record.pendingSnapshotRef

/-- The entries of a command: none, or one received and one completed entry. -/
def PairOf (supervisor : SupervisorSecretJournalState) (commandId : String) : Prop :=
  (supervisor.entries.filter fun entry => entry.commandId == commandId).map SupervisorSecretJournalEntry.kind = [] ∨
    (supervisor.entries.filter fun entry => entry.commandId == commandId).map
      SupervisorSecretJournalEntry.kind = [.received, .completed]

/-- The journal holds pairs of entries of outbox rows, and its fence is the greatest of their revisions. -/
structure JournalOk (rows : List SecretInvalidationOutboxRecord) (supervisor : SupervisorSecretJournalState) :
    Prop where
  pairs : ∀ commandId, PairOf supervisor commandId
  known : ∀ entry ∈ supervisor.entries, ∃ record ∈ rows, record.commandId = entry.commandId ∧
    record.secretRevision = entry.secretRevision ∧ record.pendingSnapshotRef = some entry.secretSnapshotRef ∧
    record.invalidationCommand.isSome = true
  fence : supervisor.invalidationFenceRevision = supervisor.reduceMaxInvalidationRevision

/-- The candidates: valid, of a committed revision, never active and stopped; those below the fence are
stopped or among the spared ones. -/
structure CandidatesOk (supervisor : SupervisorSecretJournalState) (secretRevision : Nat) (spared : List Nat) :
    Prop where
  valid : ∀ candidate ∈ supervisor.candidates, candidate.identityFence.validate = .ok ()
  revision : ∀ candidate ∈ supervisor.candidates, candidate.secretRevision ≤ secretRevision
  active : ∀ candidate ∈ supervisor.candidates, candidate.isActive = true → candidate.state ≠ .stopped
  stale : ∀ i candidate, supervisor.candidates[i]? = some candidate →
    candidate.secretRevision < supervisor.invalidationFenceRevision →
    candidate.state = .stopped ∨ i ∈ spared

/-- What every operation keeps. -/
structure RotationOk (rotation : SecretRotation) (committed : List String) (spared : List Nat) : Prop where
  application : isApplicationId rotation.kernel.store.applicationId = true
  ids : rotation.kernel.outbox.map SecretInvalidationOutboxRecord.commandId = committed
  distinct : committed.Nodup
  revisions : rotation.kernel.outbox.map SecretInvalidationOutboxRecord.secretRevision =
    List.range' 1 rotation.kernel.outbox.length
  count : rotation.kernel.store.secretRevision = rotation.kernel.outbox.length
  rows : ∀ record ∈ rotation.kernel.outbox, RowOk rotation.kernel.store.applicationId record
  states : ∀ record ∈ rotation.kernel.outbox, record.deliveryState ≠ .pending →
    record.deliveryState ≠ .dead ∧ rotation.supervisor.hasCommand record.commandId = true
  journal : JournalOk rotation.kernel.outbox rotation.supervisor
  candidates : CandidatesOk rotation.supervisor rotation.kernel.store.secretRevision spared

/-! ## The journal -/

/-- What an invalidation leaves of the candidates: it stops some that are not active. -/
def Fenced (candidate candidate' : SupervisorCandidate) : Prop :=
  candidate'.identityFence = candidate.identityFence ∧ candidate'.secretRevision = candidate.secretRevision ∧
    candidate'.isActive = candidate.isActive ∧
    (candidate'.state = candidate.state ∨ candidate.isActive = false ∧ candidate'.state = .stopped)

theorem Fenced.refl (candidate : SupervisorCandidate) : Fenced candidate candidate := ⟨rfl, rfl, rfl, .inl rfl⟩

theorem Fenced.trans {first second third : SupervisorCandidate} (h : Fenced first second)
    (h' : Fenced second third) : Fenced first third := by
  obtain ⟨hfence, hrevision, hactive, hstate⟩ := h
  obtain ⟨hfence', hrevision', hactive', hstate'⟩ := h'
  refine ⟨hfence'.trans hfence, hrevision'.trans hrevision, hactive'.trans hactive, ?_⟩
  rcases hstate' with hstate' | ⟨hidle, hstopped⟩
  · rw [hstate']
    exact hstate
  · exact .inr ⟨hactive ▸ hidle, hstopped⟩

section Journal

open SupervisorSecretJournalState

variable {supervisor supervisor' : SupervisorSecretJournalState} {commandId : String}
  {command : SecretInvalidationCommand} {rows : List SecretInvalidationOutboxRecord} {secretRevision : Nat}
  {spared : List Nat}

/-- The candidates of one journal after those of another. -/
def CandidatesFenced (supervisor supervisor' : SupervisorSecretJournalState) : Prop :=
  List.Forall₂ Fenced supervisor.candidates supervisor'.candidates

theorem CandidatesFenced.refl (supervisor : SupervisorSecretJournalState) :
    CandidatesFenced supervisor supervisor := List.forall₂_same.mpr fun candidate _ => .refl candidate

theorem CandidatesFenced.trans {supervisor'' : SupervisorSecretJournalState}
    (h : CandidatesFenced supervisor supervisor') (h' : CandidatesFenced supervisor' supervisor'') :
    CandidatesFenced supervisor supervisor'' := by
  have htrans : ∀ {l l' l'' : List SupervisorCandidate}, List.Forall₂ Fenced l l' → List.Forall₂ Fenced l' l'' →
      List.Forall₂ Fenced l l'' := by
    intro l l' l'' hl
    induction hl generalizing l'' with
    | nil => exact fun hl' => by cases hl'; exact .nil
    | cons hhead _ ih =>
      intro hl'
      cases hl' with
      | cons hhead' htail' => exact .cons (hhead.trans hhead') (ih htail')
  exact htrans h h'

/-- The entries of a command that the journal knows. -/
theorem completedEntry_of_hasCommand (hpairs : PairOf supervisor commandId)
    (h : supervisor.hasCommand commandId = true) :
    ∃ entry, supervisor.completedEntry commandId = some entry ∧ entry ∈ supervisor.entries ∧
      entry.commandId = commandId := by
  obtain ⟨entry, hentry, hid⟩ := List.any_eq_true.mp h
  have hmem : entry ∈ supervisor.entries.filter fun entry => entry.commandId == commandId :=
    List.mem_filter.mpr ⟨hentry, hid⟩
  have hcompleted : ∃ completed ∈ supervisor.entries, completed.commandId = commandId ∧
      completed.kind = .completed := by
    rcases hpairs with hnone | hpair
    · rw [List.map_eq_nil_iff.mp hnone] at hmem
      exact absurd hmem List.not_mem_nil
    · have hkind : SupervisorSecretEntryKind.completed ∈
          (supervisor.entries.filter fun entry => entry.commandId == commandId).map
            SupervisorSecretJournalEntry.kind := by
        rw [hpair]
        exact List.mem_cons_of_mem _ List.mem_cons_self
      obtain ⟨completed, hfiltered, hkind⟩ := List.mem_map.mp hkind
      obtain ⟨hmem, hkey⟩ := List.mem_filter.mp hfiltered
      exact ⟨completed, hmem, beq_iff_eq.mp hkey, hkind⟩
  obtain ⟨completed, hmem', hkey, hkind⟩ := hcompleted
  rcases hfind : supervisor.completedEntry commandId with _ | found
  · have hnone := List.find?_eq_none.mp hfind completed (List.mem_reverse.mpr hmem')
    rw [hkey, hkind] at hnone
    simp at hnone
  · have hfound := List.find?_some hfind
    rw [Bool.and_eq_true, beq_iff_eq] at hfound
    exact ⟨found, rfl, List.mem_reverse.mp (List.mem_of_find?_eq_some hfind), hfound.1⟩

/-- The journal after a new invalidation. -/
def SupervisorSecretJournalState.invalidated (supervisor : SupervisorSecretJournalState) (command : SecretInvalidationCommand) :
    SupervisorSecretJournalState :=
  let fenced := (supervisor.stopStaleCandidates command.secretRevision).2
  let completed := (((supervisor.stopStaleCandidates command.secretRevision).1).appendEntry .received command
    fenced).appendEntry .completed command fenced
  { completed with invalidationFenceRevision := max completed.invalidationFenceRevision command.secretRevision }

theorem applyInvalidation_new (hvalid : command.validate = .ok ())
    (hnew : supervisor.hasCommand command.commandId = false) :
    ∃ journalRevision, supervisor.applyInvalidation command =
      (supervisor.invalidated command, .ok journalRevision) := by
  unfold applyInvalidation
  rw [hvalid]
  dsimp only
  rw [if_neg (by rw [hnew]; exact Bool.false_ne_true)]
  exact ⟨_, rfl⟩

theorem applyInvalidation_known (hvalid : command.validate = .ok ())
    (hpairs : PairOf supervisor command.commandId) (hknown : supervisor.hasCommand command.commandId = true) :
    ∃ journalRevision, supervisor.applyInvalidation command = (supervisor, .ok journalRevision) := by
  obtain ⟨entry, hentry, -⟩ := completedEntry_of_hasCommand hpairs hknown
  unfold applyInvalidation
  rw [hvalid]
  dsimp only
  rw [if_pos hknown, hentry]
  exact ⟨_, rfl⟩

/-- The two entries that a new invalidation appends. -/
theorem invalidated_entries (supervisor : SupervisorSecretJournalState) (command : SecretInvalidationCommand) :
    ∃ received completed : SupervisorSecretJournalEntry,
    (supervisor.invalidated command).entries = supervisor.entries ++ [received, completed] ∧
    received.kind = .received ∧ completed.kind = .completed ∧
    ∀ entry ∈ [received, completed], entry.commandId = command.commandId ∧
      entry.secretRevision = command.secretRevision ∧ entry.secretSnapshotRef = command.secretSnapshotRef := by
  let stopped := (supervisor.stopStaleCandidates command.secretRevision).1
  let fenced := (supervisor.stopStaleCandidates command.secretRevision).2
  refine ⟨stopped.nextEntry .received command fenced,
    (stopped.appendEntry .received command fenced).nextEntry .completed command fenced, ?_, rfl, rfl, ?_⟩
  · exact List.append_assoc _ _ _
  · intro entry hentry
    simp only [List.mem_cons, List.not_mem_nil, or_false] at hentry
    rcases hentry with rfl | rfl <;> exact ⟨rfl, rfl, rfl⟩

theorem hasCommand_invalidated (other : String) :
    (supervisor.invalidated command).hasCommand other =
      (supervisor.hasCommand other || command.commandId == other) := by
  obtain ⟨received, completed, hentries, -, -, hfields⟩ := invalidated_entries supervisor command
  unfold hasCommand
  rw [hentries, List.any_append]
  simp only [List.any_cons, List.any_nil, Bool.or_false, (hfields received List.mem_cons_self).1,
    (hfields completed (List.mem_cons_of_mem _ List.mem_cons_self)).1, Bool.or_self]

theorem reduceMax_invalidated :
    (supervisor.invalidated command).reduceMaxInvalidationRevision =
      max supervisor.reduceMaxInvalidationRevision command.secretRevision := by
  obtain ⟨received, completed, hentries, -, -, hfields⟩ := invalidated_entries supervisor command
  unfold reduceMaxInvalidationRevision
  rw [hentries, List.map_append, List.foldl_append]
  simp only [List.map_cons, List.map_nil, List.foldl_cons, List.foldl_nil,
    (hfields received List.mem_cons_self).2.1,
    (hfields completed (List.mem_cons_of_mem _ List.mem_cons_self)).2.1]
  omega

theorem invalidated_pairs (hpairs : ∀ other, PairOf supervisor other)
    (hnew : supervisor.hasCommand command.commandId = false) (other : String) :
    PairOf (supervisor.invalidated command) other := by
  obtain ⟨received, completed, hentries, hreceived, hcompleted, hfields⟩ :=
    invalidated_entries supervisor command
  have hids : received.commandId = command.commandId ∧ completed.commandId = command.commandId :=
    ⟨(hfields received List.mem_cons_self).1, (hfields completed (List.mem_cons_of_mem _ List.mem_cons_self)).1⟩
  unfold PairOf
  rw [hentries, List.filter_append]
  by_cases hsame : command.commandId = other
  · have hnone : supervisor.entries.filter (fun entry => entry.commandId == other) = [] := by
      rw [List.filter_eq_nil_iff]
      intro entry hentry hid
      rw [← hsame] at hid
      rw [hasCommand, List.any_eq_false] at hnew
      exact hnew entry hentry hid
    rw [hnone]
    right
    simp only [List.nil_append, List.filter_cons, hids.1, hids.2, hsame, beq_self_eq_true, if_true,
      List.filter_nil, List.map_cons, List.map_nil, hreceived, hcompleted]
  · have hskip : [received, completed].filter (fun entry => entry.commandId == other) = [] := by
      simp only [List.filter_cons, hids.1, hids.2, beq_eq_false_iff_ne.mpr hsame, List.filter_nil]
      rfl
    rw [hskip, List.append_nil]
    exact hpairs other

/-- The journal agrees with the outbox after a new invalidation of one of its rows. -/
theorem JournalOk.invalidated {record : SecretInvalidationOutboxRecord} (h : JournalOk rows supervisor)
    (hnew : supervisor.hasCommand command.commandId = false) (hmem : record ∈ rows)
    (hcommand : record.invalidationCommand = some command) (hid : command.commandId = record.commandId)
    (hrevision : command.secretRevision = record.secretRevision)
    (href : some command.secretSnapshotRef = record.pendingSnapshotRef) :
    JournalOk rows (supervisor.invalidated command) where
  pairs := invalidated_pairs h.pairs hnew
  known entry hentry := by
    obtain ⟨received, completed, hentries, -, -, hfields⟩ :=
      invalidated_entries supervisor command
    rw [hentries] at hentry
    rcases List.mem_append.mp hentry with hold | hadded
    · exact h.known entry hold
    · obtain ⟨hentryId, hentryRevision, hentryRef⟩ := hfields entry hadded
      refine ⟨record, hmem, hid.symm.trans hentryId.symm, hrevision.symm.trans hentryRevision.symm, ?_, ?_⟩
      · rw [← href, hentryRef]
      · rw [hcommand]
        rfl
  fence := by
    rw [reduceMax_invalidated, ← h.fence]
    rfl

theorem invalidated_candidates : (supervisor.invalidated command).candidates =
    supervisor.candidates.map fun candidate =>
      if isStale command.secretRevision candidate then { candidate with state := .stopped } else candidate := rfl

theorem fenced_stop (revision : Nat) (candidate : SupervisorCandidate) :
    Fenced candidate (if isStale revision candidate then { candidate with state := .stopped } else candidate) := by
  split
  · rename_i hstale
    unfold isStale at hstale
    rw [Bool.and_eq_true, Bool.and_eq_true, Bool.not_eq_true'] at hstale
    exact ⟨rfl, rfl, rfl, .inr ⟨hstale.1.1, rfl⟩⟩
  · exact .refl candidate

theorem invalidated_fenced : CandidatesFenced supervisor (supervisor.invalidated command) := by
  unfold CandidatesFenced
  rw [invalidated_candidates, List.forall₂_map_right_iff]
  exact List.forall₂_same.mpr fun candidate _ => fenced_stop command.secretRevision candidate

/-! ## The candidates -/

theorem CandidatesFenced.get {i : Nat} {candidate' : SupervisorCandidate}
    (h : CandidatesFenced supervisor supervisor') (hget : supervisor'.candidates[i]? = some candidate') :
    ∃ candidate, supervisor.candidates[i]? = some candidate ∧ Fenced candidate candidate' := by
  unfold CandidatesFenced at h
  generalize supervisor.candidates = l at h
  generalize supervisor'.candidates = l' at h hget
  induction h generalizing i with
  | nil => cases hget
  | cons hhead _ ih =>
    cases i with
    | zero =>
      cases hget
      exact ⟨_, rfl, hhead⟩
    | succ i => exact ih hget

theorem mem_activeIndexes {i : Nat} : i ∈ supervisor.activeIndexes ↔
    ∃ candidate, supervisor.candidates[i]? = some candidate ∧ candidate.isActive = true := by
  unfold activeIndexes
  rw [List.mem_map]
  constructor
  · rintro ⟨⟨candidate, j⟩, hmem, rfl⟩
    obtain ⟨hmem, hactive⟩ := List.mem_filter.mp hmem
    exact ⟨candidate, List.mem_zipIdx_iff_getElem?.mp hmem, hactive⟩
  · rintro ⟨candidate, hget, hactive⟩
    exact ⟨(candidate, i), List.mem_filter.mpr ⟨List.mem_zipIdx_iff_getElem?.mpr hget, hactive⟩, rfl⟩

/-- An invalidation leaves active what was active. -/
theorem CandidatesFenced.active {i : Nat} (h : CandidatesFenced supervisor supervisor')
    (hlength : supervisor'.candidates.length = supervisor.candidates.length) (hi : i ∈ supervisor.activeIndexes) :
    i ∈ supervisor'.activeIndexes := by
  obtain ⟨candidate, hget, hactive⟩ := mem_activeIndexes.mp hi
  have hlt : i < supervisor'.candidates.length := by
    rw [hlength]
    exact (List.getElem?_eq_some_iff.mp hget).1
  obtain ⟨before, hbefore, hfenced⟩ := h.get (List.getElem?_eq_getElem hlt)
  rw [hget] at hbefore
  cases hbefore
  exact mem_activeIndexes.mpr ⟨_, List.getElem?_eq_getElem hlt, hfenced.2.2.1.trans hactive⟩

theorem CandidatesOk.fenced {spared' : List Nat} (h : CandidatesOk supervisor secretRevision spared)
    (hfenced : CandidatesFenced supervisor supervisor')
    (hstale : ∀ i candidate, supervisor'.candidates[i]? = some candidate →
      candidate.secretRevision < supervisor'.invalidationFenceRevision →
      candidate.state = .stopped ∨ i ∈ spared') :
    CandidatesOk supervisor' secretRevision spared' := by
  have hbefore : ∀ candidate' ∈ supervisor'.candidates, ∃ candidate ∈ supervisor.candidates,
      Fenced candidate candidate' := by
    intro candidate' hmem
    obtain ⟨i, hget⟩ := List.mem_iff_getElem?.mp hmem
    obtain ⟨candidate, hget', hfenced⟩ := hfenced.get hget
    exact ⟨candidate, List.mem_of_getElem? hget', hfenced⟩
  refine ⟨fun candidate' hmem => ?_, fun candidate' hmem => ?_, fun candidate' hmem hactive => ?_, hstale⟩
  · obtain ⟨candidate, hcandidate, hfence, -⟩ := hbefore candidate' hmem
    rw [hfence]
    exact h.valid candidate hcandidate
  · obtain ⟨candidate, hcandidate, -, hrevision, -⟩ := hbefore candidate' hmem
    rw [hrevision]
    exact h.revision candidate hcandidate
  · obtain ⟨candidate, hcandidate, -, -, hsame, hstate⟩ := hbefore candidate' hmem
    rcases hstate with hstate | ⟨hidle, -⟩
    · rw [hstate]
      exact h.active candidate hcandidate (hsame ▸ hactive)
    · rw [hsame, hidle] at hactive
      cases hactive

/-- After a new invalidation the candidates below the fence are stopped, but for the active ones. -/
theorem CandidatesOk.invalidated {first : SupervisorSecretJournalState}
    (h : CandidatesOk supervisor secretRevision (first.sparedAfter supervisor spared))
    (hle : first.invalidationFenceRevision ≤ supervisor.invalidationFenceRevision) :
    CandidatesOk (supervisor.invalidated command) secretRevision
      (first.sparedAfter (supervisor.invalidated command) spared) := by
  have hfence : (supervisor.invalidated command).invalidationFenceRevision =
      max supervisor.invalidationFenceRevision command.secretRevision := rfl
  refine h.fenced invalidated_fenced fun i candidate' hget hlow => ?_
  obtain ⟨candidate, hget', hsame⟩ := invalidated_fenced.get hget
  have hvalue : candidate' =
      if isStale command.secretRevision candidate then { candidate with state := .stopped } else candidate := by
    rw [invalidated_candidates, List.getElem?_map, hget'] at hget
    exact (Option.some.inj hget).symm
  rw [hfence] at hlow
  by_cases hraised : supervisor.invalidationFenceRevision < command.secretRevision
  · -- the fence rises: an idle candidate below it is stopped now, an active one is spared
    have hspared : first.sparedAfter (supervisor.invalidated command) spared =
        (supervisor.invalidated command).activeIndexes := by
      unfold sparedAfter
      rw [if_pos (by rw [hfence]; omega)]
    rw [hspared]
    cases hactive : candidate.isActive with
    | true => exact .inr (mem_activeIndexes.mpr ⟨candidate', hget, hsame.2.2.1.trans hactive⟩)
    | false =>
      left
      by_cases hstopped : candidate.state = .stopped
      · rcases hsame.2.2.2 with hkept | ⟨-, hstate⟩
        · exact hkept.trans hstopped
        · exact hstate
      · have hstale : isStale command.secretRevision candidate = true := by
          have hrevision := hsame.2.1
          unfold isStale
          simp only [hactive, Bool.not_false, Bool.true_and, Bool.and_eq_true, decide_eq_true_eq, bne_iff_ne]
          exact ⟨by omega, hstopped⟩
        rw [hvalue, if_pos hstale]
  · have hlow' : candidate.secretRevision < supervisor.invalidationFenceRevision := by
      rw [← hsame.2.1]
      omega
    rcases h.stale i candidate hget' hlow' with hstopped | hspared
    · left
      rcases hsame.2.2.2 with hkept | ⟨-, hstate⟩
      · exact hkept.trans hstopped
      · exact hstate
    · right
      unfold sparedAfter at hspared ⊢
      have hmax : max supervisor.invalidationFenceRevision command.secretRevision =
          supervisor.invalidationFenceRevision := by omega
      rw [hfence, hmax]
      split
      · rename_i hrose
        rw [if_pos hrose] at hspared
        exact invalidated_fenced.active (by rw [invalidated_candidates, List.length_map]) hspared
      · rename_i hkept
        rw [if_neg hkept] at hspared
        exact hspared

end Journal

/-! ## Inside an operation -/

section Operations

open SecretRotation

variable {rotation first : SecretRotation} {committed : List String} {spared : List Nat}
  {record : SecretInvalidationOutboxRecord} {command : SecretInvalidationCommand}

/-- The rows with the one of a command changed. -/
def SecretRotation.changedRows (rotation : SecretRotation) (commandId : String)
    (change : SecretInvalidationOutboxRecord → SecretInvalidationOutboxRecord) :
    List SecretInvalidationOutboxRecord :=
  rotation.kernel.outbox.map fun row => if row.commandId = commandId then change row else row

/-- The state in the course of an operation that began with `first`. -/
structure RotationDuring (first : SecretRotation) (committed : List String) (spared : List Nat)
    (rotation : SecretRotation) : Prop where
  ok : RotationOk rotation committed (first.supervisor.sparedAfter rotation.supervisor spared)
  fenced : CandidatesFenced first.supervisor rotation.supervisor
  rises : first.supervisor.invalidationFenceRevision ≤ rotation.supervisor.invalidationFenceRevision

theorem RotationDuring.begin (h : RotationOk rotation committed spared) : RotationDuring rotation committed spared rotation := by
  refine ⟨?_, .refl _, Nat.le_refl _⟩
  unfold SupervisorSecretJournalState.sparedAfter
  rw [if_neg (Nat.lt_irrefl _)]
  exact h

theorem RotationOk.nodup (h : RotationOk rotation committed spared) :
    (rotation.kernel.outbox.map SecretInvalidationOutboxRecord.commandId).Nodup := by
  rw [h.ids]
  exact h.distinct

theorem RotationOk.row_unique {record' : SecretInvalidationOutboxRecord}
    (h : RotationOk rotation committed spared) (hmem : record ∈ rotation.kernel.outbox)
    (hmem' : record' ∈ rotation.kernel.outbox) (hsame : record'.commandId = record.commandId) :
    record' = record := List.inj_on_of_nodup_map (h.nodup) hmem' hmem hsame

theorem outboxRecord_eq_ok (h : RotationOk rotation committed spared) (hmem : record ∈ rotation.kernel.outbox) :
    rotation.outboxRecord record.commandId = .ok record := by
  unfold outboxRecord
  rw [find?_row (h.nodup) hmem rfl]

theorem changeRecord_eq_ok (change : SecretInvalidationOutboxRecord → SecretInvalidationOutboxRecord)
    (h : RotationOk rotation committed spared) (hmem : record ∈ rotation.kernel.outbox) :
    rotation.changeRecord record.commandId change =
      .ok (rotation.withOutbox (rotation.changedRows record.commandId change)) := by
  unfold changeRecord
  rw [updateLastRecord_eq (h.nodup) hmem rfl]
  rfl

/-- Rows that keep their command, revision and reference keep the agreement. -/
theorem RotationOk.mapRows {change : SecretInvalidationOutboxRecord → SecretInvalidationOutboxRecord}
    (h : RotationOk rotation committed spared)
    (hkeeps : ∀ record ∈ rotation.kernel.outbox, (change record).commandId = record.commandId ∧
      (change record).secretRevision = record.secretRevision ∧
      (change record).pendingSnapshotRef = record.pendingSnapshotRef ∧
      (record.invalidationCommand.isSome = true → (change record).invalidationCommand.isSome = true))
    (hrow : ∀ record ∈ rotation.kernel.outbox, RowOk rotation.kernel.store.applicationId (change record))
    (hstate : ∀ record ∈ rotation.kernel.outbox, (change record).deliveryState ≠ .pending →
      (change record).deliveryState ≠ .dead ∧ rotation.supervisor.hasCommand record.commandId = true) :
    RotationOk (rotation.withOutbox (rotation.kernel.outbox.map change)) committed spared where
  application := h.application
  ids := by
    rw [← h.ids]
    show (rotation.kernel.outbox.map change).map _ = _
    rw [List.map_map]
    exact List.map_congr_left fun record hrecord => (hkeeps record hrecord).1
  distinct := h.distinct
  revisions := by
    show (rotation.kernel.outbox.map change).map _ = List.range' 1 (rotation.kernel.outbox.map change).length
    rw [List.map_map, List.length_map, ← h.revisions]
    exact List.map_congr_left fun record hrecord => (hkeeps record hrecord).2.1
  count := by
    show _ = (rotation.kernel.outbox.map change).length
    rw [List.length_map]
    exact h.count
  rows record' hmem := by
    obtain ⟨record, hrecord, rfl⟩ := List.mem_map.mp hmem
    exact hrow record hrecord
  states record' hmem hstate' := by
    obtain ⟨record, hrecord, rfl⟩ := List.mem_map.mp hmem
    rw [(hkeeps record hrecord).1]
    exact hstate record hrecord hstate'
  journal := by
    refine ⟨h.journal.pairs, fun entry hentry => ?_, h.journal.fence⟩
    obtain ⟨record, hrecord, hid, hrevision, href, hcommand⟩ := h.journal.known entry hentry
    obtain ⟨hid', hrevision', href', hcommand'⟩ := hkeeps record hrecord
    exact ⟨change record, List.mem_map_of_mem hrecord, hid'.trans hid, hrevision'.trans hrevision,
      href'.trans href, hcommand' hcommand⟩
  candidates := h.candidates

/-- A change of the delivery state of a row that the journal knows. -/
theorem RotationOk.setState {state : SecretOutboxDeliveryState} (attempts : Nat → Nat)
    (h : RotationOk rotation committed spared) (hmem : record ∈ rotation.kernel.outbox)
    (hknown : rotation.supervisor.hasCommand record.commandId = true) (hstate : state ≠ .dead) :
    RotationOk (rotation.withOutbox (rotation.changedRows record.commandId fun row =>
      { row with deliveryState := state, attempts := attempts row.attempts })) committed spared := by
  refine h.mapRows (fun row hrow => ?_) (fun row hrow => ?_) fun row hrow hnot => ?_
  · split <;> exact ⟨rfl, rfl, rfl, id⟩
  · have hold := h.rows row hrow
    split
    · exact ⟨hold.application, hold.positive, hold.bounded, hold.ref, hold.command⟩
    · exact hold
  · split at hnot
    · rename_i hid
      rw [if_pos hid, hid]
      exact ⟨hstate, hknown⟩
    · rename_i hid
      rw [if_neg hid]
      exact h.states row hrow hnot

/-- The journal after the command of a row has been applied. -/
theorem RotationDuring.apply (h : RotationDuring first committed spared rotation) (hmem : record ∈ rotation.kernel.outbox)
    (hcommand : record.invalidationCommand = some command) :
    ∃ supervisor journalRevision,
      rotation.supervisor.applyInvalidation command = (supervisor, .ok journalRevision) ∧
      RotationDuring first committed spared { rotation with supervisor := supervisor } ∧
      supervisor.hasCommand record.commandId = true := by
  obtain ⟨hvalid, hid, hrevision, href⟩ := (h.ok.rows record hmem).command command hcommand
  cases hknown : rotation.supervisor.hasCommand command.commandId with
  | true =>
    obtain ⟨journalRevision, happly⟩ := applyInvalidation_known hvalid (h.ok.journal.pairs _) hknown
    exact ⟨rotation.supervisor, journalRevision, happly, h, hid ▸ hknown⟩
  | false =>
    obtain ⟨journalRevision, happly⟩ := applyInvalidation_new hvalid hknown
    refine ⟨_, journalRevision, happly, ⟨⟨h.ok.application, h.ok.ids, h.ok.distinct, h.ok.revisions, h.ok.count,
      h.ok.rows, fun row hrow hstate => ?_, ?_, ?_⟩, h.fenced.trans invalidated_fenced, ?_⟩, ?_⟩
    · obtain ⟨hdead, hhas⟩ := h.ok.states row hrow hstate
      refine ⟨hdead, ?_⟩
      show (rotation.supervisor.invalidated command).hasCommand row.commandId = true
      rw [hasCommand_invalidated, hhas, Bool.true_or]
    · exact h.ok.journal.invalidated hknown hmem hcommand hid hrevision href
    · exact h.ok.candidates.invalidated h.rises
    · exact Nat.le_trans h.rises (Nat.le_max_left _ _)
    · rw [hasCommand_invalidated, hid, beq_self_eq_true, Bool.or_true]

/-- A delivery leaves the command in the journal and its row sent. -/
theorem RotationDuring.deliver (h : RotationDuring first committed spared rotation) (hmem : record ∈ rotation.kernel.outbox)
    (hcommand : record.invalidationCommand = some command) :
    ∃ rotation', rotation.deliverInvalidation record.commandId = (rotation', .ok ()) ∧
      RotationDuring first committed spared rotation' ∧
      rotation'.kernel = (rotation.withOutbox (rotation.changedRows record.commandId fun row =>
        { row with deliveryState := .sent, attempts := row.attempts + 1 })).kernel := by
  obtain ⟨supervisor, journalRevision, happly, happlied, hknown⟩ := h.apply hmem hcommand
  have hchange := changeRecord_eq_ok (fun row =>
    { row with deliveryState := .sent, attempts := row.attempts + 1 }) happlied.ok hmem
  refine ⟨_, ?_, ⟨happlied.ok.setState (· + 1) hmem hknown (by simp), happlied.fenced, happlied.rises⟩, rfl⟩
  unfold deliverInvalidation
  rw [outboxRecord_eq_ok h.ok hmem]
  dsimp only
  rw [hcommand]
  dsimp only
  rw [happly]
  dsimp only
  rw [hchange]

/-- The acknowledgement of a command that the journal has. -/
theorem RotationDuring.project (h : RotationDuring first committed spared rotation) (hmem : record ∈ rotation.kernel.outbox)
    (hcommand : record.invalidationCommand = some command)
    (hknown : rotation.supervisor.hasCommand record.commandId = true) :
    ∃ rotation', rotation.projectInvalidationAcknowledgement record.commandId = .ok rotation' ∧
      RotationDuring first committed spared rotation' ∧
      rotation'.kernel = (rotation.withOutbox (rotation.changedRows record.commandId fun row =>
        { row with deliveryState := .acknowledged })).kernel := by
  obtain ⟨completed, hcompleted, hentry, hid⟩ :=
    completedEntry_of_hasCommand (h.ok.journal.pairs record.commandId) hknown
  obtain ⟨row, hrow, hrowId, hrevision, href, -⟩ := h.ok.journal.known completed hentry
  have hsame : row = record := h.ok.row_unique hmem hrow (hrowId.trans hid)
  subst hsame
  obtain ⟨-, -, -, hcommandRef⟩ := (h.ok.rows row hmem).command command hcommand
  have hrefs : completed.secretSnapshotRef = command.secretSnapshotRef :=
    Option.some.inj (href.symm.trans hcommandRef.symm)
  have hchange := changeRecord_eq_ok (fun row => { row with deliveryState := .acknowledged }) h.ok hmem
  refine ⟨_, ?_, ⟨h.ok.setState id hmem hknown (by simp), h.fenced, h.rises⟩, rfl⟩
  unfold projectInvalidationAcknowledgement
  rw [hcompleted]
  simp only [bind_eq_ok, require_eq_ok, Bool.and_eq_true, beq_iff_eq]
  refine ⟨row, outboxRecord_eq_ok h.ok hmem, (), ⟨hrevision.symm, ?_⟩, hchange⟩
  rw [hcommand]
  exact hrefs

end Operations

end Iweb
