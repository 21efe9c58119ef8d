import Iweb.Supervisor.Vectors
import Mathlib.Data.List.Induction

/-!
# One command, one execution at a time, one answer

The invariant ties the in-flight table to the journal: a delivery whose command is being executed holds the
table's entry for its command id, and the received entry of that id has its digest and no completion yet. So
two running executions of an id are the same delivery, and the one completion of an id is the only
acknowledgement anyone sees.
-/

namespace Iweb

open CrashRefinement

variable {S : SupervisorRules}

/-! ## The journal -/

namespace WasmExecutionJournalFileV1

variable {file : WasmExecutionJournalFileV1} {commandId : String}

theorem receivedOf_received (revision : Nat) (entry : CommandReceivedV1) :
    receivedOf ⟨revision, file.entries ++ [.received entry]⟩ commandId =
      file.receivedOf commandId ++ if entry.commandId = commandId then [entry] else [] := by
  by_cases h : entry.commandId = commandId <;> simp [receivedOf, h]

theorem receivedOf_completed (revision : Nat) (entry : CommandCompletedV1) :
    receivedOf ⟨revision, file.entries ++ [.completed entry]⟩ commandId = file.receivedOf commandId := by
  simp [receivedOf]

theorem completedOf_received (revision : Nat) (entry : CommandReceivedV1) :
    completedOf ⟨revision, file.entries ++ [.received entry]⟩ commandId = file.completedOf commandId := by
  simp [completedOf]

theorem completedOf_completed (revision : Nat) (entry : CommandCompletedV1) :
    completedOf ⟨revision, file.entries ++ [.completed entry]⟩ commandId =
      file.completedOf commandId ++ if entry.commandId = commandId then [entry] else [] := by
  by_cases h : entry.commandId = commandId <;> simp [completedOf, h]

theorem findReceived_mem {entry : CommandReceivedV1} (h : file.findReceived commandId = some entry) :
    entry ∈ file.receivedOf commandId :=
  List.mem_of_getLast? h

theorem receivedOf_eq_nil (h : file.findReceived commandId = none) : file.receivedOf commandId = [] :=
  List.getLast?_eq_none_iff.mp h

theorem completedOf_eq_nil (h : file.findCompleted commandId = none) : file.completedOf commandId = [] :=
  List.getLast?_eq_none_iff.mp h

end WasmExecutionJournalFileV1

open WasmExecutionJournalFileV1

/-- What an event may write: nothing, a command of a new id, or the first completion of an id. -/
inductive JournalStep (S : SupervisorRules) (journal : WasmExecutionJournalFileV1) :
    WasmExecutionJournalFileV1 → Prop
  | unchanged : JournalStep S journal journal
  | received (command : ExecutionCommand) (receivedAt : String)
      (hreceived : journal.findReceived command.commandId = none)
      (hcompleted : journal.findCompleted command.commandId = none) :
      JournalStep S journal ⟨journal.journalRevision + 1, journal.entries ++
        [.received (receivedEntry S journal.journalRevision command receivedAt)]⟩
  | completed (entry : CommandCompletedV1) (hcompleted : journal.findCompleted entry.commandId = none) :
      JournalStep S journal ⟨journal.journalRevision + 1, journal.entries ++ [.completed entry]⟩

/-- The invariant of the journal: its revision counts the entries, each id has at most one entry of each
kind, and a received entry carries the digest of its command. -/
structure JournalInv (S : SupervisorRules) (journal : WasmExecutionJournalFileV1) : Prop where
  revision : journal.journalRevision = journal.entries.length
  received : ∀ commandId, (journal.receivedOf commandId).length ≤ 1
  completed : ∀ commandId, (journal.completedOf commandId).length ≤ 1
  own : ∀ commandId entry, entry ∈ journal.receivedOf commandId → entry.commandId = commandId ∧
    entry.command.commandId = commandId ∧ entry.commandDigest = S.commandDigest entry.command

theorem journalInv_empty : JournalInv S .empty := by
  refine ⟨rfl, fun _ => Nat.zero_le _, fun _ => Nat.zero_le _, ?_⟩
  intro commandId entry hentry
  cases hentry

section Journal

variable {journal journal' : WasmExecutionJournalFileV1} {commandId : String}

theorem JournalStep.inv (hstep : JournalStep S journal journal') (hinv : JournalInv S journal) :
    JournalInv S journal' := by
  cases hstep with
  | unchanged => exact hinv
  | received command receivedAt hreceived hcompleted =>
    refine ⟨?_, ?_, ?_, ?_⟩
    · have := hinv.revision
      simp only [List.length_append, List.length_singleton]
      omega
    · intro commandId
      rw [receivedOf_received]
      split
      · rename_i hsame
        rw [← hsame, show (receivedEntry S journal.journalRevision command receivedAt).commandId =
          command.commandId from rfl, receivedOf_eq_nil hreceived]
        exact Nat.le_refl 1
      · rw [List.append_nil]
        exact hinv.received commandId
    · intro commandId
      rw [completedOf_received]
      exact hinv.completed commandId
    · intro commandId entry hentry
      rw [receivedOf_received] at hentry
      rcases List.mem_append.mp hentry with hentry | hentry
      · exact hinv.own commandId entry hentry
      · split at hentry
        · rename_i hsame
          rw [List.mem_singleton.mp hentry]
          exact ⟨hsame, hsame, rfl⟩
        · cases hentry
  | completed entry hcompleted =>
    refine ⟨?_, ?_, ?_, ?_⟩
    · have := hinv.revision
      simp only [List.length_append, List.length_singleton]
      omega
    · intro commandId
      rw [receivedOf_completed]
      exact hinv.received commandId
    · intro commandId
      rw [completedOf_completed]
      split
      · rename_i hsame
        rw [← hsame, completedOf_eq_nil hcompleted]
        exact Nat.le_refl 1
      · rw [List.append_nil]
        exact hinv.completed commandId
    · intro commandId entry hentry
      rw [receivedOf_completed] at hentry
      exact hinv.own commandId entry hentry

/-- A received entry is never replaced. -/
theorem JournalStep.findReceived (hstep : JournalStep S journal journal') {entry : CommandReceivedV1}
    (h : journal.findReceived commandId = some entry) : journal'.findReceived commandId = some entry := by
  cases hstep with
  | unchanged => exact h
  | received command receivedAt hreceived hcompleted =>
    unfold WasmExecutionJournalFileV1.findReceived
    rw [receivedOf_received, if_neg, List.append_nil]
    · exact h
    · intro hsame
      have hsame : command.commandId = commandId := hsame
      rw [hsame, h] at hreceived
      cases hreceived
  | completed entry' hcompleted =>
    unfold WasmExecutionJournalFileV1.findReceived
    rw [receivedOf_completed]
    exact h

/-- A completion is never replaced. -/
theorem JournalStep.findCompleted (hstep : JournalStep S journal journal') {entry : CommandCompletedV1}
    (h : journal.findCompleted commandId = some entry) : journal'.findCompleted commandId = some entry := by
  cases hstep with
  | unchanged => exact h
  | received command receivedAt hreceived hcompleted =>
    unfold WasmExecutionJournalFileV1.findCompleted
    rw [completedOf_received]
    exact h
  | completed entry' hcompleted =>
    unfold WasmExecutionJournalFileV1.findCompleted
    rw [completedOf_completed, if_neg, List.append_nil]
    · exact h
    · intro hsame
      rw [hsame, h] at hcompleted
      cases hcompleted

/-- The entry just received is found under its id. -/
theorem findReceived_received (command : ExecutionCommand) (receivedAt : String) (revision : Nat) :
    WasmExecutionJournalFileV1.findReceived ⟨revision, journal.entries ++
      [.received (receivedEntry S journal.journalRevision command receivedAt)]⟩ command.commandId =
        some (receivedEntry S journal.journalRevision command receivedAt) := by
  have hid : (receivedEntry S journal.journalRevision command receivedAt).commandId = command.commandId := rfl
  unfold WasmExecutionJournalFileV1.findReceived
  rw [receivedOf_received, if_pos hid, List.getLast?_concat]

theorem findReceived_received_of_ne (entry : CommandReceivedV1) (revision : Nat)
    (hother : entry.commandId ≠ commandId) :
    WasmExecutionJournalFileV1.findReceived ⟨revision, journal.entries ++ [.received entry]⟩ commandId =
      journal.findReceived commandId := by
  unfold WasmExecutionJournalFileV1.findReceived
  rw [receivedOf_received, if_neg hother, List.append_nil]

theorem findCompleted_received (entry : CommandReceivedV1) (revision : Nat) :
    WasmExecutionJournalFileV1.findCompleted ⟨revision, journal.entries ++ [.received entry]⟩ commandId =
      journal.findCompleted commandId := by
  unfold WasmExecutionJournalFileV1.findCompleted
  rw [completedOf_received]

theorem findReceived_completed (entry : CommandCompletedV1) (revision : Nat) :
    WasmExecutionJournalFileV1.findReceived ⟨revision, journal.entries ++ [.completed entry]⟩ commandId =
      journal.findReceived commandId := by
  unfold WasmExecutionJournalFileV1.findReceived
  rw [receivedOf_completed]

theorem findCompleted_completed (entry : CommandCompletedV1) (revision : Nat) :
    WasmExecutionJournalFileV1.findCompleted ⟨revision, journal.entries ++ [.completed entry]⟩
      entry.commandId = some entry := by
  unfold WasmExecutionJournalFileV1.findCompleted
  rw [completedOf_completed, if_pos rfl, List.getLast?_concat]

theorem findCompleted_completed_of_ne (entry : CommandCompletedV1) (revision : Nat)
    (hother : entry.commandId ≠ commandId) :
    WasmExecutionJournalFileV1.findCompleted ⟨revision, journal.entries ++ [.completed entry]⟩ commandId =
      journal.findCompleted commandId := by
  unfold WasmExecutionJournalFileV1.findCompleted
  rw [completedOf_completed, if_neg hother, List.append_nil]

end Journal

/-! ## One delivery -/

/-- An acknowledgement is that of the stored completion of its command id. -/
def AckStored (journal : WasmExecutionJournalFileV1) (commandId : String)
    (result : ExecutionRpcServiceResult) : Prop :=
  ∀ acknowledgement, result.acknowledged = some acknowledgement →
    ∃ completed, journal.findCompleted commandId = some completed ∧
      completed.acknowledgement = acknowledgement

/-- A command with another digest than the received one got the answer of a conflict. -/
def Refused (journal : WasmExecutionJournalFileV1) (commandId digest : String)
    (result : ExecutionRpcServiceResult) : Prop :=
  ∀ received, journal.findReceived commandId = some received → received.commandDigest ≠ digest →
    result = commandIdConflict

/-- How a delivery starts: with a result, with the execution of a command the journal knows, or with a
command that is new to the journal. -/
inductive DeliveryOutcome (S : SupervisorRules) (journal : WasmExecutionJournalFileV1)
    (command : ExecutionCommand) : WasmExecutionJournalFileV1 → DeliveryState → Prop
  | settled (result : ExecutionRpcServiceResult) (hstored : AckStored journal command.commandId result)
      (hrefused : Refused journal command.commandId (S.commandDigest command) result) :
      DeliveryOutcome S journal command journal (.settled result)
  | resumed (received : CommandReceivedV1) (hreceived : journal.findReceived command.commandId = some received)
      (hcompleted : journal.findCompleted command.commandId = none)
      (hdigest : received.commandDigest = S.commandDigest command) :
      DeliveryOutcome S journal command journal (.executing received (S.commandDigest command))
  | received (receivedAt : String) (hreceived : journal.findReceived command.commandId = none)
      (hcompleted : journal.findCompleted command.commandId = none) :
      DeliveryOutcome S journal command
        ⟨journal.journalRevision + 1, journal.entries ++
          [.received (receivedEntry S journal.journalRevision command receivedAt)]⟩
        (.executing (receivedEntry S journal.journalRevision command receivedAt) (S.commandDigest command))

theorem stored_conflict {journal : WasmExecutionJournalFileV1} {commandId : String} {status : Nat}
    {code message : String} : AckStored journal commandId (.conflict status code message) := by
  intro acknowledgement h
  cases h

theorem stored_thrown {journal : WasmExecutionJournalFileV1} {commandId message : String} :
    AckStored journal commandId (.thrown message) := by
  intro acknowledgement h
  cases h

theorem refused_unknown {journal : WasmExecutionJournalFileV1} {commandId digest : String}
    {result : ExecutionRpcServiceResult} (h : journal.findReceived commandId = none) :
    Refused journal commandId digest result := by
  intro received hreceived
  rw [h] at hreceived
  cases hreceived

theorem performDelivery_outcome (S : SupervisorRules) (journal : WasmExecutionJournalFileV1)
    (command : ExecutionCommand) (mode : DeliveryMode) (receivedAt : String) :
    DeliveryOutcome S journal command (performDelivery S journal command mode receivedAt).1
      (performDelivery S journal command mode receivedAt).2 := by
  unfold performDelivery
  dsimp only
  split
  · exact .settled _ stored_conflict fun _ _ _ => rfl
  · rename_i completed received hcompleted hreceived
    split
    · exact .settled _ stored_conflict fun _ _ _ => rfl
    · rename_i hdigest
      refine .settled _ ?_ ?_
      · intro acknowledgement h
        cases h
        exact ⟨completed, hcompleted, rfl⟩
      · intro received' hreceived' hother
        rw [hreceived] at hreceived'
        cases hreceived'
        exact absurd hother hdigest
  · rename_i received hcompleted hreceived
    split
    · exact .settled _ stored_conflict fun _ _ _ => rfl
    · rename_i hdigest
      exact .resumed received hreceived hcompleted (Decidable.not_not.mp hdigest)
  · rename_i hcompleted hreceived
    split
    · exact .settled _ stored_conflict (refused_unknown hreceived)
    · split
      · exact .settled _ stored_conflict (refused_unknown hreceived)
      · unfold WasmExecutionJournalFileV1.appendReceived
        rw [if_neg (not_not_intro rfl)]
        dsimp only
        split
        · exact .settled _ stored_thrown (refused_unknown hreceived)
        · rename_i happended
          split at happended
          · cases happended
            exact .received receivedAt hreceived hcompleted
          · cases happended
        · rename_i happended
          split at happended <;> cases happended

/-- How a delivery ends: without a completion, with the completion that is stored, or with a new one. -/
inductive ResumeOutcome (journal : WasmExecutionJournalFileV1) (commandId : String) :
    WasmExecutionJournalFileV1 → ExecutionRpcServiceResult → Prop
  | kept (result : ExecutionRpcServiceResult) (hstored : AckStored journal commandId result) :
      ResumeOutcome journal commandId journal result
  | completed (entry : CommandCompletedV1) (hid : entry.commandId = commandId)
      (hcompleted : journal.findCompleted commandId = none) :
      ResumeOutcome journal commandId ⟨journal.journalRevision + 1, journal.entries ++ [.completed entry]⟩
        (.acknowledgement entry.acknowledgement)

theorem resumeDelivery_outcome (S : SupervisorRules) (journal : WasmExecutionJournalFileV1)
    (received : CommandReceivedV1) (commandDigest : String) (outcome : Option WasmExecutionOutcome)
    (completedAt : String) :
    ResumeOutcome journal received.commandId
      (resumeDelivery S journal received commandDigest outcome completedAt).1
      (resumeDelivery S journal received commandDigest outcome completedAt).2 := by
  unfold resumeDelivery
  split
  · exact .kept _ stored_conflict
  · split
    · exact .kept _ stored_conflict
    · dsimp only
      split
      · exact .kept _ stored_thrown
      · rename_i happended
        unfold WasmExecutionJournalFileV1.appendCompleted at happended
        split at happended
        · rename_i entry hcompleted
          cases happended
          refine .kept _ fun acknowledgement h => ?_
          cases h
          exact ⟨entry, hcompleted, rfl⟩
        · rename_i hcompleted
          split at happended
          · cases happended
          · split at happended
            · cases happended
            · dsimp only at happended
              split at happended
              · cases happended
              · split at happended
                · cases happended
                  exact .completed _ rfl hcompleted
                · cases happended

/-! ## The invariant of the handler -/

/-- The invariant of the handler over the journal. -/
structure ExecutionRpcInv (S : SupervisorRules) (world : ExecutionRpcWorld) : Prop where
  journal : JournalInv S world.journal
  fresh : ∀ number, world.nextDelivery ≤ number → world.deliveries number = none
  /-- An entry of the table names a delivery for its id; if that one is settled although another command
  was received, it is settled as a conflict. -/
  active : ∀ commandId entry, world.inFlightDeliveries commandId = some entry →
    ∃ state, world.deliveries entry.delivery = some ⟨commandId, state⟩ ∧ state ≠ .lost ∧
      ∀ result, state = .settled result → Refused world.journal commandId entry.digest result
  /-- A running execution has the received entry of its id, no completion, and the entry of the table. -/
  running : ∀ number commandId received digest,
    world.deliveries number = some ⟨commandId, .executing received digest⟩ →
    world.journal.findReceived commandId = some received ∧ received.commandDigest = digest ∧
      world.journal.findCompleted commandId = none ∧
      ∃ mode, world.inFlightDeliveries commandId = some ⟨digest, mode, number⟩
  answered : ∀ number commandId result,
    world.deliveries number = some ⟨commandId, .settled result⟩ → AckStored world.journal commandId result
  promised : ∀ commandId number, (commandId, Reply.promise number) ∈ world.replies →
    ∃ state, world.deliveries number = some ⟨commandId, state⟩
  replied : ∀ commandId result, (commandId, Reply.settled result) ∈ world.replies →
    AckStored world.journal commandId result

/-- What events may add: completions stay, and the executor is not called for a completed command. -/
structure ExecutionRpcProgress (world world' : ExecutionRpcWorld) : Prop where
  completed : ∀ commandId entry, world.journal.findCompleted commandId = some entry →
    world'.journal.findCompleted commandId = some entry
  notAgain : ∀ commandId, (world.journal.findCompleted commandId).isSome →
    world'.executorCalls.filter (fun command => command.commandId = commandId) =
      world.executorCalls.filter fun command => command.commandId = commandId

theorem ExecutionRpcProgress.refl (world : ExecutionRpcWorld) : ExecutionRpcProgress world world :=
  ⟨fun _ _ h => h, fun _ _ => rfl⟩

theorem ExecutionRpcProgress.trans {first second third : ExecutionRpcWorld}
    (h : ExecutionRpcProgress first second) (h' : ExecutionRpcProgress second third) :
    ExecutionRpcProgress first third := by
  constructor
  · intro commandId entry hentry
    exact h'.completed commandId entry (h.completed commandId entry hentry)
  · intro commandId hcompleted
    obtain ⟨entry, hentry⟩ := Option.isSome_iff_exists.mp hcompleted
    rw [h'.notAgain commandId (by rw [h.completed commandId entry hentry]; rfl), h.notAgain commandId hcompleted]

theorem executionRpcInv_start : ExecutionRpcInv S .start :=
  ⟨journalInv_empty, fun _ _ => rfl, fun _ _ h => (by cases h), fun _ _ _ _ h => (by cases h),
    fun _ _ _ h => (by cases h), fun _ _ h => (by cases h), fun _ _ h => (by cases h)⟩

theorem AckStored.mono {journal journal' : WasmExecutionJournalFileV1} {commandId : String}
    {result : ExecutionRpcServiceResult} (hstep : JournalStep S journal journal')
    (h : AckStored journal commandId result) : AckStored journal' commandId result := by
  intro acknowledgement hack
  obtain ⟨completed, hcompleted, hsame⟩ := h acknowledgement hack
  exact ⟨completed, hstep.findCompleted hcompleted, hsame⟩

section Step

variable {world : ExecutionRpcWorld}

/-- A reply about an id: the promise of a delivery for it, or a result that is stored. -/
theorem ExecutionRpcInv.reply (hinv : ExecutionRpcInv S world) {commandId : String} {reply : Reply}
    (hpromised : ∀ number, reply = .promise number →
      ∃ state, world.deliveries number = some ⟨commandId, state⟩)
    (hstored : ∀ result, reply = .settled result → AckStored world.journal commandId result) :
    ExecutionRpcInv S (world.reply commandId reply) := by
  refine ⟨hinv.journal, hinv.fresh, hinv.active, hinv.running, hinv.answered, ?_, ?_⟩
  · intro commandId' number hmem
    rcases List.mem_append.mp hmem with hmem | hmem
    · exact hinv.promised commandId' number hmem
    · cases List.mem_singleton.mp hmem
      exact hpromised number rfl
  · intro commandId' result hmem
    rcases List.mem_append.mp hmem with hmem | hmem
    · exact hinv.replied commandId' result hmem
    · cases List.mem_singleton.mp hmem
      exact hstored result rfl

/-- A delivery's number is not in use before it starts. -/
theorem ExecutionRpcInv.ne_next (hinv : ExecutionRpcInv S world) {number : Nat} {delivery : Delivery}
    (h : world.deliveries number = some delivery) : number ≠ world.nextDelivery := by
  intro heq
  rw [heq, hinv.fresh _ (Nat.le_refl _)] at h
  cases h

/-- The world after a delivery started, as far as its start decides it. -/
def ExecutionRpcWorld.started (S : SupervisorRules) (world : ExecutionRpcWorld) (command : ExecutionCommand)
    (mode : DeliveryMode) (journal : WasmExecutionJournalFileV1) (state : DeliveryState)
    (called : List ExecutionCommand) : ExecutionRpcWorld :=
  { world with
    journal := journal
    inFlightDeliveries := Function.update world.inFlightDeliveries command.commandId
      (some ⟨S.commandDigest command, mode, world.nextDelivery⟩)
    deliveries := Function.update world.deliveries world.nextDelivery (some ⟨command.commandId, state⟩)
    nextDelivery := world.nextDelivery + 1
    executorCalls := world.executorCalls ++ called }

/-- A new delivery keeps the invariant if no execution of its id is running. -/
theorem ExecutionRpcInv.started (hinv : ExecutionRpcInv S world) {command : ExecutionCommand}
    {mode : DeliveryMode} {journal : WasmExecutionJournalFileV1} {state : DeliveryState}
    (hstart : DeliveryOutcome S world.journal command journal state)
    (hidle : ∀ number received digest,
      world.deliveries number ≠ some ⟨command.commandId, .executing received digest⟩)
    (called : List ExecutionCommand) :
    ExecutionRpcInv S (world.started S command mode journal state called) := by
  have hstep : JournalStep S world.journal journal := by
    cases hstart with
    | settled => exact .unchanged
    | resumed => exact .unchanged
    | received receivedAt hreceived hcompleted => exact .received command receivedAt hreceived hcompleted
  have hother : ∀ commandId, commandId ≠ command.commandId →
      journal.findReceived commandId = world.journal.findReceived commandId ∧
      journal.findCompleted commandId = world.journal.findCompleted commandId := by
    intro commandId hne
    cases hstart with
    | settled => exact ⟨rfl, rfl⟩
    | resumed => exact ⟨rfl, rfl⟩
    | received => exact ⟨findReceived_received_of_ne _ _ (Ne.symm hne), findCompleted_received _ _⟩
  have hdeliveries : ∀ number delivery, world.deliveries number = some delivery →
      (world.started S command mode journal state called).deliveries number = some delivery := by
    intro number delivery h
    exact (Function.update_of_ne (hinv.ne_next h) _ _).trans h
  refine ⟨hstep.inv hinv.journal, ?_, ?_, ?_, ?_, ?_, ?_⟩
  · intro number hnumber
    have hnumber : world.nextDelivery + 1 ≤ number := hnumber
    have hne : number ≠ world.nextDelivery := by omega
    exact (Function.update_of_ne hne _ _).trans (hinv.fresh number (by omega))
  · intro commandId entry hentry
    by_cases hsame : commandId = command.commandId
    · subst hsame
      rw [show (world.started S command mode journal state called).inFlightDeliveries command.commandId =
        some ⟨S.commandDigest command, mode, world.nextDelivery⟩ from Function.update_self _ _ _] at hentry
      cases hentry
      refine ⟨state, Function.update_self _ _ _, ?_, ?_⟩
      · intro hlost
        cases hstart <;> cases hlost
      · intro result hsettled
        cases hstart with
        | settled result' hstored hrefused =>
          cases hsettled
          exact hrefused
        | resumed => cases hsettled
        | received => cases hsettled
    · rw [show (world.started S command mode journal state called).inFlightDeliveries commandId =
        world.inFlightDeliveries commandId from Function.update_of_ne hsame _ _] at hentry
      obtain ⟨state', hdelivery, hlost, hrefused⟩ := hinv.active commandId entry hentry
      refine ⟨state', hdeliveries _ _ hdelivery, hlost, fun result hsettled received hreceived => ?_⟩
      have hreceived : journal.findReceived commandId = some received := hreceived
      rw [(hother commandId hsame).1] at hreceived
      exact hrefused result hsettled received hreceived
  · intro number commandId received digest hrunning
    by_cases hnew : number = world.nextDelivery
    · subst hnew
      rw [show (world.started S command mode journal state called).deliveries world.nextDelivery =
        some ⟨command.commandId, state⟩ from Function.update_self _ _ _] at hrunning
      cases hrunning
      cases hstart with
      | resumed _ hreceived hcompleted hdigest =>
        exact ⟨hreceived, hdigest, hcompleted, mode, Function.update_self _ _ _⟩
      | received receivedAt hreceived hcompleted =>
        exact ⟨findReceived_received command receivedAt _, rfl,
          (findCompleted_received _ _).trans hcompleted, mode, Function.update_self _ _ _⟩
    · rw [show (world.started S command mode journal state called).deliveries number =
        world.deliveries number from Function.update_of_ne hnew _ _] at hrunning
      obtain ⟨hreceived, hdigest, hcompleted, mode', hactive⟩ :=
        hinv.running number commandId received digest hrunning
      have hsame : commandId ≠ command.commandId := by
        intro hsame
        rw [hsame] at hrunning
        exact hidle number received digest hrunning
      exact ⟨(hother commandId hsame).1.trans hreceived, hdigest,
        (hother commandId hsame).2.trans hcompleted, mode', (Function.update_of_ne hsame _ _).trans hactive⟩
  · intro number commandId result hsettled
    by_cases hnew : number = world.nextDelivery
    · subst hnew
      rw [show (world.started S command mode journal state called).deliveries world.nextDelivery =
        some ⟨command.commandId, state⟩ from Function.update_self _ _ _] at hsettled
      cases hsettled
      cases hstart with
      | settled _ hstored => exact hstored
    · rw [show (world.started S command mode journal state called).deliveries number =
        world.deliveries number from Function.update_of_ne hnew _ _] at hsettled
      exact (hinv.answered number commandId result hsettled).mono hstep
  · intro commandId number hmem
    obtain ⟨state', hdelivery⟩ := hinv.promised commandId number hmem
    exact ⟨state', hdeliveries _ _ hdelivery⟩
  · intro commandId result hmem
    exact (hinv.replied commandId result hmem).mono hstep

theorem ExecutionRpcWorld.startDelivery_eq (world : ExecutionRpcWorld) (command : ExecutionCommand)
    (mode : DeliveryMode) (receivedAt : String) :
    ∃ journal state called, DeliveryOutcome S world.journal command journal state ∧
      (∀ received digest, state = .executing received digest → called = [received.command]) ∧
      (∀ result, state = .settled result → called = []) ∧
      world.startDelivery S command mode receivedAt =
        (world.started S command mode journal state called).reply command.commandId
          (.promise world.nextDelivery) := by
  have houtcome := performDelivery_outcome S world.journal command mode receivedAt
  unfold startDelivery
  cases hperform : performDelivery S world.journal command mode receivedAt with
  | mk journal state =>
    rw [hperform] at houtcome
    refine ⟨journal, state, _, houtcome, ?_, ?_, rfl⟩
    · rintro received digest rfl
      rfl
    · rintro result rfl
      rfl

/-- A delivery of its own keeps the invariant if no execution of its id is running. -/
theorem ExecutionRpcInv.startDelivery (hinv : ExecutionRpcInv S world) {command : ExecutionCommand}
    {mode : DeliveryMode} {receivedAt : String}
    (hidle : ∀ number received digest,
      world.deliveries number ≠ some ⟨command.commandId, .executing received digest⟩) :
    ExecutionRpcInv S (world.startDelivery S command mode receivedAt) ∧
      ExecutionRpcProgress world (world.startDelivery S command mode receivedAt) := by
  obtain ⟨journal, state, called, houtcome, hexecuting, hsettled, heq⟩ :=
    ExecutionRpcWorld.startDelivery_eq (S := S) world command mode receivedAt
  rw [heq]
  constructor
  · refine (hinv.started houtcome hidle called).reply ?_ ?_
    · rintro number ⟨⟩
      exact ⟨state, Function.update_self _ _ _⟩
    · rintro result ⟨⟩
  · cases houtcome with
    | settled result =>
      refine ⟨fun _ _ h => h, fun commandId _ => ?_⟩
      rw [hsettled result rfl]
      exact congrArg _ (List.append_nil _)
    | resumed received hreceived hcompleted =>
      refine ⟨fun _ _ h => h, fun commandId hdone => ?_⟩
      have hown := (hinv.journal.own _ received (findReceived_mem hreceived)).2.1
      have hother : ¬ received.command.commandId = commandId := by
        intro hsame
        rw [← hsame, hown, hcompleted] at hdone
        cases hdone
      rw [hexecuting received _ rfl]
      change (world.executorCalls ++ [received.command]).filter _ = _
      simp [hother]
    | received receivedAt hreceived hcompleted =>
      have hstep : JournalStep S world.journal _ :=
        JournalStep.received command receivedAt hreceived hcompleted
      refine ⟨fun _ _ h => hstep.findCompleted h, fun commandId hdone => ?_⟩
      have hother : ¬ command.commandId = commandId := by
        intro hsame
        rw [← hsame, hcompleted] at hdone
        cases hdone
      rw [hexecuting _ _ rfl]
      change (world.executorCalls ++ [command]).filter _ = _
      simp [hother]

theorem ExecutionRpcInv.deliver (hinv : ExecutionRpcInv S world) (command : ExecutionCommand)
    (mode : DeliveryMode) (receivedAt : String) :
    ExecutionRpcInv S (world.deliver S command mode receivedAt) ∧
      ExecutionRpcProgress world (world.deliver S command mode receivedAt) := by
  unfold ExecutionRpcWorld.deliver
  split
  · rename_i hnone
    refine hinv.startDelivery fun number received digest hrunning => ?_
    obtain ⟨_, _, _, mode', hactive⟩ := hinv.running number _ received digest hrunning
    rw [hnone] at hactive
    cases hactive
  · rename_i active hactive
    obtain ⟨state, hdelivery, _⟩ := hinv.active _ active hactive
    split
    · refine ⟨hinv.reply ?_ ?_, ⟨fun _ _ h => h, fun _ _ => rfl⟩⟩
      · rintro number ⟨⟩
      · rintro result ⟨⟩
        exact stored_conflict
    · split
      · refine ⟨hinv.reply ?_ ?_, ⟨fun _ _ h => h, fun _ _ => rfl⟩⟩
        · rintro number ⟨⟩
          exact ⟨state, hdelivery⟩
        · rintro result ⟨⟩
      · -- the delivery in flight is a replay of a command the journal does not know
        rename_i hunknown
        refine hinv.startDelivery fun number received digest hrunning => hunknown (.inl ?_)
        rw [(hinv.running number _ received digest hrunning).1]
        rfl

theorem ExecutionRpcInv.executed (hinv : ExecutionRpcInv S world) (number : Nat)
    (outcome : Option WasmExecutionOutcome) (completedAt : String) :
    ExecutionRpcInv S (world.executed S number outcome completedAt) ∧
      ExecutionRpcProgress world (world.executed S number outcome completedAt) := by
  unfold ExecutionRpcWorld.executed
  split
  · rename_i commandId received digest hrunning
    obtain ⟨hreceived, hdigest, hcompleted, mode, hactive⟩ :=
      hinv.running number commandId received digest hrunning
    have hid : received.commandId = commandId :=
      (hinv.journal.own _ received (findReceived_mem hreceived)).1
    have houtcome := resumeDelivery_outcome S world.journal received digest outcome completedAt
    rw [hid] at houtcome
    cases hresume : resumeDelivery S world.journal received digest outcome completedAt with
    | mk journal result =>
      rw [hresume] at houtcome
      dsimp only at houtcome ⊢
      have hstep : JournalStep S world.journal journal := by
        cases houtcome with
        | kept => exact .unchanged
        | completed entry hentry hnone => exact .completed entry (by rw [hentry]; exact hnone)
      have hfind : ∀ other, journal.findReceived other = world.journal.findReceived other := by
        intro other
        cases houtcome with
        | kept => rfl
        | completed => exact findReceived_completed _ _
      have hother : ∀ other, other ≠ commandId →
          journal.findCompleted other = world.journal.findCompleted other := by
        intro other hne
        cases houtcome with
        | kept => rfl
        | completed entry hentry =>
          exact findCompleted_completed_of_ne _ _ (by rw [hentry]; exact Ne.symm hne)
      have hresult : AckStored journal commandId result := by
        cases houtcome with
        | kept result hstored => exact hstored
        | completed entry hentry =>
          intro acknowledgement hack
          cases hack
          exact ⟨entry, by rw [← hentry]; exact findCompleted_completed _ _, rfl⟩
      refine ⟨⟨hstep.inv hinv.journal, ?_, ?_, ?_, ?_, ?_, ?_⟩,
        ⟨fun _ _ h => hstep.findCompleted h, fun _ _ => rfl⟩⟩
      · intro number' hnumber'
        have hne : number' ≠ number := by
          intro heq
          have hfresh := hinv.fresh number' hnumber'
          rw [heq, hrunning] at hfresh
          cases hfresh
        exact (Function.update_of_ne hne _ _).trans (hinv.fresh number' hnumber')
      · intro commandId' entry hentry
        obtain ⟨state, hdelivery, hlost, hrefused⟩ := hinv.active commandId' entry hentry
        by_cases hsame : entry.delivery = number
        · rw [hsame, hrunning] at hdelivery
          cases hdelivery
          rw [hsame]
          refine ⟨.settled result, Function.update_self _ _ _, fun h => (by cases h), ?_⟩
          rintro _ ⟨⟩ received' hreceived' hne
          rw [hfind, hreceived] at hreceived'
          cases hreceived'
          rw [show world.inFlightDeliveries commandId = some ⟨digest, mode, number⟩ from hactive] at hentry
          cases hentry
          exact absurd hdigest hne
        · refine ⟨state, (Function.update_of_ne hsame _ _).trans hdelivery, hlost, ?_⟩
          intro result' hsettled received' hreceived'
          rw [hfind] at hreceived'
          exact hrefused result' hsettled received' hreceived'
      · intro number' commandId' received' digest' hrunning'
        have hne : number' ≠ number := by
          intro heq
          subst heq
          change Function.update world.deliveries number' _ number' = _ at hrunning'
          rw [Function.update_self] at hrunning'
          cases hrunning'
        change Function.update world.deliveries number _ number' = _ at hrunning'
        rw [Function.update_of_ne hne] at hrunning'
        obtain ⟨hreceived', hdigest', hcompleted', mode', hactive'⟩ :=
          hinv.running number' commandId' received' digest' hrunning'
        have hne' : commandId' ≠ commandId := by
          intro heq
          rw [heq, hactive] at hactive'
          cases hactive'
          exact hne rfl
        exact ⟨(hfind commandId').trans hreceived', hdigest', (hother commandId' hne').trans hcompleted',
          mode', hactive'⟩
      · intro number' commandId' result' hsettled
        by_cases hsame : number' = number
        · subst hsame
          change Function.update world.deliveries number' _ number' = _ at hsettled
          rw [Function.update_self] at hsettled
          cases hsettled
          exact hresult
        · change Function.update world.deliveries number _ number' = _ at hsettled
          rw [Function.update_of_ne hsame] at hsettled
          exact (hinv.answered number' commandId' result' hsettled).mono hstep
      · intro commandId' number' hmem
        obtain ⟨state, hdelivery⟩ := hinv.promised commandId' number' hmem
        by_cases hsame : number' = number
        · rw [hsame, hrunning] at hdelivery
          cases hdelivery
          rw [hsame]
          exact ⟨_, Function.update_self _ _ _⟩
        · exact ⟨state, (Function.update_of_ne hsame _ _).trans hdelivery⟩
      · intro commandId' result' hmem
        exact (hinv.replied commandId' result' hmem).mono hstep
  · exact ⟨hinv, .refl world⟩

theorem ExecutionRpcInv.removed (hinv : ExecutionRpcInv S world) (number : Nat) :
    ExecutionRpcInv S (world.removed number) ∧ ExecutionRpcProgress world (world.removed number) := by
  unfold ExecutionRpcWorld.removed
  split
  · rename_i commandId result hsettled
    split
    · rename_i hown
      refine ⟨⟨hinv.journal, hinv.fresh, ?_, ?_, hinv.answered, hinv.promised, hinv.replied⟩,
        ⟨fun _ _ h => h, fun _ _ => rfl⟩⟩
      · intro commandId' entry hentry
        have hne : commandId' ≠ commandId := by
          intro heq
          subst heq
          change Function.update world.inFlightDeliveries commandId' none commandId' = _ at hentry
          rw [Function.update_self] at hentry
          cases hentry
        change Function.update world.inFlightDeliveries commandId none commandId' = _ at hentry
        rw [Function.update_of_ne hne] at hentry
        exact hinv.active commandId' entry hentry
      · intro number' commandId' received digest hrunning
        obtain ⟨hreceived, hdigest, hcompleted, mode, hactive⟩ :=
          hinv.running number' commandId' received digest hrunning
        have hne : commandId' ≠ commandId := by
          intro heq
          rw [← heq, hactive] at hown
          have hsame : number' = number := Option.some.inj hown
          rw [hsame, hsettled] at hrunning
          cases hrunning
        exact ⟨hreceived, hdigest, hcompleted, mode, (Function.update_of_ne hne _ _).trans hactive⟩
    · exact ⟨hinv, .refl world⟩
  · exact ⟨hinv, .refl world⟩

theorem ExecutionRpcInv.restart (hinv : ExecutionRpcInv S world) :
    ExecutionRpcInv S world.restart ∧ ExecutionRpcProgress world world.restart := by
  have hstate : ∀ number delivery', world.restart.deliveries number = some delivery' →
      ∃ delivery, world.deliveries number = some delivery ∧ delivery'.commandId = delivery.commandId ∧
        (delivery'.state = .lost ∨ delivery' = delivery ∧ ∀ received digest,
          delivery.state ≠ .executing received digest) := by
    intro number delivery' h
    obtain ⟨delivery, hdelivery, heq⟩ := Option.map_eq_some_iff.mp h
    refine ⟨delivery, hdelivery, ?_⟩
    rw [← heq]
    unfold Delivery.afterRestart
    split
    · exact ⟨rfl, .inl rfl⟩
    · rename_i hsettled
      refine ⟨rfl, .inr ⟨rfl, fun received digest hexecuting => ?_⟩⟩
      rw [hsettled] at hexecuting
      cases hexecuting
    · rename_i hlost
      exact ⟨rfl, .inl hlost⟩
  refine ⟨⟨hinv.journal, ?_, fun _ _ h => (by cases h), ?_, ?_, ?_, hinv.replied⟩,
    ⟨fun _ _ h => h, fun _ _ => rfl⟩⟩
  · intro number hnumber
    change (world.deliveries number).map Delivery.afterRestart = none
    rw [hinv.fresh number hnumber]
    rfl
  · intro number commandId received digest hrunning
    obtain ⟨delivery, _, _, hlost | ⟨hsame, hidle⟩⟩ := hstate number _ hrunning
    · cases hlost
    · exact absurd (by rw [← hsame]) (hidle received digest)
  · intro number commandId result hsettled
    obtain ⟨delivery, hdelivery, _, hlost | ⟨hsame, _⟩⟩ := hstate number _ hsettled
    · cases hlost
    · rw [← hsame] at hdelivery
      exact hinv.answered number commandId result hdelivery
  · intro commandId number hmem
    obtain ⟨state, hdelivery⟩ := hinv.promised commandId number hmem
    change ∃ state, (world.deliveries number).map Delivery.afterRestart = some ⟨commandId, state⟩
    rw [hdelivery]
    cases state with
    | executing => exact ⟨.lost, rfl⟩
    | settled result => exact ⟨.settled result, rfl⟩
    | lost => exact ⟨.lost, rfl⟩

/-- The answer to a query is what the journal stores. -/
theorem stored_query (journal : WasmExecutionJournalFileV1) (commandId : String) :
    AckStored journal commandId (queryJournal journal commandId) := by
  intro acknowledgement h
  unfold queryJournal at h
  split at h
  · cases h
  · cases h
  · rename_i received completed _ hcompleted
    cases h
    exact ⟨completed, hcompleted, rfl⟩
  · cases h

/-- Every event keeps the invariant, keeps the completions and never executes a completed command. -/
theorem ExecutionRpcInv.step (hinv : ExecutionRpcInv S world) (event : ExecutionRpcEvent) :
    ExecutionRpcInv S (world.step S event) ∧ ExecutionRpcProgress world (world.step S event) := by
  cases event with
  | deliver command mode receivedAt => exact hinv.deliver command mode receivedAt
  | query commandId =>
    refine ⟨hinv.reply ?_ ?_, ⟨fun _ _ h => h, fun _ _ => rfl⟩⟩
    · rintro number ⟨⟩
    · rintro result ⟨⟩
      exact stored_query world.journal commandId
  | executed number outcome completedAt => exact hinv.executed number outcome completedAt
  | removed number => exact hinv.removed number
  | restart => exact hinv.restart

/-- An envelope with another digest than the received command of its id is refused, and nothing is
written. -/
theorem ExecutionRpcInv.deliver_refused (hinv : ExecutionRpcInv S world) {command : ExecutionCommand}
    (mode : DeliveryMode) (receivedAt : String) {received : CommandReceivedV1}
    (hreceived : world.journal.findReceived command.commandId = some received)
    (hother : received.commandDigest ≠ S.commandDigest command) :
    (world.deliver S command mode receivedAt).journal = world.journal ∧
      ∃ reply, (world.deliver S command mode receivedAt).replies =
          world.replies ++ [(command.commandId, reply)] ∧
        (world.deliver S command mode receivedAt).resultOf reply = some commandIdConflict := by
  unfold ExecutionRpcWorld.deliver
  split
  · obtain ⟨journal, state, called, houtcome, _, _, heq⟩ :=
      ExecutionRpcWorld.startDelivery_eq (S := S) world command mode receivedAt
    rw [heq]
    cases houtcome with
    | settled result _ hrefused =>
      refine ⟨rfl, _, rfl, ?_⟩
      rw [hrefused received hreceived hother]
      simp [ExecutionRpcWorld.resultOf, ExecutionRpcWorld.reply, ExecutionRpcWorld.started]
    | resumed received' hreceived' _ hdigest =>
      rw [hreceived] at hreceived'
      cases hreceived'
      exact absurd hdigest hother
    | received _ hnone =>
      rw [hreceived] at hnone
      cases hnone
  · rename_i active hactive
    split
    · exact ⟨rfl, _, rfl, rfl⟩
    · rename_i hdigest
      have hdigest : active.digest = S.commandDigest command := Decidable.not_not.mp hdigest
      rw [if_pos (.inl (by rw [hreceived]; rfl))]
      refine ⟨rfl, _, rfl, ?_⟩
      obtain ⟨state, hdelivery, hlost, hrefused⟩ := hinv.active _ active hactive
      cases state with
      | executing received' digest =>
        obtain ⟨hreceived', hdigest', _, mode', hactive'⟩ := hinv.running _ _ received' digest hdelivery
        rw [hreceived] at hreceived'
        cases hreceived'
        have hsame : active = ⟨digest, mode', active.delivery⟩ :=
          Option.some.inj (hactive.symm.trans hactive')
        rw [hsame] at hdigest
        exact absurd (hdigest'.trans hdigest) hother
      | settled result =>
        have hconflict := hrefused result rfl received hreceived (by rw [hdigest]; exact hother)
        dsimp only [ExecutionRpcWorld.resultOf, ExecutionRpcWorld.reply]
        rw [hdelivery, hconflict]
      | lost => exact absurd rfl hlost

/-- A received entry was there before or is that of the command just delivered. -/
theorem ExecutionRpcWorld.step_received (world : ExecutionRpcWorld) (event : ExecutionRpcEvent)
    {commandId : String} {entry : CommandReceivedV1}
    (hentry : entry ∈ (world.step S event).journal.receivedOf commandId) :
    entry ∈ world.journal.receivedOf commandId ∨
      ∃ mode receivedAt, event = .deliver entry.command mode receivedAt := by
  cases event with
  | deliver command mode receivedAt =>
    have hstart : entry ∈ (world.startDelivery S command mode receivedAt).journal.receivedOf commandId →
        entry ∈ world.journal.receivedOf commandId ∨ entry.command = command := by
      intro hentry
      obtain ⟨journal, state, called, houtcome, _, _, heq⟩ :=
        startDelivery_eq (S := S) world command mode receivedAt
      rw [heq] at hentry
      change entry ∈ journal.receivedOf commandId at hentry
      cases houtcome with
      | settled => exact .inl hentry
      | resumed => exact .inl hentry
      | received =>
        rw [receivedOf_received] at hentry
        rcases List.mem_append.mp hentry with hentry | hentry
        · exact .inl hentry
        · split at hentry
          · rw [List.mem_singleton.mp hentry]
            exact .inr rfl
          · cases hentry
    have hdeliver : entry ∈ world.journal.receivedOf commandId ∨ entry.command = command := by
      change entry ∈ (world.deliver S command mode receivedAt).journal.receivedOf commandId at hentry
      unfold ExecutionRpcWorld.deliver at hentry
      split at hentry
      · exact hstart hentry
      · split at hentry
        · exact .inl hentry
        · split at hentry
          · exact .inl hentry
          · exact hstart hentry
    rcases hdeliver with hold | hnew
    · exact .inl hold
    · exact .inr ⟨mode, receivedAt, by rw [hnew]⟩
  | query => exact .inl hentry
  | executed number outcome completedAt =>
    refine .inl ?_
    change entry ∈ (world.executed S number outcome completedAt).journal.receivedOf commandId at hentry
    unfold ExecutionRpcWorld.executed at hentry
    split at hentry
    · rename_i received digest _
      have houtcome := resumeDelivery_outcome S world.journal received digest outcome completedAt
      change entry ∈ (resumeDelivery S world.journal received digest outcome completedAt).1.receivedOf
        commandId at hentry
      cases hresume : resumeDelivery S world.journal received digest outcome completedAt with
      | mk journal result =>
        rw [hresume] at houtcome hentry
        dsimp only at houtcome hentry
        cases houtcome with
        | kept => exact hentry
        | completed =>
          rw [receivedOf_completed] at hentry
          exact hentry
    · exact hentry
  | removed number =>
    refine .inl ?_
    change entry ∈ (world.removed number).journal.receivedOf commandId at hentry
    unfold ExecutionRpcWorld.removed at hentry
    split at hentry
    · split at hentry <;> exact hentry
    · exact hentry
  | restart => exact .inl hentry

end Step

/-! ## Runs -/

/-- The world after a list of events, from an absent journal on. -/
def ExecutionRpcWorld.after (S : SupervisorRules) (events : List ExecutionRpcEvent) : ExecutionRpcWorld :=
  run (ExecutionRpcWorld.step S) .start events

/-- The commands of the envelopes of a run. -/
def delivered (events : List ExecutionRpcEvent) : List ExecutionCommand :=
  events.filterMap fun
    | .deliver command _ _ => some command
    | .query _ | .executed _ _ _ | .removed _ | .restart => none

/-- One command, one execution at a time, one answer, at each moment of a run. -/
structure OneExecutionOneAnswer (S : SupervisorRules) (events : List ExecutionRpcEvent) : Prop where
  /-- Two running executions of a command id are the same delivery. -/
  oneRunning : ∀ earlier, earlier <+: events → ∀ commandId first second,
    (ExecutionRpcWorld.after S earlier).Executing first commandId →
    (ExecutionRpcWorld.after S earlier).Executing second commandId → first = second
  /-- The revision counts the entries, and each id has at most one entry of each kind. -/
  journal : ∀ earlier, earlier <+: events →
    (ExecutionRpcWorld.after S earlier).journal.journalRevision =
      (ExecutionRpcWorld.after S earlier).journal.entries.length ∧
    ∀ commandId, ((ExecutionRpcWorld.after S earlier).journal.receivedOf commandId).length ≤ 1 ∧
      ((ExecutionRpcWorld.after S earlier).journal.completedOf commandId).length ≤ 1
  /-- All acknowledgements for an id are the same one. -/
  oneAnswer : ∀ earlier later, earlier ++ later <+: events → ∀ commandId first second,
    (ExecutionRpcWorld.after S earlier).Acknowledged commandId first →
    (ExecutionRpcWorld.after S (earlier ++ later)).Acknowledged commandId second → first = second
  /-- An envelope with another command than the received one is refused and writes nothing. -/
  refused : ∀ earlier command mode receivedAt, earlier ++ [.deliver command mode receivedAt] <+: events →
    ∀ received,
    (ExecutionRpcWorld.after S earlier).journal.findReceived command.commandId = some received →
    received.command ≠ command →
    (ExecutionRpcWorld.after S (earlier ++ [.deliver command mode receivedAt])).journal =
        (ExecutionRpcWorld.after S earlier).journal ∧
      ∃ reply, (ExecutionRpcWorld.after S (earlier ++ [.deliver command mode receivedAt])).replies =
          (ExecutionRpcWorld.after S earlier).replies ++ [(command.commandId, reply)] ∧
        (ExecutionRpcWorld.after S (earlier ++ [.deliver command mode receivedAt])).resultOf reply =
          some commandIdConflict
  /-- The executor is never called for a completed command. -/
  notAgain : ∀ earlier later, earlier ++ later <+: events → ∀ commandId,
    ((ExecutionRpcWorld.after S earlier).journal.findCompleted commandId).isSome →
    (ExecutionRpcWorld.after S (earlier ++ later)).executorCalls.filter
        (fun command => command.commandId = commandId) =
      (ExecutionRpcWorld.after S earlier).executorCalls.filter fun command => command.commandId = commandId

/-- Every run keeps the invariant and makes progress only. -/
theorem ExecutionRpcInv.run {world : ExecutionRpcWorld} (hinv : ExecutionRpcInv S world)
    (events : List ExecutionRpcEvent) :
    ExecutionRpcInv S (run (ExecutionRpcWorld.step S) world events) ∧
      ExecutionRpcProgress world (run (ExecutionRpcWorld.step S) world events) :=
  along_true.invariant_rel ExecutionRpcProgress.refl (fun _ _ _ h h' => h.trans h')
    (fun _ event _ h => h.step event) hinv

theorem executionRpcInv_after (S : SupervisorRules) (events : List ExecutionRpcEvent) :
    ExecutionRpcInv S (ExecutionRpcWorld.after S events) :=
  (executionRpcInv_start.run events).1

theorem after_progress (S : SupervisorRules) (earlier later : List ExecutionRpcEvent) :
    ExecutionRpcProgress (ExecutionRpcWorld.after S earlier)
      (ExecutionRpcWorld.after S (earlier ++ later)) := by
  have hrun := ((executionRpcInv_after S earlier).run later).2
  unfold ExecutionRpcWorld.after at hrun ⊢
  rw [run_append]
  exact hrun

/-- What is acknowledged for an id is the acknowledgement of its completion. -/
theorem ExecutionRpcInv.acknowledged {world : ExecutionRpcWorld} (hinv : ExecutionRpcInv S world)
    {commandId : String} {acknowledgement : ExecutionAcknowledgement}
    (h : world.Acknowledged commandId acknowledgement) :
    ∃ completed, world.journal.findCompleted commandId = some completed ∧
      completed.acknowledgement = acknowledgement := by
  obtain ⟨reply, result, hmem, hresult, hack⟩ := h
  cases reply with
  | settled result' =>
    cases hresult
    exact hinv.replied commandId _ hmem acknowledgement hack
  | promise number =>
    obtain ⟨state, hdelivery⟩ := hinv.promised commandId number hmem
    simp only [ExecutionRpcWorld.resultOf, hdelivery] at hresult
    cases state with
    | settled result' =>
      cases hresult
      exact hinv.answered number commandId _ hdelivery acknowledgement hack
    | executing => cases hresult
    | lost => cases hresult

/-- Every received command was delivered. -/
theorem received_delivered (S : SupervisorRules) (events : List ExecutionRpcEvent) {commandId : String}
    {entry : CommandReceivedV1}
    (hentry : entry ∈ (ExecutionRpcWorld.after S events).journal.receivedOf commandId) :
    entry.command ∈ delivered events := by
  induction events using List.reverseRecOn with
  | nil => cases hentry
  | append_singleton events event ih =>
    unfold ExecutionRpcWorld.after at hentry
    rw [run_append] at hentry
    rw [delivered, List.filterMap_append]
    rcases ExecutionRpcWorld.step_received _ event hentry with hold | ⟨mode, receivedAt, rfl⟩
    · exact List.mem_append_left _ (ih hold)
    · exact List.mem_append_right _ (by simp)

theorem mem_delivered {events earlier : List ExecutionRpcEvent} {command : ExecutionCommand}
    (hpre : earlier <+: events) (h : command ∈ delivered earlier) : command ∈ delivered events := by
  obtain ⟨rest, rfl⟩ := hpre
  rw [delivered, List.filterMap_append]
  exact List.mem_append_left _ h

/-- One command, one execution at a time, one answer: for every interleaving of envelopes, executor
answers, removals and restarts whose commands have distinct digests. -/
theorem one_execution_one_answer (S : SupervisorRules) (events : List ExecutionRpcEvent)
    (hdigest : ∀ first ∈ delivered events, ∀ second ∈ delivered events,
      S.commandDigest first = S.commandDigest second → first = second) :
    OneExecutionOneAnswer S events := by
  refine ⟨?_, ?_, ?_, ?_, ?_⟩
  · intro earlier _ commandId first second hfirst hsecond
    have hinv := executionRpcInv_after S earlier
    have hactive : ∀ number, (ExecutionRpcWorld.after S earlier).Executing number commandId →
        ∃ entry, (ExecutionRpcWorld.after S earlier).inFlightDeliveries commandId = some entry ∧
          entry.delivery = number := by
      rintro number ⟨⟨id, state⟩, received, digest, hdelivery, hstate, hcommand⟩
      cases hstate
      obtain ⟨hreceived, _, _, mode, hactive⟩ := hinv.running number id received digest hdelivery
      have hown := (hinv.journal.own id received (findReceived_mem hreceived)).2.1
      rw [hown] at hcommand
      rw [← hcommand]
      exact ⟨_, hactive, rfl⟩
    obtain ⟨entry, hentry, hnumber⟩ := hactive first hfirst
    obtain ⟨entry', hentry', hnumber'⟩ := hactive second hsecond
    rw [hentry] at hentry'
    cases hentry'
    exact hnumber.symm.trans hnumber'
  · intro earlier _
    have hinv := (executionRpcInv_after S earlier).journal
    exact ⟨hinv.revision, fun commandId => ⟨hinv.received commandId, hinv.completed commandId⟩⟩
  · intro earlier later _ commandId first second hfirst hsecond
    obtain ⟨completed, hcompleted, hfirst⟩ := (executionRpcInv_after S earlier).acknowledged hfirst
    obtain ⟨completed', hcompleted', hsecond⟩ :=
      (executionRpcInv_after S (earlier ++ later)).acknowledged hsecond
    have hkept := (after_progress S earlier later).completed commandId completed hcompleted
    rw [hkept] at hcompleted'
    cases hcompleted'
    exact hfirst.symm.trans hsecond
  · intro earlier command mode receivedAt hpre received hreceived hother
    have hinv := executionRpcInv_after S earlier
    have hmem := findReceived_mem hreceived
    have hcommand : command ∈ delivered events := by
      refine mem_delivered hpre ?_
      rw [delivered, List.filterMap_append]
      exact List.mem_append_right _ (by simp)
    have hknown : received.command ∈ delivered events :=
      mem_delivered (List.IsPrefix.trans (List.prefix_append _ _) hpre) (received_delivered S earlier hmem)
    have hdiffer : received.commandDigest ≠ S.commandDigest command := by
      intro hsame
      rw [(hinv.journal.own _ received hmem).2.2] at hsame
      exact hother (hdigest _ hknown _ hcommand hsame)
    have hrefused := hinv.deliver_refused mode receivedAt hreceived hdiffer
    unfold ExecutionRpcWorld.after at hrefused ⊢
    rw [run_append]
    exact hrefused
  · intro earlier later _ commandId hcompleted
    exact (after_progress S earlier later).notAgain commandId hcompleted

section Vectors

open Vectors

/-- The command of the run, and another command with its id. -/
def firstPrepare : ExecutionCommand := executionCommand 1 .prepare (execution 1 1 1)

def otherBody : ExecutionCommand := executionCommand 1 .start (execution 1 1 2)

/-- A replay overtaken by its command, a refused body, a joined delivery, a failed execution, a restart, and
a replay that completes the command. -/
def replayedCommand : List ExecutionRpcEvent :=
  let time := "2026-08-26T00:00:00.000Z"
  [.deliver firstPrepare .replay time, .deliver firstPrepare .command time,
    .deliver otherBody .command time, .deliver firstPrepare .command time, .removed 0,
    .executed 1 none time, .removed 1, .deliver firstPrepare .replay time, .restart,
    .executed 2 (some .applied) time, .deliver firstPrepare .replay time,
    .executed 3 (some .applied) time, .deliver firstPrepare .command time, .removed 3,
    .deliver otherBody .replay time, .deliver firstPrepare .command time, .query (commandId 1)]

theorem one_execution_one_answer_replayed :
    OneExecutionOneAnswer supervisorRules replayedCommand ∧
      (ExecutionRpcWorld.after supervisorRules replayedCommand).journal.entries.length = 2 ∧
      (ExecutionRpcWorld.after supervisorRules replayedCommand).executorCalls =
        [firstPrepare, firstPrepare, firstPrepare] :=
  ⟨one_execution_one_answer supervisorRules replayedCommand (by decide +kernel), by decide +kernel,
    by decide +kernel⟩

end Vectors

end Iweb
