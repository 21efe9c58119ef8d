import Iweb.Kernel.Wire
import Iweb.Runtime.ControlMutators

/-!
# Proofs: the mutators of the control state

Every mutator makes its checks before its first assignment, so it fails without a trace or makes one change
under the next revision. What holds between the states of a run follows from the three kinds of change.
-/

namespace Iweb

open CrashHoare CrashRefinement

variable {D : DrainReceiptRules} {state state' : WasmCommandControlState} {call : ControlCall}

/-! ## The changes -/

/-- The change that a call makes: it adds entries and records under new ids, moves one entry on, or retires one
execution. -/
inductive ControlChange (D : DrainReceiptRules) (state : WasmCommandControlState) (call : ControlCall) :
    WasmCommandControlState → Prop
  | added (entries : List CommandOutboxRecord) (records : List RetiringExecutionRecord)
      (hpending : ∀ entry ∈ entries, entry.deliveryState = .pending)
      (hunretired : ∀ record ∈ records, record.retired = false)
      (hfresh : ∀ entry ∈ entries, ∀ other ∈ state.commandOutbox, other.commandId ≠ entry.commandId)
      (hfreshRecords : ∀ record ∈ records, ∀ other ∈ state.retirements,
        other.drainCommandId ≠ record.drainCommandId)
      (hsingle : entries.length ≤ 1) (hsingleRecord : records.length ≤ 1) :
      ControlChange D state call ⟨state.controlRevision + 1, state.commandOutbox ++ entries,
        state.retirements ++ records⟩
  | moved (i : Nat) (entry : CommandOutboxRecord) (change : CommandOutboxRecord → CommandOutboxRecord)
      (hentry : state.commandOutbox[i]? = some entry) (hleads : entry.LeadsTo (change entry)) :
      ControlChange D state call ⟨state.controlRevision + 1, state.commandOutbox.modify i change,
        state.retirements⟩
  | retired (i : Nat) (record : RetiringExecutionRecord)
      (change : RetiringExecutionRecord → RetiringExecutionRecord)
      (hrecord : state.retirements[i]? = some record) (hopen : record.retired = false)
      (hstep : RetirementStep D call record (change record)) :
      ControlChange D state call ⟨state.controlRevision + 1, state.commandOutbox,
        state.retirements.modify i change⟩

theorem OutboxDeliveryState.LeadsTo.refl (source : OutboxDeliveryState) : source.LeadsTo source := .inl rfl

theorem OutboxDeliveryState.LeadsTo.trans {first second third : OutboxDeliveryState} (h : first.LeadsTo second)
    (h' : second.LeadsTo third) : first.LeadsTo third := by
  rcases h with rfl | ⟨rfl, rfl⟩ | ⟨rfl, rfl⟩ | ⟨rfl, rfl⟩
  · exact h'
  · rcases h' with rfl | ⟨hpending, -⟩ | ⟨hpending, -⟩ | ⟨-, rfl⟩
    · exact .inr (.inl ⟨rfl, rfl⟩)
    · cases hpending
    · cases hpending
    · exact .inr (.inr (.inl ⟨rfl, rfl⟩))
  · rcases h' with rfl | ⟨hpending, -⟩ | ⟨hpending, -⟩ | ⟨hsent, -⟩
    · exact .inr (.inr (.inl ⟨rfl, rfl⟩))
    · cases hpending
    · cases hpending
    · cases hsent
  · rcases h' with rfl | ⟨hpending, -⟩ | ⟨hpending, -⟩ | ⟨hsent, -⟩
    · exact .inr (.inr (.inr ⟨rfl, rfl⟩))
    · cases hpending
    · cases hpending
    · cases hsent

theorem CommandOutboxRecord.LeadsTo.refl (entry : CommandOutboxRecord) : entry.LeadsTo entry :=
  ⟨rfl, rfl, .refl _⟩

theorem CommandOutboxRecord.LeadsTo.trans {first second third : CommandOutboxRecord} (h : first.LeadsTo second)
    (h' : second.LeadsTo third) : first.LeadsTo third :=
  ⟨h'.commandId.trans h.commandId, h'.command.trans h.command, h.deliveryState.trans h'.deliveryState⟩

/-! ## The mutators -/

theorem checkControlRevision_eq_ok {expected : Nat} (h : checkControlRevision state expected = .ok ()) :
    state.controlRevision = expected := by
  unfold checkControlRevision at h
  exact beq_iff_eq.mp (require_eq_ok.mp h)

theorem positionOf_some {α : Type} {p : α → Bool} {l : List α} {position : Nat} {a : α}
    (h : ControlM.positionOf p l = some (position, a)) : l[position]? = some a ∧ p a = true ∧ l.find? p = some a := by
  induction l generalizing position with
  | nil => cases h
  | cons b l ih =>
    unfold ControlM.positionOf at h
    split at h
    · rename_i hb
      obtain ⟨rfl, rfl⟩ := Prod.mk.inj (Option.some.inj h)
      exact ⟨rfl, hb, List.find?_cons_of_pos hb⟩
    · rename_i hb
      obtain ⟨⟨i, c⟩, hfound, heq⟩ := Option.map_eq_some_iff.mp h
      obtain ⟨rfl, rfl⟩ := Prod.mk.inj heq
      obtain ⟨hget, hp, hfind⟩ := ih hfound
      exact ⟨hget, hp, by rw [List.find?_cons_of_neg hb]; exact hfind⟩

theorem positionOf_none {α : Type} {p : α → Bool} {l : List α} (h : ControlM.positionOf p l = none) :
    l.find? p = none := by
  induction l with
  | nil => rfl
  | cons b l ih =>
    unfold ControlM.positionOf at h
    split at h
    · cases h
    · rename_i hb
      rw [List.find?_cons_of_neg hb]
      exact ih (Option.map_eq_none_iff.mp h)

/-- The change of the first entry of a command is a change at its position. -/
theorem updateEntry_eq_modify {commandId : String} {l : List CommandOutboxRecord} {position : Nat}
    {entry : CommandOutboxRecord} (change : CommandOutboxRecord → CommandOutboxRecord)
    (h : ControlM.positionOf (fun entry => entry.commandId == commandId) l = some (position, entry)) :
    updateEntry commandId change l = l.modify position change := by
  induction l generalizing position with
  | nil => cases h
  | cons first l ih =>
    unfold ControlM.positionOf at h
    unfold updateEntry
    split at h
    · rename_i hfirst
      obtain ⟨rfl, -⟩ := Prod.mk.inj (Option.some.inj h)
      rw [if_pos (beq_iff_eq.mp hfirst)]
      rfl
    · rename_i hfirst
      obtain ⟨⟨i, found⟩, hfound, heq⟩ := Option.map_eq_some_iff.mp h
      obtain ⟨rfl, rfl⟩ := Prod.mk.inj heq
      rw [if_neg (by simpa using hfirst), ih hfound]
      rfl

namespace ControlM

theorem checkHead_commits {α : Type} {expected : Nat} {f : Unit → ControlM α}
    {R : α → WasmCommandControlState → Prop} (h : state.controlRevision = expected → Commits state (f ()) R) :
    Commits state (checkHead expected >>= f) R :=
  Commits.bind rfl fun _ hchecked => h (checkControlRevision_eq_ok hchecked)

theorem not_any_beq {α : Type} {f : α → String} {l : List α} {id : String}
    (h : (!l.any fun entry => f entry == id) = true) : ∀ entry ∈ l, f entry ≠ id := by
  intro entry hentry hid
  rw [Bool.not_eq_true', List.any_eq_false] at h
  exact h entry hentry (by simpa using hid)

/-- An answer that the program's change goes with. -/
def Answers (D : DrainReceiptRules) (state : WasmCommandControlState) (call : ControlCall) (answer : ControlAnswer)
    (state' : WasmCommandControlState) : Prop :=
  if idempotentAnswer state call answer then state' = state else ControlChange D state call state'

theorem authorizeCommand_commits (expected : Nat) (command : ExecutionCommand) (createdAt : String) :
    Commits state ((ControlCall.authorizeCommand expected command createdAt).program D)
      (Answers D state (.authorizeCommand expected command createdAt)) := by
  refine Commits.map ?_
  unfold authorizeCommand
  refine checkHead_commits fun hhead => Commits.lift_bind fun _ _ => Commits.lift_bind fun _ _ =>
    Commits.lift_bind fun _ _ => Commits.read_bind (Commits.lift_bind fun _ hnew => ?_)
  refine Commits.intro rfl ?_
  have hfresh := not_any_beq (require_eq_ok.mp hnew)
  subst hhead
  have hchange : ControlChange D state (.authorizeCommand state.controlRevision command createdAt)
      ⟨state.controlRevision + 1, state.commandOutbox ++ [pendingEntry command createdAt], state.retirements ++ []⟩ :=
    .added _ _ (by simp [pendingEntry]) (by simp) (by simpa [pendingEntry] using hfresh) (by simp) (by simp) (by simp)
  rw [List.append_nil] at hchange
  exact hchange

/-- A record that is authorized has not been retired. -/
theorem checkRetiringRecord_open {record : RetiringExecutionRecord} (h : checkRetiringRecord record = .ok ()) :
    record.retired = false := by
  simp only [checkRetiringRecord, bind_eq_ok, require_eq_ok, Bool.not_eq_true', Bool.or_eq_false_iff] at h
  obtain ⟨_, -, _, -, _, -, _, -, _, -, _, -, hopen, -⟩ := h
  exact hopen

theorem authorizeDrainWithRetirement_commits (expected : Nat) (command : ExecutionCommand) (createdAt : String)
    (record : RetiringExecutionRecord) :
    Commits state ((ControlCall.authorizeDrainWithRetirement expected command createdAt record).program D)
      (Answers D state (.authorizeDrainWithRetirement expected command createdAt record)) := by
  refine Commits.map ?_
  unfold authorizeDrainWithRetirement
  refine checkHead_commits fun hhead => Commits.lift_bind fun _ _ => Commits.lift_bind fun _ _ =>
    Commits.lift_bind fun _ _ => Commits.lift_bind fun _ _ => Commits.lift_bind fun _ _ =>
    Commits.lift_bind fun _ _ => Commits.lift_bind fun _ hchecked =>
    Commits.read_bind (Commits.lift_bind fun _ hnew => ?_)
  refine Commits.intro rfl ?_
  obtain ⟨hfresh, hfreshRecord⟩ := Bool.and_eq_true_iff.mp (require_eq_ok.mp hnew)
  have hopen := checkRetiringRecord_open hchecked
  subst hhead
  exact ControlChange.added [pendingEntry command createdAt] [record] (by simp [pendingEntry])
    (by simpa using hopen) (by simpa [pendingEntry] using not_any_beq hfresh)
    (by simpa using not_any_beq hfreshRecord) (by simp) (by simp)

theorem authorizeRetirement_commits (expected : Nat) (record : RetiringExecutionRecord) :
    Commits state ((ControlCall.authorizeRetirement expected record).program D)
      (Answers D state (.authorizeRetirement expected record)) := by
  refine Commits.map ?_
  unfold authorizeRetirement
  refine checkHead_commits fun hhead => Commits.lift_bind fun _ _ => Commits.lift_bind fun _ _ =>
    Commits.lift_bind fun _ hchecked => Commits.read_bind (Commits.lift_bind fun _ hnew => ?_)
  refine Commits.intro rfl ?_
  have hopen := checkRetiringRecord_open hchecked
  have hfresh := not_any_beq (require_eq_ok.mp hnew)
  subst hhead
  have hchange : ControlChange D state (.authorizeRetirement state.controlRevision record)
      ⟨state.controlRevision + 1, state.commandOutbox ++ [], state.retirements ++ [record]⟩ :=
    .added _ _ (by simp) (by simpa using hopen) (by simp) (by simpa using hfresh) (by simp) (by simp)
  rw [List.append_nil] at hchange
  exact hchange

theorem projectAcknowledgement_commits (expected : Nat) (ack : ExecutionAcknowledgement) :
    Commits state ((ControlCall.projectAcknowledgement expected ack).program D)
      (Answers D state (.projectAcknowledgement expected ack)) := by
  refine Commits.map ?_
  unfold projectAcknowledgement
  refine checkHead_commits fun hhead => Commits.lift_bind fun _ _ => Commits.read_bind ?_
  subst hhead
  split
  · exact Commits.fail _
  · rename_i position entry hposition
    obtain ⟨hentry, -, -⟩ := positionOf_some hposition
    -- an entry that is still open is acknowledged
    have hopen : ∀ hstate : entry.deliveryState = .pending ∨ entry.deliveryState = .sent,
        ControlChange D state (.projectAcknowledgement state.controlRevision ack)
          ⟨state.controlRevision + 1, state.commandOutbox.modify position fun entry =>
            { entry with deliveryState := .acknowledged }, state.retirements⟩ := by
      intro hstate
      refine .moved position entry _ hentry ⟨rfl, rfl, ?_⟩
      rcases hstate with hpending | hsent
      · exact .inr (.inr (.inl ⟨hpending, rfl⟩))
      · exact .inr (.inr (.inr ⟨hsent, rfl⟩))
    refine Commits.lift_bind fun _ _ => ?_
    split
    · exact Commits.fail _
    · exact Commits.pure rfl
    · refine Commits.lift_bind fun _ _ => Commits.lift_bind fun _ _ => Commits.intro rfl ?_
      exact hopen (.inl ‹_›)
    · refine Commits.lift_bind fun _ _ => Commits.lift_bind fun _ _ => Commits.intro rfl ?_
      exact hopen (.inr ‹_›)

theorem recordDeliveryAttempt_commits (expected : Nat) (commandId attemptedAt : String) :
    Commits state ((ControlCall.recordDeliveryAttempt expected commandId attemptedAt).program D)
      (Answers D state (.recordDeliveryAttempt expected commandId attemptedAt)) := by
  refine Commits.map ?_
  unfold recordDeliveryAttempt
  refine checkHead_commits fun hhead => Commits.read_bind ?_
  subst hhead
  split
  · exact Commits.fail _
  · rename_i position entry hposition
    obtain ⟨hentry, -, hfind⟩ := positionOf_some hposition
    have hidempotent : idempotentAnswer state (.recordDeliveryAttempt state.controlRevision commandId attemptedAt)
        .done = (entry.deliveryState == .acknowledged) := by
      unfold idempotentAnswer
      dsimp only
      rw [hfind]
      rfl
    -- an entry that is still open is sent
    have hopen : ∀ hstate : entry.deliveryState = .pending ∨ entry.deliveryState = .sent,
        ControlChange D state (.recordDeliveryAttempt state.controlRevision commandId attemptedAt)
          ⟨state.controlRevision + 1, state.commandOutbox.modify position fun entry =>
            { entry with deliveryState := .sent, attempts := entry.attempts + 1, lastAttemptAt := some attemptedAt },
            state.retirements⟩ := by
      intro hstate
      refine .moved position entry _ hentry ⟨rfl, rfl, ?_⟩
      rcases hstate with hpending | hsent
      · exact .inr (.inl ⟨hpending, rfl⟩)
      · exact .inl hsent
    have hanswers : ∀ hstate : entry.deliveryState = .pending ∨ entry.deliveryState = .sent,
        Answers D state (.recordDeliveryAttempt state.controlRevision commandId attemptedAt) .done
          ⟨state.controlRevision + 1,
            ((state.commandOutbox.modify position fun entry => { entry with deliveryState := .sent }).modify position
              fun entry => { entry with attempts := entry.attempts + 1 }).modify position
                fun entry => { entry with lastAttemptAt := some attemptedAt }, state.retirements⟩ := by
      intro hstate
      unfold Answers
      rw [hidempotent, List.modify_modify_eq, List.modify_modify_eq, if_neg]
      · exact hopen hstate
      · rcases hstate with hpending | hsent
        · simp [hpending]
        · simp [hsent]
    refine Commits.lift_bind fun _ _ => ?_
    split
    · exact Commits.fail _
    · rename_i hacknowledged
      refine Commits.pure ?_
      unfold Answers
      rw [hidempotent, hacknowledged]
      rfl
    · exact Commits.lift_bind fun _ _ => Commits.intro rfl (hanswers (.inl ‹_›))
    · exact Commits.lift_bind fun _ _ => Commits.intro rfl (hanswers (.inr ‹_›))

/-- A receipt that passes the checks is the one of its record. -/
theorem retires_of_checks {receipt : DrainReceiptV1} {record : RetiringExecutionRecord}
    (hvalid : validateDrainReceipt D receipt = .ok ()) (hchecked : checkRetiringReceipt record receipt = .ok ())
    (hcommand : receipt.commandId = record.drainCommandId) : receipt.Retires D record := by
  simp only [checkRetiringReceipt, bind_eq_ok, require_eq_ok, Bool.and_eq_true, beq_iff_eq] at hchecked
  obtain ⟨_, ⟨hexecution, hbinding⟩, _, hroute, _, ⟨-, hpackage⟩, deadline, hdeadline, _, hsame, -⟩ := hchecked
  have hdigest : receipt.receiptDigest = drainReceiptDigestV1 D receipt := by
    simp only [validateDrainReceipt, bind_eq_ok, require_eq_ok, beq_iff_eq] at hvalid
    obtain ⟨_, -, _, -, _, -, _, -, _, -, _, -, _, -, _, -, _, -, _, -, _, -, _, -, _, -, hdigest⟩ := hvalid
    exact hdigest
  rw [hsame] at hdeadline
  exact ⟨hdigest, hcommand, hexecution, hpackage, hbinding, hroute, hdeadline⟩

theorem projectDrainReceipt_commits (expected : Nat) (receipt : DrainReceiptV1) :
    Commits state ((ControlCall.projectDrainReceipt expected receipt).program D)
      (Answers D state (.projectDrainReceipt expected receipt)) := by
  refine Commits.map ?_
  unfold projectDrainReceipt
  refine checkHead_commits fun hhead => Commits.lift_bind fun _ hvalid => Commits.read_bind ?_
  subst hhead
  dsimp only [id]
  split
  · exact Commits.fail _
  · rename_i position record hposition
    obtain ⟨hrecord, hid, -⟩ := positionOf_some hposition
    split
    · exact Commits.fail _
    · refine Commits.lift_bind fun _ _ => Commits.lift_bind fun _ hchecked => ?_
      have hretires := retires_of_checks hvalid hchecked (beq_iff_eq.mp hid).symm
      split
      · split
        · exact Commits.pure rfl
        · exact Commits.fail _
      · rename_i hopen
        refine Commits.lift_bind fun _ _ => Commits.intro rfl ?_
        show ControlChange D state _ ⟨state.controlRevision + 1, state.commandOutbox,
          (state.retirements.modify position fun record => { record with retired := true }).modify position
            fun record => { record with acceptedReceiptDigest := some receipt.receiptDigest }⟩
        rw [List.modify_modify_eq]
        have hunretired : record.retired = false := by simpa using hopen
        exact .retired position record _ hrecord hunretired (.inr ⟨hunretired, _, receipt, rfl, hretires, rfl⟩)

theorem program_commits (state : WasmCommandControlState) (call : ControlCall) :
    Commits state (call.program D) (Answers D state call) := by
  cases call with
  | authorizeCommand expected command createdAt => exact authorizeCommand_commits expected command createdAt
  | authorizeDrainWithRetirement expected command createdAt record =>
    exact authorizeDrainWithRetirement_commits expected command createdAt record
  | authorizeRetirement expected record => exact authorizeRetirement_commits expected record
  | projectAcknowledgement expected ack => exact projectAcknowledgement_commits expected ack
  | recordDeliveryAttempt expected commandId attemptedAt =>
    exact recordDeliveryAttempt_commits expected commandId attemptedAt
  | projectDrainReceipt expected receipt => exact projectDrainReceipt_commits expected receipt

end ControlM

/-! ## One step -/

/-- A change of one element keeps what it keeps of that element. -/
theorem map_modify_eq {α β : Type} {f : α → β} {change : α → α} {l : List α} {i : Nat} {a : α}
    (ha : l[i]? = some a) (hsame : f (change a) = f a) : (l.modify i change).map f = l.map f := by
  refine List.ext_getElem? fun j => ?_
  rw [List.getElem?_map, List.getElem?_map, List.getElem?_modify]
  by_cases hij : i = j
  · subst hij
    simp [ha, hsame]
  · simp [hij]

namespace ControlChange

theorem entries {i : Nat} {entry : CommandOutboxRecord} (h : ControlChange D state call state')
    (hentry : state.commandOutbox[i]? = some entry) :
    ∃ entry', state'.commandOutbox[i]? = some entry' ∧ entry.LeadsTo entry' := by
  cases h with
  | added entries records =>
    refine ⟨entry, ?_, .refl entry⟩
    dsimp only
    rw [List.getElem?_append_left (List.getElem?_eq_some_iff.mp hentry).1]
    exact hentry
  | moved j found change hfound hleads =>
    dsimp only
    rw [List.getElem?_modify, hentry]
    by_cases hij : j = i
    · subst hij
      rw [hentry] at hfound
      cases hfound
      exact ⟨change entry, by simp, hleads⟩
    · exact ⟨entry, by simp [hij], .refl entry⟩
  | retired => exact ⟨entry, hentry, .refl entry⟩

theorem retirements {i : Nat} {record : RetiringExecutionRecord} (h : ControlChange D state call state')
    (hrecord : state.retirements[i]? = some record) :
    ∃ record', state'.retirements[i]? = some record' ∧ RetirementStep D call record record' := by
  cases h with
  | added entries records =>
    refine ⟨record, ?_, .inl rfl⟩
    dsimp only
    rw [List.getElem?_append_left (List.getElem?_eq_some_iff.mp hrecord).1]
    exact hrecord
  | moved => exact ⟨record, hrecord, .inl rfl⟩
  | retired j found change hfound hopen hstep =>
    dsimp only
    rw [List.getElem?_modify, hrecord]
    by_cases hij : j = i
    · subst hij
      rw [hrecord] at hfound
      cases hfound
      exact ⟨change record, by simp, hstep⟩
    · exact ⟨record, by simp [hij], .inl rfl⟩

theorem newEntries {i : Nat} {entry : CommandOutboxRecord} (h : ControlChange D state call state')
    (hnew : state.commandOutbox.length ≤ i) (hentry : state'.commandOutbox[i]? = some entry) :
    entry.deliveryState = .pending := by
  cases h with
  | added entries records hpending =>
    dsimp only at hentry
    rw [List.getElem?_append_right hnew] at hentry
    exact hpending entry (List.mem_of_getElem? hentry)
  | moved =>
    have hlt := (List.getElem?_eq_some_iff.mp hentry).1
    rw [List.length_modify] at hlt
    omega
  | retired =>
    have hlt := (List.getElem?_eq_some_iff.mp hentry).1
    dsimp only at hlt
    omega

theorem newRetirements {i : Nat} {record : RetiringExecutionRecord} (h : ControlChange D state call state')
    (hnew : state.retirements.length ≤ i) (hrecord : state'.retirements[i]? = some record) :
    record.retired = false := by
  cases h with
  | added entries records _ hunretired =>
    dsimp only at hrecord
    rw [List.getElem?_append_right hnew] at hrecord
    exact hunretired record (List.mem_of_getElem? hrecord)
  | moved =>
    have hlt := (List.getElem?_eq_some_iff.mp hrecord).1
    dsimp only at hlt
    omega
  | retired =>
    have hlt := (List.getElem?_eq_some_iff.mp hrecord).1
    rw [List.length_modify] at hlt
    omega

theorem revision (h : ControlChange D state call state') : state'.controlRevision = state.controlRevision + 1 := by
  cases h with
  | added => rfl
  | moved => rfl
  | retired => rfl

theorem distinct (h : ControlChange D state call state') (hdistinct : state.Distinct) : state'.Distinct := by
  have hsingle : ∀ {α : Type} {f : α → String} {l : List α}, l.length ≤ 1 → (l.map f).Nodup := by
    intro α f l hl
    match l, hl with
    | [], _ => exact .nil
    | [a], _ => exact List.pairwise_singleton _ _
  cases h with
  | added entries records _ _ hfresh hfreshRecords hentries hrecords =>
    constructor
    · dsimp only
      rw [List.map_append]
      refine List.nodup_append.mpr ⟨hdistinct.outbox, hsingle hentries, ?_⟩
      intro id hid id' hid'
      obtain ⟨other, hother, rfl⟩ := List.mem_map.mp hid
      obtain ⟨entry, hentry, rfl⟩ := List.mem_map.mp hid'
      exact hfresh entry hentry other hother
    · dsimp only
      rw [List.map_append]
      refine List.nodup_append.mpr ⟨hdistinct.retirements, hsingle hrecords, ?_⟩
      intro id hid id' hid'
      obtain ⟨other, hother, rfl⟩ := List.mem_map.mp hid
      obtain ⟨record, hrecord, rfl⟩ := List.mem_map.mp hid'
      exact hfreshRecords record hrecord other hother
  | moved i entry change hentry hleads =>
    refine ⟨?_, hdistinct.retirements⟩
    dsimp only
    rw [map_modify_eq hentry hleads.commandId]
    exact hdistinct.outbox
  | retired i record change hrecord hopen hstep =>
    refine ⟨hdistinct.outbox, ?_⟩
    have hsame : (change record).drainCommandId = record.drainCommandId := by
      rcases hstep with hkept | ⟨-, expected, receipt, -, -, hretired⟩
      · rw [hkept]
      · rw [hretired]
    dsimp only
    rw [map_modify_eq hrecord hsame]
    exact hdistinct.retirements

end ControlChange

/-- A call leaves the state as it was or makes one change. -/
theorem step_cases (state : WasmCommandControlState) (call : ControlCall) :
    state.step D call = state ∨ ControlChange D state call (state.step D call) := by
  have hcommits := ControlM.program_commits (D := D) state call
  unfold WasmCommandControlState.step
  rcases hresult : (call.program D state).result with failure | answer
  · exact .inl (hcommits.of_error hresult)
  · have hanswers := hcommits.of_ok hresult
    unfold ControlM.Answers at hanswers
    split at hanswers
    · exact .inl hanswers
    · exact .inr hanswers

theorem controlStep (state : WasmCommandControlState) (call : ControlCall) : ControlStep D state call := by
  have hcommits := ControlM.program_commits (D := D) state call
  constructor
  · intro failure hresult
    exact hcommits.of_error hresult
  · intro answer hresult
    have hanswers := hcommits.of_ok hresult
    unfold ControlM.Answers at hanswers
    split at hanswers
    · rw [if_pos ‹_›]
      exact hanswers
    · rw [if_neg ‹_›]
      exact hanswers.revision
  · intro i entry hentry
    rcases step_cases (D := D) state call with hsame | hchange
    · rw [hsame]
      exact ⟨entry, hentry, .refl entry⟩
    · exact hchange.entries hentry
  · intro i record hrecord
    rcases step_cases (D := D) state call with hsame | hchange
    · rw [hsame]
      exact ⟨record, hrecord, .inl rfl⟩
    · exact hchange.retirements hrecord
  · intro i entry hnew hentry
    rcases step_cases (D := D) state call with hsame | hchange
    · rw [hsame] at hentry
      have hlt := (List.getElem?_eq_some_iff.mp hentry).1
      omega
    · exact hchange.newEntries hnew hentry
  · intro i record hnew hrecord
    rcases step_cases (D := D) state call with hsame | hchange
    · rw [hsame] at hrecord
      have hlt := (List.getElem?_eq_some_iff.mp hrecord).1
      omega
    · exact hchange.newRetirements hnew hrecord

/-! ## Runs -/

namespace WasmCommandControlState

theorem Distinct.step (h : state.Distinct) (call : ControlCall) : (state.step D call).Distinct := by
  rcases step_cases (D := D) state call with hsame | hchange
  · rw [hsame]
    exact h
  · exact hchange.distinct h

theorem LeadsTo.refl (state : WasmCommandControlState) : state.LeadsTo state :=
  ⟨Nat.le_refl _, fun _ entry hentry => ⟨entry, hentry, .refl entry⟩, fun _ _ hrecord _ => hrecord⟩

theorem LeadsTo.trans {first second third : WasmCommandControlState} (h : first.LeadsTo second)
    (h' : second.LeadsTo third) : first.LeadsTo third := by
  refine ⟨Nat.le_trans h.revision h'.revision, fun i entry hentry => ?_, fun i record hrecord hretired => ?_⟩
  · obtain ⟨entry', hentry', hleads⟩ := h.entries i entry hentry
    obtain ⟨entry'', hentry'', hleads'⟩ := h'.entries i entry' hentry'
    exact ⟨entry'', hentry'', hleads.trans hleads'⟩
  · exact h'.retired i record (h.retired i record hrecord hretired) hretired

theorem leadsTo_step (state : WasmCommandControlState) (call : ControlCall) : state.LeadsTo (state.step D call) := by
  rcases step_cases (D := D) state call with hsame | hchange
  · rw [hsame]
    exact .refl state
  · refine ⟨?_, fun _ _ hentry => hchange.entries hentry, fun i record hrecord hretired => ?_⟩
    · rw [hchange.revision]
      omega
    · obtain ⟨record', hrecord', hkept | ⟨hopen, -⟩⟩ := hchange.retirements hrecord
      · rw [hrecord', hkept]
      · rw [hretired] at hopen
        cases hopen

theorem leadsTo_run (calls : List ControlCall) (state : WasmCommandControlState) :
    state.LeadsTo (run (WasmCommandControlState.step D) state calls) := by
  induction calls generalizing state with
  | nil => exact .refl state
  | cons call calls ih => exact (leadsTo_step state call).trans (ih (state.step D call))

end WasmCommandControlState

theorem WasmCommandControlState.distinct_initial : WasmCommandControlState.initial.Distinct := ⟨.nil, .nil⟩

theorem checkHead_run (expected : Nat) :
    ControlM.checkHead expected state = ⟨[], state, checkControlRevision state expected⟩ := rfl

theorem except_map_bind {α β γ : Type} (f : β → γ) (x : Except KernelError α) (k : α → Except KernelError β) :
    (x >>= k).map f = x >>= fun a => (k a).map f := by
  cases x with
  | ok a => rfl
  | error e => rfl

/-- The functions over the control state are the outcomes of their mutators. -/
theorem authorizeCommand_outcome (expected : Nat) (command : ExecutionCommand) (createdAt : String) :
    state.authorizeCommand expected command createdAt =
      ((ControlM.authorizeCommand expected command createdAt).outcome state).map Prod.snd := by
  unfold WasmCommandControlState.authorizeCommand ControlM.authorizeCommand
  rw [Prog.outcome_bind (checkHead_run expected)]
  simp only [Prog.outcome_lift_bind, Prog.outcome_read_bind, except_map_bind]
  rfl

theorem authorizeDrainWithRetirement_outcome (expected : Nat) (command : ExecutionCommand) (createdAt : String)
    (record : RetiringExecutionRecord) :
    state.authorizeDrainWithRetirement expected command createdAt record =
      ((ControlM.authorizeDrainWithRetirement expected command createdAt record).outcome state).map Prod.snd := by
  unfold WasmCommandControlState.authorizeDrainWithRetirement ControlM.authorizeDrainWithRetirement
  rw [Prog.outcome_bind (checkHead_run expected)]
  simp only [Prog.outcome_lift_bind, Prog.outcome_read_bind, except_map_bind, ControlM.checkRetiringRecord, bind_assoc]
  rfl

/-- The assignments of a delivery attempt, one after the other. -/
theorem attempt_outcome (expected position : Nat) (attemptedAt : String) :
    (Prog.outcome (do
        ControlM.changeEntry position fun entry => { entry with deliveryState := .sent }
        ControlM.changeEntry position fun entry => { entry with attempts := entry.attempts + 1 }
        ControlM.changeEntry position fun entry => { entry with lastAttemptAt := some attemptedAt }
        ControlM.raiseRevision expected) state).map Prod.snd =
      .ok { state with
        commandOutbox := state.commandOutbox.modify position fun entry => { entry with
          deliveryState := .sent
          attempts := entry.attempts + 1
          lastAttemptAt := some attemptedAt }
        controlRevision := expected + 1 } := by
  show (Except.ok (⟨expected + 1,
    ((state.commandOutbox.modify position fun entry => { entry with deliveryState := .sent }).modify position
      fun entry => { entry with attempts := entry.attempts + 1 }).modify position
        fun entry => { entry with lastAttemptAt := some attemptedAt }, state.retirements⟩ :
          WasmCommandControlState) : Except KernelError WasmCommandControlState) = _
  rw [List.modify_modify_eq, List.modify_modify_eq]
  rfl

theorem recordDeliveryAttempt_outcome (expected : Nat) (commandId attemptedAt : String) :
    state.recordDeliveryAttempt expected commandId attemptedAt =
      ((ControlM.recordDeliveryAttempt expected commandId attemptedAt).outcome state).map Prod.snd := by
  unfold WasmCommandControlState.recordDeliveryAttempt ControlM.recordDeliveryAttempt
  rw [Prog.outcome_bind (checkHead_run expected)]
  simp only [Prog.outcome_read_bind, except_map_bind]
  rcases hposition : ControlM.positionOf (fun entry => entry.commandId == commandId) state.commandOutbox with
    _ | ⟨position, entry⟩
  · simp only [positionOf_none hposition, hposition]
    rfl
  · simp only [(positionOf_some hposition).2.2, updateEntry_eq_modify _ hposition, hposition, Prog.outcome_lift_bind,
      except_map_bind]
    cases hstate : entry.deliveryState with
    | dead => rfl
    | acknowledged => rfl
    | pending =>
      simp only [Prog.outcome_lift_bind, except_map_bind, attempt_outcome]
      rfl
    | sent =>
      simp only [Prog.outcome_lift_bind, except_map_bind, attempt_outcome]
      rfl

theorem projectAcknowledgement_outcome (expected : Nat) (ack : ExecutionAcknowledgement) :
    state.projectAcknowledgement expected ack =
      ((ControlM.projectAcknowledgement expected ack).outcome state).map Prod.swap := by
  unfold WasmCommandControlState.projectAcknowledgement ControlM.projectAcknowledgement
  rw [Prog.outcome_bind (checkHead_run expected)]
  simp only [Prog.outcome_lift_bind, Prog.outcome_read_bind, except_map_bind]
  rcases hposition : ControlM.positionOf (fun entry => entry.commandId == ack.commandId) state.commandOutbox with
    _ | ⟨position, entry⟩
  · simp only [positionOf_none hposition, hposition]
    rfl
  · simp only [(positionOf_some hposition).2.2, updateEntry_eq_modify _ hposition, hposition, Prog.outcome_lift_bind,
      except_map_bind]
    cases hstate : entry.deliveryState with
    | dead => rfl
    | acknowledged => rfl
    | pending =>
      simp only [Prog.outcome_lift_bind, except_map_bind]
      rfl
    | sent =>
      simp only [Prog.outcome_lift_bind, except_map_bind]
      rfl

end Iweb
