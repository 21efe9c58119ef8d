import Iweb.Activation.RpcHistory
import Iweb.Activation.Vectors
import Iweb.Activation.Proofs.StoreProofs

/-!
# An activation id keeps its answer

`IdLaws` is the invariant of the ledger under steps that keep ids apart: a recorded command is valid, is
recorded in its own application under its own id, and no id is recorded twice. One submitted command is
one transaction on the ledger; its answer is recorded, and recorded answers stay.
-/

namespace Iweb

open Std (ExtTreeMap)
open CrashRefinement

variable (D : Digests)

/-! ## Ids in the ledger -/

/-- Every recorded command is valid and recorded once, in its own application under its own id. -/
structure IdLaws (ledger : ActivationLedger) : Prop where
  recorded : ∀ (applicationId id : String) (recorded : RecordedActivation),
    (ledger.state applicationId).activationRecords[id]? = some recorded →
      recorded.command.validate D = .ok () ∧ recorded.command.applicationId = applicationId ∧
        recorded.command.activationId = id
  unique : ∀ (applicationId applicationId' id : String) (recorded recorded' : RecordedActivation),
    (ledger.state applicationId).activationRecords[id]? = some recorded →
    (ledger.state applicationId').activationRecords[id]? = some recorded' →
      applicationId = applicationId'

theorem IdLaws.empty : IdLaws D .empty where
  recorded _ _ _ h := by simp [ActivationLedger.empty, KernelActivationState.fresh] at h
  unique _ _ _ _ _ h := by simp [ActivationLedger.empty, KernelActivationState.fresh] at h

/-- The records after one more answer. -/
theorem ActivationLedger.record_records {ledger : ActivationLedger} {command : ActivationCommand}
    {state : KernelActivationState} {event : RouteEvent}
    (happ : state.applicationId = command.applicationId)
    (hrecords : state.activationRecords = (ledger.state command.applicationId).activationRecords.insert
      command.activationId ⟨command, event⟩) (applicationId id : String) :
    ((ledger.record state).state applicationId).activationRecords[id]? =
      if applicationId = command.applicationId ∧ id = command.activationId then some ⟨command, event⟩
      else (ledger.state applicationId).activationRecords[id]? := by
  simp only [ActivationLedger.record, happ]
  by_cases hsame : applicationId = command.applicationId
  · subst hsame
    simp [hrecords, FiniteMap.getElem?_insert]
  · simp [hsame]

/-- A new answer under an id that no other application has recorded keeps the laws. -/
theorem IdLaws.record {ledger : ActivationLedger} (h : IdLaws D ledger) {command : ActivationCommand}
    {state : KernelActivationState} {event : RouteEvent} (hvalid : command.validate D = .ok ())
    (happ : state.applicationId = command.applicationId)
    (hrecords : state.activationRecords = (ledger.state command.applicationId).activationRecords.insert
      command.activationId ⟨command, event⟩)
    (hown : ∀ applicationId,
      (ledger.state applicationId).activationRecords[command.activationId]? ≠ none →
        applicationId = command.applicationId) : IdLaws D (ledger.record state) where
  recorded applicationId id recorded hrec := by
    rw [ActivationLedger.record_records happ hrecords] at hrec
    split at hrec
    · rename_i hsame
      obtain rfl := Option.some.inj hrec
      exact ⟨hvalid, hsame.1.symm, hsame.2.symm⟩
    · exact h.recorded applicationId id recorded hrec
  unique applicationId applicationId' id recorded recorded' hrec hrec' := by
    rw [ActivationLedger.record_records happ hrecords] at hrec hrec'
    split at hrec <;> split at hrec'
    · rename_i hsame hsame'
      exact hsame.1.trans hsame'.1.symm
    · rename_i hsame _
      have := hown applicationId' (by rw [← hsame.2, hrec']; simp)
      exact hsame.1.trans this.symm
    · rename_i _ hsame'
      have := hown applicationId (by rw [← hsame'.2, hrec]; simp)
      exact this.trans hsame'.1.symm
    · exact h.unique applicationId applicationId' id recorded recorded' hrec hrec'

/-! ## One submitted command -/

/-- The transaction of a submitted command on the state of its application. -/
def submittedOutcome (before : KernelActivationState) (revision : Nat) (command : ActivationCommand)
    (deps : ActivationDeps) : Outcome RouteEvent :=
  match deps.leaseLookup command.candidate.leaseNonce with
  | some lease => applyActivation D before command lease
      { deps.facts command.applicationId with controlRevision := revision + 1 } deps.eventId none
  | none => applyActivationWithoutLease D before command deps.nowEpochMillis (revision + 1) deps.eventId

/-- The nonce of a submitted command is spent. -/
def SubmittedSpent (before : KernelActivationState) (command : ActivationCommand)
    (deps : ActivationDeps) : Prop :=
  ∃ lease, deps.leaseLookup command.candidate.leaseNonce = some lease ∧
    NonceSpent D before command lease (deps.facts command.applicationId)

/-- The reason for a repeated answer may be weakened. -/
theorem TransactionEffect.mono {before : KernelActivationState} {command : ActivationCommand}
    {revision : Nat} {spent spent' : Prop} (himp : spent → spent') {outcome : Outcome RouteEvent}
    (h : TransactionEffect D before command revision spent outcome) :
    TransactionEffect D before command revision spent' outcome := by
  cases h with
  | failed state e => exact .failed state e
  | repeated event reason => exact .repeated event (reason.imp_right fun r => ⟨r.1, himp r.2⟩)
  | appended state event valid settled application new records events owner stamp =>
    exact .appended state event valid settled application new records events owner stamp

/-- The stamp of the facts plays no part in whether a nonce is spent. -/
theorem NonceSpent.restamp {state : KernelActivationState} {command : ActivationCommand}
    {lease : ServiceReadinessLeaseV2} {facts : ActivationCasFacts} {revision : Nat}
    (h : NonceSpent D state command lease { facts with controlRevision := revision }) :
    NonceSpent D state command lease facts :=
  { command_valid := h.command_valid, application := h.application, generation := h.generation,
    candidate_ready := h.candidate_ready, alive := h.alive, secret := h.secret,
    preparation := h.preparation, not_revoked := h.not_revoked, lease_valid := h.lease_valid,
    spent := h.spent }

theorem submittedOutcome_effect {before : KernelActivationState} (h : Settled before)
    {command : ActivationCommand} (happ : command.applicationId = before.applicationId) (revision : Nat)
    (deps : ActivationDeps) :
    TransactionEffect D before command revision (SubmittedSpent D before command deps)
      (submittedOutcome D before revision command deps) := by
  cases hlookup : deps.leaseLookup command.candidate.leaseNonce with
  | some lease =>
    simp only [submittedOutcome, hlookup]
    have hstep := applyActivation_step D h.no_intent command lease
      { deps.facts command.applicationId with controlRevision := revision + 1 } deps.eventId none
    exact (hstep.effect D h happ rfl).mono D fun spent => ⟨lease, hlookup, spent.restamp D⟩
  | none =>
    simp only [submittedOutcome, hlookup]
    exact (applyActivationWithoutLease_effect D h happ _ revision _).mono D False.elim

/-- A recorded id answers its own command and refuses every other. -/
theorem submittedOutcome_recorded {before : KernelActivationState} (hp : before.pending = none)
    {command : ActivationCommand} {recorded : RecordedActivation} (revision : Nat)
    {deps : ActivationDeps} (hid : checkUuidV7 deps.eventId "eventId" = .ok ())
    (hvalid : command.validate D = .ok ())
    (hrec : before.activationRecords[command.activationId]? = some recorded) :
    (command = recorded.command →
      submittedOutcome D before revision command deps = (before, .ok recorded.event)) ∧
    (command ≠ recorded.command → ∃ detail, submittedOutcome D before revision command deps =
      (before, .error ⟨activationIdConflict, detail⟩)) := by
  refine ⟨fun hsame => ?_, fun hne => ?_⟩
  · cases hlookup : deps.leaseLookup command.candidate.leaseNonce <;>
      simp [submittedOutcome, hlookup, applyActivation, applyActivationWithoutLease, hid,
        activationPreamble, hvalid, hp, hrec, hsame.symm, bind, Except.bind, pure, Except.pure]
  · cases hlookup : deps.leaseLookup command.candidate.leaseNonce <;>
      simp [submittedOutcome, hlookup, applyActivation, applyActivationWithoutLease, hid,
        activationPreamble, hvalid, hp, hrec, Ne.symm hne, bind, Except.bind]

/-- A submitted command on a settled store: refused before the transaction, or one transaction. -/
theorem HoldsSettled.submit {store : WasmActivationStore} {file : WasmActivationStateFileV1}
    {ledger : ActivationLedger} (h : HoldsSettled store file ledger) (hc : Consistent ledger)
    (command : ActivationCommand) (deps : ActivationDeps) :
    (∃ e, (wasmU53Max ≤ ledger.revision ∨ isApplicationId command.applicationId = false) ∧
      submitCommand D store command deps = (store, .error e)) ∨
    ledger.revision < wasmU53Max ∧ submitCommand D store command deps =
      let outcome := submittedOutcome D (ledger.state command.applicationId) ledger.revision command deps
      (settledStore store file command.applicationId (ledger.state command.applicationId) outcome,
        (resultBody command.activationId) <$> asHttp outcome.2) := by
  have hload := h.loadRecovered_eq D hc
  have hrevision := h.1.revision
  by_cases hspace : ledger.revision < wasmU53Max
  · have hcheck : checkRevisionSpace file = .ok () := by
      simp [checkRevisionSpace, require, hrevision, hspace]
    rcases h.1.stateFor command.applicationId with ⟨⟨e, he⟩, hid⟩ | hstate
    · left
      cases hlookup : deps.leaseLookup command.candidate.leaseNonce <;>
        exact ⟨activationFailure e, .inr hid, by
          simp [submitCommand, hlookup, WasmActivationStore.commitActivation,
            WasmActivationStore.commitMissingLeaseRejection, hload, hcheck, he, asHttp, bind,
            Except.bind, Functor.map, Except.map]⟩
    · refine .inr ⟨hspace, ?_⟩
      have hsettled := hc.settled command.applicationId
      cases hlookup : deps.leaseLookup command.candidate.leaseNonce with
      | some lease =>
        have hstep := applyActivation_step D hsettled.no_intent command lease
          { deps.facts command.applicationId with controlRevision := ledger.revision + 1 } deps.eventId
          none
        simp only [submitCommand, hlookup, WasmActivationStore.commitActivation, hload, hcheck, hstate,
          bind, Except.bind, hrevision, submittedOutcome]
        revert hstep
        rcases applyActivation D (ledger.state command.applicationId) command lease
          { deps.facts command.applicationId with controlRevision := ledger.revision + 1 } deps.eventId
          none with ⟨state, e | event⟩
        · intro hstep
          have hcode : e.code ≠ wasmActivationSimulatedCrash := by
            cases hstep with
            | failed _ hcode => exact hcode
          simp [settledStore, hcode]
        · intro _
          simp only [settledStore, hrevision]
          split <;> rfl
      | none =>
        simp only [submitCommand, hlookup, WasmActivationStore.commitMissingLeaseRejection, hload, hcheck,
          hstate, bind, Except.bind, hrevision, submittedOutcome]
        rcases applyActivationWithoutLease D (ledger.state command.applicationId) command
          deps.nowEpochMillis (ledger.revision + 1) deps.eventId with ⟨state, e | event⟩
        · rfl
        · simp only [settledStore, hrevision]
          split <;> rfl
  · left
    cases hlookup : deps.leaseLookup command.candidate.leaseNonce <;>
      exact ⟨activationFailure ⟨controlRevisionConflict, "control revision space is exhausted"⟩,
        .inl (Nat.not_lt.mp hspace), by
          simp [submitCommand, hlookup, WasmActivationStore.commitActivation,
            WasmActivationStore.commitMissingLeaseRejection, hload, checkRevisionSpace, require, hrevision,
            hspace, asHttp, bind, Except.bind, Functor.map, Except.map]⟩

/-! ## Answers -/

/-- A settled store whose ledger keeps ids apart. -/
def KeepsLaws (store : WasmActivationStore) (file : WasmActivationStateFileV1)
    (ledger : ActivationLedger) : Prop :=
  HoldsSettled store file ledger ∧ Consistent ledger ∧ IdLaws D ledger

/-- The store finds a recorded answer by its id. -/
theorem KeepsLaws.recordedActivation {store : WasmActivationStore} {file : WasmActivationStateFileV1}
    {ledger : ActivationLedger} (h : KeepsLaws D store file ledger) {applicationId id : String}
    {recorded : RecordedActivation}
    (hrec : (ledger.state applicationId).activationRecords[id]? = some recorded) :
    store.recordedActivation id = .ok (some recorded) := by
  obtain ⟨⟨hrep, hload, -⟩, -, hlaws⟩ := h
  have hentry : ∃ state, file.applications[applicationId]? = some state := by
    cases he : file.applications[applicationId]? with
    | some state => exact ⟨state, rfl⟩
    | none =>
      have hfresh := hrep.state applicationId
      simp only [WasmActivationStateFileV1.stateOf, he, Option.getD_none] at hfresh
      simp [← hfresh, KernelActivationState.fresh] at hrec
  obtain ⟨state, he⟩ := hentry
  have hfound : file.applications.toList.findSome? (fun entry => entry.2.activationRecords[id]?) =
      some recorded := by
    cases hfind : file.applications.toList.findSome? (fun entry => entry.2.activationRecords[id]?) with
    | none =>
      have hnone := List.findSome?_eq_none_iff.mp hfind (applicationId, state)
        (ExtTreeMap.mem_toList_iff_getElem?_eq_some.mpr he)
      rw [hrep.entry he] at hrec
      simp [hrec] at hnone
    | some found =>
      obtain ⟨entry, hmem, hfound⟩ := List.exists_of_findSome?_eq_some hfind
      have he' := ExtTreeMap.mem_toList_iff_getElem?_eq_some.mp hmem
      rw [← hrep.entry he'] at hfound
      obtain rfl := hlaws.unique _ _ _ _ _ hfound hrec
      rw [← hfound, ← hrec]
  simp [WasmActivationStore.recordedActivation, hload, hfound, bind, Except.bind, pure, Except.pure]

/-- A recorded answer is the answer to everything asked about its id. -/
theorem KeepsLaws.answersAs {store : WasmActivationStore} {file : WasmActivationStateFileV1}
    {ledger : ActivationLedger} (h : KeepsLaws D store file ledger) {command : ActivationCommand}
    {event : RouteEvent}
    (hrec : (ledger.state command.applicationId).activationRecords[command.activationId]? =
      some ⟨command, event⟩) : AnswersAs D store command event := by
  have hstored := h.recordedActivation D hrec
  obtain ⟨hsettled, hc, hlaws⟩ := h
  have hvalid := (hlaws.recorded _ _ _ hrec).1
  have hspace {deps} (hcan : CanCommit store deps) : ledger.revision < wasmU53Max := by
    rw [← hsettled.1.revision]
    exact hcan.room file hsettled.2.1
  refine
    { query := fun deps => ?_
      replayed := fun deps => ?_
      resubmitted := fun deps hcan => ?_
      replay_conflict := fun deps other hne hid => ?_
      command_conflict := fun deps other hne hid hother hcan hkeeps => ?_ }
  · simp [handleActivationRpcBody, hstored, asHttp, bind, Except.bind, pure, Except.pure]
  · simp [handleActivationRpcBody, hstored, asHttp]
  · rcases hsettled.submit D hc command deps with ⟨e, hbad, -⟩ | ⟨-, hsubmit⟩
    · rcases hbad with hbad | hbad
      · exact absurd (hspace hcan) (Nat.not_lt.mpr hbad)
      · simp [isApplicationId_of_valid D hvalid] at hbad
    · have houtcome := (submittedOutcome_recorded D (hc.settled command.applicationId).no_intent
        ledger.revision hcan.event_id hvalid hrec).1 rfl
      simp only [handleActivationRpcBody, hsubmit, houtcome]
      simp [settledStore, asHttp, Functor.map, Except.map]
  · rw [← hid] at hstored
    simp [handleActivationRpcBody, hstored, asHttp, Ne.symm hne]
  · -- The command goes to the application that recorded the id.
    have happ : command.applicationId = other.applicationId := by
      refine hkeeps.own_id other file rfl hother hsettled.2.1 _ ?_
      rw [hsettled.1.state, hid, hrec]
      simp
    rw [happ, ← hid] at hrec
    rcases hsettled.submit D hc other deps with ⟨e, hbad, -⟩ | ⟨-, hsubmit⟩
    · rcases hbad with hbad | hbad
      · exact absurd (hspace hcan) (Nat.not_lt.mpr hbad)
      · simp [isApplicationId_of_valid D hother] at hbad
    · obtain ⟨detail, houtcome⟩ := (submittedOutcome_recorded D
        (hc.settled other.applicationId).no_intent ledger.revision hcan.event_id hother
        hrec).2 hne
      refine ⟨detail, ?_⟩
      simp only [handleActivationRpcBody, hsubmit, houtcome]
      simp [settledStore, asHttp, activationFailure, Functor.map, Except.map]

/-- An answer the store finds is recorded in the ledger. -/
theorem HoldsSettled.recordedActivation_some {store : WasmActivationStore}
    {file : WasmActivationStateFileV1} {ledger : ActivationLedger} (h : HoldsSettled store file ledger)
    {id : String} {recorded : RecordedActivation}
    (hrec : store.recordedActivation id = .ok (some recorded)) :
    ∃ applicationId, (ledger.state applicationId).activationRecords[id]? = some recorded := by
  simp only [WasmActivationStore.recordedActivation, h.2.1, bind, Except.bind, pure, Except.pure,
    Except.ok.injEq] at hrec
  obtain ⟨entry, hmem, hfound⟩ := List.exists_of_findSome?_eq_some hrec
  refine ⟨entry.1, ?_⟩
  rw [h.1.entry (ExtTreeMap.mem_toList_iff_getElem?_eq_some.mp hmem)]
  exact hfound

/-- A settled store has no undecided intent. -/
theorem HoldsSettled.pendingActivation {store : WasmActivationStore} {file : WasmActivationStateFileV1}
    {ledger : ActivationLedger} (h : HoldsSettled store file ledger) (hc : Consistent ledger)
    (id : String) : store.pendingActivation id = .ok false := by
  have hnone : (file.applications.toList.any fun entry =>
      entry.2.pending.any fun pending => pending.command.activationId == id) = false := by
    rw [List.any_eq_false]
    intro entry hmem
    rw [h.1.no_intent hc entry.1 entry.2 (ExtTreeMap.mem_toList_iff_getElem?_eq_some.mp hmem)]
    simp
  simp [WasmActivationStore.pendingActivation, h.2.1, hnone, bind, Except.bind, pure, Except.pure]

/-- A transaction that answers with an event had a well-formed event id. -/
theorem submittedOutcome_event_id {before : KernelActivationState} {revision : Nat}
    {command : ActivationCommand} {deps : ActivationDeps} {state : KernelActivationState}
    {event : RouteEvent} (h : submittedOutcome D before revision command deps = (state, .ok event)) :
    checkUuidV7 deps.eventId "eventId" = .ok () := by
  cases hid : checkUuidV7 deps.eventId "eventId" with
  | ok u => rfl
  | error e =>
    cases hlookup : deps.leaseLookup command.candidate.leaseNonce <;>
      simp [submittedOutcome, hlookup, applyActivation, applyActivationWithoutLease, hid, bind,
        Except.bind] at h

/-- The answers of one ledger are answers of another. -/
def AnswersKept (ledger ledger' : ActivationLedger) : Prop :=
  ∀ (applicationId id : String) (recorded : RecordedActivation),
    (ledger.state applicationId).activationRecords[id]? = some recorded →
      (ledger'.state applicationId).activationRecords[id]? = some recorded

/-- The answer of a step to a command it submits is recorded. -/
def AnswerRecorded (store : WasmActivationStore) (step : RpcStep) (ledger : ActivationLedger) : Prop :=
  ∀ command body event, step.Submits command → step.answer D store = .ok body →
    body.event = some event →
      (ledger.state command.applicationId).activationRecords[command.activationId]? =
        some ⟨command, event⟩

/-- A submitted command that keeps ids apart is answered with the event recorded for it. -/
theorem KeepsLaws.command_step {store : WasmActivationStore} {file : WasmActivationStateFileV1}
    {ledger : ActivationLedger} (h : KeepsLaws D store file ledger) {command : ActivationCommand}
    {deps : ActivationDeps} (hkeeps : KeepsIds D store ⟨.command command, deps⟩) :
    ∃ file' ledger', KeepsLaws D (RpcStep.run D store ⟨.command command, deps⟩) file' ledger' ∧
      AnswersKept ledger ledger' ∧ AnswerRecorded D store ⟨.command command, deps⟩ ledger' := by
  obtain ⟨hsettled, hc, hlaws⟩ := h
  rcases hsettled.submit D hc command deps with ⟨e, -, hsubmit⟩ | ⟨hspace, hsubmit⟩
  · refine ⟨file, ledger, ?_, fun _ _ _ hrec => hrec, ?_⟩
    · simp only [RpcStep.run, handleActivationRpcBody, hsubmit]
      exact ⟨hsettled, hc, hlaws⟩
    · intro _ _ _ _ hanswer
      simp [RpcStep.answer, handleActivationRpcBody, hsubmit] at hanswer
  · have heffect := submittedOutcome_effect D (hc.settled command.applicationId)
      (hc.application _).symm ledger.revision deps
    obtain ⟨file', hfile'⟩ := hsettled.settle D hc hspace heffect
    have hc' := hc.settle D hspace heffect
    have hrun : RpcStep.run D store ⟨.command command, deps⟩ = settledStore store file
        command.applicationId (ledger.state command.applicationId)
          (submittedOutcome D (ledger.state command.applicationId) ledger.revision command deps) := by
      simp [RpcStep.run, handleActivationRpcBody, hsubmit]
    have hanswer : RpcStep.answer D store ⟨.command command, deps⟩ =
        (resultBody command.activationId) <$> asHttp (submittedOutcome D
          (ledger.state command.applicationId) ledger.revision command deps).2 := by
      simp [RpcStep.answer, handleActivationRpcBody, hsubmit]
    rw [← hrun] at hfile'
    generalize hout : submittedOutcome D (ledger.state command.applicationId) ledger.revision command
      deps = outcome at heffect hfile' hc' hanswer
    -- What is recorded under the id is the answer.
    have hrecorded {state event ledger'} (houtcome : outcome = (state, .ok event))
        (hrec : (ActivationLedger.state ledger' command.applicationId).activationRecords[
          command.activationId]? = some ⟨command, event⟩) :
        AnswerRecorded D store ⟨.command command, deps⟩ ledger' := by
      rintro other body event' (hother | hother) hbody hevent
      · obtain rfl : command = other := by simpa using hother
        rw [hanswer, houtcome] at hbody
        obtain rfl : resultBody command.activationId event = body := by
          simpa [asHttp, Functor.map, Except.map] using hbody
        obtain rfl : event = event' := by simpa [resultBody] using hevent
        exact hrec
      · simp at hother
    cases heffect with
    | failed state e =>
      refine ⟨file', ledger, ⟨hfile', hc, hlaws⟩, fun _ _ _ hrec => hrec, ?_⟩
      intro _ _ _ _ hbody
      simp [hanswer, asHttp, Functor.map, Except.map] at hbody
    | repeated event reason =>
      refine ⟨file', ledger, ⟨by simpa [ActivationLedger.settle] using hfile', hc, hlaws⟩,
        fun _ _ _ hrec => hrec, ?_⟩
      rcases reason with hrec | ⟨hnew, lease, hlookup, hspent⟩
      · exact hrecorded rfl hrec
      -- The nonce of a new id is not spent.
      · rw [← hsettled.1.state] at hnew hspent
        have hcan : CanCommit store deps :=
          { event_id := submittedOutcome_event_id D hout
            room := fun f hf => by
              rw [hsettled.2.1] at hf
              obtain rfl := Except.ok.inj hf
              rw [hsettled.1.revision]
              exact hspace }
        exact absurd hspent (hkeeps.own_nonce command lease file rfl hsettled.2.1 hlookup hcan hnew)
    | appended state event valid settled application new records =>
      have happ : state.applicationId = command.applicationId :=
        application.trans (hc.application _)
      have hne : state ≠ ledger.state command.applicationId := by
        rintro rfl
        have hrec := congrArg (fun records => records[command.activationId]?) records
        simp [new] at hrec
      simp only [ActivationLedger.settle, if_neg hne] at hfile' hc'
      refine ⟨file', ledger.record state, ⟨hfile', hc', ?_⟩, ?_, hrecorded rfl ?_⟩
      · refine hlaws.record D valid happ records fun applicationId hrec => ?_
        rw [← hsettled.1.state] at hrec
        exact hkeeps.own_id command file rfl valid hsettled.2.1 applicationId hrec
      · intro applicationId id recorded hrec
        rw [ActivationLedger.record_records happ records, if_neg, hrec]
        rintro ⟨rfl, rfl⟩
        simp [new] at hrec
      · rw [ActivationLedger.record_records happ records, if_pos ⟨rfl, rfl⟩]

/-- Every RPC that keeps ids apart keeps the answers, and records the one it gives. -/
theorem KeepsLaws.step {store : WasmActivationStore} {file : WasmActivationStateFileV1}
    {ledger : ActivationLedger} (h : KeepsLaws D store file ledger) {step : RpcStep}
    (hkeeps : KeepsIds D store step) :
    ∃ file' ledger', KeepsLaws D (step.run D store) file' ledger' ∧ AnswersKept ledger ledger' ∧
      AnswerRecorded D store step ledger' := by
  obtain ⟨body, deps⟩ := step
  cases body with
  | command command => exact h.command_step D hkeeps
  | query activationId =>
    refine ⟨file, ledger, h, fun _ _ _ hrec => hrec, ?_⟩
    rintro command body event (hsubmits | hsubmits) <;> simp at hsubmits
  | replay command =>
    obtain ⟨hsettled, hc, hlaws⟩ := h
    have hpending := hsettled.pendingActivation hc command.activationId
    cases hstored : store.recordedActivation command.activationId with
    | error e =>
      simp [WasmActivationStore.recordedActivation, hsettled.2.1, bind, Except.bind, pure,
        Except.pure] at hstored
    | ok stored =>
    have hrun : RpcStep.run D store ⟨.replay command, deps⟩ = store := by
      cases stored with
      | none =>
        simp [RpcStep.run, handleActivationRpcBody, hstored, asHttp, unansweredStatus, hpending, bind,
          Except.bind, pure, Except.pure]
      | some recorded =>
        simp only [RpcStep.run, handleActivationRpcBody, hstored, asHttp]
        split <;> rfl
    refine ⟨file, ledger, by rw [hrun]; exact ⟨hsettled, hc, hlaws⟩, fun _ _ _ hrec => hrec, ?_⟩
    rintro other body event (hsubmits | hsubmits) hanswer hevent
    · simp at hsubmits
    obtain rfl : command = other := by simpa using hsubmits
    cases stored with
    | none =>
      simp [RpcStep.answer, handleActivationRpcBody, hstored, asHttp, unansweredStatus, hpending, bind,
        Except.bind, pure, Except.pure] at hanswer
    | some recorded =>
      obtain ⟨applicationId, hrec⟩ := hsettled.recordedActivation_some hstored
      obtain ⟨-, happ, -⟩ := hlaws.recorded _ _ _ hrec
      simp only [RpcStep.answer, handleActivationRpcBody, hstored, asHttp] at hanswer
      split at hanswer
      · simp at hanswer
      · rename_i hsame
        obtain ⟨command', event'⟩ := recorded
        obtain rfl : command' = command := by simpa using hsame
        obtain rfl := Except.ok.inj hanswer
        obtain rfl : event' = event := by simpa [resultBody] using hevent
        rw [happ]
        exact hrec

/-! ## Histories -/

/-- A store with this answer recorded. -/
def HasRecorded (command : ActivationCommand) (event : RouteEvent) (store : WasmActivationStore) : Prop :=
  ∃ file ledger, KeepsLaws D store file ledger ∧
    (ledger.state command.applicationId).activationRecords[command.activationId]? = some ⟨command, event⟩

/-- An activation id names one answer for ever, in every history whose commands keep ids apart. -/
theorem activation_id_answers_for_ever (before after : List RpcStep) (step : RpcStep)
    (hkeeps : Along (RpcStep.run D) (KeepsIds D) none (before ++ step :: after))
    (command : ActivationCommand) (body : ActivationResultBodyV1) (event : RouteEvent)
    (hsubmits : step.Submits command) (hanswer : step.answer D (rpcRun D before) = .ok body)
    (hevent : body.event = some event) :
    AnswersAs D (rpcRun D (before ++ step :: after)) command event := by
  obtain ⟨hbefore, hstep, hafter⟩ := along_append.mp hkeeps
  have hlaws : ∃ file ledger, KeepsLaws D (rpcRun D before) file ledger :=
    hbefore.invariant (P := fun store => ∃ file ledger, KeepsLaws D store file ledger)
      (fun store op hop ⟨file, ledger, h⟩ => by
        obtain ⟨file', ledger', h', -⟩ := h.step D hop
        exact ⟨file', ledger', h'⟩)
      ⟨.empty, .empty, ⟨.empty, rfl, .inr ⟨rfl, rfl⟩⟩, .empty, .empty D⟩
  obtain ⟨file, ledger, h⟩ := hlaws
  obtain ⟨file', ledger', h', -, hrecorded⟩ := h.step D hstep
  have hhas : HasRecorded D command event (run (RpcStep.run D) (rpcRun D before) (step :: after)) :=
    hafter.invariant (P := HasRecorded D command event)
      (fun store op hop ⟨file, ledger, h, hrec⟩ => by
        obtain ⟨file', ledger', h', hkept, -⟩ := h.step D hop
        exact ⟨file', ledger', h', hkept _ _ _ hrec⟩)
      ⟨file', ledger', h', hrecorded command body event hsubmits hanswer hevent⟩
  rw [rpcRun, run_append]
  obtain ⟨_, _, hlast, hrec⟩ := hhas
  exact hlast.answersAs D hrec

/-! ## Two histories in which an id loses its answer

A command with a spent nonce is answered with the original event under its own new id, which the store
does not know. And a second application accepts an id that the first has answered. -/

section
open Vectors

def idDigests : Digests := tableDigests
  [("0f1e2d3c4b5a69788796a5b4c3d2e1f0",
    "a01a5fb82f117aa35f29a480778085f101e3f9c93689658493379edd7fb6f611")]
  [(("01892555-0000-7000-8000-000000000001", "vector"),
    "63813c0f1f72670d486813ec1309ba8648705e2030e2bb14f404c01c9dbd307e"),
   (("01892555-0000-7000-8000-000000000002", "vector"),
    "72c8114fc254877584bea515ddd70e2407cf6b69be3c5a69bb84bcea55aac128"),
   (("01892555-0000-7000-8000-000000000001", "other"),
    "9a9bbcdc36a6ea81766118893ab9acb04866a4973eb83a1a2488ff009fb53c37")]
  [("01892555-0000-7000-8000-0000000000e1",
    "ad3266b54b8547835412170c9cb3497d1e983f134891cf142b688371b475d6e0"),
   ("01892555-0000-7000-8000-0000000000e2",
    "e3084362527f7e6145a75a826292919d60d9f5517ae568a05cffdf322feec8e6")]

/-- Activate the first version of an application from a route generation. -/
def idCommand (activationId applicationId : String) (generation : Nat) : ActivationCommand :=
  command idDigests activationId applicationId
    (candidate idDigests applicationId 1 "0f1e2d3c4b5a69788796a5b4c3d2e1f0" 1) generation

/-- The host of the test: one lease, one live candidate. -/
def idDeps (eventId : String) : ActivationDeps where
  nowEpochMillis := 1800000000000
  leaseLookup nonce :=
    if nonce = "0f1e2d3c4b5a69788796a5b4c3d2e1f0" then
      some (lease idDigests 1 "0f1e2d3c4b5a69788796a5b4c3d2e1f0" 1)
    else none
  facts _ := facts 1
  eventId := eventId

end

def originalStep : RpcStep where
  body := .command (idCommand "01892555-0000-7000-8000-000000000001" "vector" 0)
  deps := idDeps "01892555-0000-7000-8000-0000000000e1"

def spentStep : RpcStep where
  body := .command (idCommand "01892555-0000-7000-8000-000000000002" "vector" 1)
  deps := idDeps "01892555-0000-7000-8000-0000000000e2"

def otherStep : RpcStep where
  body := .command (idCommand "01892555-0000-7000-8000-000000000001" "other" 0)
  deps := idDeps "01892555-0000-7000-8000-0000000000e2"

/-- The event of an answer. -/
def answerEvent (answer : Except ActivationHttpFailure ActivationResultBodyV1) : Option RouteEvent :=
  match answer with
  | .ok body => body.event
  | .error _ => none

theorem answerEvent_isSome (answer : Except ActivationHttpFailure ActivationResultBodyV1)
    (h : (answerEvent answer).isSome = true) :
    ∃ body event, answer = .ok body ∧ body.event = some event := by
  cases answer with
  | error e => simp [answerEvent] at h
  | ok body =>
    obtain ⟨event, hevent⟩ := Option.isSome_iff_exists.mp h
    exact ⟨body, event, rfl, hevent⟩

/-- The run lemma on the first activation followed by a query of its id. -/
theorem activation_id_answers_after_query : ∃ event, AnswersAs idDigests
    (rpcRun idDigests [originalStep, ⟨.query "01892555-0000-7000-8000-000000000001", originalStep.deps⟩])
    (idCommand "01892555-0000-7000-8000-000000000001" "vector" 0) event := by
  obtain ⟨body, event, hanswer, hevent⟩ := answerEvent_isSome
    (originalStep.answer idDigests (rpcRun idDigests [])) (by decide +kernel)
  have hfresh {file : WasmActivationStateFileV1} (hload : WasmActivationStore.load none = .ok file)
      (applicationId : String) : file.stateOf applicationId = .fresh applicationId := by
    obtain rfl := Except.ok.inj hload
    simp [WasmActivationStateFileV1.stateOf, WasmActivationStateFileV1.empty]
  have hkeeps : KeepsIds idDigests none originalStep :=
    { own_id := fun command file _ _ hload applicationId hrec => by
        simp [hfresh hload, KernelActivationState.fresh] at hrec
      own_nonce := fun command lease file _ hload _ _ _ hspent => by
        have hledger := hspent.spent
        simp [hfresh hload, KernelActivationState.fresh] at hledger }
  have hquery (store : WasmActivationStore) (id : String) (deps : ActivationDeps) :
      KeepsIds idDigests store ⟨.query id, deps⟩ :=
    { own_id := fun command file hbody => by simp at hbody
      own_nonce := fun command lease file hbody => by simp at hbody }
  exact ⟨event, activation_id_answers_for_ever idDigests []
    [⟨.query "01892555-0000-7000-8000-000000000001", originalStep.deps⟩] originalStep
    ⟨hkeeps, hquery _ _ _, trivial⟩ _ body event (.inl rfl) hanswer hevent⟩

/-- An id answered with an event is unknown to a query, and an answered id is accepted once more. -/
theorem activation_id_forgotten_and_reused :
    (¬ ∀ (before after : List RpcStep) (step : RpcStep) (command : ActivationCommand)
      (body : ActivationResultBodyV1) (event : RouteEvent), step.Submits command →
      step.answer idDigests (rpcRun idDigests before) = .ok body → body.event = some event →
        AnswersAs idDigests (rpcRun idDigests (before ++ step :: after)) command event) ∧
    (¬ ∀ (before after : List RpcStep) (step next : RpcStep) (command other : ActivationCommand)
      (body : ActivationResultBodyV1) (event : RouteEvent), step.Submits command →
      step.answer idDigests (rpcRun idDigests before) = .ok body → body.event = some event →
      next.body = .command other → other ≠ command → other.activationId = command.activationId →
        ∃ failure, next.answer idDigests (rpcRun idDigests (before ++ step :: after)) =
          .error failure) := by
  refine ⟨fun h => ?_, fun h => ?_⟩
  · obtain ⟨body, event, hanswer, hevent⟩ := answerEvent_isSome
      (spentStep.answer idDigests (rpcRun idDigests [originalStep])) (by decide +kernel)
    have hunknown : (answerEvent (handleActivationRpcBody idDigests
        (rpcRun idDigests [originalStep, spentStep])
        (.query "01892555-0000-7000-8000-000000000002") spentStep.deps).2).isSome = false := by
      decide +kernel
    have hquery : handleActivationRpcBody idDigests (rpcRun idDigests [originalStep, spentStep])
        (.query "01892555-0000-7000-8000-000000000002") spentStep.deps = _ :=
      (h [originalStep] [] spentStep _ body event (.inl rfl) hanswer hevent).query spentStep.deps
    rw [hquery] at hunknown
    simp [answerEvent, resultBody] at hunknown
  · obtain ⟨body, event, hanswer, hevent⟩ := answerEvent_isSome
      (originalStep.answer idDigests (rpcRun idDigests [])) (by decide +kernel)
    have haccepted : (answerEvent (otherStep.answer idDigests
        (rpcRun idDigests [originalStep]))).isSome = true := by decide +kernel
    obtain ⟨failure, hfailure⟩ := h [] [] originalStep otherStep _ _ body event (.inl rfl) hanswer
      hevent rfl (by decide +kernel) rfl
    rw [List.nil_append] at hfailure
    simp [hfailure, answerEvent] at haccepted

end Iweb
