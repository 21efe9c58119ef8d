import Iweb.Activation.Transaction
import Iweb.Activation.Proofs.CasProofs
import Iweb.Foundations.FiniteMap

/-!
# What one activation transaction can do

`ApplyStep` lists every way `applyActivation` can end on a state without an undecided intent, crashes
included. `Settled` is the invariant of such states: the events form one log in which each activation
raises the generation by one and moves the pointer, refusals move nothing, and the nonce tables are the
consumed nonces of the log. Repair takes both torn states back to a settled one.
-/

namespace Iweb

open Std (ExtTreeMap)

variable (D : Digests)

/-! ## The steps -/

/-- The state of an application after a committed activation. -/
def KernelActivationState.commit (state : KernelActivationState) (pending : PendingActivationCas)
    (event : RouteEvent) : KernelActivationState :=
  ((({ state with pending := some pending }.consumeNonce pending.command pending.lease).flipPointer
    event).retainRollback D pending.command event pending.casNowEpochMillis).recordEvent
      pending.command event

/-- The retention records a committed command appends. -/
def retentionsOf (pending : PendingActivationCas) (event : RouteEvent) : List RollbackRecord :=
  if pending.command.operation = .rollback then
    [rollbackRecordOf D pending.command event pending.casNowEpochMillis]
  else []

/-- The members a commit changes. -/
theorem KernelActivationState.commit_eq (state : KernelActivationState) (pending : PendingActivationCas)
    (event : RouteEvent) :
    state.commit D pending event =
      { state with
        routeGeneration := event.routeGeneration
        active := event.next
        events := state.events ++ [event]
        nonceLedger := state.nonceLedger.insert pending.lease.leaseNonce pending.lease.leaseDigest
        nonceActivationIndex :=
          state.nonceActivationIndex.insert pending.lease.leaseNonce pending.command.activationId
        activationRecords :=
          state.activationRecords.insert pending.command.activationId ⟨pending.command, event⟩
        rollbackRetentions := state.rollbackRetentions ++ retentionsOf D pending event
        pending := none } := by
  by_cases hop : pending.command.operation = .rollback
  · simp [commit, retainRollback, retentionsOf, hop, consumeNonce, flipPointer, recordEvent]
  · simp [commit, retainRollback, retentionsOf, hop, consumeNonce, flipPointer, recordEvent]

/-- The torn state of a commit that stopped after the consume marker. -/
def KernelActivationState.tornMarked (state : KernelActivationState) (pending : PendingActivationCas) :
    KernelActivationState :=
  { state with pending := some pending }.consumeNonce pending.command pending.lease

/-- The torn state of a commit that stopped after the pointer flip. -/
def KernelActivationState.tornFlipped (state : KernelActivationState) (pending : PendingActivationCas)
    (event : RouteEvent) : KernelActivationState :=
  (state.tornMarked pending).flipPointer event

/-- The failures that leave no trace. -/
def LeavesNoTrace (e : KernelError) : Prop := e.code ≠ wasmActivationSimulatedCrash

/-- Every way an activation transaction can end on a settled state. -/
inductive ApplyStep (state : KernelActivationState) (command : ActivationCommand)
    (lease : ServiceReadinessLeaseV2) (facts : ActivationCasFacts) (eventId : String) :
    Option ActivationCrashPoint → Outcome RouteEvent → Prop
  /-- The transaction fails and the state stays. -/
  | failed {crash} (e : KernelError) (h : LeavesNoTrace e) :
      ApplyStep state command lease facts eventId crash (state, .error e)
  /-- The stored answer of the activation id. -/
  | answered {crash} (event : RouteEvent)
      (recorded : state.activationRecords[command.activationId]? = some ⟨command, event⟩) :
      ApplyStep state command lease facts eventId crash (state, .ok event)
  /-- The nonce was consumed before: the original answer. -/
  | alreadyConsumed {crash} (originalId : String) (original : RecordedActivation)
      (new : state.activationRecords[command.activationId]? = none)
      (spent : NonceSpent D state command lease facts)
      (index : state.nonceActivationIndex[lease.leaseNonce]? = some originalId)
      (recorded : state.activationRecords[originalId]? = some original) :
      ApplyStep state command lease facts eventId crash (state, .ok original.event)
  /-- The command is refused with an event. -/
  | rejected {crash} (reason : String) (event : RouteEvent) (valid : command.validate D = .ok ())
      (new : state.activationRecords[command.activationId]? = none)
      (sealed : event = rejectedEvent D state command lease.leaseNonce lease.leaseDigest reason
        facts.nowEpochMillis facts.controlRevision eventId) :
      ApplyStep state command lease facts eventId crash (state.recordEvent command event, .ok event)
  /-- The command is committed. -/
  | activated (identity : WasmVersionIdentity) (event : RouteEvent)
      (gates : ActivationGates D state command lease facts)
      (named : candidateIdentity command = .ok identity)
      (new : state.activationRecords[command.activationId]? = none)
      (sealed : event = activatedEvent D (casIntent state command lease facts eventId) identity) :
      ApplyStep state command lease facts eventId none
        (state.commit D (casIntent state command lease facts eventId) event, .ok event)
  /-- The commit stops after the consume marker. -/
  | crashedMarked (gates : ActivationGates D state command lease facts) (e : KernelError)
      (code : e.code = wasmActivationSimulatedCrash)
      (new : state.activationRecords[command.activationId]? = none) :
      ApplyStep state command lease facts eventId (some .afterConsumeMarkerBeforePointerCas)
        (state.tornMarked (casIntent state command lease facts eventId), .error e)
  /-- The commit stops after the pointer flip. -/
  | crashedFlipped (identity : WasmVersionIdentity) (event : RouteEvent)
      (gates : ActivationGates D state command lease facts)
      (named : candidateIdentity command = .ok identity) (e : KernelError)
      (code : e.code = wasmActivationSimulatedCrash)
      (new : state.activationRecords[command.activationId]? = none)
      (sealed : event = activatedEvent D (casIntent state command lease facts eventId) identity) :
      ApplyStep state command lease facts eventId (some .afterPointerCasBeforeEvent)
        (state.tornFlipped (casIntent state command lease facts eventId) event, .error e)

/-- The outcome of the checks before a decision. -/
theorem activationPreamble_cases {state : KernelActivationState} (hp : state.pending = none)
    (command : ActivationCommand) :
    (∃ e, activationPreamble D state command = .error e ∧ LeavesNoTrace e) ∨
    (∃ event, activationPreamble D state command = .ok (some event) ∧
      state.activationRecords[command.activationId]? = some ⟨command, event⟩) ∨
    (activationPreamble D state command = .ok none ∧ command.validate D = .ok () ∧
      state.activationRecords[command.activationId]? = none) := by
  cases hv : command.validate D with
  | error e =>
    refine .inl ⟨e, by simp [activationPreamble, hv, bind, Except.bind], ?_⟩
    exact command_validate_fails D (P := fun code => code ≠ wasmActivationSimulatedCrash) (by decide)
      command e hv
  | ok u =>
  cases hr : state.activationRecords[command.activationId]? with
  | none =>
    exact .inr (.inr ⟨by simp [activationPreamble, hv, hp, hr, bind, Except.bind, pure, Except.pure],
      rfl, rfl⟩)
  | some recorded =>
    obtain ⟨command', event⟩ := recorded
    by_cases hc : command' = command
    · subst hc
      exact .inr (.inl ⟨event, by
        simp [activationPreamble, hv, hp, hr, bind, Except.bind, pure, Except.pure], rfl⟩)
    · have hconflict : activationIdConflict ≠ wasmActivationSimulatedCrash := by decide
      exact .inl ⟨⟨activationIdConflict, _⟩, by
        simp [activationPreamble, hv, hp, hr, hc, bind, Except.bind]; rfl, hconflict⟩

/-- The checks of the candidate fail with a code of their own. -/
theorem candidateReady_fails {P : String → Prop} (invalid : P wasmActivationInvalid)
    (failClosed : P wasmActivationFailClosed) (command : ActivationCommand)
    (registry : RegistryRowFacts) (facts : ActivationCasFacts) :
    FailsOnlyWith P (candidateReady D command registry facts) := by
  have hret : FailsOnlyWith P (rollbackRetained D command registry facts.rollbackRetention) := by
    unfold rollbackRetained
    split
    · exact .ok _
    split
    · exact .error failClosed
    split <;> exact .ok _
  refine .bind (.recode invalid) fun binding => ?_
  repeat' split
  all_goals first | exact .ok _ | exact hret

/-- The decision itself never reports a simulated crash. -/
theorem evaluateActivationCas_error {state : KernelActivationState} {command : ActivationCommand}
    {lease : ServiceReadinessLeaseV2} {facts : ActivationCasFacts} {eventId : String} {e : KernelError}
    (h : evaluateActivationCas D state command lease facts eventId = .error e) : LeavesNoTrace e := by
  have invalid : wasmActivationInvalid ≠ wasmActivationSimulatedCrash := by decide
  have failClosed : wasmActivationFailClosed ≠ wasmActivationSimulatedCrash := by decide
  have mismatch : readinessLeaseMismatch ≠ wasmActivationSimulatedCrash := by decide
  suffices hf : FailsOnlyWith (fun code => code ≠ wasmActivationSimulatedCrash)
      (evaluateActivationCas D state command lease facts eventId) from hf e h
  refine .bind (command_validate_fails D invalid command) fun _ => .bind (.require invalid) fun _ => ?_
  dsimp only
  split
  · exact .ok _
  split
  · exact .ok _
  refine .bind (candidateReady_fails D invalid failClosed _ _ _) fun ready => ?_
  split
  · exact .ok _
  split
  · exact .ok _
  split
  · exact .ok _
  split
  · repeat' split
    all_goals first | exact .ok _ | exact .error failClosed
  · refine .bind (.recode mismatch) fun expiresAt => ?_
    split
    · exact .ok _
    · exact .bind (.bind (.recodeAt invalid) fun _ => .ok _) fun _ => .ok _

/-- The decision does not read the intent. -/
theorem evaluateActivationCas_intent (state : KernelActivationState) (command : ActivationCommand)
    (lease : ServiceReadinessLeaseV2) (facts : ActivationCasFacts) (eventId : String)
    (pending : Option PendingActivationCas) :
    evaluateActivationCas D { state with pending := pending } command lease facts eventId =
      evaluateActivationCas D state command lease facts eventId := rfl

/-- `applyActivation` on a settled state takes one of the listed steps. -/
theorem applyActivation_step {state : KernelActivationState} (hp : state.pending = none)
    (command : ActivationCommand) (lease : ServiceReadinessLeaseV2) (facts : ActivationCasFacts)
    (eventId : String) (crash : Option ActivationCrashPoint) :
    ApplyStep D state command lease facts eventId crash
      (applyActivation D state command lease facts eventId crash) := by
  have hclear : { state with pending := none } = state := by
    cases state
    simp_all
  cases hid : checkUuidV7 eventId "eventId" with
  | error e =>
    have happly : applyActivation D state command lease facts eventId crash = (state, .error e) := by
      simp [applyActivation, hid, bind, Except.bind]
    rw [happly]
    have invalid : wasmActivationInvalid ≠ wasmActivationSimulatedCrash := by decide
    exact .failed e (FailsOnlyWith.require (P := fun code => code ≠ wasmActivationSimulatedCrash) invalid
      e hid)
  | ok u =>
  rcases activationPreamble_cases D hp command with ⟨e, he, hcode⟩ | ⟨event, he, hrec⟩ | ⟨he, hv, hnew⟩
  · have happly : applyActivation D state command lease facts eventId crash = (state, .error e) := by
      simp [applyActivation, hid, he, bind, Except.bind]
    rw [happly]
    exact .failed e hcode
  · have happly : applyActivation D state command lease facts eventId crash = (state, .ok event) := by
      simp [applyActivation, hid, he, bind, Except.bind]
    rw [happly]
    exact .answered event hrec
  unfold applyActivation
  simp only [hid, he, bind, Except.bind, evaluateActivationCas_intent]
  rcases evaluateActivationCas_cases D state command lease facts eventId with
    ⟨e, hev⟩ | ⟨reason, hev⟩ | ⟨originalId, original, hledger, hindex, hrecord, hev⟩ |
    ⟨gates, identity, hnamed, hev⟩
  · simp only [hev, hclear]
    exact .failed e (evaluateActivationCas_error D hev)
  · simp only [hev]
    exact .rejected reason _ hv hnew rfl
  · simp only [hev, hclear]
    exact .alreadyConsumed originalId original hnew hledger hindex hrecord
  · simp only [hev]
    match crash with
    | none => exact .activated identity _ gates hnamed hnew rfl
    | some .afterConsumeMarkerBeforePointerCas => exact .crashedMarked gates _ rfl hnew
    | some .afterPointerCasBeforeEvent => exact .crashedFlipped identity _ gates hnamed _ rfl hnew rfl

/-- An injected crash leaves the outcome as it is, or tears a commit apart. -/
theorem applyActivation_interrupted {state : KernelActivationState} (hp : state.pending = none)
    (command : ActivationCommand) (lease : ServiceReadinessLeaseV2) (facts : ActivationCasFacts)
    (eventId : String) (point : ActivationCrashPoint) :
    applyActivation D state command lease facts eventId (some point) =
        applyActivation D state command lease facts eventId none ∨
      ∃ identity event e, ActivationGates D state command lease facts ∧
        candidateIdentity command = .ok identity ∧
        state.activationRecords[command.activationId]? = none ∧
        event = activatedEvent D (casIntent state command lease facts eventId) identity ∧
        KernelError.code e = wasmActivationSimulatedCrash ∧
        applyActivation D state command lease facts eventId none =
          (state.commit D (casIntent state command lease facts eventId) event, .ok event) ∧
        (applyActivation D state command lease facts eventId (some point) =
            (state.tornMarked (casIntent state command lease facts eventId), .error e) ∨
          applyActivation D state command lease facts eventId (some point) =
            (state.tornFlipped (casIntent state command lease facts eventId) event, .error e)) := by
  cases hid : checkUuidV7 eventId "eventId" with
  | error e => simp [applyActivation, hid, bind, Except.bind]
  | ok u =>
  rcases activationPreamble_cases D hp command with ⟨e, he, -⟩ | ⟨event, he, -⟩ | ⟨he, -, hnew⟩
  · simp [applyActivation, hid, he, bind, Except.bind]
  · simp [applyActivation, hid, he, bind, Except.bind]
  rcases evaluateActivationCas_cases D state command lease facts eventId with
    ⟨e, hev⟩ | ⟨reason, hev⟩ | ⟨originalId, original, -, -, -, hev⟩ | ⟨gates, identity, hnamed, hev⟩
  · simp [applyActivation, hid, he, evaluateActivationCas_intent, hev, bind, Except.bind]
  · simp [applyActivation, hid, he, evaluateActivationCas_intent, hev, bind, Except.bind]
  · simp [applyActivation, hid, he, evaluateActivationCas_intent, hev, bind, Except.bind]
  · right
    unfold applyActivation
    simp only [hid, he, bind, Except.bind, evaluateActivationCas_intent, hev]
    cases point with
    | afterConsumeMarkerBeforePointerCas =>
      exact ⟨identity, _, _, gates, hnamed, hnew, rfl, rfl, rfl, .inl rfl⟩
    | afterPointerCasBeforeEvent =>
      exact ⟨identity, _, _, gates, hnamed, hnew, rfl, rfl, rfl, .inr rfl⟩

/-- The transaction without a lease fails, repeats a stored answer, or leaves a rejected event. -/
theorem applyActivationWithoutLease_cases {state : KernelActivationState} (hp : state.pending = none)
    (command : ActivationCommand) (now controlRevision : Nat) (eventId : String) :
    (∃ e, applyActivationWithoutLease D state command now controlRevision eventId = (state, .error e)) ∨
    (∃ event, state.activationRecords[command.activationId]? = some ⟨command, event⟩ ∧
      applyActivationWithoutLease D state command now controlRevision eventId = (state, .ok event)) ∨
    (command.validate D = .ok () ∧ state.activationRecords[command.activationId]? = none ∧
      ∃ event, event = rejectedEvent D state command command.candidate.leaseNonce
          command.candidate.leaseDigest readinessLeaseMismatch now controlRevision eventId ∧
        applyActivationWithoutLease D state command now controlRevision eventId =
          (state.recordEvent command event, .ok event)) := by
  cases hid : checkUuidV7 eventId "eventId" with
  | error e => exact .inl ⟨e, by simp [applyActivationWithoutLease, hid, bind, Except.bind]⟩
  | ok u =>
  rcases activationPreamble_cases D hp command with ⟨e, he, -⟩ | ⟨event, he, hrec⟩ | ⟨he, hv, hnew⟩
  · exact .inl ⟨e, by simp [applyActivationWithoutLease, hid, he, bind, Except.bind]⟩
  · exact .inr (.inl ⟨event, hrec, by simp [applyActivationWithoutLease, hid, he, bind, Except.bind]⟩)
  · refine .inr (.inr ⟨hv, hnew, _, rfl, ?_⟩)
    simp only [applyActivationWithoutLease, hid, he, bind, Except.bind,
      KernelActivationState.recordEvent]
    cases state
    simp_all

/-! ## The event log of an application -/

/-- An event consumed its lease nonce. -/
def RouteEvent.isConsumed (event : RouteEvent) : Bool := event.leaseConsume.outcome == .consumed

/-- The events of an application in order, with the pointer and the generation they lead to. -/
inductive EventLog (applicationId : String) : List RouteEvent → WasmActivePointerV1 → Nat → Prop
  | nil : EventLog applicationId [] (.unavailable "wasm" applicationId 0) 0
  /-- A refusal moves nothing. -/
  | rejected {events active generation} (event : RouteEvent)
      (log : EventLog applicationId events active generation)
      (application : event.applicationId = applicationId) (result : event.result = .rejected)
      (outcome : event.leaseConsume.outcome = .rejected) (previous : event.previous = active)
      (next : event.next = active) (kept : event.routeGeneration = generation) :
      EventLog applicationId (events ++ [event]) active generation
  /-- An activation moves the pointer and raises the generation by one. -/
  | activated {events active generation} (event : RouteEvent)
      (log : EventLog applicationId events active generation)
      (application : event.applicationId = applicationId) (result : event.result = .activated)
      (outcome : event.leaseConsume.outcome = .consumed) (previous : event.previous = active)
      (raised : event.routeGeneration = generation + 1) :
      EventLog applicationId (events ++ [event]) event.next (generation + 1)

/-- The consumed events carry the generations `1..g`, one each. -/
theorem EventLog.generations {applicationId : String} {events : List RouteEvent}
    {active : WasmActivePointerV1} {generation : Nat}
    (h : EventLog applicationId events active generation) :
    (events.filter RouteEvent.isConsumed).map RouteEvent.routeGeneration =
      List.range' 1 generation := by
  induction h with
  | nil => rfl
  | rejected event log _ _ outcome _ _ _ ih => simp [RouteEvent.isConsumed, outcome, ih]
  | activated event log _ _ outcome _ raised ih =>
    simp [RouteEvent.isConsumed, outcome, ih, raised, List.range'_concat, Nat.add_comm]

/-- The generation is the number of activated events. -/
theorem EventLog.count {applicationId : String} {events : List RouteEvent}
    {active : WasmActivePointerV1} {generation : Nat}
    (h : EventLog applicationId events active generation) :
    generation = (events.filter fun event => event.result == .activated).length := by
  induction h with
  | nil => rfl
  | rejected event log _ result _ _ _ _ ih => simpa [result] using ih
  | activated event log _ result _ _ _ ih => simpa [result] using ih

/-- An event is a refusal that keeps the pointer, or consumes a nonce. -/
theorem EventLog.event {applicationId : String} {events : List RouteEvent}
    {active : WasmActivePointerV1} {generation : Nat}
    (h : EventLog applicationId events active generation) :
    ∀ event ∈ events, event.applicationId = applicationId ∧
      (event.result = .rejected ∧ event.next = event.previous ∧ event.isConsumed = false ∨
        event.result = .activated ∧ event.isConsumed = true) := by
  induction h with
  | nil => simp
  | rejected event log application result outcome previous next _ ih =>
    intro e he
    rcases List.mem_append.mp he with he | he
    · exact ih e he
    · obtain rfl := List.mem_singleton.mp he
      exact ⟨application, .inl ⟨result, next.trans previous.symm, by simp [RouteEvent.isConsumed, outcome]⟩⟩
  | activated event log application result outcome _ _ ih =>
    intro e he
    rcases List.mem_append.mp he with he | he
    · exact ih e he
    · obtain rfl := List.mem_singleton.mp he
      exact ⟨application, .inr ⟨result, by simp [RouteEvent.isConsumed, outcome]⟩⟩

/-- A positive generation has the consuming event that led to it. -/
theorem EventLog.consuming {applicationId : String} {events : List RouteEvent}
    {active : WasmActivePointerV1} {generation : Nat}
    (h : EventLog applicationId events active generation) (hpos : 0 < generation) :
    ∃ event ∈ events, event.leaseConsume.outcome = .consumed ∧ event.routeGeneration = generation := by
  have hmem : generation ∈ (events.filter RouteEvent.isConsumed).map RouteEvent.routeGeneration := by
    rw [h.generations, List.mem_range'_1]
    omega
  obtain ⟨event, he, rfl⟩ := List.mem_map.mp hmem
  obtain ⟨he, hc⟩ := List.mem_filter.mp he
  exact ⟨event, he, by simpa [RouteEvent.isConsumed] using hc, rfl⟩

/-! ## The invariant of a settled state -/

/-- The state of an application between transactions. -/
structure Settled (state : KernelActivationState) : Prop where
  no_intent : state.pending = none
  log : EventLog state.applicationId state.events state.active state.routeGeneration
  /-- A stored answer is an event of the log, under its own activation id. -/
  recorded : ∀ (id : String) (recorded : RecordedActivation), state.activationRecords[id]? = some recorded →
    recorded.event ∈ state.events ∧ recorded.command.activationId = id ∧ recorded.event.activationId = id
  /-- Every event of the log is the stored answer of its activation id. -/
  answered : ∀ event ∈ state.events, ∃ command,
    state.activationRecords[event.activationId]? = some ⟨command, event⟩
  /-- The ledger and the index have the same nonces. -/
  nonces : ∀ nonce : String, state.nonceLedger[nonce]? = none ↔ state.nonceActivationIndex[nonce]? = none
  /-- A nonce is indexed under the activation that consumed it. -/
  indexed : ∀ nonce id : String, state.nonceActivationIndex[nonce]? = some id → ∃ recorded : RecordedActivation,
    state.activationRecords[id]? = some recorded ∧ recorded.event.leaseConsume.leaseNonce = nonce
  /-- A consumed nonce is in the ledger. -/
  consumed : ∀ event ∈ state.events, event.isConsumed →
    state.nonceLedger[event.leaseConsume.leaseNonce]? ≠ none
  /-- No nonce is consumed twice. -/
  consumed_once :
    ((state.events.filter RouteEvent.isConsumed).map fun event => event.leaseConsume.leaseNonce).Nodup

theorem Settled.fresh (applicationId : String) : Settled (.fresh applicationId) where
  no_intent := rfl
  log := .nil
  recorded := by simp [KernelActivationState.fresh]
  answered := by simp [KernelActivationState.fresh]
  nonces := by simp [KernelActivationState.fresh]
  indexed := by simp [KernelActivationState.fresh]
  consumed := by simp [KernelActivationState.fresh]
  consumed_once := by simp [KernelActivationState.fresh]

/-- The invariants the code checks hold in a settled state. -/
theorem Settled.verify {state : KernelActivationState} (h : Settled state) :
    verifyActivationInvariants state = .ok () := by
  have hentries : state.nonceActivationIndex.toList.forM (checkIndexedNonce state) = .ok () := by
    apply forM_eq_ok
    refine FiniteMap.forall_mem_toList.mpr fun nonce id hindex => ?_
    obtain ⟨recorded, hrec, hnonce⟩ := h.indexed nonce id hindex
    have hledger : (state.nonceLedger[nonce]?).isSome := by
      rw [Option.isSome_iff_ne_none, ne_eq, h.nonces, hindex]
      simp
    simp [checkIndexedNonce, hrec, hnonce, ExtTreeMap.contains_eq_isSome_getElem?, hledger]
  unfold verifyActivationInvariants
  rw [hentries]
  simp only [bind_eq_ok, require_eq_ok, Bool.not_eq_true', Bool.and_eq_false_iff, exists_const,
    and_true, decide_eq_false_iff_not, Bool.not_eq_false']
  by_cases hpos : 0 < state.routeGeneration
  · obtain ⟨event, hmem, hout, hgen⟩ := h.log.consuming hpos
    exact .inr (List.any_eq_true.mpr ⟨event, hmem, by simp [hout, hgen]⟩)
  · exact .inl hpos

/-- After an event is recorded, every stored answer is an event of the longer log. -/
theorem Settled.recorded_insert {state : KernelActivationState} (h : Settled state)
    {command : ActivationCommand} {event : RouteEvent} (hid : event.activationId = command.activationId)
    (id : String) (recorded : RecordedActivation)
    (hrec : (state.activationRecords.insert command.activationId ⟨command, event⟩)[id]? = some recorded) :
    recorded.event ∈ state.events ++ [event] ∧ recorded.command.activationId = id ∧
      recorded.event.activationId = id := by
  rw [FiniteMap.getElem?_insert] at hrec
  split at hrec
  · obtain rfl := Option.some.inj hrec
    subst id
    exact ⟨by simp, rfl, hid⟩
  · obtain ⟨hmem, hcommand, hevent⟩ := h.recorded id recorded hrec
    exact ⟨List.mem_append_left _ hmem, hcommand, hevent⟩

/-- After an event is recorded, every event of the longer log is a stored answer. -/
theorem Settled.answered_insert {state : KernelActivationState} (h : Settled state)
    {command : ActivationCommand} {event : RouteEvent} (hid : event.activationId = command.activationId)
    (hnew : state.activationRecords[command.activationId]? = none) (e : RouteEvent)
    (he : e ∈ state.events ++ [event]) :
    ∃ c, (state.activationRecords.insert command.activationId ⟨command, event⟩)[e.activationId]? =
      some ⟨c, e⟩ := by
  rcases List.mem_append.mp he with he | he
  · obtain ⟨c, hc⟩ := h.answered e he
    refine ⟨c, ?_⟩
    rw [FiniteMap.getElem?_insert_of_ne, hc]
    intro hsame
    simp [hsame, hnew] at hc
  · obtain rfl := List.mem_singleton.mp he
    exact ⟨command, by rw [hid, FiniteMap.getElem?_insert_self]⟩

/-- A stored answer stays when another activation id is recorded. -/
theorem Settled.record_kept {state : KernelActivationState} {command : ActivationCommand}
    {event : RouteEvent} (hnew : state.activationRecords[command.activationId]? = none) {id : String}
    {recorded : RecordedActivation} (hrec : state.activationRecords[id]? = some recorded) :
    (state.activationRecords.insert command.activationId ⟨command, event⟩)[id]? = some recorded := by
  rw [FiniteMap.getElem?_insert_of_ne, hrec]
  rintro rfl
  simp [hnew] at hrec

/-- Recording a refused command keeps a settled state settled. -/
theorem Settled.recordRejected {state : KernelActivationState} (h : Settled state)
    {command : ActivationCommand} {leaseNonce leaseDigest reason eventId : String}
    {now controlRevision : Nat} {event : RouteEvent} (happ : command.applicationId = state.applicationId)
    (hnew : state.activationRecords[command.activationId]? = none)
    (hevent : event = rejectedEvent D state command leaseNonce leaseDigest reason now controlRevision
      eventId) :
    Settled (state.recordEvent command event) := by
  have hid : event.activationId = command.activationId := by rw [hevent]; rfl
  have hout : event.leaseConsume.outcome = .rejected := by rw [hevent]; rfl
  have hcons : event.isConsumed = false := by simp [RouteEvent.isConsumed, hout]
  refine
    { no_intent := rfl
      log := ?_
      recorded := h.recorded_insert hid
      answered := h.answered_insert hid hnew
      nonces := h.nonces
      indexed := ?_
      consumed := ?_
      consumed_once := ?_ }
  · refine .rejected event h.log (?_ : event.applicationId = state.applicationId) ?_ hout ?_ ?_ ?_
    · rw [hevent]; exact happ
    all_goals rw [hevent]; rfl
  · intro nonce id hindex
    obtain ⟨recorded, hrec, hnonce⟩ := h.indexed nonce id hindex
    exact ⟨recorded, Settled.record_kept hnew hrec, hnonce⟩
  · intro e he hc
    rcases List.mem_append.mp he with he | he
    · exact h.consumed e he hc
    · obtain rfl := List.mem_singleton.mp he
      simp [hcons] at hc
  · simpa [KernelActivationState.recordEvent, List.filter_append, hcons] using h.consumed_once

/-- Committing an activation keeps a settled state settled. -/
theorem Settled.commit {state : KernelActivationState} (h : Settled state)
    {command : ActivationCommand} {lease : ServiceReadinessLeaseV2} {facts : ActivationCasFacts}
    {eventId : String} {identity : WasmVersionIdentity} {event : RouteEvent}
    (gates : ActivationGates D state command lease facts)
    (hnew : state.activationRecords[command.activationId]? = none)
    (hevent : event = activatedEvent D (casIntent state command lease facts eventId) identity) :
    Settled (state.commit D (casIntent state command lease facts eventId) event) := by
  have hid : event.activationId = command.activationId := by rw [hevent]; rfl
  have hout : event.leaseConsume.outcome = .consumed := by rw [hevent]; rfl
  have hnonce : event.leaseConsume.leaseNonce = lease.leaseNonce := by rw [hevent]; rfl
  have hgen : event.routeGeneration = state.routeGeneration + 1 := by
    rw [hevent, ← gates.generation]; rfl
  have hcons : event.isConsumed = true := by simp [RouteEvent.isConsumed, hout]
  have hindexnone := (h.nonces _).mp gates.nonce_fresh
  rw [KernelActivationState.commit_eq]
  refine
    { no_intent := rfl
      log := ?_
      recorded := h.recorded_insert hid
      answered := h.answered_insert hid hnew
      nonces := ?_
      indexed := ?_
      consumed := ?_
      consumed_once := ?_ }
  · rw [hgen]
    refine .activated event h.log (?_ : event.applicationId = state.applicationId) ?_ hout ?_ hgen
    · rw [hevent]; exact gates.application
    all_goals rw [hevent]; rfl
  · intro nonce
    simp only [FiniteMap.getElem?_insert]
    split
    · simp
    · exact h.nonces nonce
  · intro nonce id hindex
    rw [FiniteMap.getElem?_insert] at hindex
    split at hindex
    · rename_i hsame
      obtain rfl := Option.some.inj hindex
      exact ⟨_, FiniteMap.getElem?_insert_self _ _ _, hnonce.trans hsame.symm⟩
    · obtain ⟨recorded, hrec, hn⟩ := h.indexed nonce id hindex
      exact ⟨recorded, Settled.record_kept hnew hrec, hn⟩
  · intro e he hc
    simp only [FiniteMap.getElem?_insert]
    split
    · simp
    · rename_i hne
      rcases List.mem_append.mp he with he | he
      · exact h.consumed e he hc
      · obtain rfl := List.mem_singleton.mp he
        exact absurd hnonce hne
  · simp only [List.filter_append, List.filter_singleton, hcons, List.map_append, List.nodup_append]
    refine ⟨h.consumed_once, by simp, ?_⟩
    rintro n hn m hm rfl
    obtain ⟨e, he, rfl⟩ := List.mem_map.mp hn
    obtain ⟨he, hc⟩ := List.mem_filter.mp he
    have hsame : e.leaseConsume.leaseNonce = lease.leaseNonce := by
      simpa [hnonce] using hm
    exact h.consumed e he hc (hsame ▸ gates.nonce_fresh)

/-! ## Repair -/

/-- The event rebuilt from an intent is the event its commit would have written. -/
theorem rebuildActivatedEventFromPending_eq (pending : PendingActivationCas)
    {identity : WasmVersionIdentity} (h : candidateIdentity pending.command = .ok identity) :
    rebuildActivatedEventFromPending D pending = .ok (activatedEvent D pending identity) := by
  simp only [rebuildActivatedEventFromPending, h, bind, Except.bind, pure, Except.pure]
  rfl

/-- Repair takes a state torn after the consume marker back to where it was. -/
theorem repair_tornMarked {state : KernelActivationState} (h : Settled state)
    {command : ActivationCommand} {lease : ServiceReadinessLeaseV2} {facts : ActivationCasFacts}
    {eventId : String} (gates : ActivationGates D state command lease facts) :
    repairUncertainActivation D (state.tornMarked (casIntent state command lease facts eventId)) =
      (state, .ok .discardedPartialConsume) := by
  have hindex := (h.nonces _).mp gates.nonce_fresh
  -- The pointer still carries the generation the command expected.
  have hflip : pointerFlipped (state.tornMarked (casIntent state command lease facts eventId))
      (casIntent state command lease facts eventId) = false := by
    have hgen := gates.generation
    simp [pointerFlipped, KernelActivationState.tornMarked, KernelActivationState.consumeNonce,
      casIntent, ← hgen]
  have hconsumed : consumedByIntent (state.tornMarked (casIntent state command lease facts eventId))
      (casIntent state command lease facts eventId) = true := by
    simp [consumedByIntent, KernelActivationState.tornMarked, KernelActivationState.consumeNonce,
      casIntent]
  have hrestored : { state.tornMarked (casIntent state command lease facts eventId) with
      nonceLedger := (state.tornMarked (casIntent state command lease facts eventId)).nonceLedger.erase
        lease.leaseNonce
      nonceActivationIndex := (state.tornMarked (casIntent state command lease facts
        eventId)).nonceActivationIndex.erase lease.leaseNonce
      pending := none } = state := by
    have hnone := h.no_intent
    simp only [KernelActivationState.tornMarked, KernelActivationState.consumeNonce, casIntent,
      FiniteMap.erase_insert _ gates.nonce_fresh, FiniteMap.erase_insert _ hindex]
    cases state
    simp_all
  unfold repairUncertainActivation
  simp only [show (state.tornMarked (casIntent state command lease facts eventId)).pending =
    some (casIntent state command lease facts eventId) from rfl, hflip, hconsumed, if_true,
    Bool.false_eq_true, if_false]
  simp only [casIntent] at hrestored ⊢
  rw [hrestored]
  simp [repaired, h.verify, bind, Except.bind]

/-- Repair completes a state torn after the pointer flip as the commit would have. -/
theorem repair_tornFlipped {state : KernelActivationState} (h : Settled state)
    {command : ActivationCommand} {lease : ServiceReadinessLeaseV2} {facts : ActivationCasFacts}
    {eventId : String} {identity : WasmVersionIdentity} {event : RouteEvent}
    (gates : ActivationGates D state command lease facts)
    (hnamed : candidateIdentity command = .ok identity)
    (hnew : state.activationRecords[command.activationId]? = none)
    (hevent : event = activatedEvent D (casIntent state command lease facts eventId) identity) :
    repairUncertainActivation D (state.tornFlipped (casIntent state command lease facts eventId) event) =
      (state.commit D (casIntent state command lease facts eventId) event,
        .ok (.repairedEventFromPointerCas event)) := by
  have hverify := (h.commit D gates hnew hevent).verify
  have hflip : pointerFlipped (state.tornFlipped (casIntent state command lease facts eventId) event)
      (casIntent state command lease facts eventId) = true := by
    simp [pointerFlipped, KernelActivationState.tornFlipped, KernelActivationState.flipPointer, hevent,
      casIntent, activatedEvent, routeEventSealed, activatedPointer]
  have hrebuilt := rebuildActivatedEventFromPending_eq D (casIntent state command lease facts eventId)
    hnamed
  rw [← hevent] at hrebuilt
  unfold repairUncertainActivation
  simp only [show (state.tornFlipped (casIntent state command lease facts eventId) event).pending =
    some (casIntent state command lease facts eventId) from rfl, hflip, hrebuilt, if_true]
  change repaired (state.commit D (casIntent state command lease facts eventId) event) _ = _
  simp [repaired, hverify, bind, Except.bind]

end Iweb
