import Iweb.Activation.Ledger
import Iweb.Activation.Proofs.TransactionProofs

/-!
# The activation store refines its ledger

`Consistent` is the invariant of the ledger: every application settled, and one history whose events are
stamped `1, 2, …, revision` in order. `Holds` relates a durable store, torn or not, to the ledger that
recovery makes of it. Every call on the store keeps the relation, with an interrupted commit counted
completely or not at all.
-/

namespace Iweb

open Std (ExtTreeMap)
open CrashRefinement

variable (D : Digests)

/-! ## The ledger -/

/-- The invariant of a ledger. -/
structure Consistent (ledger : ActivationLedger) : Prop where
  revision_le : ledger.revision ≤ wasmU53Max
  application : ∀ applicationId, (ledger.state applicationId).applicationId = applicationId
  settled : ∀ applicationId, Settled (ledger.state applicationId)
  /-- All events in the order of their commits, stamped with consecutive revisions. -/
  history : ∃ history : List RouteEvent,
    history.map RouteEvent.controlRevision = List.range' 1 ledger.revision ∧
      ∀ applicationId, (ledger.state applicationId).events =
        history.filter fun event => event.applicationId == applicationId

theorem Consistent.empty : Consistent .empty where
  revision_le := by decide
  application _ := rfl
  settled := Settled.fresh
  history := ⟨[], rfl, fun _ => rfl⟩

/-- Recording a state whose log is one stamped event longer keeps the ledger consistent. -/
theorem Consistent.record {ledger : ActivationLedger} (h : Consistent ledger)
    (hspace : ledger.revision < wasmU53Max) {state : KernelActivationState} {event : RouteEvent}
    (hsettled : Settled state)
    (hevents : state.events = (ledger.state state.applicationId).events ++ [event])
    (happ : event.applicationId = state.applicationId)
    (hstamp : event.controlRevision = ledger.revision + 1) : Consistent (ledger.record state) := by
  obtain ⟨history, hstamps, hfilter⟩ := h.history
  refine
    { revision_le := hspace
      application := fun applicationId => ?_
      settled := fun applicationId => ?_
      history := ⟨history ++ [event], ?_, fun applicationId => ?_⟩ }
  · by_cases hsame : applicationId = state.applicationId
    · subst hsame; simp [ActivationLedger.record]
    · simp [ActivationLedger.record, Function.update_of_ne hsame, h.application]
  · by_cases hsame : applicationId = state.applicationId
    · subst hsame; simpa [ActivationLedger.record] using hsettled
    · simpa [ActivationLedger.record, Function.update_of_ne hsame] using h.settled applicationId
  · simp [ActivationLedger.record, hstamps, hstamp, List.range'_concat, Nat.add_comm]
  · by_cases hsame : applicationId = state.applicationId
    · subst hsame
      simp [ActivationLedger.record, hevents, hfilter, List.filter_append, happ]
    · have hother : (event.applicationId == applicationId) = false := by
        rw [happ]; simpa using fun heq => hsame heq.symm
      simp [ActivationLedger.record, Function.update_of_ne hsame, hfilter, List.filter_append, hother]

/-- What a transaction does to the state of an application at revision `revision`. It repeats an answer
it has stored, or one whose nonce it finds `spent`. -/
inductive TransactionEffect (before : KernelActivationState) (command : ActivationCommand)
    (revision : Nat) (spent : Prop) : Outcome RouteEvent → Prop
  | failed (state : KernelActivationState) (e : KernelError) :
      TransactionEffect before command revision spent (state, .error e)
  | repeated (event : RouteEvent)
      (reason : before.activationRecords[command.activationId]? = some ⟨command, event⟩ ∨
        before.activationRecords[command.activationId]? = none ∧ spent) :
      TransactionEffect before command revision spent (before, .ok event)
  | appended (state : KernelActivationState) (event : RouteEvent)
      (valid : command.validate D = .ok ()) (settled : Settled state)
      (application : state.applicationId = before.applicationId)
      (new : before.activationRecords[command.activationId]? = none)
      (records : state.activationRecords =
        before.activationRecords.insert command.activationId ⟨command, event⟩)
      (events : state.events = before.events ++ [event])
      (owner : event.applicationId = state.applicationId)
      (stamp : event.controlRevision = revision + 1) :
      TransactionEffect before command revision spent (state, .ok event)

/-- A valid command names an application by its grammar. -/
theorem isApplicationId_of_valid {command : ActivationCommand} (h : command.validate D = .ok ()) :
    isApplicationId command.applicationId = true := by
  simp only [ActivationCommand.validate, bind_eq_ok] at h
  obtain ⟨_, _, _, _, _, happ, _⟩ := h
  simpa [checkApplicationId, activationCheck] using happ

/-- A crash-free transaction on a settled state appends one stamped event or nothing. -/
theorem ApplyStep.effect {before : KernelActivationState} (h : Settled before)
    {command : ActivationCommand} (happ : command.applicationId = before.applicationId)
    {lease : ServiceReadinessLeaseV2} {facts : ActivationCasFacts} {eventId : String} {revision : Nat}
    (hstamp : facts.controlRevision = revision + 1) {outcome : Outcome RouteEvent}
    (step : ApplyStep D before command lease facts eventId none outcome) :
    TransactionEffect D before command revision (NonceSpent D before command lease facts) outcome := by
  cases step with
  | failed e => exact .failed before e
  | answered event recorded => exact .repeated event (.inl recorded)
  | alreadyConsumed originalId original new spent => exact .repeated original.event (.inr ⟨new, spent⟩)
  | rejected reason event valid new sealed =>
    refine .appended _ event valid (h.recordRejected D happ new sealed) rfl new rfl rfl ?_ ?_
    · rw [sealed]; exact happ
    · rw [sealed]; exact hstamp
  | activated identity event gates named new sealed =>
    have hcommit := h.commit D gates new sealed
    rw [KernelActivationState.commit_eq] at hcommit ⊢
    refine .appended _ event gates.command_valid hcommit rfl new rfl rfl ?_ ?_
    · rw [sealed]; exact happ
    · rw [sealed]; exact hstamp

/-- The same for a command without a lease. -/
theorem applyActivationWithoutLease_effect {before : KernelActivationState} (h : Settled before)
    {command : ActivationCommand} (happ : command.applicationId = before.applicationId)
    (now revision : Nat) (eventId : String) :
    TransactionEffect D before command revision False
      (applyActivationWithoutLease D before command now (revision + 1) eventId) := by
  rcases applyActivationWithoutLease_cases D h.no_intent command now (revision + 1) eventId with
    ⟨e, he⟩ | ⟨event, recorded, he⟩ | ⟨valid, new, event, sealed, he⟩
  · rw [he]; exact .failed before e
  · rw [he]; exact .repeated event (.inl recorded)
  · rw [he]
    refine .appended _ event valid (h.recordRejected D happ new sealed) rfl new rfl rfl ?_ ?_
    · rw [sealed]; exact happ
    · rw [sealed]; rfl

/-- Settling a transaction keeps the ledger consistent. -/
theorem Consistent.settle {ledger : ActivationLedger} (h : Consistent ledger)
    (hspace : ledger.revision < wasmU53Max) {command : ActivationCommand} {spent : Prop}
    {outcome : Outcome RouteEvent}
    (effect : TransactionEffect D (ledger.state command.applicationId) command ledger.revision spent
      outcome) :
    Consistent (ledger.settle (ledger.state command.applicationId) outcome) := by
  cases effect with
  | failed state e => exact h
  | repeated event => simpa [ActivationLedger.settle] using h
  | appended state event valid settled application new records events owner stamp =>
    simp only [ActivationLedger.settle]
    split
    · exact h
    · refine h.record hspace settled ?_ owner stamp
      rwa [application, h.application]

/-- Every whole call keeps the ledger consistent. -/
theorem Consistent.spec {ledger : ActivationLedger} (h : Consistent ledger) (op : StoreOp) :
    Consistent (op.spec D ledger) := by
  cases op with
  | commit command lease facts eventId crash =>
    simp only [StoreOp.spec]
    split
    · exact h
    · rename_i hspace
      have hstep := applyActivation_step D (h.settled command.applicationId).no_intent command lease
        { facts with controlRevision := ledger.revision + 1 } eventId none
      exact h.settle D (by omega)
        (hstep.effect D (h.settled _) (h.application _).symm rfl)
  | missingLease command now eventId =>
    simp only [StoreOp.spec]
    split
    · exact h
    · rename_i hspace
      exact h.settle D (by omega)
        (applyActivationWithoutLease_effect D (h.settled _) (h.application _).symm now _ eventId)
  | recover => exact h

/-- Every history of whole calls leads to a consistent ledger. -/
theorem activationLedger_consistent (ops : List StoreOp) : Consistent (activationLedger D ops) := by
  unfold activationLedger
  exact run_invariant (P := Consistent) (fun _ op h => h.spec D op) ops .empty

/-! ## Files and stores -/

/-- A settled file holds the ledger. -/
structure Represents (file : WasmActivationStateFileV1) (ledger : ActivationLedger) : Prop where
  schema : file.schemaVersion = 1
  kind : file.runtimeKind = "wasm"
  revision : file.controlRevision = ledger.revision
  state : ∀ applicationId, file.stateOf applicationId = ledger.state applicationId

theorem Represents.empty : Represents .empty .empty where
  schema := rfl
  kind := rfl
  revision := rfl
  state applicationId := by
    simp [WasmActivationStateFileV1.stateOf, WasmActivationStateFileV1.empty, ActivationLedger.empty]

/-- Two files that hold one ledger hold the same activations. -/
theorem Represents.same {file file' : WasmActivationStateFileV1} {ledger : ActivationLedger}
    (h : Represents file ledger) (h' : Represents file' ledger) : SameActivations file file' :=
  ⟨h.revision.trans h'.revision.symm, fun applicationId =>
    (h.state applicationId).trans (h'.state applicationId).symm⟩

/-- An entry of a settled file is the state the ledger has for it. -/
theorem Represents.entry {file : WasmActivationStateFileV1} {ledger : ActivationLedger}
    (h : Represents file ledger) {applicationId : String} {state : KernelActivationState}
    (he : file.applications[applicationId]? = some state) : ledger.state applicationId = state := by
  rw [← h.state, WasmActivationStateFileV1.stateOf, he, Option.getD_some]

/-- Writing the state of one application back at a revision. -/
theorem Represents.persist {file : WasmActivationStateFileV1} {ledger : ActivationLedger}
    (h : Represents file ledger) (state : KernelActivationState) :
    Represents (file.persistState state.applicationId state (file.controlRevision + 1))
      (ledger.record state) where
  schema := h.schema
  kind := h.kind
  revision := by
    simp [WasmActivationStateFileV1.persistState, ActivationLedger.record, h.revision]
  state applicationId := by
    simp only [WasmActivationStateFileV1.stateOf, WasmActivationStateFileV1.persistState,
      ActivationLedger.record, FiniteMap.getElem?_insert]
    split
    · rename_i hsame
      subst hsame
      simp
    · rename_i hsame
      rw [Function.update_of_ne hsame]
      exact h.state applicationId

/-- Writing back the state an application has changes nothing. -/
theorem Represents.persist_same {file : WasmActivationStateFileV1} {ledger : ActivationLedger}
    (h : Represents file ledger) (applicationId : String) :
    Represents (file.persistState applicationId (ledger.state applicationId) file.controlRevision)
      ledger where
  schema := h.schema
  kind := h.kind
  revision := h.revision
  state other := by
    simp only [WasmActivationStateFileV1.stateOf, WasmActivationStateFileV1.persistState,
      FiniteMap.getElem?_insert]
    split
    · rename_i hsame
      rw [hsame, Option.getD_some]
    · exact h.state other

/-- A durable store and the ledger that recovery makes of it. -/
inductive Holds : WasmActivationStore → ActivationLedger → Prop
  | absent : Holds none .empty
  | settled {file ledger} (h : Represents file ledger) : Holds (some file) ledger
  /-- Torn after the consume marker: the interrupted command did not happen. -/
  | marked {file ledger} (h : Represents file ledger) (command : ActivationCommand)
      (lease : ServiceReadinessLeaseV2) (facts : ActivationCasFacts) (eventId : String)
      (gates : ActivationGates D (ledger.state command.applicationId) command lease facts) :
      Holds (some (file.persistState command.applicationId
        ((ledger.state command.applicationId).tornMarked
          (casIntent (ledger.state command.applicationId) command lease facts eventId))
        file.controlRevision)) ledger
  /-- Torn after the pointer flip: the interrupted command happened. -/
  | flipped {file ledger} (h : Represents file ledger) (command : ActivationCommand)
      (lease : ServiceReadinessLeaseV2) (facts : ActivationCasFacts) (eventId : String)
      (identity : WasmVersionIdentity) (event : RouteEvent)
      (space : ledger.revision < wasmU53Max)
      (gates : ActivationGates D (ledger.state command.applicationId) command lease facts)
      (named : candidateIdentity command = .ok identity)
      (new : (ledger.state command.applicationId).activationRecords[command.activationId]? = none)
      (sealed : event = activatedEvent D
        (casIntent (ledger.state command.applicationId) command lease facts eventId) identity)
      (base : Consistent ledger) :
      Holds (some (file.persistState command.applicationId
        ((ledger.state command.applicationId).tornFlipped
          (casIntent (ledger.state command.applicationId) command lease facts eventId) event)
        file.controlRevision))
        (ledger.record ((ledger.state command.applicationId).commit D
          (casIntent (ledger.state command.applicationId) command lease facts eventId) event))

/-! ## Recovery -/

/-- An application without an intent is left alone. -/
theorem recoverApplication_settled {file : WasmActivationStateFileV1} {changed : Bool}
    {applicationId : String}
    (h : ∀ state : KernelActivationState, file.applications[applicationId]? = some state →
      state.pending = none) :
    recoverApplication D (file, changed) applicationId = .ok (file, changed) := by
  cases he : file.applications[applicationId]? with
  | none => simp [recoverApplication, he]
  | some state => simp [recoverApplication, he, h state he]

/-- Recovery of a file in which at most one application has an intent. -/
theorem recoverFile_of {file file' : WasmActivationStateFileV1} {changed : Bool} (applicationId : String)
    (hmem : ∃ state, file.applications[applicationId]? = some state)
    (hothers : ∀ (other : String) (state : KernelActivationState), other ≠ applicationId →
      file.applications[other]? = some state → state.pending = none)
    (hone : recoverApplication D (file, false) applicationId = .ok (file', changed))
    (hdone : ∀ (other : String) (state : KernelActivationState),
      file'.applications[other]? = some state → state.pending = none) :
    recoverFile D file = .ok (file', changed) := by
  have hrest (keys : List String) :
      keys.foldlM (recoverApplication D) (file', changed) = .ok (file', changed) := by
    induction keys with
    | nil => rfl
    | cons key keys ih =>
      rw [List.foldlM_cons, recoverApplication_settled D (hdone key)]
      exact ih
  have hkey : applicationId ∈ file.applications.keys := FiniteMap.mem_keys.mpr hmem
  unfold recoverFile
  generalize file.applications.keys = keys at hkey
  induction keys with
  | nil => simp at hkey
  | cons key keys ih =>
    rw [List.foldlM_cons]
    by_cases hsame : key = applicationId
    · rw [hsame, hone]
      exact hrest keys
    · rw [recoverApplication_settled D (fun state => hothers key state hsame)]
      exact ih ((List.mem_cons.mp hkey).resolve_left fun heq => hsame heq.symm)

/-- Recovery of a file without intents. -/
theorem recoverFile_settled {file : WasmActivationStateFileV1}
    (h : ∀ (applicationId : String) (state : KernelActivationState),
      file.applications[applicationId]? = some state → state.pending = none) :
    recoverFile D file = .ok (file, false) := by
  unfold recoverFile
  generalize file.applications.keys = keys
  induction keys with
  | nil => rfl
  | cons key keys ih =>
    rw [List.foldlM_cons, recoverApplication_settled D (h key)]
    exact ih

/-- A settled store that holds a ledger. -/
def HoldsSettled (store : WasmActivationStore) (file : WasmActivationStateFileV1)
    (ledger : ActivationLedger) : Prop :=
  Represents file ledger ∧ store.load = .ok file ∧ (store = some file ∨ store = none ∧ ledger = .empty)

theorem HoldsSettled.holds {store : WasmActivationStore} {file : WasmActivationStateFileV1}
    {ledger : ActivationLedger} (h : HoldsSettled store file ledger) : Holds D store ledger := by
  obtain ⟨hrep, -, rfl | ⟨rfl, rfl⟩⟩ := h
  · exact .settled hrep
  · exact .absent

/-- A file with the header of a settled file loads. -/
theorem Represents.load_header {file torn : WasmActivationStateFileV1} {ledger : ActivationLedger}
    (h : Represents file ledger) (hc : Consistent ledger) (hschema : torn.schemaVersion = file.schemaVersion)
    (hkind : torn.runtimeKind = file.runtimeKind)
    (hrevision : torn.controlRevision = file.controlRevision) :
    WasmActivationStore.load (some torn) = .ok torn := by
  simp [WasmActivationStore.load, require, hschema, h.schema, hkind, h.kind, hrevision, h.revision,
    hc.revision_le, bind, Except.bind, pure, Except.pure]

theorem Represents.load {file : WasmActivationStateFileV1} {ledger : ActivationLedger}
    (h : Represents file ledger) (hc : Consistent ledger) :
    WasmActivationStore.load (some file) = .ok file := h.load_header hc rfl rfl rfl

/-- The applications of a settled file have no intent. -/
theorem Represents.no_intent {file : WasmActivationStateFileV1} {ledger : ActivationLedger}
    (h : Represents file ledger) (hc : Consistent ledger) (applicationId : String)
    (state : KernelActivationState) (he : file.applications[applicationId]? = some state) :
    state.pending = none := by
  rw [← h.entry he]
  exact (hc.settled applicationId).no_intent

/-- Recovery of a file in which one state is torn: the repaired state replaces it. -/
theorem recoverFile_torn {file : WasmActivationStateFileV1} {ledger : ActivationLedger}
    (h : Represents file ledger) (hc : Consistent ledger) {applicationId : String}
    {torn repaired : KernelActivationState} {outcome : ActivationRepairOutcome} {revision : Nat}
    (htorn : torn.pending.isSome) (hrepaired : repaired.pending = none)
    (hrepair : repairUncertainActivation D torn = (repaired, .ok outcome))
    (houtcome : outcome = .discardedPartialConsume ∧ revision = file.controlRevision ∨
      (∃ event, outcome = .repairedEventFromPointerCas event) ∧ file.controlRevision < wasmU53Max ∧
        revision = file.controlRevision + 1) :
    recoverFile D (file.persistState applicationId torn file.controlRevision) =
      .ok (file.persistState applicationId repaired revision, true) := by
  have hentry : (file.persistState applicationId torn file.controlRevision).applications[applicationId]? =
      some torn := FiniteMap.getElem?_insert_self _ _ _
  have hsome : torn.pending.isNone = false := by
    cases hp : torn.pending <;> simp_all
  refine recoverFile_of D applicationId ⟨torn, hentry⟩ ?_ ?_ ?_
  · intro other state hne he
    refine h.no_intent hc other state ?_
    rwa [WasmActivationStateFileV1.persistState, FiniteMap.getElem?_insert_of_ne _ _ hne] at he
  · simp only [recoverApplication, hentry, hsome, hrepair, bind, Except.bind, Bool.false_eq_true,
      if_false]
    rcases houtcome with ⟨rfl, rfl⟩ | ⟨⟨event, rfl⟩, hspace, rfl⟩
    · simp [WasmActivationStateFileV1.persistState, FiniteMap.insert_insert, pure, Except.pure]
    · simp [WasmActivationStateFileV1.persistState, FiniteMap.insert_insert, pure, Except.pure,
        checkRevisionSpace, require, hspace]
  · intro other state he
    simp only [WasmActivationStateFileV1.persistState, FiniteMap.getElem?_insert] at he
    split at he
    · obtain rfl := Option.some.inj he
      exact hrepaired
    · exact h.no_intent hc other state he

/-- Recovery turns every store into a settled one that holds the same ledger. -/
theorem Holds.loadRecovered {store : WasmActivationStore} {ledger : ActivationLedger}
    (h : Holds D store ledger) (hc : Consistent ledger) :
    ∃ store' file, store.loadRecovered D = .ok (store', file) ∧ (store.recover D).1 = store' ∧
      HoldsSettled store' file ledger := by
  -- A load followed by a recovery that changed the file leaves the changed file.
  have hchanged {torn file : WasmActivationStateFileV1}
      (hload : WasmActivationStore.load (some torn) = .ok torn)
      (hrec : recoverFile D torn = .ok (file, true)) (hrep : Represents file ledger) :
      ∃ store' file, WasmActivationStore.loadRecovered D (some torn) = .ok (store', file) ∧
        (WasmActivationStore.recover D (some torn)).1 = store' ∧ HoldsSettled store' file ledger :=
    ⟨some file, file, by
      simp [WasmActivationStore.loadRecovered, hload, hrec, bind, Except.bind, pure, Except.pure], by
      simp [WasmActivationStore.recover, hload, hrec, bind, Except.bind],
      hrep, hrep.load hc, .inl rfl⟩
  cases h with
  | absent =>
    have hrec : recoverFile D .empty = .ok (.empty, false) :=
      recoverFile_settled D fun applicationId state he => by
        simp [WasmActivationStateFileV1.empty] at he
    exact ⟨none, .empty, by
      simp [WasmActivationStore.loadRecovered, WasmActivationStore.load, hrec, bind, Except.bind, pure,
        Except.pure], by
      simp [WasmActivationStore.recover, WasmActivationStore.load, hrec, bind, Except.bind],
      Represents.empty, rfl, .inr ⟨rfl, rfl⟩⟩
  | @settled file _ h =>
    have hrec := recoverFile_settled D (h.no_intent hc)
    have hload := h.load hc
    exact ⟨some file, file, by
      simp [WasmActivationStore.loadRecovered, hload, hrec, bind, Except.bind, pure, Except.pure], by
      simp [WasmActivationStore.recover, hload, hrec, bind, Except.bind], h, hload, .inl rfl⟩
  | @marked file _ h command lease facts eventId gates =>
    have hsettled := hc.settled command.applicationId
    refine hchanged (h.load_header hc rfl rfl rfl) (recoverFile_torn D h hc rfl hsettled.no_intent
      (repair_tornMarked D hsettled gates) (.inl ⟨rfl, rfl⟩)) (h.persist_same _)
  | @flipped file base h command lease facts eventId identity event space gates named new sealed hbase =>
    have hsettled := hbase.settled command.applicationId
    have hcommit := hsettled.commit D gates new sealed
    have happ : ((base.state command.applicationId).commit D
        (casIntent (base.state command.applicationId) command lease facts eventId) event).applicationId =
          command.applicationId := by
      rw [KernelActivationState.commit_eq]
      exact hbase.application _
    have hpersist := h.persist ((base.state command.applicationId).commit D
      (casIntent (base.state command.applicationId) command lease facts eventId) event)
    rw [happ] at hpersist
    refine hchanged (h.load_header hbase rfl rfl rfl) (recoverFile_torn D h hbase rfl hcommit.no_intent
      (repair_tornFlipped D hsettled gates named new sealed)
      (.inr ⟨⟨event, rfl⟩, h.revision ▸ space, rfl⟩)) hpersist

/-- Recovery of a settled store changes nothing. -/
theorem HoldsSettled.loadRecovered_eq {store : WasmActivationStore} {file : WasmActivationStateFileV1}
    {ledger : ActivationLedger} (h : HoldsSettled store file ledger) (hc : Consistent ledger) :
    store.loadRecovered D = .ok (store, file) := by
  have hrec := recoverFile_settled D (h.1.no_intent hc)
  simp [WasmActivationStore.loadRecovered, h.2.1, hrec, bind, Except.bind, pure, Except.pure]

/-! ## The calls -/

/-- The state a commit starts from is the ledger's, unless the application id is malformed. -/
theorem Represents.stateFor {file : WasmActivationStateFileV1} {ledger : ActivationLedger}
    (h : Represents file ledger) (applicationId : String) :
    ((∃ e, file.stateFor applicationId = .error e) ∧ isApplicationId applicationId = false) ∨
      file.stateFor applicationId = .ok (ledger.state applicationId) := by
  cases he : file.applications[applicationId]? with
  | some state => exact .inr (by simp [WasmActivationStateFileV1.stateFor, he, h.entry he])
  | none =>
    have hfresh : ledger.state applicationId = .fresh applicationId := by
      rw [← h.state, WasmActivationStateFileV1.stateOf, he, Option.getD_none]
    cases hid : isApplicationId applicationId with
    | true =>
      exact .inr (by
        simp [WasmActivationStateFileV1.stateFor, he, hfresh, KernelActivationState.new,
          checkApplicationId, activationCheck, hid, require, bind, Except.bind, pure, Except.pure])
    | false =>
      refine .inl ⟨?_, rfl⟩
      simp [WasmActivationStateFileV1.stateFor, he, KernelActivationState.new, checkApplicationId,
        activationCheck, hid, require, bind, Except.bind]

/-- The store after a transaction that ended without a crash. -/
def settledStore (store : WasmActivationStore) (file : WasmActivationStateFileV1) (applicationId : String)
    (before : KernelActivationState) (outcome : Outcome RouteEvent) : WasmActivationStore :=
  match outcome with
  | (_, .error _) => store
  | (state, .ok _) =>
    if state ≠ before then some (file.persistState applicationId state (file.controlRevision + 1))
    else store

/-- A transaction that ended without a crash takes the ledger along. -/
theorem HoldsSettled.settle {store : WasmActivationStore} {file : WasmActivationStateFileV1}
    {ledger : ActivationLedger} (h : HoldsSettled store file ledger) (hc : Consistent ledger)
    (hspace : ledger.revision < wasmU53Max) {command : ActivationCommand} {spent : Prop}
    {outcome : Outcome RouteEvent}
    (effect : TransactionEffect D (ledger.state command.applicationId) command ledger.revision spent
      outcome) :
    ∃ file', HoldsSettled
      (settledStore store file command.applicationId (ledger.state command.applicationId) outcome) file'
      (ledger.settle (ledger.state command.applicationId) outcome) := by
  have hsettled := hc.settle D hspace effect
  cases effect with
  | failed state e => exact ⟨file, h⟩
  | repeated event reason => exact ⟨file, by simpa [settledStore, ActivationLedger.settle] using h⟩
  | appended state event valid settled application new records events owner stamp =>
    simp only [settledStore, ActivationLedger.settle, ne_eq, ite_not] at hsettled ⊢
    split
    · exact ⟨file, h⟩
    · rename_i hne
      rw [if_neg hne] at hsettled
      have hrep := h.1.persist state
      rw [application.trans (hc.application _)] at hrep
      exact ⟨_, hrep, hrep.load hsettled, .inl rfl⟩

/-- A commit on a settled store: how the call ends is how the transaction ends. -/
theorem commitActivation_cases {store : WasmActivationStore} {ledger : ActivationLedger}
    (h : Holds D store ledger) (hc : Consistent ledger) (command : ActivationCommand)
    (lease : ServiceReadinessLeaseV2) (facts : ActivationCasFacts) (eventId : String) :
    (∃ store' file, HoldsSettled store' file ledger ∧ ∀ crash,
      (store.commitActivation D command lease facts eventId crash).1 = store' ∧
        StoreOp.spec D ledger (.commit command lease facts eventId crash) = ledger) ∨
    ∃ store' file, HoldsSettled store' file ledger ∧ ledger.revision < wasmU53Max ∧ ∀ crash,
      (store.commitActivation D command lease facts eventId crash).1 =
        match applyActivation D (ledger.state command.applicationId) command lease
          { facts with controlRevision := ledger.revision + 1 } eventId crash with
        | (state, .error failure) =>
          if failure.code = wasmActivationSimulatedCrash then
            some (file.persistState command.applicationId state file.controlRevision)
          else store'
        | (state, .ok event) => settledStore store' file command.applicationId
            (ledger.state command.applicationId) (state, .ok event) := by
  obtain ⟨store', file, hload, -, hsettled⟩ := h.loadRecovered D hc
  have hrevision := hsettled.1.revision
  by_cases hspace : ledger.revision < wasmU53Max
  · have hcheck : checkRevisionSpace file = .ok () := by
      simp [checkRevisionSpace, require, hrevision, hspace]
    rcases hsettled.1.stateFor command.applicationId with ⟨⟨e, he⟩, hid⟩ | hstate
    · refine .inl ⟨store', file, hsettled, fun crash => ⟨?_, ?_⟩⟩
      · simp [WasmActivationStore.commitActivation, hload, hcheck, he, bind, Except.bind]
      -- No transaction appends anything under a malformed application id.
      · have heffect := (applyActivation_step D (hc.settled command.applicationId).no_intent command
          lease { facts with controlRevision := ledger.revision + 1 } eventId none).effect D
          (hc.settled _) (hc.application _).symm rfl
        simp only [StoreOp.spec, if_neg (Nat.not_le.mpr hspace)]
        generalize applyActivation D (ledger.state command.applicationId) command lease
          { facts with controlRevision := ledger.revision + 1 } eventId none = outcome at heffect
        cases heffect with
        | failed state e => rfl
        | repeated event => simp [ActivationLedger.settle]
        | appended state event valid => simp [isApplicationId_of_valid D valid] at hid
    · refine .inr ⟨store', file, hsettled, hspace, fun crash => ?_⟩
      simp only [WasmActivationStore.commitActivation, hload, hcheck, hstate, bind, Except.bind,
        hrevision]
      rcases applyActivation D (ledger.state command.applicationId) command lease
        { facts with controlRevision := ledger.revision + 1 } eventId crash with ⟨state, e | event⟩
      · dsimp only
        split <;> rfl
      · simp only [settledStore, hrevision]
        split <;> rfl
  · refine .inl ⟨store', file, hsettled, fun crash => ⟨?_, ?_⟩⟩
    · simp [WasmActivationStore.commitActivation, hload, checkRevisionSpace, require, hrevision, hspace,
        bind, Except.bind]
    · simp [StoreOp.spec, Nat.not_lt.mp hspace]

/-- A whole commit takes the ledger along and leaves a settled store. -/
theorem commit_refines {store : WasmActivationStore} {ledger : ActivationLedger}
    (h : Holds D store ledger) (hc : Consistent ledger) (command : ActivationCommand)
    (lease : ServiceReadinessLeaseV2) (facts : ActivationCasFacts) (eventId : String) :
    ∃ file, HoldsSettled (StoreOp.run D store (.commit command lease facts eventId none)) file
      (StoreOp.spec D ledger (.commit command lease facts eventId none)) := by
  rcases commitActivation_cases D h hc command lease facts eventId with
    ⟨store', file, hsettled, hrun⟩ | ⟨store', file, hsettled, hspace, hrun⟩
  · obtain ⟨hstore, hspec⟩ := hrun none
    exact ⟨file, by rw [StoreOp.run, hstore, hspec]; exact hsettled⟩
  · have hstep := applyActivation_step D (hc.settled command.applicationId).no_intent command lease
      { facts with controlRevision := ledger.revision + 1 } eventId none
    have heffect := hstep.effect D (hc.settled _) (hc.application _).symm rfl
    obtain ⟨file', hfile'⟩ := hsettled.settle D hc hspace heffect
    refine ⟨file', ?_⟩
    rw [StoreOp.run, hrun none, StoreOp.spec, if_neg (Nat.not_le.mpr hspace)]
    -- Without an injected crash the transaction reports none.
    have hnocrash : ∀ state e, applyActivation D (ledger.state command.applicationId) command lease
        { facts with controlRevision := ledger.revision + 1 } eventId none = (state, .error e) →
        LeavesNoTrace e := by
      intro state e he
      rw [he] at hstep
      cases hstep with
      | failed _ hcode => exact hcode
    revert hfile' hnocrash
    rcases applyActivation D (ledger.state command.applicationId) command lease
      { facts with controlRevision := ledger.revision + 1 } eventId none with ⟨state, e | event⟩
    · intro hfile' hnocrash
      dsimp only
      rw [if_neg (hnocrash state e rfl)]
      exact hfile'
    · exact fun hfile' _ => hfile'

/-- An interrupted commit leaves the ledger as it was, or takes it along as the whole commit would. -/
theorem commit_interrupted {store : WasmActivationStore} {ledger : ActivationLedger}
    (h : Holds D store ledger) (hc : Consistent ledger) (command : ActivationCommand)
    (lease : ServiceReadinessLeaseV2) (facts : ActivationCasFacts) (eventId : String)
    (point : ActivationCrashPoint) :
    Holds D (StoreOp.run D store (.commit command lease facts eventId (some point))) ledger ∨
      Holds D (StoreOp.run D store (.commit command lease facts eventId (some point)))
        (StoreOp.spec D ledger (.commit command lease facts eventId none)) := by
  rcases commitActivation_cases D h hc command lease facts eventId with
    ⟨store', file, hsettled, hrun⟩ | ⟨store', file, hsettled, hspace, hrun⟩
  · left
    rw [StoreOp.run, (hrun (some point)).1]
    exact hsettled.holds D
  · rcases applyActivation_interrupted D (hc.settled command.applicationId).no_intent command lease
      { facts with controlRevision := ledger.revision + 1 } eventId point with
      hsame | ⟨identity, event, e, gates, named, new, sealed, code, hwhole, htorn⟩
    -- The transaction does not reach the crash point: the call is the whole one.
    · right
      obtain ⟨file', hfile'⟩ := commit_refines D h hc command lease facts eventId
      rw [StoreOp.run, hrun none] at hfile'
      rw [StoreOp.run, hrun (some point), hsame]
      exact hfile'.holds D
    · rcases htorn with htorn | htorn
      · left
        rw [StoreOp.run, hrun (some point), htorn]
        simp only [code, if_true]
        exact .marked hsettled.1 command lease _ eventId gates
      · right
        have hne : (ledger.state command.applicationId).commit D
            (casIntent (ledger.state command.applicationId) command lease
              { facts with controlRevision := ledger.revision + 1 } eventId) event ≠
            ledger.state command.applicationId := by
          intro heq
          have hrecord := congrArg (fun s => s.activationRecords[command.activationId]?) heq
          simp [KernelActivationState.commit_eq, casIntent, new] at hrecord
        rw [StoreOp.run, hrun (some point), htorn, StoreOp.spec, if_neg (Nat.not_le.mpr hspace), hwhole]
        simp only [code, if_true, ActivationLedger.settle, if_neg hne]
        exact .flipped hsettled.1 command lease _ eventId identity event hspace gates named new sealed hc

/-- The rejection of a command without a lease takes the ledger along. -/
theorem missingLease_refines {store : WasmActivationStore} {ledger : ActivationLedger}
    (h : Holds D store ledger) (hc : Consistent ledger) (command : ActivationCommand) (now : Nat)
    (eventId : String) :
    ∃ file, HoldsSettled (StoreOp.run D store (.missingLease command now eventId)) file
      (StoreOp.spec D ledger (.missingLease command now eventId)) := by
  obtain ⟨store', file, hload, -, hsettled⟩ := h.loadRecovered D hc
  have hrevision := hsettled.1.revision
  have heffect := applyActivationWithoutLease_effect D (hc.settled command.applicationId)
    (hc.application _).symm now ledger.revision eventId
  by_cases hspace : ledger.revision < wasmU53Max
  · have hcheck : checkRevisionSpace file = .ok () := by
      simp [checkRevisionSpace, require, hrevision, hspace]
    simp only [StoreOp.run, StoreOp.spec, if_neg (Nat.not_le.mpr hspace)]
    rcases hsettled.1.stateFor command.applicationId with ⟨⟨e, he⟩, hid⟩ | hstate
    · refine ⟨file, ?_⟩
      have hledger : ledger.settle (ledger.state command.applicationId) (applyActivationWithoutLease D
          (ledger.state command.applicationId) command now (ledger.revision + 1) eventId) = ledger := by
        generalize applyActivationWithoutLease D (ledger.state command.applicationId) command now
          (ledger.revision + 1) eventId = outcome at heffect
        cases heffect with
        | failed state e => rfl
        | repeated event => simp [ActivationLedger.settle]
        | appended state event valid => simp [isApplicationId_of_valid D valid] at hid
      rw [hledger]
      simpa [WasmActivationStore.commitMissingLeaseRejection, hload, hcheck, he, bind, Except.bind]
        using hsettled
    · obtain ⟨file', hfile'⟩ := hsettled.settle D hc hspace heffect
      refine ⟨file', ?_⟩
      simp only [WasmActivationStore.commitMissingLeaseRejection, hload, hcheck, hstate, bind,
        Except.bind, hrevision]
      revert hfile'
      rcases applyActivationWithoutLease D (ledger.state command.applicationId) command now
        (ledger.revision + 1) eventId with ⟨state, e | event⟩
      · exact fun hfile' => hfile'
      · simp only [settledStore, hrevision]
        intro hfile'
        by_cases hstate' : state = ledger.state command.applicationId
        · simpa [hstate'] using hfile'
        · simpa [hstate'] using hfile'
  · refine ⟨file, ?_⟩
    simpa [StoreOp.run, StoreOp.spec, Nat.not_lt.mp hspace, checkRevisionSpace, require, hrevision,
      hspace, WasmActivationStore.commitMissingLeaseRejection, hload, bind, Except.bind] using hsettled

/-- A crash-free call takes the ledger along and leaves a settled store. -/
theorem StoreOp.refines {store : WasmActivationStore} {ledger : ActivationLedger}
    (h : Holds D store ledger) (hc : Consistent ledger) {op : StoreOp} (hop : op.CrashFree) :
    ∃ file, HoldsSettled (op.run D store) file (op.spec D ledger) := by
  cases op with
  | commit command lease facts eventId crash =>
    obtain rfl : crash = none := hop
    exact commit_refines D h hc command lease facts eventId
  | missingLease command now eventId => exact missingLease_refines D h hc command now eventId
  | recover =>
    obtain ⟨store', file, -, hstore, hsettled⟩ := h.loadRecovered D hc
    exact ⟨file, by rw [StoreOp.run, hstore]; exact hsettled⟩

/-- Every call, interrupted or not, amounts to whole calls on the ledger. -/
theorem StoreOp.amounts (op : StoreOp) {store : WasmActivationStore} {ledger : ActivationLedger}
    (h : Holds D store ledger) (hc : Consistent ledger) :
    ∃ whole, op.Amounts whole ∧
      Holds D (op.run D store) (CrashRefinement.run (StoreOp.spec D) ledger whole) := by
  cases op with
  | commit command lease facts eventId crash =>
    cases crash with
    | none =>
      obtain ⟨file, hfile⟩ := commit_refines D h hc command lease facts eventId
      exact ⟨_, .commit command lease facts eventId, hfile.holds D⟩
    | some point =>
      rcases commit_interrupted D h hc command lease facts eventId point with hsame | hwhole
      · exact ⟨_, .notAtAll command lease facts eventId point, hsame⟩
      · exact ⟨_, .completely command lease facts eventId point, hwhole⟩
  | missingLease command now eventId =>
    obtain ⟨file, hfile⟩ := missingLease_refines D h hc command now eventId
    exact ⟨_, .missingLease command now eventId, hfile.holds D⟩
  | recover =>
    obtain ⟨store', file, -, hstore, hsettled⟩ := h.loadRecovered D hc
    exact ⟨_, .recover, by rw [StoreOp.run, hstore]; exact hsettled.holds D⟩

/-! ## Histories -/

/-- Every history on an empty store amounts to a history of whole calls. -/
theorem activationRun_resolves (ops : List StoreOp) :
    ∃ ops', Resolves StoreOp.Amounts ops ops' ∧
      Holds D (activationRun D ops) (activationLedger D ops') := by
  obtain ⟨ops', hres, hholds, -⟩ := exists_resolution (StoreOp.run D) (StoreOp.spec D)
    (fun store ledger => Holds D store ledger ∧ Consistent ledger) StoreOp.Amounts
    (fun op store ledger h => by
      obtain ⟨whole, hwhole, hholds⟩ := op.amounts D h.1 h.2
      exact ⟨whole, hwhole, hholds, run_invariant (fun _ op h => h.spec D op) whole h.2⟩)
    ops ⟨.absent, .empty⟩
  exact ⟨ops', hres, hholds⟩

/-- A history of whole calls leaves a settled store that holds its ledger. -/
theorem activationRun_refines {ops : List StoreOp} (hops : ∀ op ∈ ops, op.CrashFree) :
    ∃ file, HoldsSettled (activationRun D ops) file (activationLedger D ops) := by
  refine (run_refines (StoreOp.run D) (StoreOp.spec D)
    (fun store ledger => (∃ file, HoldsSettled store file ledger) ∧ Consistent ledger)
    StoreOp.CrashFree (fun op store ledger hop h => ?_) ops hops
    ⟨⟨.empty, .empty, rfl, .inr ⟨rfl, rfl⟩⟩, .empty⟩).1
  obtain ⟨⟨file, hfile⟩, hc⟩ := h
  exact ⟨StoreOp.refines D (hfile.holds D) hc hop, hc.spec D op⟩

end Iweb
