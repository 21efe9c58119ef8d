import Iweb.Runtime.Fences
import Iweb.Activation.Vectors
import Iweb.Activation.Proofs.StoreProofs

/-!
# No rollback is ever activated

A rollback needs a retention record, and only an activated rollback leaves one. So a store that starts
empty and is fed by `activationFacts` never has a record, and refuses every rollback.
-/

namespace Iweb

open Std (ExtTreeMap)
open CrashRefinement

variable (D : Digests)

/-- No application of the ledger has a retention record. -/
def NoRetention (ledger : ActivationLedger) : Prop :=
  ∀ applicationId, (ledger.state applicationId).rollbackRetentions = []

/-- Nor has any state in a store that holds such a ledger, torn or not. -/
theorem Holds.no_retention {store : WasmActivationStore} {ledger : ActivationLedger}
    (h : Holds D store ledger) (hnone : NoRetention ledger) (applicationId : String)
    (state : KernelActivationState) (he : (loadActivationStates store)[applicationId]? = some state) :
    state.rollbackRetentions = [] := by
  -- The state of one application written over a settled file.
  have hpersist {file : WasmActivationStateFileV1} {base : ActivationLedger} (hrep : Represents file base)
      {torn : String} {written : KernelActivationState} {revision : Nat}
      (hbase : ∀ other, other ≠ torn → (base.state other).rollbackRetentions = [])
      (hwritten : written.rollbackRetentions = [])
      (he : (file.persistState torn written revision).applications[applicationId]? = some state) :
      state.rollbackRetentions = [] := by
    simp only [WasmActivationStateFileV1.persistState, FiniteMap.getElem?_insert] at he
    split at he
    · obtain rfl := Option.some.inj he
      exact hwritten
    · rename_i hne
      rw [← hrep.entry he]
      exact hbase _ hne
  cases h with
  | absent => simp [loadActivationStates] at he
  | settled hrep =>
    rw [← hrep.entry he]
    exact hnone applicationId
  | marked hrep command lease facts eventId gates =>
    refine hpersist hrep (fun other _ => hnone other) ?_ he
    exact hnone command.applicationId
  | @flipped file base hrep command lease facts eventId identity event space gates named new sealed hbase =>
    have happ := hbase.application command.applicationId
    refine hpersist hrep (fun other hne => ?_) ?_ he
    · have hother := hnone other
      rw [KernelActivationState.commit_eq] at hother
      simpa [ActivationLedger.record, happ, Function.update_of_ne hne] using hother
    · have hcommit := hnone command.applicationId
      rw [KernelActivationState.commit_eq] at hcommit
      have happended : (base.state command.applicationId).rollbackRetentions ++ retentionsOf D
          (casIntent (base.state command.applicationId) command lease facts eventId) event = [] := by
        simpa [ActivationLedger.record, happ] using hcommit
      exact (List.append_eq_nil_iff.mp happended).1

/-- Facts read from a store without retention records have none. -/
theorem activationFacts_no_retention {store : WasmActivationStore} {ledger : ActivationLedger}
    (h : Holds D store ledger) (hnone : NoRetention ledger) (fences : WasmFences)
    (proofs : List AdmissionProofV1) (applicationId : String) (now : Nat) :
    (activationFacts fences proofs (loadActivationStates store) applicationId now).rollbackRetention =
      none := by
  simp only [activationFacts]
  cases he : (loadActivationStates store)[applicationId]? with
  | none => rfl
  | some state => simp [h.no_retention D hnone applicationId state he]

/-- Without a retention record the gates let no rollback through. -/
theorem ActivationGates.not_rollback {state : KernelActivationState} {command : ActivationCommand}
    {lease : ServiceReadinessLeaseV2} {facts : ActivationCasFacts}
    (gates : ActivationGates D state command lease facts) (hnone : facts.rollbackRetention = none) :
    command.operation = .activate := by
  cases hop : command.operation with
  | activate => rfl
  | rollback =>
    obtain ⟨registry, -, -, -, hretained⟩ := gates.candidate_ready
    have hfalse := hretained hop
    simp [hnone, rollbackRetained] at hfalse

/-- A whole call without a retention record in its facts leaves none. -/
theorem NoRetention.spec {ledger : ActivationLedger} (hnone : NoRetention ledger) (hc : Consistent ledger)
    {op : StoreOp} (hfacts : ∀ command lease facts eventId crash,
      op = .commit command lease facts eventId crash → facts.rollbackRetention = none) :
    NoRetention (op.spec D ledger) := by
  have hrecord {state : KernelActivationState} (h : state.rollbackRetentions = []) :
      NoRetention (ledger.record state) := by
    intro applicationId
    by_cases hsame : applicationId = state.applicationId
    · subst hsame
      simpa [ActivationLedger.record] using h
    · simpa [ActivationLedger.record, Function.update_of_ne hsame] using hnone applicationId
  have hsettle {before state : KernelActivationState} {result : Except KernelError RouteEvent}
      (h : state.rollbackRetentions = []) : NoRetention (ledger.settle before (state, result)) := by
    cases result with
    | error e => exact hnone
    | ok event =>
      simp only [ActivationLedger.settle]
      split
      · exact hnone
      · exact hrecord h
  cases op with
  | recover => exact hnone
  | missingLease command now eventId =>
    simp only [StoreOp.spec]
    split
    · exact hnone
    · have hbefore := hnone command.applicationId
      rcases applyActivationWithoutLease_cases D (hc.settled command.applicationId).no_intent command now
        (ledger.revision + 1) eventId with ⟨e, he⟩ | ⟨event, -, he⟩ | ⟨-, -, event, -, he⟩
      all_goals rw [he]; exact hsettle hbefore
  | commit command lease facts eventId crash =>
    simp only [StoreOp.spec]
    split
    · exact hnone
    · have hbefore := hnone command.applicationId
      have hstep := applyActivation_step D (hc.settled command.applicationId).no_intent command lease
        { facts with controlRevision := ledger.revision + 1 } eventId none
      generalize applyActivation D (ledger.state command.applicationId) command lease
        { facts with controlRevision := ledger.revision + 1 } eventId none = outcome at hstep
      cases hstep with
      | failed e => exact hsettle hbefore
      | answered event => exact hsettle hbefore
      | alreadyConsumed originalId original => exact hsettle hbefore
      | rejected reason event => exact hsettle hbefore
      | activated identity event gates =>
        have hop := gates.not_rollback D (hfacts command lease facts eventId crash rfl)
        refine hsettle ?_
        rw [KernelActivationState.commit_eq]
        simp [hbefore, retentionsOf, casIntent, hop]

/-- Every history fed by `activationFacts` leaves a store without retention records. -/
theorem no_retention_of_fed {ops : List StoreOp}
    (hfed : Along (StoreOp.run D) StoreOp.Fed none ops) :
    ∃ ledger, Holds D (activationRun D ops) ledger ∧ Consistent ledger ∧ NoRetention ledger := by
  refine hfed.invariant (P := fun store => ∃ ledger, Holds D store ledger ∧ Consistent ledger ∧
    NoRetention ledger) (fun store op hop ⟨ledger, hholds, hc, hnone⟩ => ?_)
    ⟨.empty, .absent, .empty, fun _ => rfl⟩
  obtain ⟨whole, hwhole, hholds'⟩ := op.amounts D hholds hc
  refine ⟨_, hholds', run_invariant (fun _ op h => h.spec D op) whole hc, ?_⟩
  have hspec {op : StoreOp} (hfacts : ∀ command lease facts eventId crash,
      op = .commit command lease facts eventId crash → facts.rollbackRetention = none) :
      NoRetention (op.spec D ledger) := hnone.spec D hc hfacts
  have hcommit {command lease facts eventId} (hfacts : StoreOp.Fed store (.commit command lease facts eventId
      none)) : NoRetention (StoreOp.spec D ledger (.commit command lease facts eventId none)) := by
    obtain ⟨fences, proofs, now, rfl⟩ := hfacts
    refine hspec fun command' lease' facts' eventId' crash' heq => ?_
    obtain ⟨-, -, rfl, -, -⟩ := StoreOp.commit.inj heq
    exact activationFacts_no_retention D hholds hnone fences proofs command.applicationId now
  -- An interrupted commit counts as the whole commit or as nothing.
  cases hwhole with
  | notAtAll => exact hnone
  | missingLease command now eventId =>
    have hmissing : NoRetention (StoreOp.spec D ledger (.missingLease command now eventId)) :=
      hspec fun _ _ _ _ _ heq => nomatch heq
    exact hmissing
  | recover => exact hnone
  | commit command lease facts eventId => exact hcommit hop
  | completely command lease facts eventId point => exact hcommit hop

/-- In no history fed by `activationFacts` is a rollback decided to activate, whatever is alive and
whatever lease is at hand; nor is there ever a retention record to consult. -/
theorem rollback_never_activated (ops : List StoreOp)
    (hfed : Along (StoreOp.run D) StoreOp.Fed none ops) (fences : WasmFences)
    (proofs : List AdmissionProofV1) (now : Nat) (command : ActivationCommand)
    (hop : command.operation = .rollback) :
    (activationFacts fences proofs (loadActivationStates (activationRun D ops)) command.applicationId
        now).rollbackRetention = none ∧
      ∀ state lease eventId event, evaluateActivationCas D state command lease
        (activationFacts fences proofs (loadActivationStates (activationRun D ops)) command.applicationId
          now) eventId ≠ .ok (.activated event) := by
  obtain ⟨ledger, hholds, -, hnone⟩ := no_retention_of_fed D hfed
  have hretention := activationFacts_no_retention D hholds hnone fences proofs command.applicationId now
  refine ⟨hretention, fun state lease eventId event hevent => ?_⟩
  have hactivate := ((evaluateActivationCas_activated D eventId).mp ⟨event, hevent⟩).not_rollback D hretention
  rw [hop] at hactivate
  cases hactivate

/-! ## A rollback that is due

Version 1 is activated, version 2 replaces it. The execution of version 1 is still alive under the fence
it was activated with, there is a fresh lease for it, and a rollback command carries the current
generation. It is refused, whichever version the fence file calls current. -/

section
open Vectors

def rollbackDigests : Digests := tableDigests
  [("0f1e2d3c4b5a69788796a5b4c3d2e1f0",
    "a01a5fb82f117aa35f29a480778085f101e3f9c93689658493379edd7fb6f611"),
   ("1f1e2d3c4b5a69788796a5b4c3d2e1f0",
    "97286a098b2c1dd93ee8e40f54a4c0eeca72f9bbb751647f2ef2dbba2ba2fb7d"),
   ("2f1e2d3c4b5a69788796a5b4c3d2e1f0",
    "423acb4258a539cd2befa876e205362b975dbc8e664a100c1cc7be97286e8298")]
  [(("01892555-0000-7000-8000-000000000001", "vector"),
    "63813c0f1f72670d486813ec1309ba8648705e2030e2bb14f404c01c9dbd307e"),
   (("01892555-0000-7000-8000-000000000002", "vector"),
    "d4a36830eb2917f30d7e1c347c81d55ac52b4da605d02f71455e2f48048d68ff"),
   (("01892555-0000-7000-8000-000000000003", "vector"),
    "7cae1afd2accc6aa55db12a7d0d4b1fd4ad25f5a7710d29ea4c2553027f1a8c7")]
  [("01892555-0000-7000-8000-0000000000e1",
    "ad3266b54b8547835412170c9cb3497d1e983f134891cf142b688371b475d6e0"),
   ("01892555-0000-7000-8000-0000000000e2",
    "f25875905844684503ea178da2fe6bb124b206ac1122555efb255a08d8d089dd"),
   ("01892555-0000-7000-8000-0000000000e3",
    "0c2ce5cf8e1fc54f0f24aaed0199d5e9ec8e4c64d0ed8edff9c12fd9d3e05031")]

/-- The live execution of a version. -/
def rollbackFence (version generation : Nat) : WasmFenceRecordV1 where
  versionId := versionId version
  sandboxId := "sbx-candidate"
  preparationGeneration := generation
  executionGeneration := generation
  secretRevision := 3
  secretSnapshotRef := hex 64 '5'
  secretValuesDigest := hex 64 '6'
  configRevision := 0
  configSnapshotRef := none
  configValuesDigest := none
  alive := true
  lifecycle := "ready"
  bindingRevoked := false
  drainDeadlineEpochMillis := none

/-- Both versions of the application, one of them current. -/
def rollbackFences (current : Nat) : WasmFences :=
  (∅ : WasmFences).insert "vector" ⟨versionId current,
    ((∅ : ExtTreeMap String WasmFenceRecordV1).insert (versionId 1) (rollbackFence 1 1)).insert
      (versionId 2) (rollbackFence 2 2)⟩

/-- Only the first version, before the second is there. -/
def firstFences : WasmFences :=
  (∅ : WasmFences).insert "vector" ⟨versionId 1,
    (∅ : ExtTreeMap String WasmFenceRecordV1).insert (versionId 1) (rollbackFence 1 1)⟩

def rollbackProofs : List AdmissionProofV1 :=
  [vectorProof, { vectorProof with sequence := 2, versionId := versionId 2 }]

def activateFirst : ActivationCommand :=
  command rollbackDigests "01892555-0000-7000-8000-000000000001" "vector"
    (candidate rollbackDigests "vector" 1 "0f1e2d3c4b5a69788796a5b4c3d2e1f0" 1) 0

def activateSecond : ActivationCommand :=
  command rollbackDigests "01892555-0000-7000-8000-000000000002" "vector"
    (candidate rollbackDigests "vector" 2 "1f1e2d3c4b5a69788796a5b4c3d2e1f0" 2) 1

def rollbackToFirst : ActivationCommand :=
  sealCommand rollbackDigests
    { command rollbackDigests "01892555-0000-7000-8000-000000000003" "vector"
        (candidate rollbackDigests "vector" 1 "2f1e2d3c4b5a69788796a5b4c3d2e1f0" 1) 2 with
      operation := .rollback }

/-- The fresh lease for the version to roll back to. -/
def rollbackLease : ServiceReadinessLeaseV2 :=
  lease rollbackDigests 1 "2f1e2d3c4b5a69788796a5b4c3d2e1f0" 1

/-- Activate version 1 on facts the Kernel has read. -/
def firstOp : StoreOp :=
  .commit activateFirst (lease rollbackDigests 1 "0f1e2d3c4b5a69788796a5b4c3d2e1f0" 1)
    (activationFacts firstFences rollbackProofs (loadActivationStates none) "vector" 1800000000000)
    "01892555-0000-7000-8000-0000000000e1" none

/-- Then version 2. -/
def secondOp : StoreOp :=
  .commit activateSecond (lease rollbackDigests 2 "1f1e2d3c4b5a69788796a5b4c3d2e1f0" 2)
    (activationFacts (rollbackFences 2) rollbackProofs
      (loadActivationStates (activationRun rollbackDigests [firstOp])) "vector" 1800000000000)
    "01892555-0000-7000-8000-0000000000e2" none

def secondActivated : WasmActivationStore := activationRun rollbackDigests [firstOp, secondOp]

end

/-- The run lemma on the history of the two activations. -/
theorem rollback_never_activated_to_first :
    (activationFacts (rollbackFences 1) rollbackProofs (loadActivationStates secondActivated) "vector"
        1800000000000).rollbackRetention = none ∧
      ∀ state lease eventId event, evaluateActivationCas rollbackDigests state rollbackToFirst lease
        (activationFacts (rollbackFences 1) rollbackProofs (loadActivationStates secondActivated) "vector"
          1800000000000) eventId ≠ .ok (.activated event) :=
  rollback_never_activated rollbackDigests [firstOp, secondOp]
    ⟨⟨firstFences, rollbackProofs, 1800000000000, rfl⟩,
      ⟨rollbackFences 2, rollbackProofs, 1800000000000, rfl⟩, trivial⟩
    (rollbackFences 1) rollbackProofs 1800000000000 rollbackToFirst rfl

/-- The reason a decision refuses for. -/
def refusal (decision : Except KernelError ActivationCasDecision) : Option String :=
  match decision with
  | .ok (.rejected event) => event.reasonCode
  | _ => none

/-- The due rollback: versions 1 and 2 were activated in turn, the command and its fresh lease are valid
and carry the current generation, version 1 lives under its fence, and yet the candidate is not ready. -/
theorem due_rollback_refused :
    secondActivated.map (fun file => (file.stateOf "vector").events.map fun event =>
        (event.result, pointerVersionId event.next)) =
      some [(.activated, Vectors.versionId 1), (.activated, Vectors.versionId 2)] ∧
    secondActivated.map (fun file => ((file.stateOf "vector").routeGeneration,
        (file.stateOf "vector").nonceLedger[rollbackLease.leaseNonce]?)) =
      some (rollbackToFirst.expectedRouteGeneration, none) ∧
    rollbackToFirst.validate rollbackDigests = .ok () ∧ rollbackLease.validate rollbackDigests = .ok () ∧
    ∀ current ∈ [1, 2], secondActivated.map (fun file => refusal (evaluateActivationCas rollbackDigests
        (file.stateOf "vector") rollbackToFirst rollbackLease
        (activationFacts (rollbackFences current) rollbackProofs (loadActivationStates secondActivated)
          "vector" 1800000000000)
        "01892555-0000-7000-8000-0000000000e3")) = some (some activationCandidateNotReady) := by
  refine ⟨by decide +kernel, by decide +kernel, by decide +kernel, by decide +kernel, ?_⟩
  decide +kernel

end Iweb
