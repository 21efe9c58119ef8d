import Iweb.Activation.Vectors
import Iweb.Activation.Proofs.StoreProofs

/-!
# Activation commits are crash-atomic and linear

After recovery the store holds what a history of whole calls holds, where every interrupted commit
happened completely or not at all. The history of events and the pointer of every application follow
from the ledger the store represents.
-/

namespace Iweb

open Std (ExtTreeMap)
open CrashRefinement

variable (D : Digests)

/-! ## The laws of a file -/

/-- What the events of a file obey, also between a crash and its recovery. -/
structure HistoryLaws (file : WasmActivationStateFileV1) : Prop where
  /-- One event for every committed mutation, stamped `1, 2, …, controlRevision`. -/
  stamps : ∃ history : List RouteEvent,
    history.map RouteEvent.controlRevision = List.range' 1 file.controlRevision ∧
      ∀ applicationId, (file.stateOf applicationId).events =
        history.filter fun event => event.applicationId == applicationId
  /-- No application consumes a nonce twice. -/
  consumed_once : ∀ applicationId, (((file.stateOf applicationId).events.filter
    RouteEvent.isConsumed).map fun event => event.leaseConsume.leaseNonce).Nodup
  /-- A refusal keeps the pointer. -/
  rejected_stays : ∀ applicationId, ∀ event ∈ (file.stateOf applicationId).events,
    event.result = .rejected → event.next = event.previous

/-- What the state of an application without an undecided intent obeys. -/
structure PointerLaws (state : KernelActivationState) : Prop where
  /-- Each event starts from the pointer the one before it left; refusals leave it where it was. -/
  log : EventLog state.applicationId state.events state.active state.routeGeneration
  generation_count :
    state.routeGeneration = (state.events.filter fun event => event.result == .activated).length
  /-- One consumed event for every generation. -/
  generations : (state.events.filter RouteEvent.isConsumed).map RouteEvent.routeGeneration =
    List.range' 1 state.routeGeneration
  verified : verifyActivationInvariants state = .ok ()

theorem Settled.pointerLaws {state : KernelActivationState} (h : Settled state) : PointerLaws state where
  log := h.log
  generation_count := h.log.count
  generations := h.log.generations
  verified := h.verify

/-- A file whose events and revision are those of a consistent ledger. -/
theorem Consistent.historyLaws {ledger : ActivationLedger} (hc : Consistent ledger)
    {file : WasmActivationStateFileV1} (hrevision : file.controlRevision = ledger.revision)
    (hevents : ∀ applicationId,
      (file.stateOf applicationId).events = (ledger.state applicationId).events) :
    HistoryLaws file where
  stamps := by
    obtain ⟨history, hstamps, hfilter⟩ := hc.history
    exact ⟨history, by rw [hstamps, hrevision], fun applicationId =>
      (hevents applicationId).trans (hfilter applicationId)⟩
  consumed_once applicationId := by
    rw [hevents]
    exact (hc.settled applicationId).consumed_once
  rejected_stays applicationId event he hresult := by
    rw [hevents] at he
    rcases ((hc.settled applicationId).log.event event he).2 with ⟨-, hstays, -⟩ | ⟨hactivated, -⟩
    · exact hstays
    · rw [hresult] at hactivated
      cases hactivated

/-- The state of one application written over a settled file. -/
theorem Represents.stateOf_persist {file : WasmActivationStateFileV1} {ledger : ActivationLedger}
    (h : Represents file ledger) (applicationId : String) (state : KernelActivationState) (revision : Nat)
    (other : String) :
    (file.persistState applicationId state revision).stateOf other =
      if other = applicationId then state else ledger.state other := by
  rw [← h.state]
  simp only [WasmActivationStateFileV1.stateOf, WasmActivationStateFileV1.persistState,
    FiniteMap.getElem?_insert]
  split <;> rfl

/-- Beneath every store, torn or not, lies a consistent ledger with its events and revision, and with
the state of every application that has no intent. -/
theorem Holds.beneath {file : WasmActivationStateFileV1} {ledger : ActivationLedger}
    (h : Holds D (some file) ledger) (hc : Consistent ledger) :
    ∃ base, Consistent base ∧ file.controlRevision = base.revision ∧ ∀ applicationId,
      (file.stateOf applicationId).events = (base.state applicationId).events ∧
      ((file.stateOf applicationId).pending = none →
        file.stateOf applicationId = base.state applicationId) := by
  cases h with
  | settled h =>
    exact ⟨ledger, hc, h.revision, fun applicationId =>
      ⟨by rw [h.state], fun _ => h.state applicationId⟩⟩
  | marked h command lease facts eventId gates =>
    refine ⟨ledger, hc, h.revision, fun applicationId => ?_⟩
    rw [h.stateOf_persist]
    split
    · rename_i hsame
      subst hsame
      exact ⟨rfl, fun hp => by cases hp⟩
    · exact ⟨rfl, fun _ => rfl⟩
  | @flipped _ base h command lease facts eventId identity event space gates named new sealed hbase =>
    refine ⟨base, hbase, h.revision, fun applicationId => ?_⟩
    rw [h.stateOf_persist]
    split
    · rename_i hsame
      subst hsame
      exact ⟨rfl, fun hp => by cases hp⟩
    · exact ⟨rfl, fun _ => rfl⟩

/-- Recovery finds nothing to do in a settled store. -/
theorem HoldsSettled.recover {store : WasmActivationStore} {file : WasmActivationStateFileV1}
    {ledger : ActivationLedger} (h : HoldsSettled store file ledger) (hc : Consistent ledger) :
    StoreOp.run D store .recover = store := by
  have hrec := recoverFile_settled D (h.1.no_intent hc)
  simp [StoreOp.run, WasmActivationStore.recover, h.2.1, hrec, bind, Except.bind]

/-! ## The main result -/

/-- For every history of calls with crashes: recovery leaves the activations of a history of whole
calls in which each interrupted commit happened or did not; a call that is not interrupted leaves
nothing to recover; and every reachable file obeys the laws. -/
theorem activations_crash_atomic (ops : List StoreOp) :
    (∃ ops' file file', Resolves StoreOp.Amounts ops ops' ∧
      (activationRun D (ops ++ [.recover])).load = .ok file ∧
      (activationRun D ops').load = .ok file' ∧ SameActivations file file') ∧
    (∀ op : StoreOp, op.CrashFree →
      activationRun D (ops ++ [op, .recover]) = activationRun D (ops ++ [op])) ∧
    ∀ file, activationRun D ops = some file → HistoryLaws file ∧
      ∀ applicationId, (file.stateOf applicationId).pending = none →
        PointerLaws (file.stateOf applicationId) := by
  obtain ⟨ops', hres, hholds⟩ := activationRun_resolves D ops
  have hc := activationLedger_consistent D ops'
  refine ⟨?_, fun op hop => ?_, fun file hfile => ?_⟩
  · obtain ⟨store', file, -, hstore, hsettled⟩ := hholds.loadRecovered D hc
    obtain ⟨file', hfile'⟩ := activationRun_refines D
      (hres.forall_mem fun _ _ hwhole => hwhole.crashFree)
    refine ⟨ops', file, file', hres, ?_, hfile'.2.1, hsettled.1.same hfile'.1⟩
    have hrun : activationRun D (ops ++ [.recover]) = store' := by
      rw [activationRun, run_append]
      exact hstore
    rw [hrun]
    exact hsettled.2.1
  · obtain ⟨file, hfile⟩ := StoreOp.refines D hholds hc hop
    rw [activationRun, activationRun, run_append, run_append]
    exact hfile.recover D (hc.spec D op)
  · rw [hfile] at hholds
    obtain ⟨base, hbase, hrevision, hstates⟩ := hholds.beneath D hc
    refine ⟨hbase.historyLaws hrevision fun applicationId => (hstates applicationId).1,
      fun applicationId hp => ?_⟩
    rw [(hstates applicationId).2 hp]
    exact (hbase.settled applicationId).pointerLaws

/-! ## Three histories that bound the result

The first activation of an application, interrupted after the consume marker, leaves an entry for the
application behind; interrupted after the pointer flip, it leaves a state whose invariants fail until it
is recovered. And each application has a nonce ledger of its own. -/

section
open Vectors

def atomicityDigests : Digests := tableDigests
  [("0f1e2d3c4b5a69788796a5b4c3d2e1f0",
    "a01a5fb82f117aa35f29a480778085f101e3f9c93689658493379edd7fb6f611")]
  [(("01892555-0000-7000-8000-000000000001", "vector"),
    "63813c0f1f72670d486813ec1309ba8648705e2030e2bb14f404c01c9dbd307e"),
   (("01892555-0000-7000-8000-000000000002", "other"),
    "480d1cf94c336a2fd80659964e0786801ad9096db7b11e1880b44fddf27bc6b1")]
  [("01892555-0000-7000-8000-0000000000e1",
    "ad3266b54b8547835412170c9cb3497d1e983f134891cf142b688371b475d6e0"),
   ("01892555-0000-7000-8000-0000000000e2",
    "9d9a6a72d0a15052b88511820d87468d50ee4631461463898348c9941f9aa332")]

/-- Activate the first version of an application. -/
def firstActivation (activationId applicationId eventId : String) (crash : Option ActivationCrashPoint) :
    StoreOp :=
  .commit (command atomicityDigests activationId applicationId
      (candidate atomicityDigests applicationId 1 "0f1e2d3c4b5a69788796a5b4c3d2e1f0" 1) 0)
    (lease atomicityDigests 1 "0f1e2d3c4b5a69788796a5b4c3d2e1f0" 1) (facts 1) eventId crash

def vectorActivation (crash : Option ActivationCrashPoint) : StoreOp :=
  firstActivation "01892555-0000-7000-8000-000000000001" "vector" "01892555-0000-7000-8000-0000000000e1"
    crash

def otherActivation : StoreOp :=
  firstActivation "01892555-0000-7000-8000-000000000002" "other" "01892555-0000-7000-8000-0000000000e2"
    none

end

/-- The revision and the number of entries of a file. -/
def headOf (file : WasmActivationStateFileV1) : Nat × Nat :=
  (file.controlRevision, file.applications.size)

/-- The nonces consumed by the applications of a file. -/
def consumedNonces (file : WasmActivationStateFileV1) : List String :=
  file.applications.toList.flatMap fun entry =>
    (entry.2.events.filter RouteEvent.isConsumed).map fun event => event.leaseConsume.leaseNonce

/-- The file differs from that of both crash-free histories, one nonce is consumed in two applications,
and a torn state does not verify. -/
theorem activations_not_atomic_to_the_entry :
    (¬ ∀ ops, ∃ ops', Resolves StoreOp.Amounts ops ops' ∧
      (activationRun atomicityDigests (ops ++ [.recover])).load =
        (activationRun atomicityDigests ops').load) ∧
    (¬ ∀ ops file, activationRun atomicityDigests ops = some file → (consumedNonces file).Nodup) ∧
    (¬ ∀ ops file, activationRun atomicityDigests ops = some file → ∀ applicationId,
      verifyActivationInvariants (file.stateOf applicationId) = .ok ()) := by
  refine ⟨fun h => ?_, fun h => ?_, fun h => ?_⟩
  -- The revision and the number of entries of each of the three files.
  · have htorn : (activationRun atomicityDigests
        ([vectorActivation (some .afterConsumeMarkerBeforePointerCas)] ++ [.recover])).load.toOption.map
        headOf = some (0, 1) := by decide +kernel
    have hwhole : (activationRun atomicityDigests [vectorActivation none]).load.toOption.map headOf =
        some (1, 1) := by decide +kernel
    have hnothing : (activationRun atomicityDigests []).load.toOption.map headOf = some (0, 0) := by
      decide +kernel
    obtain ⟨ops', hres, heq⟩ := h [vectorActivation (some .afterConsumeMarkerBeforePointerCas)]
    rw [heq] at htorn
    cases hres with
    | cons hop hnil =>
      cases hnil
      change StoreOp.Amounts (.commit _ _ _ _ (some _)) _ at hop
      cases hop with
      | completely =>
        change (activationRun atomicityDigests [vectorActivation none]).load.toOption.map headOf = _
          at htorn
        simp [hwhole] at htorn
      | notAtAll =>
        change (activationRun atomicityDigests []).load.toOption.map headOf = _ at htorn
        simp [hnothing] at htorn
  · have hboth : (activationRun atomicityDigests [vectorActivation none, otherActivation]).map
        consumedNonces = some ["0f1e2d3c4b5a69788796a5b4c3d2e1f0", "0f1e2d3c4b5a69788796a5b4c3d2e1f0"] := by
      decide +kernel
    obtain ⟨file, hfile, hnonces⟩ := Option.map_eq_some_iff.mp hboth
    have hnodup := h _ file hfile
    rw [hnonces] at hnodup
    simp at hnodup
  · have htorn : (activationRun atomicityDigests
        [vectorActivation (some .afterPointerCasBeforeEvent)]).map
        (fun file => decide (verifyActivationInvariants (file.stateOf "vector") = .ok ())) =
          some false := by
      decide +kernel
    obtain ⟨file, hfile, hfails⟩ := Option.map_eq_some_iff.mp htorn
    simp [h _ file hfile "vector"] at hfails

end Iweb
