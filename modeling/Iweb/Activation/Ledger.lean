import Iweb.Activation.Store
import Iweb.Foundations.CrashRefinement

/-!
# Activation histories and the ledger they stand for

`StoreOp` is one call on the activation store, with an injected crash where the call is a commit. The
ledger is what the store is for: a revision and the activation state of every application, changed by
whole commits only. Nothing in it is torn, and an application that was never activated has its fresh
state.
-/

namespace Iweb

open CrashRefinement

/-- One call on the activation store. -/
inductive StoreOp
  | commit (command : ActivationCommand) (lease : ServiceReadinessLeaseV2) (facts : ActivationCasFacts)
      (eventId : String) (crash : Option ActivationCrashPoint)
  | missingLease (command : ActivationCommand) (nowEpochMillis : Nat) (eventId : String)
  | recover

variable (D : Digests)

/-- The durable store after one call. -/
def StoreOp.run (store : WasmActivationStore) : StoreOp → WasmActivationStore
  | .commit command lease facts eventId crash =>
    (store.commitActivation D command lease facts eventId crash).1
  | .missingLease command now eventId => (store.commitMissingLeaseRejection D command now eventId).1
  | .recover => (store.recover D).1

/-- The durable store after a history of calls on an empty store. -/
def activationRun (ops : List StoreOp) : WasmActivationStore := run (StoreOp.run D) none ops

/-- What a call amounts to: an interrupted commit happened completely or not at all. -/
inductive StoreOp.Amounts : StoreOp → List StoreOp → Prop
  | commit (command lease facts eventId) :
      Amounts (.commit command lease facts eventId none) [.commit command lease facts eventId none]
  | completely (command lease facts eventId point) :
      Amounts (.commit command lease facts eventId (some point))
        [.commit command lease facts eventId none]
  | notAtAll (command lease facts eventId point) :
      Amounts (.commit command lease facts eventId (some point)) []
  | missingLease (command now eventId) :
      Amounts (.missingLease command now eventId) [.missingLease command now eventId]
  | recover : Amounts .recover [.recover]

/-- A call without an injected crash. -/
def StoreOp.CrashFree : StoreOp → Prop
  | .commit _ _ _ _ crash => crash = none
  | _ => True

theorem StoreOp.Amounts.crashFree {op : StoreOp} {whole : List StoreOp} (h : op.Amounts whole) :
    ∀ o ∈ whole, o.CrashFree := by
  cases h <;> simp [StoreOp.CrashFree]

/-! ## The ledger -/

/-- The revision and the activation states of all applications. -/
structure ActivationLedger where
  revision : Nat
  state : String → KernelActivationState

def ActivationLedger.empty : ActivationLedger where
  revision := 0
  state := .fresh

/-- One more committed mutation: the new state of one application. -/
def ActivationLedger.record (ledger : ActivationLedger) (state : KernelActivationState) :
    ActivationLedger where
  revision := ledger.revision + 1
  state := Function.update ledger.state state.applicationId state

/-- The ledger after a transaction: a failed or repeated command leaves it as it is. -/
def ActivationLedger.settle (ledger : ActivationLedger) (before : KernelActivationState)
    (outcome : Outcome RouteEvent) : ActivationLedger :=
  match outcome with
  | (_, .error _) => ledger
  | (state, .ok _) => if state = before then ledger else ledger.record state

/-- The ledger after one whole call. -/
def StoreOp.spec (ledger : ActivationLedger) : StoreOp → ActivationLedger
  | .commit command lease facts eventId _ =>
    let before := ledger.state command.applicationId
    if wasmU53Max ≤ ledger.revision then ledger
    else ledger.settle before (applyActivation D before command lease
      { facts with controlRevision := ledger.revision + 1 } eventId none)
  | .missingLease command now eventId =>
    let before := ledger.state command.applicationId
    if wasmU53Max ≤ ledger.revision then ledger
    else ledger.settle before
      (applyActivationWithoutLease D before command now (ledger.revision + 1) eventId)
  | .recover => ledger

/-- The ledger after a history of whole calls. -/
def activationLedger (ops : List StoreOp) : ActivationLedger := run (StoreOp.spec D) .empty ops

/-- The state of an application in a file; one the file does not name was never activated. -/
def WasmActivationStateFileV1.stateOf (file : WasmActivationStateFileV1) (applicationId : String) :
    KernelActivationState :=
  (file.applications[applicationId]?).getD (.fresh applicationId)

/-- Two files hold the same activations, up to entries of applications never activated. -/
def SameActivations (file file' : WasmActivationStateFileV1) : Prop :=
  file.controlRevision = file'.controlRevision ∧ ∀ applicationId,
    file.stateOf applicationId = file'.stateOf applicationId

end Iweb
