import Iweb.Activation.Proofs.CasProofs
import Iweb.Activation.Ledger
import Iweb.Activation.Rpc

/-!
# Histories of activation RPCs

An RPC is an envelope body with what the host supplies for it. `AnswersAs` says that a store answers an
id with one event, whatever is asked about it. `KeepsIds` is the condition on a step under which ids keep
their answers: a command names an id no other application has recorded, and its nonce is not spent
under another id.
-/

namespace Iweb

open CrashRefinement

/-- One activation RPC. -/
structure RpcStep where
  body : ActivationRpcRequestBody
  deps : ActivationDeps

variable (D : Digests)

/-- The durable store after one RPC. -/
def RpcStep.run (store : WasmActivationStore) (step : RpcStep) : WasmActivationStore :=
  (handleActivationRpcBody D store step.body step.deps).1

/-- The answer of one RPC. -/
def RpcStep.answer (store : WasmActivationStore) (step : RpcStep) :
    Except ActivationHttpFailure ActivationResultBodyV1 :=
  (handleActivationRpcBody D store step.body step.deps).2

/-- The durable store after a history of RPCs on an empty store. -/
def rpcRun (steps : List RpcStep) : WasmActivationStore := run (RpcStep.run D) none steps

/-- A step submits or replays a command. -/
def RpcStep.Submits (step : RpcStep) (command : ActivationCommand) : Prop :=
  step.body = .command command ∨ step.body = .replay command

/-- The host and the store can take one more commit: the event id is well formed and the control
revision has room. -/
structure CanCommit (store : WasmActivationStore) (deps : ActivationDeps) : Prop where
  event_id : checkUuidV7 deps.eventId "eventId" = .ok ()
  room : ∀ file, store.load = .ok file → file.controlRevision < wasmU53Max

/-- A command keeps activation ids apart. -/
structure KeepsIds (store : WasmActivationStore) (step : RpcStep) : Prop where
  /-- No other application has recorded the id. -/
  own_id : ∀ (command : ActivationCommand) (file : WasmActivationStateFileV1),
    step.body = .command command → command.validate D = .ok () → store.load = .ok file →
    ∀ applicationId, (file.stateOf applicationId).activationRecords[command.activationId]? ≠ none →
      applicationId = command.applicationId
  /-- A new id does not come with a nonce that is spent. -/
  own_nonce : ∀ (command : ActivationCommand) (lease : ServiceReadinessLeaseV2)
    (file : WasmActivationStateFileV1), step.body = .command command → store.load = .ok file →
    step.deps.leaseLookup command.candidate.leaseNonce = some lease → CanCommit store step.deps →
    (file.stateOf command.applicationId).activationRecords[command.activationId]? = none →
      ¬ NonceSpent D (file.stateOf command.applicationId) command lease
        (step.deps.facts command.applicationId)

/-- The store answers the id of a command with one event, whoever asks. -/
structure AnswersAs (store : WasmActivationStore) (command : ActivationCommand) (event : RouteEvent) :
    Prop where
  query : ∀ deps, handleActivationRpcBody D store (.query command.activationId) deps =
    (store, .ok (resultBody command.activationId event))
  replayed : ∀ deps, handleActivationRpcBody D store (.replay command) deps =
    (store, .ok (resultBody command.activationId event))
  resubmitted : ∀ deps, CanCommit store deps → handleActivationRpcBody D store (.command command) deps =
    (store, .ok (resultBody command.activationId event))
  /-- A replay of anything else under the id is a conflict. -/
  replay_conflict : ∀ deps (other : ActivationCommand), other ≠ command →
    other.activationId = command.activationId → ∃ message,
      handleActivationRpcBody D store (.replay other) deps =
        (store, .error ⟨409, activationIdConflict, message⟩)
  /-- So is a well-formed command with other content under the id. -/
  command_conflict : ∀ deps (other : ActivationCommand), other ≠ command →
    other.activationId = command.activationId → other.validate D = .ok () → CanCommit store deps →
    KeepsIds D store ⟨.command other, deps⟩ → ∃ message,
      handleActivationRpcBody D store (.command other) deps =
        (store, .error ⟨409, activationIdConflict, message⟩)

end Iweb
