import Iweb.Activation.Store

/-!
# The activation RPC

An envelope carries a command, a query of an activation id, or a replay of a command. The host supplies
the clock, the readiness leases, the facts and fresh event ids.
-/

namespace Iweb

inductive ActivationRpcRequestBody
  | command (command : ActivationCommand)
  | query (activationId : String)
  | replay (command : ActivationCommand)

structure ActivationRpcRequestEnvelope where
  requestId : String
  body : ActivationRpcRequestBody

inductive ActivationStatus
  | missing
  | received
  | activated
  | rejected
deriving DecidableEq

structure ActivationResultBodyV1 where
  activationId : String
  status : ActivationStatus
  event : Option RouteEvent
deriving DecidableEq

structure ActivationRpcResponseEnvelopeV1 where
  requestId : String
  body : ActivationResultBodyV1
deriving DecidableEq

structure ActivationHttpFailure where
  status : Nat
  code : String
  message : String
deriving DecidableEq

/-- What the host supplies to one RPC; the Bearer check stands before the envelope. -/
structure ActivationDeps where
  nowEpochMillis : Nat
  leaseLookup : String → Option ServiceReadinessLeaseV2
  facts : String → ActivationCasFacts
  eventId : String

/-- The HTTP status of an activation failure. -/
def activationFailure (failure : KernelError) : ActivationHttpFailure where
  status :=
    if failure.code = activationIdConflict ∨ failure.code = wasmActivationRepairRequired then 409
    else if failure.code = wasmActivationFailClosed then 500
    else 400
  code := failure.code
  message := failure.detail

/-- `map_err(activation_failure)` -/
def asHttp {α : Type} : Except KernelError α → Except ActivationHttpFailure α
  | .ok a => .ok a
  | .error failure => .error (activationFailure failure)

def resultBody (activationId : String) (event : RouteEvent) : ActivationResultBodyV1 where
  activationId := activationId
  status := match event.result with
    | .activated => .activated
    | .rejected => .rejected
  event := some event

variable (D : Digests)

/-- Decide a command with the lease its candidate names, or reject it when the lease is unknown. -/
def submitCommand (store : WasmActivationStore) (command : ActivationCommand) (deps : ActivationDeps) :
    WasmActivationStore × Except ActivationHttpFailure ActivationResultBodyV1 :=
  let (store', outcome) :=
    match deps.leaseLookup command.candidate.leaseNonce with
    | some lease =>
      store.commitActivation D command lease (deps.facts command.applicationId) deps.eventId none
    | none => store.commitMissingLeaseRejection D command deps.nowEpochMillis deps.eventId
  (store', (resultBody command.activationId) <$> asHttp outcome)

/-- The status of an activation id without a durable answer. -/
def unansweredStatus (store : WasmActivationStore) (activationId : String) :
    Except ActivationHttpFailure ActivationStatus := do
  return if ← asHttp (store.pendingActivation activationId) then .received else .missing

/-- `handle_activation_rpc_envelope`, the result body without its envelope. -/
def handleActivationRpcBody (store : WasmActivationStore) (body : ActivationRpcRequestBody)
    (deps : ActivationDeps) :
    WasmActivationStore × Except ActivationHttpFailure ActivationResultBodyV1 :=
  match body with
  | .command command => submitCommand D store command deps
  | .query activationId =>
    (store, do
      match ← asHttp (store.recordedActivation activationId) with
      | some recorded => return resultBody activationId recorded.event
      | none => return {
          activationId := activationId
          status := ← unansweredStatus store activationId
          event := none })
  | .replay command =>
    match asHttp (store.recordedActivation command.activationId) with
    | .error failure => (store, .error failure)
    | .ok (some recorded) =>
      if recorded.command ≠ command then
        (store, .error ⟨409, activationIdConflict,
          "replay accepts only the byte-identical activation command; no route event is created"⟩)
      else (store, .ok (resultBody command.activationId recorded.event))
    | .ok none =>
      match unansweredStatus store command.activationId with
      | .error failure => (store, .error failure)
      | .ok .received => submitCommand D store command deps
      | .ok _ => (store, .error ⟨404, wasmActivationInvalid,
          "unknown activationId; send the command first"⟩)

/-- `handle_activation_rpc_envelope` -/
def handleActivationRpcEnvelope (store : WasmActivationStore) (envelope : ActivationRpcRequestEnvelope)
    (deps : ActivationDeps) :
    WasmActivationStore × Except ActivationHttpFailure ActivationRpcResponseEnvelopeV1 :=
  let (store', body) := handleActivationRpcBody D store envelope.body deps
  (store', (ActivationRpcResponseEnvelopeV1.mk envelope.requestId) <$> body)

end Iweb
