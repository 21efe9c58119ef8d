import Iweb.Foundations.CrashRefinement
import Iweb.Supervisor.ExecutionJournal

/-!
# The execution RPC of the supervisor

A delivery runs without interruption until it calls the executor, and again from the executor's answer to
its end; the entry that joins equal deliveries is removed later still. Between these moments any other
envelope may arrive, and the process may be restarted. A restart loses the deliveries in memory and keeps
the journal.
-/

namespace Iweb

def executionCommandUnknown : String := "EXECUTION_COMMAND_UNKNOWN"
def executionExecutorFailed : String := "EXECUTION_EXECUTOR_FAILED"

inductive DeliveryMode
  | command
  | replay
deriving DecidableEq

inductive QueryStatus
  | missing
  | received
  | completed
deriving DecidableEq

/-- `ExecutionRpcServiceResult`, or the error the promise is rejected with. -/
inductive ExecutionRpcServiceResult
  | acknowledgement (acknowledgement : ExecutionAcknowledgement)
  | queryResult (commandId : String) (status : QueryStatus) (received : Option CommandReceivedV1)
      (acknowledgement : Option ExecutionAcknowledgement)
  | conflict (status : Nat) (code message : String)
  | thrown (message : String)
deriving DecidableEq

/-- The acknowledgement a result carries. -/
def ExecutionRpcServiceResult.acknowledged : ExecutionRpcServiceResult → Option ExecutionAcknowledgement
  | .acknowledgement ack => some ack
  | .queryResult _ _ _ ack => ack
  | .conflict _ _ _ | .thrown _ => none

/-- The answer to a known command id with another body. -/
def commandIdConflict : ExecutionRpcServiceResult :=
  .conflict 409 executionCommandIdConflict
    "a known commandId was re-sent with a differing command body; no side effect or journal write occurred"

/-- The answer to a command for another head of the journal. -/
def revisionConflict : ExecutionRpcServiceResult :=
  .conflict 409 journalRevisionConflict
    "command expectedJournalRevision does not match the journal head; no entry was written"

/-! ## One delivery -/

inductive DeliveryState
  /-- The executor works on the command of a received entry. -/
  | executing (received : CommandReceivedV1) (commandDigest : String)
  | settled (result : ExecutionRpcServiceResult)
  /-- A restart ended the delivery. -/
  | lost
deriving DecidableEq

variable (S : SupervisorRules)

/-- `performDelivery` up to its call of the executor, which `resume` makes for the received entry. -/
def performDelivery (journal : WasmExecutionJournalFileV1) (command : ExecutionCommand) (mode : DeliveryMode)
    (receivedAt : String) : WasmExecutionJournalFileV1 × DeliveryState :=
  let commandDigest := S.commandDigest command
  match journal.findCompleted command.commandId, journal.findReceived command.commandId with
  | some _, none => (journal, .settled commandIdConflict)
  | some completed, some received =>
    if received.commandDigest ≠ commandDigest then (journal, .settled commandIdConflict)
    else (journal, .settled (.acknowledgement completed.acknowledgement))
  | none, some received =>
    if received.commandDigest ≠ commandDigest then (journal, .settled commandIdConflict)
    else (journal, .executing received commandDigest)
  | none, none =>
    if mode = .replay then
      (journal, .settled (.conflict 404 executionCommandUnknown
        "replay requires a command the journal already received; Kernel must query or deliver the command first"))
    else if command.expectedJournalRevision ≠ journal.journalRevision then
      (journal, .settled revisionConflict)
    else
      match journal.appendReceived S journal.journalRevision command receivedAt with
      | .error message => (journal, .settled (.thrown message))
      | .ok (journal, .appended entry) => (journal, .executing entry commandDigest)
      | .ok (journal, .revisionConflict _) =>
        -- a defence: nothing comes between the read of the head and the append
        match journal.findCompleted command.commandId, journal.findReceived command.commandId with
        | none, none => (journal, .settled revisionConflict)
        | some _, none => (journal, .settled commandIdConflict)
        | some completed, some received =>
          if received.commandDigest ≠ commandDigest then (journal, .settled commandIdConflict)
          else (journal, .settled (.acknowledgement completed.acknowledgement))
        | none, some received =>
          if received.commandDigest ≠ commandDigest then (journal, .settled commandIdConflict)
          else (journal, .executing received commandDigest)

/-- `resume` from the executor's answer on; `none` is an executor that failed. -/
def resumeDelivery (journal : WasmExecutionJournalFileV1) (received : CommandReceivedV1)
    (commandDigest : String) (outcome : Option WasmExecutionOutcome) (completedAt : String) :
    WasmExecutionJournalFileV1 × ExecutionRpcServiceResult :=
  match outcome with
  | none =>
    (journal, .conflict 500 executionExecutorFailed
      "the wasm execution executor failed; the command stays received-incomplete and replay resumes it")
  | some outcome =>
    match draftAcknowledgement S received.command outcome (journal.journalRevision + 1) with
    | none =>
      (journal, .conflict 500 executionExecutorOutcomeInvalid
        "the executor returned an outcome that cannot form a valid acknowledgement")
    | some _ =>
      let build (revision : Nat) : Except String ExecutionAcknowledgement :=
        match draftAcknowledgement S received.command outcome revision with
        | none => .error (executionExecutorOutcomeInvalid ++ ": executor outcome stopped validating")
        | some acknowledgement => .ok acknowledgement
      match journal.appendCompleted S received.commandId commandDigest build completedAt with
      | .error message => (journal, .thrown message)
      | .ok (journal, appended) => (journal, .acknowledgement appended.entry.acknowledgement)

/-- The answer to a query. -/
def queryJournal (journal : WasmExecutionJournalFileV1) (commandId : String) : ExecutionRpcServiceResult :=
  match journal.findReceived commandId, journal.findCompleted commandId with
  | none, none => .queryResult commandId .missing none none
  | none, some _ =>
    .conflict 500 wasmExecutionJournalCorrupt "a completed entry has no preceding received entry"
  | some received, some completed =>
    .queryResult commandId .completed (some received) (some completed.acknowledgement)
  | some received, none => .queryResult commandId .received (some received) none

/-! ## The handler -/

/-- An entry of the in-flight table; a delivery is named by its number. -/
structure InFlightDelivery where
  digest : String
  mode : DeliveryMode
  delivery : Nat
deriving DecidableEq

structure Delivery where
  commandId : String
  state : DeliveryState
deriving DecidableEq

/-- A delivery after a restart: the executor's answer to a running one never comes. -/
def Delivery.afterRestart (delivery : Delivery) : Delivery :=
  match delivery.state with
  | .executing _ _ => { delivery with state := .lost }
  | .settled _ | .lost => delivery

/-- What an envelope gets: a result at once, or the result of a delivery. -/
inductive Reply
  | settled (result : ExecutionRpcServiceResult)
  | promise (delivery : Nat)
deriving DecidableEq

/-- The journal, the memory of the process, and what was seen of it: every reply with the command id it is
about, and the commands the executor was called with. -/
structure ExecutionRpcWorld where
  journal : WasmExecutionJournalFileV1
  inFlightDeliveries : String → Option InFlightDelivery
  deliveries : Nat → Option Delivery
  nextDelivery : Nat
  replies : List (String × Reply)
  executorCalls : List ExecutionCommand

inductive ExecutionRpcEvent
  /-- A `command` or `replay` envelope arrives. -/
  | deliver (command : ExecutionCommand) (mode : DeliveryMode) (receivedAt : String)
  | query (commandId : String)
  /-- The executor answers a delivery, or fails. -/
  | executed (delivery : Nat) (outcome : Option WasmExecutionOutcome) (completedAt : String)
  /-- The removal of a settled delivery from the table. -/
  | removed (delivery : Nat)
  | restart

namespace ExecutionRpcWorld

def start : ExecutionRpcWorld := ⟨.empty, fun _ => none, fun _ => none, 0, [], []⟩

def reply (world : ExecutionRpcWorld) (commandId : String) (reply : Reply) : ExecutionRpcWorld :=
  { world with replies := world.replies ++ [(commandId, reply)] }

/-- Start a delivery of its own and enter it in the table. -/
def startDelivery (world : ExecutionRpcWorld) (command : ExecutionCommand) (mode : DeliveryMode)
    (receivedAt : String) : ExecutionRpcWorld :=
  let (journal, state) := performDelivery S world.journal command mode receivedAt
  let entry : InFlightDelivery := ⟨S.commandDigest command, mode, world.nextDelivery⟩
  let called := match state with
    | .executing received _ => [received.command]
    | .settled _ | .lost => []
  reply
    { world with
      journal := journal
      inFlightDeliveries := Function.update world.inFlightDeliveries command.commandId (some entry)
      deliveries := Function.update world.deliveries world.nextDelivery (some ⟨command.commandId, state⟩)
      nextDelivery := world.nextDelivery + 1
      executorCalls := world.executorCalls ++ called }
    command.commandId (.promise world.nextDelivery)

/-- `deliver`: join the delivery in flight, refuse another body, or start a delivery. -/
def deliver (world : ExecutionRpcWorld) (command : ExecutionCommand) (mode : DeliveryMode)
    (receivedAt : String) : ExecutionRpcWorld :=
  match world.inFlightDeliveries command.commandId with
  | none => world.startDelivery S command mode receivedAt
  | some active =>
    if active.digest ≠ S.commandDigest command then
      world.reply command.commandId (.settled commandIdConflict)
    else if (world.journal.findReceived command.commandId).isSome ∨
        (world.journal.findCompleted command.commandId).isSome ∨ active.mode = .command then
      world.reply command.commandId (.promise active.delivery)
    else world.startDelivery S command mode receivedAt

/-- The executor answers. -/
def executed (world : ExecutionRpcWorld) (delivery : Nat) (outcome : Option WasmExecutionOutcome)
    (completedAt : String) : ExecutionRpcWorld :=
  match world.deliveries delivery with
  | some ⟨commandId, .executing received commandDigest⟩ =>
    let (journal, result) := resumeDelivery S world.journal received commandDigest outcome completedAt
    { world with
      journal := journal
      deliveries := Function.update world.deliveries delivery (some ⟨commandId, .settled result⟩) }
  | _ => world

/-- The `finally` of a delivery: its entry is removed, unless another one took its place. -/
def removed (world : ExecutionRpcWorld) (delivery : Nat) : ExecutionRpcWorld :=
  match world.deliveries delivery with
  | some ⟨commandId, .settled _⟩ =>
    if (world.inFlightDeliveries commandId).map InFlightDelivery.delivery = some delivery then
      { world with inFlightDeliveries := Function.update world.inFlightDeliveries commandId none }
    else world
  | _ => world

/-- A restart keeps the journal. -/
def restart (world : ExecutionRpcWorld) : ExecutionRpcWorld :=
  { world with
    inFlightDeliveries := fun _ => none
    deliveries := fun number => (world.deliveries number).map Delivery.afterRestart }

def step (world : ExecutionRpcWorld) : ExecutionRpcEvent → ExecutionRpcWorld
  | .deliver command mode receivedAt => world.deliver S command mode receivedAt
  | .query commandId => world.reply commandId (.settled (queryJournal world.journal commandId))
  | .executed delivery outcome completedAt => world.executed S delivery outcome completedAt
  | .removed delivery => world.removed delivery
  | .restart => world.restart

/-- The result of a reply, once it is there. -/
def resultOf (world : ExecutionRpcWorld) : Reply → Option ExecutionRpcServiceResult
  | .settled result => some result
  | .promise number =>
    match world.deliveries number with
    | some ⟨_, .settled result⟩ => some result
    | _ => none

/-- The executor works on a command in a delivery. -/
def Executing (world : ExecutionRpcWorld) (number : Nat) (commandId : String) : Prop :=
  ∃ delivery received commandDigest, world.deliveries number = some delivery ∧
    delivery.state = .executing received commandDigest ∧ received.command.commandId = commandId

/-- Some envelope about a command id was answered with an acknowledgement. -/
def Acknowledged (world : ExecutionRpcWorld) (commandId : String)
    (acknowledgement : ExecutionAcknowledgement) : Prop :=
  ∃ reply result, (commandId, reply) ∈ world.replies ∧ world.resultOf reply = some result ∧
    result.acknowledged = some acknowledgement

end ExecutionRpcWorld

end Iweb
