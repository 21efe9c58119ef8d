import Iweb.Runtime.Writes

/-!
# The runtime and its supervisor

The runtime sends its requests to the execution RPC of the supervisor. Between a request and its answer anything may
happen there, and any answer may be lost.
-/

namespace Iweb

open CrashRefinement

def wasmExecutionDeliveryUncertain : String := "WASM_EXECUTION_DELIVERY_UNCERTAIN"

/-- What becomes of one request. -/
structure SupervisorExchange where
  /-- The time at which its envelope arrives; it may be lost. -/
  arrivesAt : Option String
  /-- What else happens at the supervisor before the answer. -/
  events : List ExecutionRpcEvent
  /-- The answer reaches the runtime in time. -/
  answered : Bool

/-- The supervisor at the other end of the socket: what happened there, and what becomes of the requests to come. -/
structure SupervisorSide where
  events : List ExecutionRpcEvent
  exchanges : List SupervisorExchange

variable (S : SupervisorRules)

/-- The execution RPC after what happened. -/
def SupervisorSide.world (side : SupervisorSide) : ExecutionRpcWorld := run (ExecutionRpcWorld.step S) .start side.events

/-- What happens at the supervisor without a request of the runtime. -/
def SupervisorSide.happens (events : List ExecutionRpcEvent) (side : SupervisorSide) : SupervisorSide :=
  { side with events := side.events ++ events }

/-- The answer that does not come. -/
def uncertainAnswer {α : Type} : Except KernelError α := .error ⟨wasmExecutionDeliveryUncertain,
  "the execution rpc response is uncertain (transport failure or timeout); only query/replay may advance the command"⟩

/-- An answer with another status than 200. -/
def refusedAnswer {α : Type} (status : Nat) (detail : String) : Except KernelError α :=
  .error ⟨wasmExecutionDeliveryUncertain, "supervisor returned HTTP " ++ toString status ++ ": " ++ detail⟩

/-- A request: its envelope arrives, other things happen, and the answer is read off the RPC then. -/
def SupervisorSide.request {α : Type} (side : SupervisorSide) (envelope : String → List ExecutionRpcEvent)
    (answer : ExecutionRpcWorld → ExecutionRpcWorld → Except KernelError α) : SupervisorSide × Except KernelError α :=
  match side.exchanges with
  | [] => (side, uncertainAnswer)
  | exchange :: exchanges =>
    match exchange.arrivesAt with
    | none => (⟨side.events ++ exchange.events, exchanges⟩, uncertainAnswer)
    | some time =>
      let asked : SupervisorSide := ⟨side.events ++ envelope time, exchanges⟩
      let after := asked.happens exchange.events
      (after, if exchange.answered then answer (asked.world S) (after.world S) else uncertainAnswer)

/-- The answer to a query. -/
def queryAnswer : ExecutionRpcServiceResult → Except KernelError CommandQueryResultV1
  | .queryResult commandId status received acknowledgement => .ok ⟨commandId, status, received, acknowledgement⟩
  | .conflict status code _ => refusedAnswer status code
  | .acknowledgement _ | .thrown _ => uncertainAnswer

/-- The answer to a delivery: the result of the reply it got, once it is there. -/
def deliveryAnswer (reply : Option (String × Reply)) (after : ExecutionRpcWorld) : Except KernelError ExecutionAcknowledgement :=
  match reply.bind fun reply => after.resultOf reply.2 with
  | some (.acknowledgement acknowledgement) => .ok acknowledgement
  | some (.conflict status code _) => refusedAnswer status code
  | _ => uncertainAnswer

/-- The channel to the execution RPC; a handoff of snapshots goes over a socket of its own. -/
def supervisorChannel : SupervisorChannel SupervisorSide where
  query commandId side := side.request S (fun _ => [.query commandId]) fun asked _ =>
    queryAnswer (queryJournal asked.journal commandId)
  handoff _ side := side.request S (fun _ => []) fun _ _ => .ok ()
  deliver mode command side := side.request S (fun time => [.deliver command mode time])
    fun asked after => deliveryAnswer asked.replies.getLast? after

/-- The journal has completed the command with an acknowledgement that repeats it. -/
def SupervisorSide.Completed (side : SupervisorSide) (command : ExecutionCommand) (ack : ExecutionAcknowledgement) : Prop :=
  ∃ completed, (side.world S).journal.findCompleted command.commandId = some completed ∧
    completed.acknowledgement = ack ∧ correlateAcknowledgement command ack = .ok ()

/-- Of the supervisor a history knows only what happens there. -/
def KernelOp.AtSupervisor (op : KernelOp SupervisorSide) : Prop :=
  ∀ change, op = .supervisor change → ∃ events, change = SupervisorSide.happens events

/-- What the files of the runtime and the journal of the supervisor say agrees. -/
structure Agreement (world : KernelWorld SupervisorSide) : Prop where
  /-- A closed entry is completed in the journal. -/
  acknowledged : ∀ entry ∈ world.outbox, entry.deliveryState = .acknowledged →
    ∃ ack, world.channel.Completed S entry.command ack
  /-- A fence is alive only for the Start that it runs, which the journal has completed as applied. -/
  alive : ∀ applicationId versionId fence, fenceOf world.fences applicationId versionId = some fence →
    fence.alive = true → ∃ start ∈ world.commands, start.operation = .start ∧ start.applicationId = applicationId ∧
      start.identity.versionId = versionId ∧ fence.Runs start ∧
      ∃ ack, world.channel.Completed S start ack ∧ ack.result = .applied

/-- The calls of the executor for a command. -/
def SupervisorSide.executorCalls (side : SupervisorSide) (commandId : String) : List ExecutionCommand :=
  (side.world S).executorCalls.filter fun command => command.commandId = commandId

end Iweb
