import Iweb.Admission.Vectors
import Iweb.Runtime.Supervised
import Iweb.Runtime.Proofs.WritesProofs
import Iweb.Supervisor.Proofs.ExecutionRpcProofs
import Iweb.Supervisor.Vectors

/-!
# The runtime and its supervisor agree

The execution RPC tells the truth, so what the files of the runtime say of it is so in every state of a run.
-/

namespace Iweb

open CrashRefinement

variable {S : SupervisorRules} {A : AdmissionRules} {R : RuntimeRules} {D : Digests}

/-! ## What happens at the supervisor -/

theorem SupervisorSide.world_inv (side : SupervisorSide) : ExecutionRpcInv S (side.world S) :=
  executionRpcInv_after S side.events

/-- What happened stays, and more happens. -/
theorem SupervisorSide.progress {side side' : SupervisorSide} {events : List ExecutionRpcEvent}
    (h : side'.events = side.events ++ events) : ExecutionRpcProgress (side.world S) (side'.world S) := by
  unfold SupervisorSide.world
  rw [h, run_append]
  exact (side.world_inv.run events).2

theorem SupervisorSide.Completed.mono {side side' : SupervisorSide} {events : List ExecutionRpcEvent}
    (h : side'.events = side.events ++ events) {command : ExecutionCommand} {ack : ExecutionAcknowledgement}
    (hcompleted : side.Completed S command ack) : side'.Completed S command ack := by
  obtain ⟨completed, hfound, hack, hcorrelate⟩ := hcompleted
  exact ⟨completed, (SupervisorSide.progress h).completed _ _ hfound, hack, hcorrelate⟩

/-- What may happen at the supervisor, and what its journal has completed. -/
def supervisorView (S : SupervisorRules) : SupervisorView SupervisorSide where
  reaches side side' := ∃ events, side'.events = side.events ++ events
  settled := SupervisorSide.Completed S
  refl _ := ⟨[], (List.append_nil _).symm⟩
  trans := by
    rintro first second third ⟨events, hevents⟩ ⟨later, hlater⟩
    exact ⟨events ++ later, by rw [hlater, hevents, List.append_assoc]⟩
  keeps := by
    rintro side side' command ack ⟨events, hevents⟩ hcompleted
    exact hcompleted.mono hevents

/-! ## Requests -/

/-- A request only adds to what happens. -/
theorem SupervisorSide.request_reaches {α : Type} (side : SupervisorSide) (envelope : String → List ExecutionRpcEvent)
    (answer : ExecutionRpcWorld → ExecutionRpcWorld → Except KernelError α) :
    ∃ events, (side.request S envelope answer).1.events = side.events ++ events := by
  unfold SupervisorSide.request
  split
  · exact ⟨[], (List.append_nil _).symm⟩
  · split
    · exact ⟨_, rfl⟩
    · exact ⟨_, List.append_assoc ..⟩

/-- An answer was read off the RPC after the envelope had arrived. -/
theorem SupervisorSide.request_answer {α : Type} {side : SupervisorSide} {envelope : String → List ExecutionRpcEvent}
    {answer : ExecutionRpcWorld → ExecutionRpcWorld → Except KernelError α} {a : α}
    (h : (side.request S envelope answer).2 = .ok a) : ∃ time, ∃ asked : SupervisorSide, ∃ events,
      asked.events = side.events ++ envelope time ∧
      (side.request S envelope answer).1.events = asked.events ++ events ∧
      answer (asked.world S) ((side.request S envelope answer).1.world S) = .ok a := by
  unfold SupervisorSide.request at h ⊢
  split at h
  · cases h
  · rename_i exchange exchanges hexchanges
    split at h
    · cases h
    · rename_i time harrives
      dsimp only at h ⊢
      split at h
      · exact ⟨time, ⟨side.events ++ envelope time, exchanges⟩, exchange.events, rfl, rfl, h⟩
      · cases h

theorem correlateAcknowledgement_commandId {command : ExecutionCommand} {ack : ExecutionAcknowledgement}
    (h : correlateAcknowledgement command ack = .ok ()) : ack.commandId = command.commandId := by
  unfold correlateAcknowledgement at h
  obtain ⟨_, hid, _⟩ := bind_eq_ok.mp h
  simpa only [require_eq_ok, beq_iff_eq] using hid

/-- The journal answers a query with what it has completed. -/
theorem queryAnswer_completed {journal : WasmExecutionJournalFileV1} {commandId : String} {query : CommandQueryResultV1}
    {ack : ExecutionAcknowledgement} (h : queryAnswer (queryJournal journal commandId) = .ok query)
    (hack : query.acknowledgement = some ack) : query.commandId = commandId ∧
      ∃ completed, journal.findCompleted commandId = some completed ∧ completed.acknowledgement = ack := by
  have hid : query.commandId = commandId ∧ (queryJournal journal commandId).acknowledged = query.acknowledgement := by
    unfold queryJournal at h ⊢
    split at h
    · cases h
      exact ⟨rfl, rfl⟩
    · cases h
    · cases h
      exact ⟨rfl, rfl⟩
    · cases h
      exact ⟨rfl, rfl⟩
  exact ⟨hid.1, stored_query journal commandId ack (hid.2.trans hack)⟩

/-! ## Replies -/

theorem ExecutionRpcWorld.startDelivery_replies (world : ExecutionRpcWorld) (command : ExecutionCommand)
    (mode : DeliveryMode) (receivedAt : String) :
    (world.startDelivery S command mode receivedAt).replies =
      world.replies ++ [(command.commandId, .promise world.nextDelivery)] := rfl

/-- A delivery gets one reply, about its command. -/
theorem ExecutionRpcWorld.deliver_replies (world : ExecutionRpcWorld) (command : ExecutionCommand) (mode : DeliveryMode)
    (receivedAt : String) : ∃ reply, (world.deliver S command mode receivedAt).replies =
      world.replies ++ [(command.commandId, reply)] := by
  unfold ExecutionRpcWorld.deliver
  split
  · exact ⟨_, world.startDelivery_replies command mode receivedAt⟩
  · split
    · exact ⟨_, rfl⟩
    · split
      · exact ⟨_, rfl⟩
      · exact ⟨_, world.startDelivery_replies command mode receivedAt⟩

theorem ExecutionRpcWorld.step_replies (world : ExecutionRpcWorld) (event : ExecutionRpcEvent) :
    world.replies <+: (world.step S event).replies := by
  cases event with
  | deliver command mode receivedAt =>
    obtain ⟨reply, hreply⟩ := world.deliver_replies (S := S) command mode receivedAt
    exact ⟨_, hreply.symm⟩
  | query commandId => exact List.prefix_append ..
  | executed number outcome completedAt =>
    show world.replies <+: (world.executed S number outcome completedAt).replies
    unfold ExecutionRpcWorld.executed
    split <;> exact List.prefix_refl _
  | removed number =>
    show world.replies <+: (world.removed number).replies
    unfold ExecutionRpcWorld.removed
    split
    · split <;> exact List.prefix_refl _
    · exact List.prefix_refl _
  | restart => exact List.prefix_refl _

theorem ExecutionRpcWorld.run_replies (world : ExecutionRpcWorld) (events : List ExecutionRpcEvent) :
    world.replies <+: (run (ExecutionRpcWorld.step S) world events).replies := by
  induction events generalizing world with
  | nil => exact List.prefix_refl _
  | cons event events ih => exact (world.step_replies event).trans (ih _)

/-- An answered delivery is acknowledged by the RPC. -/
theorem deliveryAnswer_acknowledged {side asked : SupervisorSide} {command : ExecutionCommand} {mode : DeliveryMode}
    {time : String} {after : ExecutionRpcWorld} {ack : ExecutionAcknowledgement}
    (hasked : asked.events = side.events ++ [.deliver command mode time])
    (hafter : (asked.world S).replies <+: after.replies)
    (h : deliveryAnswer (asked.world S).replies.getLast? after = .ok ack) : after.Acknowledged command.commandId ack := by
  have hworld : asked.world S = (side.world S).deliver S command mode time := by
    unfold SupervisorSide.world
    rw [hasked, run_append]
    rfl
  obtain ⟨reply, hreply⟩ := (side.world S).deliver_replies (S := S) command mode time
  have hlast : (asked.world S).replies.getLast? = some (command.commandId, reply) := by
    rw [hworld, hreply, List.getLast?_concat]
  rw [hlast] at h
  unfold deliveryAnswer at h
  rw [Option.bind_some] at h
  split at h
  · rename_i found hresult
    cases h
    exact ⟨reply, _, hafter.subset (List.mem_of_getLast? hlast), hresult, rfl⟩
  · cases h
  · cases h

/-- The execution RPC tells the truth. -/
theorem supervisorChannel_truthful : (supervisorChannel S).Truthful (supervisorView S) where
  query := by
    intro commandId side query ack hquery hack hid command hcorrelate
    obtain ⟨time, asked, events, _, hafter, hanswer⟩ := SupervisorSide.request_answer hquery
    obtain ⟨hsame, completed, hcompleted, hstored⟩ := queryAnswer_completed hanswer hack
    have hcommand : command.commandId = commandId :=
      (correlateAcknowledgement_commandId hcorrelate).symm.trans (hid.trans hsame)
    refine ⟨completed, ?_, hstored, hcorrelate⟩
    rw [hcommand]
    exact (SupervisorSide.progress hafter).completed _ _ hcompleted
  deliver := by
    intro mode command side ack hdeliver hrepeats other hcorrelate
    obtain ⟨time, asked, events, hasked, hafter, hanswer⟩ := SupervisorSide.request_answer hdeliver
    have hreplies : (asked.world S).replies <+:
        (((supervisorChannel S).deliver mode command side).1.world S).replies := by
      unfold SupervisorSide.world
      rw [show ((supervisorChannel S).deliver mode command side).1.events = _ from hafter, run_append]
      exact ExecutionRpcWorld.run_replies _ _
    obtain ⟨completed, hcompleted, hstored⟩ :=
      (SupervisorSide.world_inv _).acknowledged (deliveryAnswer_acknowledged hasked hreplies hanswer)
    refine ⟨completed, ?_, hstored, hcorrelate⟩
    rw [← correlateAcknowledgement_commandId hcorrelate, correlateAcknowledgement_commandId hrepeats]
    exact hcompleted
  queryReaches := fun _ side => side.request_reaches _ _
  handoffReaches := fun _ side => side.request_reaches _ _
  deliverReaches := fun _ _ side => side.request_reaches _ _

/-! ## The Start of a fence -/

/-- A version has one Start. -/
theorem KernelWorld.Planned.start_unique {σ : Type} {world : KernelWorld σ} (h : world.Planned)
    {first second : ExecutionCommand} (hfirst : first ∈ world.commands) (hsecond : second ∈ world.commands)
    (hoperation : first.operation = .start) (hoperation' : second.operation = .start)
    (hversion : first.identity.versionId = second.identity.versionId) : first = second := by
  obtain ⟨proof, hproof, hadmitted⟩ := h.admitted first hfirst (.inr hoperation)
  obtain ⟨proof', hproof', hadmitted'⟩ := h.admitted second hsecond (.inr hoperation')
  obtain rfl := eq_of_versionId h.distinct hproof hproof'
    (hadmitted.versionId.symm.trans (hversion.trans hadmitted'.versionId))
  have hpackage : first.packageDigest = second.packageDigest := hadmitted.packageDigest.trans hadmitted'.packageDigest.symm
  have hsame : first.operation = second.operation := hoperation.trans hoperation'.symm
  obtain ⟨i, hi, rfl⟩ := List.getElem_of_mem hfirst
  obtain ⟨j, hj, rfl⟩ := List.getElem_of_mem hsecond
  have honce := List.pairwise_iff_getElem.mp h.once
  rcases Nat.lt_trichotomy i j with hlt | rfl | hlt
  · exact absurd ⟨hsame, hversion, hpackage⟩ (honce i j hi hj hlt (.inr hoperation))
  · rfl
  · exact absurd ⟨hsame.symm, hversion.symm, hpackage.symm⟩ (honce j i hj hi hlt (.inr hoperation'))

/-! ## Whole runs -/

theorem KernelOp.AtSupervisor.within {op : KernelOp SupervisorSide} (h : op.AtSupervisor) :
    op.Within (supervisorView S) := by
  intro change hchange side
  obtain ⟨events, rfl⟩ := h change hchange
  exact ⟨events, rfl⟩

open Vectors in
/-- A command reaches the supervisor, and the runtime delivers its outbox. -/
def supervisedHistory : List (KernelOp SupervisorSide) :=
  [.supervisor (SupervisorSide.happens [.deliver (executionCommand 1 .prepare (execution 1 1 1)) .command
    "2026-08-26T00:00:00.000Z"]), .deliver admissionTime none]

end Iweb
