import Iweb.Runtime.ControlMutators
import Iweb.Runtime.System
import Mathlib.Logic.Relation

/-!
# The machine of the control state

What one write of the runtime may do to its files, whichever call makes it: add version rows, plan one command, note a
delivery, project a route event, or write fences for planned Starts. The programs of the runtime run on this machine,
so what it keeps holds in every state a crash can leave.
-/

namespace Iweb

open Relation (ReflTransGen)

variable {σ : Type}

/-- What the supervisor has completed, as its journal says: a command and its acknowledgement. -/
abbrev Completions : Type := ExecutionCommand → ExecutionAcknowledgement → Prop

/-- What is seen of the supervisor: where it may get to, and what it has completed, which stays completed. -/
structure SupervisorView (σ : Type) where
  reaches : σ → σ → Prop
  settled : σ → Completions
  refl : ∀ channel, reaches channel channel
  trans : ∀ first second third, reaches first second → reaches second third → reaches first third
  keeps : ∀ channel channel' command ack, reaches channel channel' → settled channel command ack →
    settled channel' command ack

/-! ## Rows, commands and fences -/

/-- A row with another lifecycle and lease; what the admission fixed is the same. -/
def WasmVersionRegistryRow.SameFacts (row row' : WasmVersionRegistryRow) : Prop :=
  row' = { row with lifecycle := row'.lifecycle, readinessLeaseDigest := row'.readinessLeaseDigest }

/-- A record keeps its rows, and its route generation does not go back. -/
structure WasmApplicationRegistryRecord.Grows (record record' : WasmApplicationControlRecordV1) : Prop where
  routeGeneration : record.routeGeneration ≤ record'.routeGeneration
  versions : ∀ row ∈ record.versions, ∃ row' ∈ record'.versions, row.SameFacts row'

def ApplicationsGrow (applications applications' : WasmApplications) : Prop :=
  ∀ (applicationId : String) (record : WasmApplicationControlRecordV1), applications[applicationId]? = some record →
    ∃ record', applications'[applicationId]? = some record' ∧ record.Grows record'

/-- A command carries the pins of an admitted proof. -/
structure ExecutionCommand.PlannedFor (command : ExecutionCommand) (proof : AdmissionProofV1) : Prop where
  applicationId : command.applicationId = proof.applicationId
  versionId : command.identity.versionId = proof.versionId
  packageDigest : command.packageDigest = proof.packageDigest
  runtimeBinding : runtimeBindingV2FromV1 proof.runtimeBinding = .ok command.runtimeBinding
  hostServicePolicyDigest : command.hostServicePolicyDigest = proof.policyDigest
  capabilityRecordRevision : command.capabilityRecordRevision = proof.capabilityRecordRevision
  capabilityRecordHash : command.capabilityRecordHash = proof.capabilityRecordHash

/-- A Start runs what a Prepare prepared: the same snapshots, one execution generation later. -/
structure ExecutionCommand.StartOf (start prepare : ExecutionCommand) : Prop where
  identity : start.identity =
    { prepare.identity with executionGeneration := prepare.identity.executionGeneration + 1 }
  packageDigest : start.packageDigest = prepare.packageDigest
  secretRevision : start.secretRevision = prepare.secretRevision
  secretSnapshotRef : start.secretSnapshotRef = prepare.secretSnapshotRef
  secretValuesDigest : start.secretValuesDigest = prepare.secretValuesDigest
  configRevision : start.configRevision = prepare.configRevision
  configSnapshotRef : start.configSnapshotRef = prepare.configSnapshotRef
  configValuesDigest : start.configValuesDigest = prepare.configValuesDigest

/-- Two commands plan the same thing for the same version. -/
def ExecutionCommand.Repeats (command command' : ExecutionCommand) : Prop :=
  command.operation = command'.operation ∧ command.identity.versionId = command'.identity.versionId ∧
    command.packageDigest = command'.packageDigest

/-- A fence later on: it may have come alive, and it stays so. -/
structure WasmFenceRecordV1.Continues (fence fence' : WasmFenceRecordV1) : Prop where
  pins : fence' = { fence with
    alive := fence'.alive
    lifecycle := fence'.lifecycle
    drainDeadlineEpochMillis := fence'.drainDeadlineEpochMillis }
  alive : fence.alive = true → fence'.alive = true ∧ fence'.lifecycle = fence.lifecycle

/-! ## Steps -/

/-- The commands a reconciliation plans: a Prepare or a Start that is not planned yet, for a visible proof. -/
structure Plans (visible : List AdmissionProofV1) (commands : List ExecutionCommand) (command : ExecutionCommand) :
    Prop where
  operation : command.operation = .prepare ∨ command.operation = .start
  admitted : ∃ proof ∈ visible, command.PlannedFor proof
  fresh : ∀ planned ∈ commands, ¬ planned.Repeats command
  prepared : command.operation = .start → ∃ prepare ∈ commands, prepare.operation = .prepare ∧ command.StartOf prepare

/-- What one write does to the outbox; an entry is closed for a settled command only. -/
inductive OutboxStep (visible : List AdmissionProofV1) (settled : Completions) (outbox : List CommandOutboxRecord) :
    List CommandOutboxRecord → Prop
  | same : OutboxStep visible settled outbox outbox
  | noted {commandId : String} {update : CommandOutboxRecord → CommandOutboxRecord}
      (h : ∀ entry, outbox.find? (fun entry => entry.commandId == commandId) = some entry →
        entry.LeadsTo (update entry) ∧
          ((update entry).deliveryState = .acknowledged → ∃ ack, settled entry.command ack)) :
      OutboxStep visible settled outbox (updateEntry commandId update outbox)
  | planned {command : ExecutionCommand} {createdAt : String}
      (h : Plans visible (outbox.map CommandOutboxRecord.command) command) :
      OutboxStep visible settled outbox (outbox ++ [pendingEntry command createdAt])
  | drained {command : ExecutionCommand} {createdAt : String} (h : command.operation = .drain) :
      OutboxStep visible settled outbox (outbox ++ [pendingEntry command createdAt])

/-- What one write does to the control state file. -/
structure ControlFileStep (visible : List AdmissionProofV1) (settled : Completions) (file file' : WasmControlStateFileV2) :
    Prop where
  revision : file'.controlRevision = file.controlRevision + 1
  applications : ApplicationsGrow file.applications file'.applications
  outbox : OutboxStep visible settled file.commandOutbox file'.commandOutbox

/-- The Start of a version was applied. -/
def StartApplied (settled : Completions) (commands : List ExecutionCommand) (applicationId versionId : String) : Prop :=
  ∃ start ∈ commands, start.operation = .start ∧ start.applicationId = applicationId ∧
    start.identity.versionId = versionId ∧ ∃ ack, settled start ack ∧ ack.result = .applied

/-- What one write does to the fences; `commands` are the commands of the outbox. -/
inductive FenceStep (visible : List AdmissionProofV1) (settled : Completions) (commands : List ExecutionCommand) :
    WasmFences → WasmFences → Prop
  | entered {fences : WasmFences} {proof : AdmissionProofV1} {start : ExecutionCommand} (hproof : proof ∈ visible)
      (hstart : start ∈ commands) (hoperation : start.operation = .start)
      (hversion : start.identity.versionId = proof.versionId)
      (hnone : fenceOf fences proof.applicationId proof.versionId = none) :
      FenceStep visible settled commands fences
        (withCurrentFence fences proof (fenceFromPlannedStart start "preparing"))
  | continued {fences fences' : WasmFences} (h : ∀ applicationId versionId,
      (fenceOf fences applicationId versionId = none ∧ fenceOf fences' applicationId versionId = none) ∨
        ∃ fence fence', fenceOf fences applicationId versionId = some fence ∧
          fenceOf fences' applicationId versionId = some fence' ∧ fence.Continues fence' ∧
          (fence'.alive = true → fence.alive = true ∨ StartApplied settled commands applicationId versionId)) :
      FenceStep visible settled commands fences fences'

/-- The outbox in the files. -/
def KernelWorld.outbox (world : KernelWorld σ) : List CommandOutboxRecord :=
  (world.control.map WasmControlStateFileV2.commandOutbox).getD []

/-- The commands of the outbox, in the order they were planned. -/
def KernelWorld.commands (world : KernelWorld σ) : List ExecutionCommand :=
  world.outbox.map CommandOutboxRecord.command

/-- One write of the runtime. -/
inductive KernelWrite (A : AdmissionRules) (V : SupervisorView σ) : KernelWorld σ → KernelWorld σ → Prop
  /-- A write to another file, or a request to the supervisor. -/
  | beside {w w' : KernelWorld σ} (hcontrol : w'.control = w.control) (hfences : w'.fences = w.fences)
      (hvisible : w'.visible = w.visible)
      (hchannel : V.reaches w.channel w'.channel) :
      KernelWrite A V w w'
  /-- An admission transaction makes a proof visible. -/
  | admitted (w : KernelWorld σ) (proof : AdmissionProofV1) : KernelWrite A V w (w.admitted A proof)
  /-- The first save of the control state. -/
  | created {w w' : KernelWorld σ} {file : WasmControlStateFileV2} (hnone : w.control = none)
      (hfile : w'.control = some file) (hempty : file.commandOutbox = []) (hfences : w'.fences = w.fences)
      (hvisible : w'.visible = w.visible) (hchannel : w'.channel = w.channel) : KernelWrite A V w w'
  | control {w w' : KernelWorld σ} {file file' : WasmControlStateFileV2} (hfile : w.control = some file)
      (hfile' : w'.control = some file') (hstep : ControlFileStep w.visible (V.settled w.channel) file file')
      (hfences : w'.fences = w.fences) (hvisible : w'.visible = w.visible) (hchannel : w'.channel = w.channel) :
      KernelWrite A V w w'
  | fences {w w' : KernelWorld σ}
      (hsteps : ReflTransGen (FenceStep w.visible (V.settled w.channel) w.commands) w.fences w'.fences)
      (hcontrol : w'.control = w.control) (hvisible : w'.visible = w.visible) (hchannel : w'.channel = w.channel) :
      KernelWrite A V w w'

/-! ## What a call knows -/

/-- What a call has in memory of the files: the visible proofs, the control state, and something about the fences and
the supervisor. -/
structure KernelWorld.Holds (visible : List AdmissionProofV1) (state : WasmCommandControlState)
    (applications : WasmApplications) (I : WasmFences → σ → Prop) (world : KernelWorld σ) : Prop where
  visible : world.visible = visible
  outbox : world.outbox = state.commandOutbox
  file : ∀ file, world.control = some file →
    file.controlRevision = state.controlRevision ∧ file.applications = applications
  known : I world.fences world.channel

/-- Nothing is known of the fences and the supervisor. -/
def Unknown : WasmFences → σ → Prop := fun _ _ => True

/-- An acknowledgement is evident if every command that it repeats is settled with it. -/
def Evident (settled : Completions) (ack : ExecutionAcknowledgement) : Prop :=
  ∀ command, correlateAcknowledgement command ack = .ok () → settled command ack

/-- The answers of the supervisor are true: what it acknowledges is settled. -/
structure SupervisorChannel.Truthful (C : SupervisorChannel σ) (V : SupervisorView σ) : Prop where
  query : ∀ commandId channel query ack, (C.query commandId channel).2 = .ok query → query.acknowledgement = some ack →
    ack.commandId = query.commandId → Evident (V.settled (C.query commandId channel).1) ack
  deliver : ∀ mode command channel ack, (C.deliver mode command channel).2 = .ok ack →
    correlateAcknowledgement command ack = .ok () → Evident (V.settled (C.deliver mode command channel).1) ack
  queryReaches : ∀ commandId channel, V.reaches channel (C.query commandId channel).1
  handoffReaches : ∀ command channel, V.reaches channel (C.handoff command channel).1
  deliverReaches : ∀ mode command channel, V.reaches channel (C.deliver mode command channel).1

/-- What happens at the supervisor is what may happen there. -/
def KernelOp.Within (V : SupervisorView σ) (op : KernelOp σ) : Prop :=
  ∀ change, op = .supervisor change → ∀ channel, V.reaches channel (change channel)

/-! ## What a machine keeps -/

/-- What lies between two states of a run. -/
structure KernelWorld.Grows (world world' : KernelWorld σ) : Prop where
  control : ∀ file, world.control = some file → ∃ file', world'.control = some file' ∧
    file.controlRevision ≤ file'.controlRevision ∧ (file.controlRevision = file'.controlRevision → file' = file) ∧
    ApplicationsGrow file.applications file'.applications
  /-- A planned command stays where it is, and its delivery does not go back. -/
  outbox : ∀ (i : Nat) (entry : CommandOutboxRecord), world.outbox[i]? = some entry →
    ∃ entry', world'.outbox[i]? = some entry' ∧ entry.LeadsTo entry'
  fences : ∀ applicationId versionId fence, fenceOf world.fences applicationId versionId = some fence →
    ∃ fence', fenceOf world'.fences applicationId versionId = some fence' ∧ fence.Continues fence'
  visible : ∀ proof ∈ world.visible, proof ∈ world'.visible

/-- What a fence pins is what a Start of the outbox names. -/
def WasmFenceRecordV1.Runs (fence : WasmFenceRecordV1) (start : ExecutionCommand) : Prop :=
  (fenceFromPlannedStart start "preparing").Continues fence

/-- What the files say of the supervisor is so: a closed entry is settled, and a fence is alive for an applied Start. -/
structure KernelWorld.Attested (V : SupervisorView σ) (world : KernelWorld σ) : Prop where
  acknowledged : ∀ entry ∈ world.outbox, entry.deliveryState = .acknowledged →
    ∃ ack, V.settled world.channel entry.command ack
  alive : ∀ applicationId versionId fence, fenceOf world.fences applicationId versionId = some fence →
    fence.alive = true → StartApplied (V.settled world.channel) world.commands applicationId versionId

/-- Every execution is planned once, from an admitted proof: at most one Prepare and one Start a version, the Start
after its Prepare, and a fence only for a planned Start. -/
structure KernelWorld.Planned (world : KernelWorld σ) : Prop where
  distinct : (world.visible.map AdmissionProofV1.versionId).Nodup
  admitted : ∀ command ∈ world.commands, command.operation = .prepare ∨ command.operation = .start →
    ∃ proof ∈ world.visible, command.PlannedFor proof
  once : world.commands.Pairwise fun command command' =>
    command.operation = .prepare ∨ command.operation = .start → ¬ command.Repeats command'
  prepared : ∀ before start after, world.commands = before ++ start :: after → start.operation = .start →
    ∃ prepare ∈ before, prepare.operation = .prepare ∧ start.StartOf prepare
  fenced : ∀ applicationId versionId fence, fenceOf world.fences applicationId versionId = some fence →
    ∃ proof ∈ world.visible, proof.applicationId = applicationId ∧ proof.versionId = versionId ∧
      ∃ start ∈ world.commands, start.operation = .start ∧ start.PlannedFor proof ∧ fence.Runs start

end Iweb
