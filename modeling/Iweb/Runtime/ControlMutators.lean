import Iweb.Foundations.CrashHoare
import Iweb.Supervisor.Fence

/-!
# The mutators of the control state

The calls that change `WasmCommandControlState` in place, as programs over it: what a mutator has written stays
written when it fails. Each of them checks its expected revision against the head and raises it by one; a drain
receipt is the only way to a retired execution.
-/

namespace Iweb

open CrashHoare CrashRefinement

def drainReceiptStale : String := "DRAIN_RECEIPT_STALE"

/-! ## Drain receipts -/

structure DrainReceiptV1 where
  schemaVersion : Nat
  commandId : String
  applicationId : String
  execution : WasmExecutionIdentityV1
  packageDigest : String
  runtimeBinding : RuntimeBindingIdentityV1
  routeGeneration : Nat
  drainedRequestCount : Nat
  deadlineAt : String
  forcedKillAt : Option String
  result : WasmDrainResult
  completedAt : String
  journalRevision : Nat
  receiptDigest : String
deriving DecidableEq

/-- A time of a receipt. -/
def receiptMillis (field value : String) : Except KernelError Nat :=
  match parseRfc3339UtcMillis value with
  | .ok millis => .ok millis
  | .error failure => .error ⟨drainReceiptInvalid, field ++ ": " ++ failure.detail⟩

def DrainReceiptV1.deadlineAtEpochMillis (receipt : DrainReceiptV1) : Except KernelError Nat :=
  receiptMillis "/deadlineAt" receipt.deadlineAt

def DrainReceiptV1.completedAtEpochMillis (receipt : DrainReceiptV1) : Except KernelError Nat :=
  receiptMillis "/completedAt" receipt.completedAt

def DrainReceiptV1.forcedKillAtEpochMillis (receipt : DrainReceiptV1) : Except KernelError (Option Nat) :=
  match receipt.forcedKillAt with
  | none => .ok none
  | some value => do return some (← receiptMillis "/forcedKillAt" value)

/-- The digest of a receipt is taken over its other members. -/
structure DrainReceiptRules where
  digest : DrainReceiptV1 → String

variable (D : DrainReceiptRules)

def drainReceiptDigestV1 (receipt : DrainReceiptV1) : String := D.digest { receipt with receiptDigest := "" }

/-- A forced kill has its time, at the deadline or after it; a drained execution has none. -/
def checkForcedKill (result : WasmDrainResult) (forcedKillAt : Option Nat) (deadlineAt : Nat) :
    Except KernelError Unit :=
  match result, forcedKillAt with
  | .forcedKill, none => .error ⟨drainReceiptInvalid,
      "forcedKillAt is non-null if and only if result is forced-kill"⟩
  | .drained, some _ => .error ⟨drainReceiptInvalid, "a normal drained receipt carries forcedKillAt null"⟩
  | .forcedKill, some killedAt =>
    require (deadlineAt ≤ killedAt) drainReceiptInvalid "forcedKillAt is at or after deadlineAt"
  | .drained, none => .ok ()

/-- The application id check of the command module. -/
def validateCommandApplicationId (value : String) : Except KernelError Unit :=
  require (isApplicationId value) drainReceiptInvalid
    "applicationId must match ^[a-z0-9]([a-z0-9-]\x7b0,61\x7d[a-z0-9])?$"

def validateUuidV7 (value field : String) : Except KernelError Unit :=
  require (isUuidV7 value) executionCommandInvalid
    (field ++ " must be a lower-case UUIDv7 (version nibble 7, RFC 9562 variant)")

/-- `validate_drain_receipt` -/
def validateDrainReceipt (receipt : DrainReceiptV1) : Except KernelError Unit := do
  let invalid (checked : Except KernelError Unit) := recode drainReceiptInvalid checked
  require (receipt.schemaVersion == 1) drainReceiptInvalid "schemaVersion must be exactly 1"
  invalid (validateUuidV7 receipt.commandId "commandId")
  validateCommandApplicationId receipt.applicationId
  invalid (validateExecutionIdentity receipt.execution)
  invalid (validateCommandSha256Hex receipt.packageDigest "/packageDigest")
  invalid (validateRuntimeBinding receipt.runtimeBinding)
  invalid (requireCommandU53 receipt.routeGeneration 0 "/routeGeneration")
  invalid (requireCommandU53 receipt.drainedRequestCount 0 "/drainedRequestCount")
  invalid (requireCommandU53 receipt.journalRevision 0 "/journalRevision")
  let deadlineAt ← receipt.deadlineAtEpochMillis
  let _ ← receipt.completedAtEpochMillis
  let forcedKillAt ← receipt.forcedKillAtEpochMillis
  checkForcedKill receipt.result forcedKillAt deadlineAt
  require (receipt.receiptDigest == drainReceiptDigestV1 D receipt) drainReceiptInvalid
    ("receiptDigest does not equal hex(SHA-256(UTF8(\"iweb-drain-receipt-v1\\n\" || " ++
      "JCS(receipt with receiptDigest omitted))))")

/-- `correlate_drain_receipt`: the receipt echoes its drain command. -/
def correlateDrainReceipt (command : ExecutionCommand) (receipt : DrainReceiptV1) : Except KernelError Unit := do
  require (command.operation == .drain) drainReceiptInvalid
    "a drain receipt correlates only with operation drain"
  require (receipt.commandId == command.commandId) drainReceiptInvalid
    "the receipt commandId does not match the drain command"
  require (receipt.execution == command.identity) drainReceiptInvalid
    "the receipt execution identity does not match the drain command"
  require (receipt.packageDigest == command.packageDigest) drainReceiptInvalid
    "the receipt package digest does not match the drain command"
  let receiptBinding ← recode drainReceiptInvalid (runtimeBindingV2FromV1 receipt.runtimeBinding)
  require (receiptBinding == command.runtimeBinding) drainReceiptInvalid
    "the receipt runtime binding does not match the drain command"

/-- The receipt names what the retiring record has. -/
def checkRetiringReceipt (retiring : RetiringExecutionRecord) (receipt : DrainReceiptV1) :
    Except KernelError Unit := do
  require (receipt.execution == retiring.execution && receipt.runtimeBinding == retiring.runtimeBinding)
    drainReceiptStale "the receipt names an execution generation or binding different from the retiring route"
  require (receipt.routeGeneration == retiring.routeGeneration) drainReceiptStale
    "the receipt names a route generation different from the retiring route"
  require (receipt.applicationId == retiring.applicationId && receipt.packageDigest == retiring.packageDigest)
    drainReceiptStale "the receipt names an application or package different from the retiring route"
  require ((← receipt.deadlineAtEpochMillis) == retiring.deadlineAtEpochMillis) drainReceiptInvalid
    "deadlineAt must be the exact drain deadline supplied by the Kernel capability record"
  require (retiring.flipAtEpochMillis ≤ retiring.deadlineAtEpochMillis) drainReceiptInvalid
    "deadline before route flip is invalid"

/-! ## Mutators -/

/-- A mutator of the control state. -/
abbrev ControlM (α : Type) : Type := Prog WasmCommandControlState KernelError α

/-- One assignment in place. -/
def assign (change : WasmCommandControlState → WasmCommandControlState) : ControlM Unit :=
  Prog.write fun state => (change state, .ok ())

inductive DrainRetirementProjection
  | retired (controlRevision : Nat)
  | alreadyRetired
deriving DecidableEq

namespace ControlM

/-- The head against the expected revision. -/
def checkHead (expectedControlRevision : Nat) : ControlM Unit := do
  let state ← Prog.read id
  Prog.lift (checkControlRevision state expectedControlRevision)

def raiseRevision (expectedControlRevision : Nat) : ControlM Unit :=
  assign fun state => { state with controlRevision := expectedControlRevision + 1 }

def pushEntry (command : ExecutionCommand) (createdAt : String) : ControlM Unit :=
  assign fun state => { state with commandOutbox := state.commandOutbox ++ [pendingEntry command createdAt] }

def pushRetirement (record : RetiringExecutionRecord) : ControlM Unit :=
  assign fun state => { state with retirements := state.retirements ++ [record] }

/-- Change the entry at a position. -/
def changeEntry (position : Nat) (change : CommandOutboxRecord → CommandOutboxRecord) : ControlM Unit :=
  assign fun state => { state with commandOutbox := state.commandOutbox.modify position change }

def changeRetirement (position : Nat) (change : RetiringExecutionRecord → RetiringExecutionRecord) : ControlM Unit :=
  assign fun state => { state with retirements := state.retirements.modify position change }

/-- The position of the first element with a property, and the element. -/
def positionOf {α : Type} (p : α → Bool) : List α → Option (Nat × α)
  | [] => none
  | a :: l => if p a then some (0, a) else (positionOf p l).map fun found => (found.1 + 1, found.2)

/-- `authorize_command` -/
def authorizeCommand (expectedControlRevision : Nat) (command : ExecutionCommand) (createdAt : String) :
    ControlM Unit := do
  checkHead expectedControlRevision
  Prog.lift (checkControlRevisionSpace expectedControlRevision)
  Prog.lift (validateExecutionCommand command)
  let _ ← Prog.lift (recode executionCommandInvalid (parseRfc3339UtcMillis createdAt))
  let outbox ← Prog.read WasmCommandControlState.commandOutbox
  Prog.lift (require (!(outbox.any fun entry => entry.commandId == command.commandId))
    executionOutboxDuplicateCommand
    "outbox commandId must be unique; a duplicate append is fail-closed, never merged")
  pushEntry command createdAt
  raiseRevision expectedControlRevision

/-- The checks that `authorize_drain_with_retirement` and `authorize_retirement` make of the record itself. -/
def checkRetiringRecord (record : RetiringExecutionRecord) : Except KernelError Unit := do
  validateCommandApplicationId record.applicationId
  validateExecutionIdentity record.execution
  validateCommandSha256Hex record.packageDigest "/packageDigest"
  validateRuntimeBinding record.runtimeBinding
  requireCommandU53 record.routeGeneration 0 "/routeGeneration"
  require (record.flipAtEpochMillis ≤ record.deadlineAtEpochMillis) drainReceiptInvalid
    "the drain deadline supplied by the capability record must not precede the route flip"
  require (!(record.retired || record.acceptedReceiptDigest.isSome)) drainReceiptInvalid
    "a retiring record is created unretired; retirement is reachable only through receipt projection"

/-- `authorize_drain_with_retirement` -/
def authorizeDrainWithRetirement (expectedControlRevision : Nat) (command : ExecutionCommand) (createdAt : String)
    (record : RetiringExecutionRecord) : ControlM Unit := do
  checkHead expectedControlRevision
  Prog.lift (checkControlRevisionSpace expectedControlRevision)
  Prog.lift (require (command.operation == .drain) executionCommandInvalid
    "a retiring execution may be authorized only with a drain command")
  Prog.lift (validateExecutionCommand command)
  let _ ← Prog.lift (recode executionCommandInvalid (parseRfc3339UtcMillis createdAt))
  let recordBinding ← Prog.lift (recode drainReceiptInvalid (runtimeBindingV2FromV1 record.runtimeBinding))
  Prog.lift (require (record.drainCommandId == command.commandId && record.execution == command.identity &&
      record.packageDigest == command.packageDigest && recordBinding == command.runtimeBinding)
    drainReceiptInvalid "the retiring execution must exactly echo its authorized drain command")
  Prog.lift (checkRetiringRecord record)
  let state ← Prog.read id
  Prog.lift (require (!(state.commandOutbox.any fun entry => entry.commandId == command.commandId) &&
      !(state.retirements.any fun entry => entry.drainCommandId == record.drainCommandId))
    executionOutboxDuplicateCommand "a drain command and retiring execution are each recorded once")
  pushEntry command createdAt
  pushRetirement record
  raiseRevision expectedControlRevision

/-- `authorize_retirement` -/
def authorizeRetirement (expectedControlRevision : Nat) (record : RetiringExecutionRecord) : ControlM Unit := do
  checkHead expectedControlRevision
  Prog.lift (checkControlRevisionSpace expectedControlRevision)
  Prog.lift (validateUuidV7 record.drainCommandId "drainCommandId")
  Prog.lift (checkRetiringRecord record)
  let retirements ← Prog.read WasmCommandControlState.retirements
  Prog.lift (require (!(retirements.any fun entry => entry.drainCommandId == record.drainCommandId))
    executionOutboxDuplicateCommand "a retiring execution is recorded once per drain command")
  pushRetirement record
  raiseRevision expectedControlRevision

/-- `project_acknowledgement` -/
def projectAcknowledgement (expectedControlRevision : Nat) (ack : ExecutionAcknowledgement) :
    ControlM AcknowledgementProjection := do
  checkHead expectedControlRevision
  Prog.lift (validateExecutionAcknowledgement ack)
  let outbox ← Prog.read WasmCommandControlState.commandOutbox
  match positionOf (fun entry => entry.commandId == ack.commandId) outbox with
  | none => Prog.lift (.error ⟨executionOutboxCommandUnknown,
      "the acknowledgement names no authorized outbox command"⟩)
  | some (position, entry) => do
    Prog.lift (correlateAcknowledgement entry.command ack)
    match entry.deliveryState with
    | .dead => Prog.lift (.error ⟨executionAckProjectionConflict,
        "a dead outbox entry is never resurrected by an acknowledgement"⟩)
    | .acknowledged => return .alreadyAcknowledged
    | .pending | .sent => do
      Prog.lift (require (entry.command.expectedJournalRevision + 2 ≤ ack.journalRevision) executionAckStale
        "the acknowledgement journal revision cannot precede its received entry")
      Prog.lift (checkControlRevisionSpace expectedControlRevision)
      changeEntry position fun entry => { entry with deliveryState := .acknowledged }
      raiseRevision expectedControlRevision
      return .projected

/-- `record_delivery_attempt` -/
def recordDeliveryAttempt (expectedControlRevision : Nat) (commandId attemptedAt : String) : ControlM Unit := do
  checkHead expectedControlRevision
  let outbox ← Prog.read WasmCommandControlState.commandOutbox
  match positionOf (fun entry => entry.commandId == commandId) outbox with
  | none => Prog.lift (.error ⟨executionOutboxCommandUnknown,
      "delivery bookkeeping names no authorized outbox command"⟩)
  | some (position, entry) => do
    let _ ← Prog.lift (recode executionCommandInvalid (parseRfc3339UtcMillis attemptedAt))
    match entry.deliveryState with
    | .dead => Prog.lift (.error ⟨executionOutboxDead,
        "a dead outbox entry is owner-visible and never silently retried"⟩)
    | .acknowledged => return ()
    | .pending | .sent => do
      Prog.lift (checkControlRevisionSpace expectedControlRevision)
      changeEntry position fun entry => { entry with deliveryState := .sent }
      changeEntry position fun entry => { entry with attempts := entry.attempts + 1 }
      changeEntry position fun entry => { entry with lastAttemptAt := some attemptedAt }
      raiseRevision expectedControlRevision

/-- `project_drain_receipt` -/
def projectDrainReceipt (expectedControlRevision : Nat) (receipt : DrainReceiptV1) :
    ControlM DrainRetirementProjection := do
  checkHead expectedControlRevision
  Prog.lift (validateDrainReceipt D receipt)
  let state ← Prog.read id
  match positionOf (fun entry => entry.drainCommandId == receipt.commandId) state.retirements with
  | none => Prog.lift (.error ⟨executionOutboxCommandUnknown, "the drain receipt names no retiring execution"⟩)
  | some (position, retiring) =>
    match state.commandOutbox.find? fun entry => entry.commandId == receipt.commandId with
    | none => Prog.lift (.error ⟨executionOutboxCommandUnknown,
        "the drain receipt names no authorized outbox command"⟩)
    | some outbox => do
      Prog.lift (correlateDrainReceipt outbox.command receipt)
      Prog.lift (checkRetiringReceipt retiring receipt)
      if retiring.retired then
        if retiring.acceptedReceiptDigest = some receipt.receiptDigest then return .alreadyRetired
        else Prog.lift (.error ⟨executionAckProjectionConflict,
          "a projected retirement is never rewritten by another receipt"⟩)
      else do
        Prog.lift (checkControlRevisionSpace expectedControlRevision)
        changeRetirement position fun record => { record with retired := true }
        changeRetirement position fun record =>
          { record with acceptedReceiptDigest := some receipt.receiptDigest }
        raiseRevision expectedControlRevision
        return .retired (expectedControlRevision + 1)

end ControlM

/-! ## Calls -/

inductive ControlCall
  | authorizeCommand (expectedControlRevision : Nat) (command : ExecutionCommand) (createdAt : String)
  | authorizeDrainWithRetirement (expectedControlRevision : Nat) (command : ExecutionCommand) (createdAt : String)
      (record : RetiringExecutionRecord)
  | authorizeRetirement (expectedControlRevision : Nat) (record : RetiringExecutionRecord)
  | projectAcknowledgement (expectedControlRevision : Nat) (ack : ExecutionAcknowledgement)
  | recordDeliveryAttempt (expectedControlRevision : Nat) (commandId attemptedAt : String)
  | projectDrainReceipt (expectedControlRevision : Nat) (receipt : DrainReceiptV1)

inductive ControlAnswer
  | done
  | acknowledgement (projection : AcknowledgementProjection)
  | retirement (projection : DrainRetirementProjection)

def ControlCall.program : ControlCall → ControlM ControlAnswer
  | .authorizeCommand expected command createdAt => do
    ControlM.authorizeCommand expected command createdAt
    return .done
  | .authorizeDrainWithRetirement expected command createdAt record => do
    ControlM.authorizeDrainWithRetirement expected command createdAt record
    return .done
  | .authorizeRetirement expected record => do
    ControlM.authorizeRetirement expected record
    return .done
  | .projectAcknowledgement expected ack => do
    return .acknowledgement (← ControlM.projectAcknowledgement expected ack)
  | .recordDeliveryAttempt expected commandId attemptedAt => do
    ControlM.recordDeliveryAttempt expected commandId attemptedAt
    return .done
  | .projectDrainReceipt expected receipt => do
    return .retirement (← ControlM.projectDrainReceipt D expected receipt)

/-- The control state after a call, whether it fails or not. -/
def WasmCommandControlState.step (state : WasmCommandControlState) (call : ControlCall) : WasmCommandControlState :=
  (call.program D state).final

def WasmCommandControlState.initial : WasmCommandControlState := ⟨0, [], []⟩

/-! ## What a call may do -/

/-- An answer that says that nothing was left to do; the bookkeeping of a delivery says so only by the
state of its entry. -/
def idempotentAnswer (state : WasmCommandControlState) : ControlCall → ControlAnswer → Bool
  | .recordDeliveryAttempt _ commandId _, .done =>
    (state.commandOutbox.find? fun entry => entry.commandId == commandId).any fun entry =>
      entry.deliveryState == .acknowledged
  | _, .acknowledgement .alreadyAcknowledged => true
  | _, .retirement .alreadyRetired => true
  | _, _ => false

/-- A delivery state and the ones after it. -/
def OutboxDeliveryState.LeadsTo (source target : OutboxDeliveryState) : Prop :=
  source = target ∨ source = .pending ∧ target = .sent ∨ source = .pending ∧ target = .acknowledged ∨
    source = .sent ∧ target = .acknowledged

/-- What becomes of an entry of the outbox. -/
structure CommandOutboxRecord.LeadsTo (entry entry' : CommandOutboxRecord) : Prop where
  commandId : entry'.commandId = entry.commandId
  command : entry'.command = entry.command
  deliveryState : entry.deliveryState.LeadsTo entry'.deliveryState

/-- The receipt is the one of this retiring execution, with its own digest. -/
structure DrainReceiptV1.Retires (receipt : DrainReceiptV1) (record : RetiringExecutionRecord) : Prop where
  digest : receipt.receiptDigest = drainReceiptDigestV1 D receipt
  command : receipt.commandId = record.drainCommandId
  execution : receipt.execution = record.execution
  package : receipt.packageDigest = record.packageDigest
  binding : receipt.runtimeBinding = record.runtimeBinding
  routeGeneration : receipt.routeGeneration = record.routeGeneration
  deadline : receipt.deadlineAtEpochMillis = .ok record.deadlineAtEpochMillis

/-- What one call makes of a retiring execution. -/
def RetirementStep (call : ControlCall) (record record' : RetiringExecutionRecord) : Prop :=
  record' = record ∨ record.retired = false ∧ ∃ expected receipt, call = .projectDrainReceipt expected receipt ∧
    receipt.Retires D record ∧
    record' = { record with retired := true, acceptedReceiptDigest := some receipt.receiptDigest }

/-- One call is an atomic compare-and-set. -/
structure ControlStep (state : WasmCommandControlState) (call : ControlCall) : Prop where
  /-- A refused call changes nothing. -/
  refused : ∀ failure, (call.program D state).result = .error failure → state.step D call = state
  /-- An idempotent answer changes nothing, any other one raises the revision by one. -/
  answered : ∀ answer, (call.program D state).result = .ok answer →
    if idempotentAnswer state call answer then state.step D call = state
    else (state.step D call).controlRevision = state.controlRevision + 1
  entries : ∀ (i : Nat) (entry : CommandOutboxRecord), state.commandOutbox[i]? = some entry →
    ∃ entry', (state.step D call).commandOutbox[i]? = some entry' ∧ entry.LeadsTo entry'
  retirements : ∀ (i : Nat) (record : RetiringExecutionRecord), state.retirements[i]? = some record →
    ∃ record', (state.step D call).retirements[i]? = some record' ∧ RetirementStep D call record record'
  /-- What a call adds is pending or not retired. -/
  newEntries : ∀ (i : Nat) (entry : CommandOutboxRecord), state.commandOutbox.length ≤ i →
    (state.step D call).commandOutbox[i]? = some entry → entry.deliveryState = .pending
  newRetirements : ∀ (i : Nat) (record : RetiringExecutionRecord), state.retirements.length ≤ i →
    (state.step D call).retirements[i]? = some record → record.retired = false

/-- The command ids of the outbox and of the retirements are unique. -/
structure WasmCommandControlState.Distinct (state : WasmCommandControlState) : Prop where
  outbox : (state.commandOutbox.map CommandOutboxRecord.commandId).Nodup
  retirements : (state.retirements.map RetiringExecutionRecord.drainCommandId).Nodup

/-- What lies between two states of a run. -/
structure WasmCommandControlState.LeadsTo (state state' : WasmCommandControlState) : Prop where
  revision : state.controlRevision ≤ state'.controlRevision
  entries : ∀ (i : Nat) (entry : CommandOutboxRecord), state.commandOutbox[i]? = some entry →
    ∃ entry', state'.commandOutbox[i]? = some entry' ∧ entry.LeadsTo entry'
  /-- A retired execution never changes. -/
  retired : ∀ (i : Nat) (record : RetiringExecutionRecord), state.retirements[i]? = some record →
    record.retired = true → state'.retirements[i]? = some record

end Iweb
