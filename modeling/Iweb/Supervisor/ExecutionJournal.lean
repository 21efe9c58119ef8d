import Iweb.Admission.Validation
import Iweb.Supervisor.Fence

/-!
# The execution journal of the supervisor

The journal file records every command the supervisor received and its completion. An append is checked
against the whole file and written at once; the file on disk is the file the store wrote last.
-/

namespace Iweb

def wasmExecutionJournalCorrupt : String := "WASM_EXECUTION_JOURNAL_CORRUPT"
def journalRevisionConflict : String := "JOURNAL_REVISION_CONFLICT"
def executionExecutorOutcomeInvalid : String := "EXECUTION_EXECUTOR_OUTCOME_INVALID"

/-- The rules of the supervisor: those of commands, the digest of a drain receipt and `Date.parse`. -/
structure SupervisorRules extends RuntimeRules where
  /-- `computeDrainReceiptDigestV1` of a draft and the revision it completes at. -/
  drainReceiptDigest : DrainReceiptDraftV1 → Nat → String
  parseDate : String → Option Int

/-! ## Entries -/

structure CommandReceivedV1 where
  commandId : String
  commandDigest : String
  command : ExecutionCommand
  snapshotHandoffDigest : Option String
  receivedAt : String
  journalRevision : Nat
deriving DecidableEq

structure CommandCompletedV1 where
  commandId : String
  commandDigest : String
  acknowledgement : ExecutionAcknowledgement
  snapshotHandoffDigest : Option String
  completedAt : String
  journalRevision : Nat
deriving DecidableEq

inductive WasmExecutionJournalEntryV1
  | received (entry : CommandReceivedV1)
  | completed (entry : CommandCompletedV1)
deriving DecidableEq

structure WasmExecutionJournalFileV1 where
  journalRevision : Nat
  entries : List WasmExecutionJournalEntryV1
deriving DecidableEq

namespace WasmExecutionJournalFileV1

/-- The journal of an absent file. -/
def empty : WasmExecutionJournalFileV1 := ⟨0, []⟩

def receivedOf (file : WasmExecutionJournalFileV1) (commandId : String) : List CommandReceivedV1 :=
  file.entries.filterMap fun
    | .received entry => if entry.commandId = commandId then some entry else none
    | .completed _ => none

def completedOf (file : WasmExecutionJournalFileV1) (commandId : String) : List CommandCompletedV1 :=
  file.entries.filterMap fun
    | .received _ => none
    | .completed entry => if entry.commandId = commandId then some entry else none

/-- `findIn`: the last received entry of a command id. -/
def findReceived (file : WasmExecutionJournalFileV1) (commandId : String) : Option CommandReceivedV1 :=
  (file.receivedOf commandId).getLast?

/-- `findIn`: the last completed entry of a command id. -/
def findCompleted (file : WasmExecutionJournalFileV1) (commandId : String) : Option CommandCompletedV1 :=
  (file.completedOf commandId).getLast?

end WasmExecutionJournalFileV1

/-! ## The check of a file -/

variable (S : SupervisorRules)

/-- `^\d{4}-\d{2}-\d{2}T\d{2}:\d{2}:\d{2}(?:\.\d+)?Z$` and a date that `Date.parse` reads. -/
def isRfc3339Utc (value : String) : Bool :=
  let bs := bytes value
  let rest := bs.drop 19
  let digits := (rest.drop 1).takeWhile isDecimalDigit
  matchesShape timestampShape (bs.take 19) &&
    (rest == [ascii 'Z'] ||
      rest.head? == some (ascii '.') && digits != [] && rest.drop (digits.length + 1) == [ascii 'Z']) &&
    (S.parseDate value).isSome

def validateCommandReceivedV1 (entry : CommandReceivedV1) : Bool :=
  isUuidV7 entry.commandId && isSha256Hex entry.commandDigest &&
    (validateExecutionCommand entry.command).isOk && entry.snapshotHandoffDigest.all isSha256Hex &&
    isRfc3339Utc S entry.receivedAt && isU53Between entry.journalRevision 0 wasmU53Max &&
    S.commandDigest entry.command == entry.commandDigest

/-- `requireCompletedEntry` -/
def validateCommandCompletedV1 (entry : CommandCompletedV1) : Bool :=
  isUuidV7 entry.commandId && isSha256Hex entry.commandDigest &&
    (validateExecutionAcknowledgement entry.acknowledgement).isOk &&
    entry.snapshotHandoffDigest.all isSha256Hex && isRfc3339Utc S entry.completedAt &&
    isU53Between entry.journalRevision 0 wasmU53Max && entry.acknowledgement.commandId == entry.commandId

/-- The entries from a position on, given the digests of the commands received and the ids of the commands
completed before it. -/
def validateJournalEntries : Nat → List (String × String) → List String →
    List WasmExecutionJournalEntryV1 → Bool
  | _, _, _, [] => true
  | index, receivedDigests, completedCommands, .received entry :: rest =>
    validateCommandReceivedV1 S entry && entry.journalRevision == index + 1 &&
      (receivedDigests.lookup entry.commandId).isNone && !completedCommands.contains entry.commandId &&
      validateJournalEntries (index + 1) ((entry.commandId, entry.commandDigest) :: receivedDigests)
        completedCommands rest
  | index, receivedDigests, completedCommands, .completed entry :: rest =>
    validateCommandCompletedV1 S entry && entry.journalRevision == index + 1 &&
      entry.acknowledgement.journalRevision == index + 1 &&
      receivedDigests.lookup entry.commandId == some entry.commandDigest &&
      !completedCommands.contains entry.commandId &&
      validateJournalEntries (index + 1) receivedDigests (entry.commandId :: completedCommands) rest

def validateWasmExecutionJournalFileV1 (file : WasmExecutionJournalFileV1) : Bool :=
  isU53Between file.journalRevision 0 wasmU53Max && validateJournalEntries S 0 [] [] file.entries &&
    file.journalRevision == file.entries.length

/-! ## Appending -/

inductive JournalAppendOutcome
  | appended (entry : CommandReceivedV1)
  | revisionConflict (currentRevision : Nat)

inductive JournalCompleteOutcome
  | appended (entry : CommandCompletedV1)
  | alreadyCompleted (entry : CommandCompletedV1)

def JournalCompleteOutcome.entry : JournalCompleteOutcome → CommandCompletedV1
  | .appended entry => entry
  | .alreadyCompleted entry => entry

/-- The entry of a command received at the head of a journal. -/
def receivedEntry (expectedJournalRevision : Nat) (command : ExecutionCommand) (receivedAt : String) :
    CommandReceivedV1 where
  commandId := command.commandId
  commandDigest := S.commandDigest command
  command := command
  snapshotHandoffDigest := none
  receivedAt := receivedAt
  journalRevision := expectedJournalRevision + 1

/-- `appendReceived`: the written file and the outcome, or the message of the error thrown. -/
def WasmExecutionJournalFileV1.appendReceived (file : WasmExecutionJournalFileV1)
    (expectedJournalRevision : Nat) (command : ExecutionCommand) (receivedAt : String) :
    Except String (WasmExecutionJournalFileV1 × JournalAppendOutcome) :=
  if file.journalRevision ≠ expectedJournalRevision then
    .ok (file, .revisionConflict file.journalRevision)
  else
    let entry := receivedEntry S expectedJournalRevision command receivedAt
    let next : WasmExecutionJournalFileV1 :=
      ⟨expectedJournalRevision + 1, file.entries ++ [.received entry]⟩
    if validateWasmExecutionJournalFileV1 S next then .ok (next, .appended entry)
    else .error (wasmExecutionJournalCorrupt ++ ": generated received entry failed validation")

/-- `appendCompleted`: the same for a completion, whose acknowledgement is built for its revision. -/
def WasmExecutionJournalFileV1.appendCompleted (file : WasmExecutionJournalFileV1) (commandId commandDigest : String)
    (buildAcknowledgement : Nat → Except String ExecutionAcknowledgement) (completedAt : String) :
    Except String (WasmExecutionJournalFileV1 × JournalCompleteOutcome) :=
  match file.findCompleted commandId with
  | some entry => .ok (file, .alreadyCompleted entry)
  | none =>
    match file.findReceived commandId with
    | none => .error (wasmExecutionJournalCorrupt ++ ": a completed entry requires a preceding received entry")
    | some received =>
      if received.commandDigest ≠ commandDigest then
        .error (wasmExecutionJournalCorrupt ++ ": completed entry digest must match the received entry")
      else
        let journalRevision := file.journalRevision + 1
        match buildAcknowledgement journalRevision with
        | .error message => .error message
        | .ok acknowledgement =>
          let entry : CommandCompletedV1 :=
            { commandId := commandId
              commandDigest := commandDigest
              acknowledgement := acknowledgement
              snapshotHandoffDigest := received.snapshotHandoffDigest
              completedAt := completedAt
              journalRevision := journalRevision }
          let next : WasmExecutionJournalFileV1 := ⟨journalRevision, file.entries ++ [.completed entry]⟩
          if validateWasmExecutionJournalFileV1 S next then .ok (next, .appended entry)
          else .error (wasmExecutionJournalCorrupt ++ ": generated completed entry failed validation")

/-! ## The acknowledgement of an outcome -/

/-- `validateDrainReceiptV1` of a receipt whose digest is the computed one. -/
def validateDrainReceiptV1 (draft : DrainReceiptDraftV1) (journalRevision : Nat) : Bool :=
  draft.schemaVersion == 1 && isUuidV7 draft.commandId && isApplicationId draft.applicationId &&
    (validateExecutionIdentity draft.execution).isOk && isSha256Hex draft.packageDigest &&
    (validateRuntimeBinding draft.runtimeBinding).isOk && isU53Between draft.routeGeneration 0 wasmU53Max &&
    isU53Between draft.drainedRequestCount 0 wasmU53Max && isRfc3339Utc S draft.deadlineAt &&
    draft.forcedKillAt.all (isRfc3339Utc S) && isRfc3339Utc S draft.completedAt &&
    isU53Between journalRevision 0 wasmU53Max && isSha256Hex (S.drainReceiptDigest draft journalRevision) &&
    (draft.result == .forcedKill) == draft.forcedKillAt.isSome &&
    draft.forcedKillAt.all fun forcedKillAt =>
      match S.parseDate forcedKillAt, S.parseDate draft.deadlineAt with
      | some killed, some deadline => decide (deadline ≤ killed)
      | _, _ => true

/-- `drainReceiptDigestOfOutcome`: the receipt digest of an applied drain, `none` for an outcome that
contradicts itself. -/
def drainReceiptDigestOfOutcome (command : ExecutionCommand) (outcome : WasmExecutionOutcome)
    (journalRevision : Nat) : Option (Option String) :=
  if command.operation = .drain ∧ outcome.result = .applied then
    match outcome.drainReceiptDraft with
    | none => none
    | some draft =>
      if validateDrainReceiptV1 S draft journalRevision then
        some (some (S.drainReceiptDigest draft journalRevision))
      else none
  else
    match outcome.drainReceiptDraft with
    | none => some none
    | some _ => none

/-- `draftAcknowledgement`: the acknowledgement repeats the command; `none` if it is not well formed. -/
def draftAcknowledgement (command : ExecutionCommand) (outcome : WasmExecutionOutcome)
    (journalRevision : Nat) : Option ExecutionAcknowledgement :=
  match drainReceiptDigestOfOutcome S command outcome journalRevision with
  | none => none
  | some drainReceiptDigest =>
    let draft : ExecutionAcknowledgement :=
      { schemaVersion := 2
        commandId := command.commandId
        operation := command.operation
        identity := command.identity
        applicationId := command.applicationId
        packageDigest := command.packageDigest
        runtimeBinding := command.runtimeBinding
        matrixRevision := command.matrixRevision
        hostServicePolicyDigest := command.hostServicePolicyDigest
        fenceNonce := command.fenceNonce
        capabilityRecordRevision := command.capabilityRecordRevision
        capabilityRecordHash := command.capabilityRecordHash
        secretRevision := command.secretRevision
        secretSnapshotRef := command.secretSnapshotRef
        secretValuesDigest := command.secretValuesDigest
        configRevision := command.configRevision
        configSnapshotRef := command.configSnapshotRef
        configValuesDigest := command.configValuesDigest
        drainReceiptDigest := drainReceiptDigest
        result := outcome.result
        failureCode := outcome.failureCode
        journalRevision := journalRevision }
    if (validateExecutionAcknowledgement draft).isOk then some draft else none

end Iweb
