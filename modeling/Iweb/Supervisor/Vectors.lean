import Iweb.Activation.Vectors
import Iweb.Supervisor.ExecutionRpc

/-!
# Vectors of the executor tests

The commands of the repository's executor tests, for the executions of one sandbox.
-/

namespace Iweb.Vectors

/-- `2026-08-26T00:00:00.000Z` is the time of every drain, and no request is in flight. -/
def drainEnvironment (retirements : String → Option RetiringExecutionRecord) : DrainEnvironment where
  retirements := retirements
  now := "2026-08-26T00:00:00.000Z"
  nowMillis := some 1787702400000
  drainedRequestCount := fun _ _ => some 0

/-- The command ids of the tests, by number. -/
def commandId (number : Nat) : String := "019ed4f0-0000-7000-8000-" ++ padDecimal 12 number

def execution (version preparation generation : Nat) : WasmExecutionIdentityV1 where
  sandboxId := "sbx-orders"
  versionId := versionId version
  preparationGeneration := preparation
  executionGeneration := generation

def executionCommand (number : Nat) (operation : WasmExecutionOperation)
    (identity : WasmExecutionIdentityV1) : ExecutionCommand where
  schemaVersion := 2
  commandId := commandId number
  expectedControlRevision := 0
  expectedJournalRevision := 0
  operation := operation
  identity := identity
  applicationId := "orders"
  packageDigest := hex 64 '0'
  runtimeBinding := bindingV1.toV2
  matrixRevision := wasmCapabilityMatrixRevision2
  hostServicePolicyDigest := ""
  fenceNonce := hex 32 'f'
  capabilityRecordRevision := 5
  capabilityRecordHash := hex 64 '2'
  secretRevision := 3
  secretSnapshotRef := hex 64 '5'
  secretValuesDigest := hex 64 '6'
  configRevision := 0
  configSnapshotRef := none
  configValuesDigest := none

/-- The rules of the tests; a command's digest is told by its id. -/
def runtimeRules : RuntimeRules where
  proofDigest := fun _ => hex 64 '9'
  commandDigest := fun command => hex 32 'd' ++ String.ofList (command.commandId.toList.filter (· != '-'))
  sandboxId := fun _ => "sbx-orders"
  fenceNonce := fun _ _ _ _ => hex 32 'f'
  secretValuesDigest := fun _ _ _ => hex 64 '6'
  secretSnapshotRef := fun _ _ _ _ => hex 64 '5'

/-- The retiring record of a drain command, with its deadline a minute after the drain. -/
def retirement (number : Nat) (identity : WasmExecutionIdentityV1) : RetiringExecutionRecord where
  drainCommandId := commandId number
  applicationId := "orders"
  execution := identity
  packageDigest := hex 64 '0'
  runtimeBinding := bindingV1
  routeGeneration := 1
  deadlineAtEpochMillis := 1787702460000
  flipAtEpochMillis := 1787702400000
  retired := false
  acceptedReceiptDigest := none

/-- Commands without a ledger of retirements. -/
def commands (list : List ExecutionCommand) : List (DrainEnvironment × ExecutionCommand) :=
  list.map fun command => (drainEnvironment fun _ => none, command)

/-- The rules of the supervisor's tests; a command's digest is told by its id and its operation. -/
def supervisorRules : SupervisorRules :=
  { runtimeRules with
    commandDigest := fun command =>
      hex 32 (if command.operation = .prepare then 'd' else 'e') ++
        String.ofList (command.commandId.toList.filter (· != '-'))
    drainReceiptDigest := fun _ _ => hex 64 '7'
    parseDate := fun value =>
      match parseRfc3339UtcMillis value with
      | .ok millis => some millis
      | .error _ => none }

end Iweb.Vectors
