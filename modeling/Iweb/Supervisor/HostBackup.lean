import Iweb.Admission.Contract
import Iweb.HostServices.Logging
import Iweb.Supervisor.ExecutionRpc

/-!
# Backups of the host services

The owner captures the three files of an application into a set directory, each in one write, with a descriptor of
their lengths and digests written last, and restores them from there. A disk holds what stands in the directories of
the application, by their roots; a call may be cut short at any of its writes.
-/

namespace Iweb.HostBackup

open Contract Json

def wasmHostServiceLedgerInvalid : String := "WASM_HOST_SERVICE_LEDGER_INVALID"
def wasmHostServiceIdInvalid : String := "WASM_HOST_SERVICE_ID_INVALID"
def wasmHostServiceBackupInvalid : String := "WASM_HOST_SERVICE_BACKUP_INVALID"
def wasmHostServiceBackupQuiesceRequired : String := "WASM_HOST_SERVICE_BACKUP_QUIESCE_REQUIRED"
def wasmHostBackupDrainFailed : String := "WASM_HOST_BACKUP_DRAIN_FAILED"
def wasmHostBackupDataDirectoryUnavailable : String := "WASM_HOST_BACKUP_DATA_DIRECTORY_UNAVAILABLE"
def wasmHostBackupRestoreUnavailable : String := "WASM_HOST_BACKUP_RESTORE_UNAVAILABLE"
def wasmHostBackupRestoreTargetUnavailable : String := "WASM_HOST_BACKUP_RESTORE_TARGET_UNAVAILABLE"
def wasmHostBackupMemberInvalid : String := "WASM_HOST_BACKUP_MEMBER_INVALID"
def wasmHostBackupIoFailed : String := "WASM_HOST_BACKUP_IO_FAILED"

/-! ## Quiescence -/

inductive WasmLedgerRecoveryStatusV2
  | healthy
  | recovering
  | quarantined
  | ownerRecoveryRequired
deriving DecidableEq

def WasmLedgerRecoveryStatusV2.ofString? : String → Option WasmLedgerRecoveryStatusV2
  | "healthy" => some .healthy
  | "recovering" => some .recovering
  | "quarantined" => some .quarantined
  | "owner-recovery-required" => some .ownerRecoveryRequired
  | _ => none

structure WasmBackupQuiesceStateV2 where
  outstandingReservedBytes : Nat
  recoveryStatus : WasmLedgerRecoveryStatusV2
  ledgerRevision : Nat
  frozenLedgerRevision : Option Nat

/-- `requireU53` -/
def requireU53 (value : Json) (field path : String) : Checked Nat :=
  let message := field ++ " must be a u53 safe integer"
  match value with
  | .integer n => checkedIf (decide (0 ≤ n ∧ n ≤ wasmU53Max)) n.toNat wasmHostServiceLedgerInvalid
      (path ++ "/" ++ field) message
  | _ => (none, [⟨wasmHostServiceLedgerInvalid, path ++ "/" ++ field, message⟩])

def quiesceStateKeys : List String :=
  ["outstandingReservedBytes", "recoveryStatus", "ledgerRevision", "frozenLedgerRevision"]

/-- The frozen revision; null is no revision. -/
def requireFrozenRevision : Option Json → Checked (Option Nat)
  | some .null => (some none, [])
  | value =>
    let frozen := requireU53 (value.getD .null) "frozenLedgerRevision" ""
    (frozen.1.map some, frozen.2)

/-- `validateWasmBackupQuiesceStateV2` -/
def validateWasmBackupQuiesceStateV2 (input : Json) : ValidationResult WasmBackupQuiesceStateV2 :=
  match input with
  | .object members =>
    let outstanding := requireU53 (field members "outstandingReservedBytes") "outstandingReservedBytes" ""
    let ledger := requireU53 (field members "ledgerRevision") "ledgerRevision" ""
    let status := (field members "recoveryStatus").asStr.bind WasmLedgerRecoveryStatusV2.ofString?
    let frozen := requireFrozenRevision (members.lookup "frozenLedgerRevision")
    let issues := requireExactKeys members "" quiesceStateKeys wasmHostServiceBackupInvalid ++ outstanding.2 ++
      ledger.2 ++ issueUnless status.isSome wasmHostServiceBackupInvalid "/recoveryStatus"
        "recoveryStatus must be one of healthy|recovering|quarantined|owner-recovery-required" ++ frozen.2
    match issues, outstanding.1, ledger.1, status, frozen.1 with
    | [], some outstanding, some ledger, some status, some frozen => .ok ⟨outstanding, status, ledger, frozen⟩
    | _, _, _, _, _ => validationFailure issues
  | _ => validationFailure [⟨wasmHostServiceBackupInvalid, "", "backup quiesce state must be an object"⟩]

/-- The refusal of `planWasmHostBackupQuiesceV2`, if it refuses. -/
def planWasmHostBackupQuiesceV2 (state : WasmBackupQuiesceStateV2) : Option ValidationIssue :=
  if 0 < state.outstandingReservedBytes then
    some ⟨wasmHostServiceBackupQuiesceRequired, "/outstandingReservedBytes",
      "outstanding reservations must settle before backup capture"⟩
  else if state.recoveryStatus ≠ .healthy then
    some ⟨wasmHostServiceBackupQuiesceRequired, "/recoveryStatus",
      "ledger recovery must complete (healthy) before backup capture"⟩
  else if state.frozenLedgerRevision ≠ some state.ledgerRevision then
    some ⟨wasmHostServiceBackupQuiesceRequired, "/frozenLedgerRevision",
      "the frozen ledger revision must equal the current ledger revision"⟩
  else none

/-! ## Descriptors -/

inductive WasmBackupFileKindV2
  | kv
  | sql
  | quota
deriving DecidableEq

def wasmBackupFileKindsV2 : List WasmBackupFileKindV2 := [.kv, .sql, .quota]

namespace WasmBackupFileKindV2

def asStr : WasmBackupFileKindV2 → String
  | .kv => "kv"
  | .sql => "sql"
  | .quota => "quota"

def ofString? : String → Option WasmBackupFileKindV2
  | "kv" => some .kv
  | "sql" => some .sql
  | "quota" => some .quota
  | _ => none

end WasmBackupFileKindV2

/-- `0o600` -/
def wasmBackupFileMode : Nat := 384

structure WasmBackupFileEntryV2 where
  kind : WasmBackupFileKindV2
  byteLen : Nat
  sha256 : String
  mode : Nat
  symlink : Bool
deriving DecidableEq

structure WasmBackupSetDescriptorV2 where
  schemaVersion : Nat
  applicationId : String
  hostServicePolicyDigest : String
  ledgerRevision : Nat
  usageRevision : Nat
  quiesced : Bool
  files : List WasmBackupFileEntryV2
deriving DecidableEq

def WasmBackupFileEntryV2.toJson (entry : WasmBackupFileEntryV2) : Json :=
  .object [("kind", .string entry.kind.asStr), ("byteLen", .ofNat entry.byteLen), ("sha256", .string entry.sha256),
    ("mode", .ofNat entry.mode), ("symlink", .bool entry.symlink)]

def WasmBackupSetDescriptorV2.members (descriptor : WasmBackupSetDescriptorV2) : List (String × Json) :=
  [("schemaVersion", .ofNat descriptor.schemaVersion), ("applicationId", .string descriptor.applicationId),
    ("hostServicePolicyDigest", .string descriptor.hostServicePolicyDigest),
    ("ledgerRevision", .ofNat descriptor.ledgerRevision), ("usageRevision", .ofNat descriptor.usageRevision),
    ("quiesced", .bool descriptor.quiesced), ("files", .array (descriptor.files.map WasmBackupFileEntryV2.toJson))]

def WasmBackupSetDescriptorV2.toJson (descriptor : WasmBackupSetDescriptorV2) : Json := .object descriptor.members

def fileEntryKeys : List String := ["kind", "byteLen", "sha256", "mode", "symlink"]

def requireMode (value : Json) (path : String) : Checked Nat :=
  let message := "mode must be a unix permission bits integer"
  match value with
  | .integer n => checkedIf (decide (0 ≤ n ∧ n ≤ 511)) n.toNat wasmHostServiceBackupInvalid (path ++ "/mode") message
  | _ => (none, [⟨wasmHostServiceBackupInvalid, path ++ "/mode", message⟩])

def requireSymlink (value : Json) (path : String) : Checked Bool :=
  match value with
  | .bool symlink => (some symlink, [])
  | _ => (none, [⟨wasmHostServiceBackupInvalid, path ++ "/symlink", "symlink must be a boolean"⟩])

/-- `validateFileEntry`; no entry is accepted once there are issues, be they its own or earlier ones. -/
def validateFileEntry (input : Json) (path : String) (before : List ValidationIssue) :
    Checked WasmBackupFileEntryV2 :=
  match input with
  | .object members =>
    let kind := (field members "kind").asStr.bind WasmBackupFileKindV2.ofString?
    let byteLen := requireU53 (field members "byteLen") "byteLen" path
    let sha256 := requireText isSha256Hex (field members "sha256") wasmHostServiceLedgerInvalid (path ++ "/sha256")
      "sha256 must be 64 lower-case hex characters"
    let mode := requireMode (field members "mode") path
    let symlink := requireSymlink (field members "symlink") path
    let issues := requireExactKeys members path fileEntryKeys wasmHostServiceBackupInvalid ++
      issueUnless kind.isSome wasmHostServiceBackupInvalid (path ++ "/kind") "kind must be one of kv|sql|quota" ++
      byteLen.2 ++ sha256.2 ++ mode.2 ++ symlink.2
    (if before ++ issues ≠ [] then none
      else do return ⟨← kind, ← byteLen.1, ← sha256.1, ← mode.1, ← symlink.1⟩, issues)
  | _ => (none, [⟨wasmHostServiceBackupInvalid, path, "backup file entry must be an object"⟩])

/-- The issues of an entry that has the form of one, after the entries before it. -/
def checkBackupMember (entry : WasmBackupFileEntryV2) (seen : List WasmBackupFileEntryV2) (path : String) :
    List ValidationIssue :=
  issueUnless (!(seen.map WasmBackupFileEntryV2.kind).contains entry.kind) wasmHostServiceBackupInvalid path
    "backup set has a duplicate member kind" ++
  issueUnless (entry.byteLen != 0) wasmHostServiceBackupInvalid path
    "a zero-length member cannot be a valid sqlite/ledger image" ++
  issueUnless (!entry.symlink) wasmHostServiceBackupInvalid path "a symlinked member is refused" ++
  issueUnless (entry.mode % 4096 == wasmBackupFileMode) wasmHostServiceBackupInvalid path
    "backup members must carry mode 0600"

/-- The entries of the files from an index on, and the issues so far. -/
def validateFileEntries : List Json → Nat → List WasmBackupFileEntryV2 → List ValidationIssue →
    List WasmBackupFileEntryV2 × List ValidationIssue
  | [], _, entries, issues => (entries, issues)
  | input :: rest, index, entries, issues =>
    let path := "/files/" ++ toString index
    match validateFileEntry input path issues with
    | (none, more) => validateFileEntries rest (index + 1) entries (issues ++ more)
    | (some entry, more) =>
      validateFileEntries rest (index + 1) (entries ++ [entry])
        (issues ++ more ++ checkBackupMember entry entries path)

def descriptorKeys : List String :=
  ["schemaVersion", "applicationId", "hostServicePolicyDigest", "ledgerRevision", "usageRevision", "quiesced",
    "files"]

/-- The members of a descriptor before its files: application, policy digest, ledger and usage revision. -/
def checkDescriptorHead (members : List (String × Json)) : Checked (String × String × Nat × Nat) :=
  let applicationId := requireText isOpaqueId (field members "applicationId") wasmHostServiceIdInvalid
    "/applicationId" "applicationId must match ^[a-z0-9]([a-z0-9-]\x7b0,61\x7d[a-z0-9])?$"
  let policyDigest := requireText isSha256Hex (field members "hostServicePolicyDigest") wasmHostServiceLedgerInvalid
    "/hostServicePolicyDigest" "hostServicePolicyDigest must be 64 lower-case hex characters"
  let ledgerRevision := requireU53 (field members "ledgerRevision") "ledgerRevision" ""
  let usageRevision := requireU53 (field members "usageRevision") "usageRevision" ""
  (do return (← applicationId.1, ← policyDigest.1, ← ledgerRevision.1, ← usageRevision.1),
    requireExactKeys members "" descriptorKeys wasmHostServiceBackupInvalid ++
      issueUnless ((field members "schemaVersion").asU64 == some 2) wasmHostServiceBackupInvalid "/schemaVersion"
        "backup descriptor schemaVersion must be the literal 2" ++
      applicationId.2 ++ policyDigest.2 ++ ledgerRevision.2 ++ usageRevision.2 ++
      issueUnless ((field members "quiesced").asBool == some true) wasmHostServiceBackupInvalid "/quiesced"
        "backup set must be captured under quiesce")

/-- The files of a descriptor, and the issues up to their end. -/
def checkDescriptorFiles (files : List Json) (before : List ValidationIssue) :
    List WasmBackupFileEntryV2 × List ValidationIssue :=
  let read := validateFileEntries files 0 [] before
  (read.1, read.2 ++
    issueUnless (files.length == 3) wasmHostServiceBackupInvalid "/files"
      "backup set must contain exactly kv, sql and quota members" ++
    wasmBackupFileKindsV2.flatMap fun expected =>
      issueUnless ((read.1.map WasmBackupFileEntryV2.kind).contains expected) wasmHostServiceBackupInvalid "/files"
        ("backup set is missing a member: " ++ expected.asStr))

/-- `validateWasmBackupSetDescriptorV2` -/
def validateWasmBackupSetDescriptorV2 (input : Json) : ValidationResult WasmBackupSetDescriptorV2 :=
  match input with
  | .object members =>
    let head := checkDescriptorHead members
    match field members "files" with
    | .array files =>
      let read := checkDescriptorFiles files head.2
      match read.2, head.1 with
      | [], some (applicationId, policyDigest, ledgerRevision, usageRevision) =>
        .ok ⟨2, applicationId, policyDigest, ledgerRevision, usageRevision, true, read.1⟩
      | issues, _ => validationFailure issues
    | _ => validationFailure
        (head.2 ++ [⟨wasmHostServiceBackupInvalid, "/files", "files must be an array"⟩])
  | _ => validationFailure [⟨wasmHostServiceBackupInvalid, "", "backup set descriptor must be an object"⟩]

/-- `validateDescriptorAgainstIdentity` -/
def validateDescriptorAgainstIdentity (descriptor : WasmBackupSetDescriptorV2)
    (expectedApplicationId expectedPolicyDigest : String) : ValidationResult WasmBackupSetDescriptorV2 :=
  let issues :=
    issueUnless (descriptor.applicationId == expectedApplicationId) wasmHostServiceBackupInvalid "/applicationId"
      "backup set belongs to another application" ++
    issueUnless (descriptor.hostServicePolicyDigest == expectedPolicyDigest) wasmHostServiceBackupInvalid
      "/hostServicePolicyDigest" "backup set policy digest does not match the application"
  acceptUnless issues descriptor

/-- `validateWasmHostRestoreSetV2`, and `validateWasmHostBackupSetV2`, which is the same. -/
def validateWasmHostSetV2 (input : Json) (expectedApplicationId expectedPolicyDigest : String) :
    ValidationResult WasmBackupSetDescriptorV2 := do
  let descriptor ← validateWasmBackupSetDescriptorV2 input
  validateDescriptorAgainstIdentity descriptor expectedApplicationId expectedPolicyDigest

/-! ## The directories -/

/-- A file as `lstat` describes it and as it reads. -/
structure BackupSource where
  stat : Option (Nat × Bool × Nat)
  bytes : Option (List UInt8)

/-- The files of the application under each root, and the descriptor in the set directory. -/
structure BackupDisk where
  files : String → WasmBackupFileKindV2 → Option (List UInt8)
  descriptor : Option WasmBackupSetDescriptorV2

/-- One change to the disk. -/
inductive BackupWrite
  | ensureDirectory
  | member (root : String) (kind : WasmBackupFileKindV2) (bytes : List UInt8)
  | descriptor (descriptor : WasmBackupSetDescriptorV2)

/-- How far the changes of a call get: all of them, or a number of them before one that fails or before a crash. -/
inductive BackupLanding
  | complete
  | failed (landed : Nat)
  | crashed (landed : Nat)
deriving DecidableEq

/-- How a call goes on after its changes: to its answer, to its handler of failures, or not at all. -/
inductive LandingEnd
  | done
  | caught
  | interrupted
deriving DecidableEq

/-- How many of some changes land, and what comes then. -/
def BackupLanding.among : BackupLanding → Nat → Nat × LandingEnd
  | .complete, count => (count, .done)
  | .failed landed, count => if landed < count then (landed, .caught) else (count, .done)
  | .crashed landed, count => (min landed count, .interrupted)

namespace BackupDisk

def apply (disk : BackupDisk) : BackupWrite → BackupDisk
  | .ensureDirectory => disk
  | .member root kind bytes =>
    { disk with files := fun other otherKind =>
        if other = root ∧ otherKind = kind then some bytes else disk.files other otherKind }
  | .descriptor descriptor => { disk with descriptor := some descriptor }

def land (disk : BackupDisk) (writes : List BackupWrite) (landing : BackupLanding) : BackupDisk × LandingEnd :=
  ((writes.take (landing.among writes.length).1).foldl apply disk, (landing.among writes.length).2)

end BackupDisk

/-! ## The service -/

structure WasmHostBackupService where
  applicationId : String
  hostServicePolicyDigest : String
  dataDirectoryRoot : Option String
  backupDirectory : Option String

structure CaptureInput where
  drainCommand : ExecutionCommand
  quiesceState : Json
  usageRevision : Json

structure BackupFailure where
  code : String
  message : String
deriving DecidableEq

/-- A file that was captured. -/
structure BackupMember where
  entry : WasmBackupFileEntryV2
  bytes : List UInt8

structure CapturedSet where
  descriptor : WasmBackupSetDescriptorV2
  member : WasmBackupFileKindV2 → BackupMember
  drainedCommandId : String

inductive CaptureResult
  | ok (descriptor : WasmBackupSetDescriptorV2) (persistedPath : Option String) (drainedCommandId : String)
  | refused (failure : BackupFailure)
  /-- The promise is rejected. -/
  | rejected (message : String)
  /-- The process ends before it answers. -/
  | interrupted

inductive RestoreResult
  | ok (descriptor : WasmBackupSetDescriptorV2) (restoredFiles : List String)
  | refused (failure : BackupFailure)
  | interrupted

/-- The first issue, under a text of its own. -/
def firstFailure (issues : List ValidationIssue) (message : String) : BackupFailure :=
  match issues with
  | [] => ⟨wasmHostServiceBackupInvalid, message ++ "unknown issue"⟩
  | first :: _ => ⟨first.code, message ++ first.message⟩

def acknowledgementResultText : AcknowledgementResult → String
  | .applied => "applied"
  | .rejected => "rejected"

/-- `drainExecution`, for what the handler answers to the command. -/
def drainExecution (command : ExecutionCommand) (answer : ExecutionRpcServiceResult) : Except CaptureResult String :=
  let failed (message : String) : Except CaptureResult String := .error (.refused ⟨wasmHostBackupDrainFailed, message⟩)
  match answer with
  | .conflict _ code message => failed ("the drain command was not delivered: " ++ code ++ " (" ++ message ++ ")")
  | .queryResult .. => failed "the drain delivery returned query-result instead of an acknowledgement"
  | .thrown message => .error (.rejected message)
  | .acknowledgement acknowledgement =>
    if acknowledgement.result ≠ .applied ∨ acknowledgement.commandId ≠ command.commandId then
      failed ("the drain command was not applied (result=" ++ acknowledgementResultText acknowledgement.result ++
        ", failureCode=" ++ acknowledgement.failureCode.getD "null" ++ ")")
    else .ok command.commandId

variable (sha256Hex : List UInt8 → String)

/-- `captureMember` -/
def captureMember (kind : WasmBackupFileKindV2) (source : BackupSource) : Except CaptureResult BackupMember :=
  let failed (message : String) : Except CaptureResult BackupMember :=
    .error (.refused ⟨wasmHostBackupMemberInvalid, message ++ kind.asStr⟩)
  match source.stat with
  | none => failed "backup member is missing: "
  | some (mode, symlink, byteLen) =>
    if symlink then failed "backup member is a symlink: "
    else if mode % 4096 ≠ wasmBackupFileMode then failed "backup member must carry mode 0600: "
    else
      match source.bytes with
      | none => failed "backup member is unreadable or zero-length: "
      | some bytes =>
        if bytes.length = 0 then failed "backup member is unreadable or zero-length: "
        else if bytes.length ≠ byteLen then failed "backup member changed size during capture: "
        else .ok ⟨⟨kind, bytes.length, sha256Hex bytes, mode % 4096, false⟩, bytes⟩

namespace WasmHostBackupService

/-- Step 1: the ledger is quiet, and its usage revision is known. -/
def requireQuiesced (input : CaptureInput) : Except CaptureResult (WasmBackupQuiesceStateV2 × Nat) :=
  match validateWasmBackupQuiesceStateV2 input.quiesceState with
  | .error issues => .error (.refused (firstFailure issues "the quiesce state failed validation: "))
  | .ok state =>
    match planWasmHostBackupQuiesceV2 state with
    | some issue => .error (.refused ⟨issue.code, issue.message⟩)
    | none =>
      match (requireU53 input.usageRevision "usageRevision" "").1 with
      | none => .error (.refused ⟨wasmHostServiceLedgerInvalid,
          "usageRevision must be a u53 integer sourced from the ledger facts projection"⟩)
      | some usageRevision => .ok (state, usageRevision)

/-- Step 3: the three files. -/
def captureMembers (service : WasmHostBackupService) (source : WasmBackupFileKindV2 → BackupSource) :
    Except CaptureResult (WasmBackupFileKindV2 → BackupMember) :=
  if service.dataDirectoryRoot.isNone then
    .error (.refused ⟨wasmHostBackupDataDirectoryUnavailable,
      "the wasmd per-application data directory root is not wired in this deployment; " ++
        "capture is unavailable rather than fabricated"⟩)
  else do
    let kv ← captureMember sha256Hex .kv (source .kv)
    let sql ← captureMember sha256Hex .sql (source .sql)
    let quota ← captureMember sha256Hex .quota (source .quota)
    return fun kind => match kind with
      | .kv => kv
      | .sql => sql
      | .quota => quota

/-- Step 4: the descriptor, as it is validated. -/
def describe (service : WasmHostBackupService) (ledgerRevision usageRevision : Nat)
    (member : WasmBackupFileKindV2 → BackupMember) : Except CaptureResult WasmBackupSetDescriptorV2 :=
  let descriptor : WasmBackupSetDescriptorV2 := ⟨2, service.applicationId, service.hostServicePolicyDigest,
    ledgerRevision, usageRevision, true, wasmBackupFileKindsV2.map fun kind => (member kind).entry⟩
  match validateWasmHostSetV2 descriptor.toJson service.applicationId service.hostServicePolicyDigest with
  | .error issues => .error (.refused (firstFailure issues "the captured backup set failed validation: "))
  | .ok verified => .ok verified

/-- The steps of a capture before anything is written. -/
def prepare (service : WasmHostBackupService) (input : CaptureInput) (drained : ExecutionRpcServiceResult)
    (source : WasmBackupFileKindV2 → BackupSource) : Except CaptureResult CapturedSet := do
  let (state, usageRevision) ← requireQuiesced input
  let drainedCommandId ← drainExecution input.drainCommand drained
  let member ← captureMembers sha256Hex service source
  let descriptor ← describe service state.ledgerRevision usageRevision member
  return ⟨descriptor, member, drainedCommandId⟩

/-- The members are written first and the descriptor last. -/
def captureWrites (directory : String) (captured : CapturedSet) : List BackupWrite :=
  .ensureDirectory :: wasmBackupFileKindsV2.map (fun kind => .member directory kind (captured.member kind).bytes) ++
    [.descriptor captured.descriptor]

/-- `capture` -/
def capture (service : WasmHostBackupService) (disk : BackupDisk) (input : CaptureInput)
    (drained : ExecutionRpcServiceResult) (source : WasmBackupFileKindV2 → BackupSource) (landing : BackupLanding) :
    BackupDisk × CaptureResult :=
  match service.prepare sha256Hex input drained source with
  | .error result => (disk, result)
  | .ok captured =>
    match service.backupDirectory with
    | none => (disk, .ok captured.descriptor none captured.drainedCommandId)
    | some directory =>
      let landed := disk.land (captureWrites directory captured) landing
      (landed.1, match landed.2 with
        | .done => .ok captured.descriptor
            (some (directory ++ "/" ++ service.applicationId ++ "/backup-set-v2.json")) captured.drainedCommandId
        | .caught => .refused ⟨wasmHostBackupIoFailed,
            "persisting the backup set failed; the in-memory report stands but nothing is claimed durable"⟩
        | .interrupted => .interrupted)

/-- The bytes of a retained member that an entry describes. -/
def retainedMember (disk : BackupDisk) (directory : String) (entry : WasmBackupFileEntryV2) :
    Except BackupFailure (WasmBackupFileKindV2 × List UInt8) :=
  match disk.files directory entry.kind with
  | none => .error ⟨wasmHostBackupMemberInvalid, "the retained backup member is missing: " ++ entry.kind.asStr⟩
  | some bytes =>
    if bytes.length ≠ entry.byteLen ∨ sha256Hex bytes ≠ entry.sha256 then
      .error ⟨wasmHostBackupMemberInvalid,
        "the retained backup member does not match its digest: " ++ entry.kind.asStr⟩
    else .ok (entry.kind, bytes)

/-- `memberHostPath` -/
def memberHostPath (service : WasmHostBackupService) (root : String) (kind : WasmBackupFileKindV2) : String :=
  root ++ "/" ++ service.applicationId ++ "/" ++ kind.asStr ++ ".sqlite3"

/-- `restore` -/
def restore (service : WasmHostBackupService) (disk : BackupDisk) (descriptor : Json)
    (targetDataDirectoryRoot : Option String) (landing : BackupLanding) : BackupDisk × RestoreResult :=
  match validateWasmHostSetV2 descriptor service.applicationId service.hostServicePolicyDigest with
  | .error issues => (disk, .refused (firstFailure issues "the restore set failed validation: "))
  | .ok validated =>
    match service.backupDirectory with
    | none => (disk, .refused ⟨wasmHostBackupRestoreUnavailable,
        "no backup set directory is configured; retained member bytes are unavailable and nothing may be synthesized"⟩)
    | some directory =>
      match targetDataDirectoryRoot.or service.dataDirectoryRoot with
      | none => (disk, .refused ⟨wasmHostBackupRestoreTargetUnavailable,
          "no target data directory is wired; restore is unavailable rather than landing anywhere"⟩)
      | some target =>
        match validated.files.mapM (retainedMember sha256Hex disk directory) with
        | .error failure => (disk, .refused failure)
        | .ok restores =>
          let landed := disk.land
            (.ensureDirectory :: restores.map fun restored => .member target restored.1 restored.2) landing
          (landed.1, match landed.2 with
            | .done => .ok validated (restores.map fun restored => service.memberHostPath target restored.1)
            | .caught => .refused ⟨wasmHostBackupIoFailed,
                "landing the restore set failed partway; failures are reported, never silently replaced"⟩
            | .interrupted => .interrupted)

end WasmHostBackupService

/-! ## Runs -/

inductive BackupCall
  | capture (input : CaptureInput) (drained : ExecutionRpcServiceResult)
      (source : WasmBackupFileKindV2 → BackupSource) (landing : BackupLanding)
  | restore (descriptor : Json) (targetDataDirectoryRoot : Option String) (landing : BackupLanding)

/-- The disk, and the sets that were captured so far. -/
structure BackupSystem where
  disk : BackupDisk
  captured : List CapturedSet

namespace BackupSystem

/-- Nothing was captured yet. -/
def initial : BackupSystem := ⟨⟨fun _ _ => none, none⟩, []⟩

variable (service : WasmHostBackupService)

def step (system : BackupSystem) : BackupCall → BackupSystem
  | .capture input drained source landing =>
    ⟨(service.capture sha256Hex system.disk input drained source landing).1,
      system.captured ++ (service.prepare sha256Hex input drained source).toOption.toList⟩
  | .restore descriptor target landing =>
    { system with disk := (service.restore sha256Hex system.disk descriptor target landing).1 }

/-- A member of the set directory as an entry describes it. -/
def Retains (system : BackupSystem) (directory : String) (entry : WasmBackupFileEntryV2) : Prop :=
  ∃ bytes, system.disk.files directory entry.kind = some bytes ∧ bytes.length = entry.byteLen ∧
    sha256Hex bytes = entry.sha256

/-- A descriptor in the set directory lists the three members there, and a restore of it that can land succeeds. -/
structure Whole (system : BackupSystem) (directory : String) (descriptor : WasmBackupSetDescriptorV2) : Prop where
  kinds : descriptor.files.map WasmBackupFileEntryV2.kind = wasmBackupFileKindsV2
  retains : ∀ entry ∈ descriptor.files, system.Retains sha256Hex directory entry
  restores : ∀ target, (target.or service.dataDirectoryRoot).isSome = true → ∃ after restoredFiles,
    service.restore sha256Hex system.disk descriptor.toJson target .complete = (after, .ok descriptor restoredFiles)

/-- A capture that writes lands its descriptor, or finds none, or has written only members that the one it finds
lists. -/
def KeepsWhole (system : BackupSystem) : BackupCall → Prop
  | .capture input drained source landing =>
    ∀ captured, service.prepare sha256Hex input drained source = .ok captured →
      ∀ descriptor, system.disk.descriptor = some descriptor →
        (landing.among 5).1 < 5 → ∀ kind ∈ wasmBackupFileKindsV2.take ((landing.among 5).1 - 1),
          (captured.member kind).entry ∈ descriptor.files
  | .restore .. => True

/-- No two files captured in a run have the same digest and different bytes. -/
def CollisionFree (system : BackupSystem) : Prop :=
  ∀ first ∈ system.captured, ∀ second ∈ system.captured, ∀ kind kind',
    sha256Hex (first.member kind).bytes = sha256Hex (second.member kind').bytes →
      (first.member kind).bytes = (second.member kind').bytes

end BackupSystem

end Iweb.HostBackup
