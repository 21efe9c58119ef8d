import Iweb.Catalog.History
import Iweb.Foundations.CrashHoare
import Iweb.Foundations.Directory
import Mathlib.Data.String.Basic

/-!
# The runtime catalog store

The store keeps revisions, release receipts and delete audits as files of their own and derives the index
from them. Every call first recovers its state from the files; it then writes one file after another, and
can be interrupted between two of them.
-/

namespace Iweb

open CrashHoare

variable (R : CatalogRules)

def wasmCatalogStoreCorrupt : String := "WASM_CATALOG_STORE_CORRUPT"
def wasmCatalogStoreDivergent : String := "WASM_CATALOG_STORE_DIVERGENT"
def wasmCatalogStoreUninitialized : String := "WASM_CATALOG_STORE_UNINITIALIZED"
def wasmCatalogStoreAlreadyInitialized : String := "WASM_CATALOG_STORE_ALREADY_INITIALIZED"
def wasmCatalogStoreInvalid : String := "WASM_CATALOG_STORE_INVALID"
def catalogReleaseReceiptMissing : String := "CATALOG_RELEASE_RECEIPT_MISSING"
def catalogReleaseReceiptStoreMismatch : String := "CATALOG_RELEASE_RECEIPT_STORE_MISMATCH"
def catalogHistoryRecordMissing : String := "CATALOG_HISTORY_RECORD_MISSING"
def catalogHistoryLastPresent : String := "CATALOG_HISTORY_LAST_PRESENT"
def catalogDeleteAuditStoreMismatch : String := "CATALOG_DELETE_AUDIT_STORE_MISMATCH"

/-- The files of the store. -/
structure CatalogDisk where
  revisions : Directory String CatalogHistoryRecordV1
  releaseReceipts : Directory String CatalogReleaseReceiptV1
  deleteAudits : Directory String CatalogDeleteAuditV1
  index : Option CatalogHistoryIndexV1
deriving DecidableEq

/-- A store that holds nothing. -/
def CatalogDisk.empty : CatalogDisk := ⟨.empty, .empty, .empty, none⟩

/-- Write the file of a record. -/
def CatalogDisk.putRecord (disk : CatalogDisk) (record : CatalogHistoryRecordV1) : CatalogDisk :=
  let name := catalogHistoryRevisionFileName record.revision record.catalogHash
  { disk with revisions := disk.revisions.write name record }

/-- Delete the file of a record. -/
def CatalogDisk.dropRecord (disk : CatalogDisk) (record : CatalogHistoryRecordV1) : CatalogDisk :=
  let name := catalogHistoryRevisionFileName record.revision record.catalogHash
  { disk with revisions := disk.revisions.remove name }

def CatalogDisk.putReceipt (disk : CatalogDisk) (name : String) (receipt : CatalogReleaseReceiptV1) : CatalogDisk :=
  { disk with releaseReceipts := disk.releaseReceipts.write name receipt }

def CatalogDisk.putAudit (disk : CatalogDisk) (name : String) (audit : CatalogDeleteAuditV1) : CatalogDisk :=
  { disk with deleteAudits := disk.deleteAudits.write name audit }

def CatalogDisk.putIndex (disk : CatalogDisk) (index : CatalogHistoryIndexV1) : CatalogDisk :=
  { disk with index := some index }

/-- How a call fails: it throws, or it returns a refusal. -/
inductive CatalogFault
  | thrown (code message : String)
  /-- `toISOString` on an invalid date. -/
  | rangeError
  | refused (code : String) (issues : List ValidationIssue)
deriving DecidableEq

abbrev CatalogProg (α : Type) : Type := Prog CatalogDisk CatalogFault α

def storeFailure (code message : String) : CatalogFault := .refused code [⟨code, "", message⟩]

def contractFailure (errors : List ValidationIssue) : CatalogFault :=
  .refused ((errors.head?.map ValidationIssue.code).getD wasmCatalogStoreInvalid) errors

def firstIssueSummary (issues : List ValidationIssue) : String :=
  match issues with
  | [] => "validation failed"
  | first :: _ => first.code ++ " at " ++ first.path ++ ": " ++ first.message

/-- The value of a validation, or the fault made of its issues. -/
def orFault {α : Type} (fault : List ValidationIssue → CatalogFault) : ValidationResult α → Except CatalogFault α
  | .ok value => .ok value
  | .error issues => .error (fault issues)

/-- A validation whose issues the call throws with a text before them. -/
def orThrow {α : Type} (code text : String) : ValidationResult α → Except CatalogFault α :=
  orFault fun issues => .thrown code (text ++ firstIssueSummary issues)

/-! ## Reading the files -/

/-- `^\d+-[a-f0-9]{64}\.json$` -/
def isRevisionFileName (name : String) : Bool :=
  let digits := (bytes name).takeWhile isDecimalDigit
  let rest := (bytes name).drop digits.length
  !digits.isEmpty && rest.head? == some (ascii '-') && ((rest.drop 1).take 64).length == 64 &&
    ((rest.drop 1).take 64).all isHexLower && rest.drop 65 == ".json".toList.map ascii

/-- The records of the revision files, each revision once. -/
def readRevisionFiles : List Nat → List (String × CatalogHistoryRecordV1) →
    Except CatalogFault (List CatalogHistoryRecordV1)
  | _, [] => .ok []
  | seen, (name, stored) :: rest =>
    if !isRevisionFileName name then
      .error (.thrown wasmCatalogStoreCorrupt ("unexpected object in the fixed revisions directory: " ++ name))
    else do
      let record ← orThrow wasmCatalogStoreCorrupt ("catalog history revision " ++ name ++ " failed validation: ")
        (validateCatalogHistoryRecordV1 R stored)
      if name ≠ catalogHistoryRevisionFileName record.revision record.catalogHash then
        .error (.thrown wasmCatalogStoreCorrupt
          ("catalog history revision file name disagrees with its record: " ++ name))
      else if seen.contains record.revision then
        .error (.thrown wasmCatalogStoreDivergent ("catalog revision " ++ toString record.revision ++
          " appears more than once in the fixed revisions directory"))
      else do
        let records ← readRevisionFiles (record.revision :: seen) rest
        return record :: records

def readHistoryRecords (disk : CatalogDisk) : Except CatalogFault (List CatalogHistoryRecordV1) := do
  let records ← readRevisionFiles R [] disk.revisions.files
  return sortRecords records

/-- Files that are each valid and named after their id. -/
def readNamedFiles {α : Type} (validate : α → ValidationResult α) (fileName : α → String)
    (failed disagrees : String → String) : List (String × α) → Except CatalogFault (List α)
  | [] => .ok []
  | (name, stored) :: rest => do
    let value ← orThrow wasmCatalogStoreCorrupt (failed name) (validate stored)
    if name ≠ fileName value then .error (.thrown wasmCatalogStoreCorrupt (disagrees name))
    else do
      let values ← readNamedFiles validate fileName failed disagrees rest
      return value :: values

def readReleaseReceipts (disk : CatalogDisk) : Except CatalogFault (List CatalogReleaseReceiptV1) :=
  readNamedFiles (validateCatalogReleaseReceiptV1 R) (fun receipt => catalogReleaseReceiptFileName receipt.releaseId)
    (fun name => "release receipt " ++ name ++ " failed validation: ")
    (fun name => "release receipt file name disagrees with its releaseId: " ++ name) disk.releaseReceipts.files

def readDeleteAudits (disk : CatalogDisk) : Except CatalogFault (List CatalogDeleteAuditV1) :=
  readNamedFiles (validateCatalogDeleteAuditV1 R) (fun audit => catalogDeleteAuditFileName audit.deleteId)
    (fun name => "delete audit " ++ name ++ " failed validation: ")
    (fun name => "delete audit file name disagrees with its deleteId: " ++ name) disk.deleteAudits.files

/-- Every audit has a receipt of its revision and hash, and no revision has two audits; the audited
revisions. -/
def crossCheckAudits (receipts : List CatalogReleaseReceiptV1) :
    List Nat → List CatalogDeleteAuditV1 → Except CatalogFault (List Nat)
  | auditByRevision, [] => .ok auditByRevision
  | auditByRevision, audit :: rest =>
    match receipts.find? fun receipt => receipt.releaseId == audit.releaseId with
    | none => .error (.thrown wasmCatalogStoreDivergent
        ("delete audit " ++ audit.deleteId ++ " has no release receipt binding its revision and hash"))
    | some receipt =>
      if receipt.catalogRevision ≠ audit.revision ∨ receipt.catalogHash ≠ audit.catalogHash then
        .error (.thrown wasmCatalogStoreDivergent
          ("delete audit " ++ audit.deleteId ++ " has no release receipt binding its revision and hash"))
      else if auditByRevision.contains audit.revision then
        .error (.thrown wasmCatalogStoreDivergent
          ("catalog revision " ++ toString audit.revision ++ " has more than one delete audit"))
      else crossCheckAudits receipts (audit.revision :: auditByRevision) rest

/-- The file of a record, without its ending. -/
def catalogRecordKey (revision : Nat) (catalogHash : String) : String := toString revision ++ "-" ++ catalogHash

/-- Every receipt's revision is still there, or audited. -/
def crossCheckReceipts (records : List CatalogHistoryRecordV1) (auditByRevision : List Nat) :
    List CatalogReleaseReceiptV1 → Except CatalogFault Unit
  | [] => .ok ()
  | receipt :: rest =>
    if !(records.map fun record => catalogRecordKey record.revision record.catalogHash).contains
          (catalogRecordKey receipt.catalogRevision receipt.catalogHash) &&
        !auditByRevision.contains receipt.catalogRevision then
      .error (.thrown wasmCatalogStoreDivergent ("release receipt " ++ receipt.releaseId ++ " names revision " ++
        toString receipt.catalogRevision ++ " whose history file and delete audit are both missing"))
    else crossCheckReceipts records auditByRevision rest

/-! ## The index -/

def deletedIndexEntry (receipts : List CatalogReleaseReceiptV1) (audit : CatalogDeleteAuditV1) :
    CatalogHistoryIndexRevisionEntryV1 where
  revision := audit.revision
  catalogHash := audit.catalogHash
  path := catalogHistoryRevisionFilePath audit.revision audit.catalogHash
  status := .deleted
  protectedReferenceCount := 0
  releaseRetentionUntil := latestReleaseRetention R receipts audit.revision audit.catalogHash
  deletedAt := some audit.deletedAt

/-- Index entries in the order of their revisions. -/
def sortIndexEntries (revisions : List CatalogHistoryIndexRevisionEntryV1) :
    List CatalogHistoryIndexRevisionEntryV1 :=
  revisions.insertionSort fun left right => left.revision ≤ right.revision

/-- The audits of revisions whose file is gone. -/
def collectedAudits (records : List CatalogHistoryRecordV1) (audits : List CatalogDeleteAuditV1) :
    List CatalogDeleteAuditV1 :=
  audits.filter fun audit => !records.any fun record => record.revision == audit.revision

def assembleCatalogHistoryIndex (records : List CatalogHistoryRecordV1) (audits : List CatalogDeleteAuditV1)
    (receipts : List CatalogReleaseReceiptV1) (references : List WasmCatalogEntryReferenceV1) (updatedAt : String) :
    ValidationResult CatalogHistoryIndexV1 :=
  if records.isEmpty then
    validationFailure [⟨wasmCatalogStoreDivergent, "",
      "no present catalog history revision survives; a current pointer cannot be proven"⟩]
  else do
    let present ← rebuildCatalogHistoryIndex R records updatedAt references receipts
    let deletedEntries := (collectedAudits records audits).map (deletedIndexEntry R receipts)
    let payload : CatalogHistoryIndexPayloadV1 :=
      { schemaVersion := 1, runtimeKind := "wasm", currentRevision := present.currentRevision
        currentHash := present.currentHash, revisions := sortIndexEntries (present.revisions ++ deletedEntries)
        updatedAt }
    validateCatalogHistoryIndexV1 R (payload.withDigest R)

/-- What of an index must agree with the files. -/
def semanticIndexCore (index : CatalogHistoryIndexV1) :
    Nat × String × List (Nat × String × CatalogIndexEntryStatus) :=
  (index.currentRevision, index.currentHash,
    index.revisions.map fun entry => (entry.revision, entry.catalogHash, entry.status))

inductive StoredIndexState
  | absent
  | corrupt
  | valid (index : CatalogHistoryIndexV1)

def readStoredIndex (disk : CatalogDisk) : StoredIndexState :=
  match disk.index with
  | none => .absent
  | some stored =>
    match validateCatalogHistoryIndexV1 R stored with
    | .error _ => .corrupt
    | .ok index => .valid index

def writeCatalogIndex (index : CatalogHistoryIndexV1) : CatalogProg Unit :=
  Prog.write fun disk => (disk.putIndex index, .ok ())

/-! ## Recovery -/

structure WasmCatalogRecoveredState where
  records : List CatalogHistoryRecordV1
  receipts : List CatalogReleaseReceiptV1
  audits : List CatalogDeleteAuditV1
  index : Option CatalogHistoryIndexV1
  current : Option RuntimeCatalogV1

structure WasmCatalogRecoverMode where
  /-- An index that is missing or corrupt is written anew. -/
  persistRepairs : Bool
  /-- The stored index is not looked at. -/
  ignoreStoredIndex : Bool

/-- The state with an index whose current pointer names a record. -/
def finishRecovery (records : List CatalogHistoryRecordV1) (receipts : List CatalogReleaseReceiptV1)
    (audits : List CatalogDeleteAuditV1) (index : CatalogHistoryIndexV1) :
    Except CatalogFault WasmCatalogRecoveredState :=
  match records.find? fun record =>
      record.revision == index.currentRevision && record.catalogHash == index.currentHash with
  | none => .error (.thrown wasmCatalogStoreDivergent ("the index current pointer names revision " ++
      toString index.currentRevision ++ " which has no surviving history file"))
  | some currentRecord => .ok ⟨records, receipts, audits, some index, some currentRecord.catalog⟩

/-- The files of the store, each valid and all of them consistent with each other. -/
def readCatalogFiles (disk : CatalogDisk) : Except CatalogFault
    (List CatalogHistoryRecordV1 × List CatalogReleaseReceiptV1 × List CatalogDeleteAuditV1) := do
  let records ← readHistoryRecords R disk
  let receipts ← readReleaseReceipts R disk
  let audits ← readDeleteAudits R disk
  let auditByRevision ← crossCheckAudits receipts [] audits
  crossCheckReceipts records auditByRevision receipts
  return (records, receipts, audits)

/-- Go on with the rebuilt index, written if repairs are. -/
def repairIndex (mode : WasmCatalogRecoverMode) (rebuilt : CatalogHistoryIndexV1) :
    CatalogProg CatalogHistoryIndexV1 := do
  if mode.persistRepairs then
    writeCatalogIndex rebuilt
  return rebuilt

/-- Take the stored index if it is valid and agrees with the rebuilt one; write the rebuilt one if there is
no valid index. -/
def settleIndex (mode : WasmCatalogRecoverMode) (rebuilt : CatalogHistoryIndexV1) :
    CatalogProg CatalogHistoryIndexV1 := do
  if mode.ignoreStoredIndex then repairIndex mode rebuilt
  else
    match ← Prog.read (readStoredIndex R) with
    | .valid stored =>
      if semanticIndexCore stored ≠ semanticIndexCore rebuilt then
        Prog.lift (.error (.thrown wasmCatalogStoreDivergent ("the stored catalog history index disagrees with " ++
          "the fixed-path history objects (index/file disagreement fails closed)")))
      else return stored
    | _ => repairIndex mode rebuilt

def recoverState (references : List WasmCatalogEntryReferenceV1) (now : ClockText R)
    (mode : WasmCatalogRecoverMode) : CatalogProg WasmCatalogRecoveredState := do
  let (records, receipts, audits) ← Prog.lift (← Prog.read (readCatalogFiles R))
  if records.isEmpty && audits.isEmpty && receipts.isEmpty then
    match ← Prog.read (readStoredIndex R) with
    | .valid _ => Prog.lift (.error (.thrown wasmCatalogStoreDivergent
        "a catalog history index exists without any revision, receipt, or audit object"))
    | _ => return ⟨records, receipts, audits, none, none⟩
  else do
    let rebuilt ← Prog.lift (orThrow wasmCatalogStoreDivergent "catalog history index rebuild failed: "
      (assembleCatalogHistoryIndex R records audits receipts references now.val))
    let index ← settleIndex R mode rebuilt
    Prog.lift (finishRecovery records receipts audits index)

def recoverReadonly (now : ClockText R) : CatalogProg WasmCatalogRecoveredState :=
  recoverState R [] now ⟨false, false⟩

def recoverForMutation (references : List WasmCatalogEntryReferenceV1) (now : ClockText R) :
    CatalogProg WasmCatalogRecoveredState :=
  recoverState R references now ⟨true, false⟩

/-! ## Reading calls -/

namespace WasmCatalogStore

/-- The references a caller hands over: an array, of fewer than 2^32 items. -/
abbrev CatalogReferences : Type := {references : List WasmCatalogEntryReferenceV1 // references.length < 2 ^ 32}

/-- `open` -/
def openStore (references : CatalogReferences) (now : ClockText R) :
    CatalogProg (Option RuntimeCatalogV1) := do
  let state ← recoverState R references.val now ⟨true, false⟩
  return state.current

def current (now : ClockText R) : CatalogProg (Option RuntimeCatalogV1) := do
  let state ← recoverReadonly R now
  return state.current

def checkBindingUsable (binding : RuntimeBindingIdentityV1) (architecture : WasmRuntimeArchitecture)
    (now : ClockText R) : CatalogProg RuntimeCatalogEntryV1 := do
  let state ← recoverReadonly R now
  match state.current with
  | none => Prog.lift (.error (storeFailure wasmCatalogStoreUninitialized
      "the runtime catalog store has no proven current revision"))
  | some current => do
    Prog.lift (orFault contractFailure (checkRuntimeBindingNotReleased state.receipts binding))
    Prog.lift (orFault contractFailure (checkRuntimeBindingUsable current binding architecture))

/-! ## The owner's calls -/

/-- The readings of the clock a call makes. -/
structure CatalogClock where
  recovered : ClockText R
  stored : ClockText R
  refreshed : ClockText R

structure WasmCatalogRevisionResult where
  catalog : RuntimeCatalogV1
  historyRecord : CatalogHistoryRecordV1

structure WasmCatalogReleaseInput where
  entryKey : String
  references : CatalogReferences
  releaseId : String
  ownerCommandId : String
  drainedAt : String
  releasedAt : String

structure WasmCatalogGcInput where
  releaseId : String
  deleteId : String
  ownerCommandId : String
  deletedAt : String
  reason : String
  references : CatalogReferences

def writeRefreshedIndex (records : List CatalogHistoryRecordV1) (audits : List CatalogDeleteAuditV1)
    (receipts : List CatalogReleaseReceiptV1) (references : List WasmCatalogEntryReferenceV1)
    (now : ClockText R) : CatalogProg Unit := do
  let index ← Prog.lift (orThrow wasmCatalogStoreCorrupt "generated catalog history index failed validation: "
    (assembleCatalogHistoryIndex R records audits receipts references now.val))
  writeCatalogIndex index

def persistAppendedRevision (state : WasmCatalogRecoveredState) (catalog : RuntimeCatalogV1)
    (references : List WasmCatalogEntryReferenceV1) (clock : CatalogClock R) :
    CatalogProg WasmCatalogRevisionResult := do
  let record ← Prog.lift (orFault contractFailure (sealCatalogHistoryRecordV1 R
    ⟨1, "wasm", catalog.revision, catalog.catalogHash, catalog, clock.stored.val⟩))
  if state.records.any fun stored => stored.revision == record.revision then
    Prog.lift (.error (.thrown wasmCatalogStoreDivergent ("catalog revision " ++ toString record.revision ++
      " already exists; the append path must only create current.revision + 1")))
  else do
    Prog.write fun disk => (disk.putRecord record, .ok ())
    writeRefreshedIndex R (state.records ++ [record]) state.audits state.receipts references clock.refreshed
    return ⟨catalog, record⟩

def bootstrap (payload : RuntimeCatalogPayloadV1) (clock : CatalogClock R) :
    CatalogProg WasmCatalogRevisionResult := do
  let state ← recoverReadonly R clock.recovered
  if state.index.isSome || state.current.isSome then
    Prog.lift (.error (storeFailure wasmCatalogStoreAlreadyInitialized
      ("the catalog store already holds a proven current revision; use append with an expected " ++
        "(revision, catalogHash) pin")))
  else do
    let catalog ← Prog.lift (orFault contractFailure (sealRuntimeCatalogV1 R payload))
    persistAppendedRevision R state catalog [] clock

def append (expected : RuntimeCatalogRevisionPinV1) (next : RuntimeCatalogPayloadV1)
    (references : CatalogReferences) (clock : CatalogClock R) :
    CatalogProg WasmCatalogRevisionResult := do
  let state ← recoverForMutation R references.val clock.recovered
  match state.current with
  | none => Prog.lift (.error (storeFailure wasmCatalogStoreUninitialized
      "the catalog store is uninitialized; bootstrap the first revision before appending"))
  | some current => do
    let appended ← Prog.lift (orFault contractFailure
      (appendRuntimeCatalogRevision R current expected next references.val))
    persistAppendedRevision R state appended references.val clock

def revoke (expected : RuntimeCatalogRevisionPinV1) (entryKey : String) (revocation : RuntimeCatalogRevocationV1)
    (references : CatalogReferences) (clock : CatalogClock R) :
    CatalogProg WasmCatalogRevisionResult := do
  let state ← recoverForMutation R references.val clock.recovered
  match state.current with
  | none => Prog.lift (.error (storeFailure wasmCatalogStoreUninitialized
      "the catalog store is uninitialized; bootstrap the first revision before revoking"))
  | some current => do
    let revoked ← Prog.lift (orFault contractFailure
      (revokeRuntimeCatalogEntry R current expected entryKey revocation))
    persistAppendedRevision R state revoked references.val clock

/-- An object that was just written is read back as it was written. -/
def confirmReadback {α : Type} [DecidableEq α] (validate : α → ValidationResult α) (stored : Option α) (written : α)
    (message : String) : Except CatalogFault Unit :=
  match stored with
  | none => .error (.thrown wasmCatalogStoreCorrupt message)
  | some stored =>
    match validate stored with
    | .error _ => .error (.thrown wasmCatalogStoreCorrupt message)
    | .ok value => if value = written then .ok () else .error (.thrown wasmCatalogStoreCorrupt message)

/-- The receipt of a release id that was released before. -/
def replayRelease (input : WasmCatalogReleaseInput) (stored : CatalogReleaseReceiptV1) :
    Except CatalogFault CatalogReleaseReceiptV1 := do
  let receipt ← orThrow wasmCatalogStoreCorrupt "stored release receipt failed validation: "
    (validateCatalogReleaseReceiptV1 R stored)
  if receipt.entryKey = input.entryKey ∧ receipt.ownerCommandId = input.ownerCommandId ∧
      receipt.drainedAt = input.drainedAt ∧ receipt.releasedAt = input.releasedAt then
    return receipt
  else
    .error (storeFailure catalogReleaseReceiptStoreMismatch ("releaseId " ++ input.releaseId ++
      " already holds a receipt for a different release request"))

/-- A computation that may throw a `RangeError`, and whose issues the call returns. -/
def orRangeError {α : Type} : Option (ValidationResult α) → Except CatalogFault α
  | none => .error .rangeError
  | some result => orFault contractFailure result

def release (input : WasmCatalogReleaseInput) (clock : CatalogClock R) :
    CatalogProg CatalogReleaseReceiptV1 := do
  let state ← recoverForMutation R input.references.val clock.recovered
  let name := catalogReleaseReceiptFileName input.releaseId
  match ← Prog.read fun disk => disk.releaseReceipts.read name with
  | some stored => Prog.lift (replayRelease R input stored)
  | none =>
    match state.current with
    | none => Prog.lift (.error (storeFailure wasmCatalogStoreUninitialized
        "the catalog store is uninitialized; release requires a proven current revision"))
    | some current => do
      let receipt ← Prog.lift (orRangeError (releaseRuntimeCatalogEntry R ⟨current, input.entryKey,
        input.references.val, input.releaseId, input.ownerCommandId, input.drainedAt, input.releasedAt⟩))
      Prog.write fun disk => (disk.putReceipt name receipt, .ok ())
      Prog.lift (confirmReadback (validateCatalogReleaseReceiptV1 R)
        (← Prog.read fun disk => disk.releaseReceipts.read name) receipt
        ("release receipt readback diverged for releaseId " ++ input.releaseId))
      writeRefreshedIndex R state.records state.audits (state.receipts ++ [receipt]) input.references.val
        clock.refreshed
      return receipt

/-! ### Deletion -/

def auditMatchesRequest (audit : CatalogDeleteAuditV1) (receipt : CatalogReleaseReceiptV1)
    (input : WasmCatalogGcInput) : Bool :=
  audit.releaseId == receipt.releaseId && audit.revision == receipt.catalogRevision &&
    audit.catalogHash == receipt.catalogHash && audit.ownerCommandId == input.ownerCommandId &&
    audit.deletedAt == input.deletedAt && audit.reason == input.reason

/-- The outcome when the revision file is gone: the deletion that was done before, if it is this one. -/
def replayGc (state : WasmCatalogRecoveredState) (receipt : CatalogReleaseReceiptV1)
    (existingAudit : Option CatalogDeleteAuditV1) (input : WasmCatalogGcInput) :
    Except CatalogFault CatalogHistoryGcResultV1 :=
  match existingAudit with
  | none => .error (storeFailure catalogHistoryRecordMissing ("the release receipt names revision " ++
      toString receipt.catalogRevision ++ " whose history file does not exist"))
  | some audit =>
    if !auditMatchesRequest audit receipt input then
      .error (storeFailure catalogDeleteAuditStoreMismatch ("deleteId " ++ input.deleteId ++
        " already holds an audit for a different gc request"))
    else
      match state.index.bind fun index => index.revisions.find? fun entry => entry.revision == audit.revision with
      | none => .error (.thrown wasmCatalogStoreDivergent ("the collected revision " ++ toString audit.revision ++
          " has no index entry"))
      | some indexEntry => .ok ⟨audit, indexEntry⟩

/-- The receipt a deletion names. -/
def gcReceipt (state : WasmCatalogRecoveredState) (input : WasmCatalogGcInput) : Option CatalogReleaseReceiptV1 :=
  state.receipts.find? fun receipt => receipt.releaseId == input.releaseId

/-- The audit of a delete id. -/
def gcAudit (state : WasmCatalogRecoveredState) (input : WasmCatalogGcInput) : Option CatalogDeleteAuditV1 :=
  state.audits.find? fun audit => audit.deleteId == input.deleteId

/-- The record of the revision a receipt binds. -/
def gcRecord (state : WasmCatalogRecoveredState) (receipt : CatalogReleaseReceiptV1) :
    Option CatalogHistoryRecordV1 :=
  state.records.find? fun record =>
    record.revision == receipt.catalogRevision && record.catalogHash == receipt.catalogHash

def gcRequest (input : WasmCatalogGcInput) (receipt : CatalogReleaseReceiptV1) (record : CatalogHistoryRecordV1) :
    CatalogHistoryGcRequestV1 :=
  ⟨record, receipt, input.references.val, input.deleteId, input.ownerCommandId, input.deletedAt, input.reason⟩

/-- Record a deletion before it is done: the audit is written and read back, unless it is there already. -/
def persistAudit (existingAudit : Option CatalogDeleteAuditV1) (audit : CatalogDeleteAuditV1)
    (input : WasmCatalogGcInput) : CatalogProg Unit :=
  match existingAudit with
  | some existing =>
    Prog.lift <| if existing = audit then .ok () else
      .error (storeFailure catalogDeleteAuditStoreMismatch ("deleteId " ++ input.deleteId ++
        " already holds an audit for a different gc request"))
  | none => do
    let name := catalogDeleteAuditFileName input.deleteId
    Prog.write fun disk => (disk.putAudit name audit, .ok ())
    Prog.lift (confirmReadback (validateCatalogDeleteAuditV1 R)
      (← Prog.read fun disk => disk.deleteAudits.read name) audit
      ("delete audit readback diverged for deleteId " ++ input.deleteId ++ "; the revision file is preserved"))

/-- Delete the file of a record and refresh the index. -/
def collectRevision (state : WasmCatalogRecoveredState) (record : CatalogHistoryRecordV1)
    (nextAudits : List CatalogDeleteAuditV1) (input : WasmCatalogGcInput) (clock : CatalogClock R) :
    CatalogProg Unit := do
  Prog.write fun disk => (disk.dropRecord record, .ok ())
  writeRefreshedIndex R (state.records.filter fun candidate => candidate ≠ record) nextAudits state.receipts
    input.references.val clock.refreshed

/-- The deletion of a record that is present. -/
def gcPresent (state : WasmCatalogRecoveredState) (receipt : CatalogReleaseReceiptV1)
    (record : CatalogHistoryRecordV1) (input : WasmCatalogGcInput) (clock : CatalogClock R) :
    CatalogProg CatalogHistoryGcResultV1 :=
  if state.records.length = 1 then
    Prog.lift (.error (storeFailure catalogHistoryLastPresent
      "gc would remove the last present catalog history revision; append a replacement revision first"))
  else
    match gcCatalogHistoryRevision R (gcRequest input receipt record) with
    | .error errors => do
      if errors.any fun entry => entry.code == wasmCatalogEntryProtected then
        writeRefreshedIndex R state.records state.audits state.receipts input.references.val clock.refreshed
      Prog.lift (.error (contractFailure errors))
    | .ok computed => do
      persistAudit R (gcAudit state input) computed.audit input
      collectRevision R state record
        (if (gcAudit state input).isSome then state.audits else state.audits ++ [computed.audit]) input clock
      return computed

def gc (input : WasmCatalogGcInput) (clock : CatalogClock R) : CatalogProg CatalogHistoryGcResultV1 := do
  let state ← recoverForMutation R input.references.val clock.recovered
  match gcReceipt state input with
  | none => Prog.lift (.error (storeFailure catalogReleaseReceiptMissing ("gc names releaseId " ++ input.releaseId ++
      " whose release receipt does not exist")))
  | some receipt =>
    match gcRecord state receipt with
    | none => Prog.lift (replayGc state receipt (gcAudit state input) input)
    | some record => gcPresent R state receipt record input clock

/-- The owner's repair: the index is rebuilt from the files. -/
def rebuildIndex (references : CatalogReferences) (now : ClockText R) :
    CatalogProg CatalogHistoryIndexV1 := do
  let state ← recoverState R references.val now ⟨true, true⟩
  match state.index with
  | none => Prog.lift (.error (storeFailure wasmCatalogStoreUninitialized
      "the catalog store holds no history objects to rebuild an index from"))
  | some index => return index

/-! ## Histories of calls -/

/-- A call of the owner, with the clock it reads. -/
inductive CatalogCall
  | bootstrap (payload : RuntimeCatalogPayloadV1) (clock : CatalogClock R)
  | append (expected : RuntimeCatalogRevisionPinV1) (next : RuntimeCatalogPayloadV1)
      (references : CatalogReferences) (clock : CatalogClock R)
  | revoke (expected : RuntimeCatalogRevisionPinV1) (entryKey : String) (revocation : RuntimeCatalogRevocationV1)
      (references : CatalogReferences) (clock : CatalogClock R)
  | release (input : WasmCatalogReleaseInput) (clock : CatalogClock R)
  | gc (input : WasmCatalogGcInput) (clock : CatalogClock R)
  | rebuildIndex (references : CatalogReferences) (now : ClockText R)

/-- The program of a call, its result left aside. -/
def CatalogCall.program : CatalogCall R → CatalogProg Unit
  | .bootstrap payload clock => (WasmCatalogStore.bootstrap R payload clock).void
  | .append expected next references clock => (WasmCatalogStore.append R expected next references clock).void
  | .revoke expected entryKey revocation references clock =>
    (WasmCatalogStore.revoke R expected entryKey revocation references clock).void
  | .release input clock => (WasmCatalogStore.release R input clock).void
  | .gc input clock => (WasmCatalogStore.gc R input clock).void
  | .rebuildIndex references now => (WasmCatalogStore.rebuildIndex R references now).void

/-- The store after a call that was not interrupted. -/
def perform (disk : CatalogDisk) (call : CatalogCall R) : CatalogDisk := (call.program R disk).final

end WasmCatalogStore

end Iweb
