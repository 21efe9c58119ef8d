import Iweb.Catalog.Records
import Mathlib.Data.List.Sort

/-!
# The catalog's owner protocol

The pure functions of the catalog contract: which binding is usable, what the next revision may be, how an
entry is revoked and released, when a revision may be deleted, and how the index is rebuilt.
-/

namespace Iweb

variable (R : CatalogRules)

/-! ## Selection -/

def selectRuntimeCatalogEntry (catalog : RuntimeCatalogV1) (binding : RuntimeBindingIdentityV1)
    (architecture : WasmRuntimeArchitecture) : ValidationResult RuntimeCatalogEntryV1 :=
  match catalog.entries.find? fun entry =>
      entry.entryKey == binding.entryKey && entry.architecture == architecture &&
        entry.imageDigest == binding.imageDigest && entry.hostAbi == binding.hostAbi &&
        entry.world == binding.world with
  | some entry => .ok entry
  | none => validationFailure [⟨wasmCatalogEntryNotFound, "/entries",
      "no catalog entry matches the exact (entryKey, architecture, imageDigest, hostABI, world) selector; " ++
        "no fallback or range selection exists"⟩]

def selectRuntimeBindingEntry (catalog : RuntimeCatalogV1) (binding : RuntimeBindingIdentityV1)
    (architecture : WasmRuntimeArchitecture) : ValidationResult RuntimeCatalogEntryV1 :=
  if binding.catalogRevision ≠ catalog.revision ∨ binding.catalogHash ≠ catalog.catalogHash then
    validationFailure [⟨wasmCatalogBindingMismatch, "/runtimeBinding",
      "the runtime binding must pin the selected catalog revision and hash exactly"⟩]
  else selectRuntimeCatalogEntry catalog binding architecture

def checkRuntimeBindingUsable (catalog : RuntimeCatalogV1) (binding : RuntimeBindingIdentityV1)
    (architecture : WasmRuntimeArchitecture) : ValidationResult RuntimeCatalogEntryV1 := do
  let selected ← selectRuntimeBindingEntry catalog binding architecture
  if selected.isRevoked then
    validationFailure [⟨wasmRuntimeBindingRevoked, "/entries",
      "revocation immediately rejects new prepare, activation, rebind, and rollback using that binding"⟩]
  else return selected

/-! ## The next revision -/

structure RuntimeCatalogRevisionPinV1 where
  revision : Nat
  catalogHash : String
deriving DecidableEq

def requireRevisionPin (pin : RuntimeCatalogRevisionPinV1) : List ValidationIssue :=
  issueUnless (isU53Between pin.revision 1 wasmU53Max) catalogCode "/expected/revision"
      "expected catalog revision must be a u53 integer >= 1" ++
    issueUnless (isSha256Hex pin.catalogHash) catalogCode "/expected/catalogHash"
      "expected catalogHash must be a 64-character lower-case hex digest"

/-- The entry keys that the references protect. -/
def protectedRuntimeCatalogEntryKeys (references : List WasmCatalogEntryReferenceV1) : List String :=
  references.map fun reference => reference.runtimeBinding.entryKey

/-- An entry of the current revision that a reference protects is still there. -/
def requireProtectedEntries (current next : List RuntimeCatalogEntryV1)
    (references : List WasmCatalogEntryReferenceV1) : List ValidationIssue :=
  let nextKeys := next.map RuntimeCatalogEntryV1.entryKey
  current.flatMap fun entry =>
    issueUnless (!((protectedRuntimeCatalogEntryKeys references).contains entry.entryKey &&
        !nextKeys.contains entry.entryKey))
      wasmCatalogEntryProtected "/entries" ("entry " ++ entry.entryKey ++ " is referenced by an active version, " ++
        "ready/preparing candidate, or retained rollback target and must not be deleted")

/-- A revoked entry of the current revision, if it is still there, is revoked for the same reason. -/
def requireRevocationsKept (current next : List RuntimeCatalogEntryV1) : List ValidationIssue :=
  current.flatMap fun previous =>
    match previous.status with
    | .active => []
    | .revoked _ =>
      match next.find? fun entry => entry.entryKey == previous.entryKey with
      -- an absent entry is left to the check of the protected entries
      | none => []
      | some nextEntry =>
        issueUnless (nextEntry.status == previous.status) wasmCatalogRevocationRegression "/entries"
          ("a revoked entry must stay revoked with an identical revocation; " ++
            "a released or revoked binding cannot be reactivated")

def appendRuntimeCatalogRevision (current : RuntimeCatalogV1) (expected : RuntimeCatalogRevisionPinV1)
    (next : RuntimeCatalogPayloadV1) (references : List WasmCatalogEntryReferenceV1) :
    ValidationResult RuntimeCatalogV1 :=
  if requireRevisionPin expected ≠ [] then validationFailure (requireRevisionPin expected)
  else if expected.revision ≠ current.revision ∨ expected.catalogHash ≠ current.catalogHash then
    validationFailure [⟨catalogRevisionConflict, "/expected",
      "stale expected (revision, catalogHash); the append writes nothing and no binding is silently rebound"⟩]
  else if requireRuntimeCatalogPayload R next ≠ [] then validationFailure (requireRuntimeCatalogPayload R next)
  else if next.revision ≠ current.revision + 1 then
    validationFailure [⟨catalogRevisionConflict, "/revision",
      "the next catalog revision must equal current.revision + 1"⟩]
  else
    acceptUnless
      (requireProtectedEntries current.entries next.entries references ++
        requireRevocationsKept current.entries next.entries)
      (next.withHash R)

/-- The entries with one of them revoked. -/
def revokeEntry (entries : List RuntimeCatalogEntryV1) (entryKey : String)
    (revocation : RuntimeCatalogRevocationV1) : List RuntimeCatalogEntryV1 :=
  entries.map fun entry => if entry.entryKey = entryKey then { entry with status := .revoked revocation } else entry

def revokeRuntimeCatalogEntry (current : RuntimeCatalogV1) (expected : RuntimeCatalogRevisionPinV1)
    (entryKey : String) (revocation : RuntimeCatalogRevocationV1) : ValidationResult RuntimeCatalogV1 :=
  let issues := requireRuntimeCatalogRevocation R revocation "/revocation" catalogCode
  if !isEntryKey entryKey then
    validationFailure [⟨catalogCode, "/entryKey", "entryKey must match ^[a-z][a-z0-9.-]\x7b0,63\x7d$"⟩]
  else if issues ≠ [] then validationFailure issues
  else
    match current.entries.find? fun entry => entry.entryKey == entryKey with
    | none => validationFailure [⟨wasmCatalogEntryNotFound, "/entries",
        "revocation names an entry that does not exist in the current revision"⟩]
    | some target =>
      if target.isRevoked then
        validationFailure [⟨wasmCatalogEntryAlreadyRevoked, "/entries",
          "the entry is already revoked; revocation is one-way"⟩]
      else
        -- the references are not handed on
        appendRuntimeCatalogRevision R current expected
          ⟨1, current.revision + 1, revokeEntry current.entries entryKey revocation⟩ []

/-! ## Release -/

structure CatalogReleaseRequestV1 where
  catalog : RuntimeCatalogV1
  entryKey : String
  references : List WasmCatalogEntryReferenceV1
  releaseId : String
  ownerCommandId : String
  drainedAt : String
  releasedAt : String

/-- The binding of an entry at a catalog's revision and hash. -/
def targetRuntimeBinding (catalog : RuntimeCatalogV1) (entry : RuntimeCatalogEntryV1) : RuntimeBindingIdentityV1 where
  kind := "wasm"
  catalogRevision := catalog.revision
  catalogHash := catalog.catalogHash
  entryKey := entry.entryKey
  imageDigest := entry.imageDigest
  hostAbi := entry.hostAbi
  world := entry.world

/-- The end of the retention; `none` when `toISOString` throws on an invalid date. -/
def releaseRetentionUntil (releasedAt : String) : Option String := do
  let released ← R.parseDate releasedAt
  let retention ← timeValue (released.val + catalogReleaseRetentionSeconds * 1000)
  return R.toIsoString retention

/-- The receipt of a release; `none` when the date of the retention cannot be rendered. -/
def releaseRuntimeCatalogEntry (input : CatalogReleaseRequestV1) :
    Option (ValidationResult CatalogReleaseReceiptV1) :=
  match input.catalog.entries.find? fun entry => entry.entryKey == input.entryKey with
  | none => some <| validationFailure [⟨wasmCatalogEntryNotFound, "/entryKey",
      "release names an entry that does not exist in the pinned catalog revision"⟩]
  | some entry =>
    if input.references.any fun reference => reference.runtimeBinding.entryKey == input.entryKey then
      some <| validationFailure [⟨wasmCatalogEntryProtected, "/references",
        "only an entry with no active/ready-preparing/rollback reference may be released; " ++
          "protectedReferenceCount must be 0"⟩]
    else
      (releaseRetentionUntil R input.releasedAt).map fun retention =>
        let payload : CatalogReleaseReceiptPayloadV1 :=
          { schemaVersion := 1, runtimeKind := "wasm", releaseId := input.releaseId, entryKey := entry.entryKey
            catalogRevision := input.catalog.revision, catalogHash := input.catalog.catalogHash
            targetRuntimeBinding := targetRuntimeBinding input.catalog entry
            ownerCommandId := input.ownerCommandId, protectedReferenceCount := 0
            drainedAt := input.drainedAt, releasedAt := input.releasedAt, releaseRetentionUntil := retention }
        validateCatalogReleaseReceiptV1 R (payload.withDigest R)

def checkRuntimeBindingNotReleased (receipts : List CatalogReleaseReceiptV1)
    (binding : RuntimeBindingIdentityV1) : ValidationResult Unit :=
  if receipts.any fun receipt => receipt.targetRuntimeBinding == binding then
    validationFailure [⟨wasmRuntimeBindingReleased, "/targetRuntimeBinding",
      "a released binding cannot be reactivated; the immutable version/rollback history remains auditable only"⟩]
  else .ok ()

/-! ## Deletion -/

structure CatalogHistoryGcRequestV1 where
  record : CatalogHistoryRecordV1
  receipt : CatalogReleaseReceiptV1
  references : List WasmCatalogEntryReferenceV1
  deleteId : String
  ownerCommandId : String
  deletedAt : String
  reason : String

structure CatalogHistoryGcResultV1 where
  audit : CatalogDeleteAuditV1
  indexEntry : CatalogHistoryIndexRevisionEntryV1

/-- The retention of a receipt has elapsed at a date. -/
def retentionElapsed (deletedAt : String) (receipt : CatalogReleaseReceiptV1) : Bool :=
  match R.parseDate deletedAt, R.parseDate receipt.releaseRetentionUntil with
  | some deleted, some retention => decide (retention.val ≤ deleted.val)
  -- a comparison with `NaN` is false, so the deletion is not held back
  | _, _ => true

/-- The references pin a revision. -/
def pinsRevision (references : List WasmCatalogEntryReferenceV1) (revision : Nat) : Bool :=
  references.any fun reference => reference.runtimeBinding.catalogRevision == revision

def deleteAuditOf (input : CatalogHistoryGcRequestV1) : CatalogDeleteAuditV1 where
  schemaVersion := 1
  runtimeKind := "wasm"
  deleteId := input.deleteId
  revision := input.record.revision
  catalogHash := input.record.catalogHash
  path := catalogHistoryRevisionFilePath input.record.revision input.record.catalogHash
  releaseId := input.receipt.releaseId
  ownerCommandId := input.ownerCommandId
  deletedAt := input.deletedAt
  reason := input.reason
  objectDigest := (R.objectDigest input.record).val

def deletedIndexEntryOf (input : CatalogHistoryGcRequestV1) : CatalogHistoryIndexRevisionEntryV1 where
  revision := input.record.revision
  catalogHash := input.record.catalogHash
  path := catalogHistoryRevisionFilePath input.record.revision input.record.catalogHash
  status := .deleted
  protectedReferenceCount := 0
  releaseRetentionUntil := some input.receipt.releaseRetentionUntil
  deletedAt := some input.deletedAt

/-- The issues of the fields of a deletion. -/
def requireGcFields (deleteId ownerCommandId deletedAt reason : String) : List ValidationIssue :=
  requireUuidV7 deleteId "" "deleteId" deleteAuditCode ++
    requireUuidV7 ownerCommandId "" "ownerCommandId" deleteAuditCode ++
    requireRfc3339Utc R deletedAt "" "deletedAt" deleteAuditCode ++
    requireDeleteReason reason "/reason"

def gcCatalogHistoryRevision (input : CatalogHistoryGcRequestV1) : ValidationResult CatalogHistoryGcResultV1 :=
  let issues := requireGcFields R input.deleteId input.ownerCommandId input.deletedAt input.reason
  if issues ≠ [] then validationFailure issues
  else if input.receipt.catalogRevision ≠ input.record.revision ∨
      input.receipt.catalogHash ≠ input.record.catalogHash then
    validationFailure [⟨catalogReleaseReceiptMismatch, "/receipt",
      "the release receipt must name the exact revision and hash being garbage-collected"⟩]
  else if !input.record.catalog.entries.any fun entry => entry.entryKey == input.receipt.entryKey then
    validationFailure [⟨catalogReleaseReceiptMismatch, "/receipt",
      "the release receipt entryKey must exist in the collected revision"⟩]
  else if pinsRevision input.references input.record.revision then
    validationFailure [⟨wasmCatalogEntryProtected, "/references",
      "a history revision with a remaining active/ready/preparing/rollback reference is never eligible " ++
        "for deletion"⟩]
  else if !retentionElapsed R input.deletedAt input.receipt then
    validationFailure [⟨catalogReleaseRetentionActive, "/deletedAt",
      "the release retention window has not elapsed; the entry and all referenced history remain recoverable"⟩]
  else do
    let audit ← validateCatalogDeleteAuditV1 R (deleteAuditOf R input)
    return ⟨audit, deletedIndexEntryOf input⟩

/-! ## The index rebuilt -/

/-- The latest end of retention among the receipts of a revision. -/
def latestRetention (receipts : List CatalogReleaseReceiptV1) (revision : Nat) (catalogHash : String) :
    Option TimeValue :=
  receipts.foldl (fun latest receipt =>
    if receipt.catalogRevision ≠ revision ∨ receipt.catalogHash ≠ catalogHash then latest
    else
      match latest, R.parseDate receipt.releaseRetentionUntil with
      | none, date => date
      | some latest, some date => if latest.val < date.val then some date else some latest
      | some latest, none => some latest) none

def latestReleaseRetention (receipts : List CatalogReleaseReceiptV1) (revision : Nat) (catalogHash : String) :
    Option String :=
  (latestRetention R receipts revision catalogHash).map R.toIsoString

/-- The issues of records that are not valid or repeat a revision, and the valid ones. -/
def rebuildRecords : Nat → List Nat → List CatalogHistoryRecordV1 →
    List ValidationIssue × List CatalogHistoryRecordV1
  | _, _, [] => ([], [])
  | i, seen, record :: rest =>
    match validateCatalogHistoryRecordV1 R record with
    | .error issues =>
      let (more, valid) := rebuildRecords (i + 1) seen rest
      (issues ++ more, valid)
    | .ok record =>
      if seen.contains record.revision then
        let (more, valid) := rebuildRecords (i + 1) seen rest
        (⟨indexCode, "/records/" ++ toString i, "revision " ++ toString record.revision ++
          " appears more than once; an index/file disagreement fails closed"⟩ :: more, valid)
      else
        let (more, valid) := rebuildRecords (i + 1) (record.revision :: seen) rest
        (more, record :: valid)

def presentIndexEntry (references : List WasmCatalogEntryReferenceV1) (receipts : List CatalogReleaseReceiptV1)
    (record : CatalogHistoryRecordV1) : CatalogHistoryIndexRevisionEntryV1 where
  revision := record.revision
  catalogHash := record.catalogHash
  path := catalogHistoryRevisionFilePath record.revision record.catalogHash
  status := .present
  protectedReferenceCount :=
    references.countP fun reference => reference.runtimeBinding.catalogRevision == record.revision
  releaseRetentionUntil := latestReleaseRetention R receipts record.revision record.catalogHash
  deletedAt := none

/-- Records in the order of their revisions. -/
def sortRecords (records : List CatalogHistoryRecordV1) : List CatalogHistoryRecordV1 :=
  records.insertionSort fun left right => left.revision ≤ right.revision

def rebuildCatalogHistoryIndex (records : List CatalogHistoryRecordV1) (updatedAt : String)
    (references : List WasmCatalogEntryReferenceV1) (receipts : List CatalogReleaseReceiptV1) :
    ValidationResult CatalogHistoryIndexV1 :=
  let issues := requireRfc3339Utc R updatedAt "" "updatedAt" indexCode
  if issues ≠ [] then validationFailure issues
  else
    let (issues, valid) := rebuildRecords R 0 [] records
    if issues ≠ [] then validationFailure issues
    else
      let revisions := (sortRecords valid).map (presentIndexEntry R references receipts)
      match revisions.getLast? with
      | none => validationFailure [⟨indexCode, "/records",
          "no valid catalog history revision survives digest verification; the gate stays closed"⟩]
      | some highest =>
        let payload : CatalogHistoryIndexPayloadV1 :=
          { schemaVersion := 1, runtimeKind := "wasm", currentRevision := highest.revision
            currentHash := highest.catalogHash, revisions, updatedAt }
        .ok (payload.withDigest R)

end Iweb
