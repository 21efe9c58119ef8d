import Iweb.Kernel.Identity

/-!
# Records of the runtime catalog

The catalog and the objects its history is kept in: revision records, release receipts, delete audits and
the index. Each validator gives the issues it finds; a record is accepted when there are none.
-/

namespace Iweb

/-- A refusal names a code, the path of the field and a text. -/
structure ValidationIssue where
  code : String
  path : String
  message : String
deriving DecidableEq

abbrev ValidationResult (α : Type) : Type := Except (List ValidationIssue) α

/-- `failure`: at most 50 issues are reported. -/
def validationFailure {α : Type} (issues : List ValidationIssue) : ValidationResult α :=
  .error (issues.take 50)

/-- Accept a value when there are no issues. -/
def acceptUnless {α : Type} (issues : List ValidationIssue) (value : α) : ValidationResult α :=
  if issues = [] then .ok value else validationFailure issues

/-- The issue of a check that failed. -/
def issueUnless (ok : Bool) (code path message : String) : List ValidationIssue :=
  if ok then [] else [⟨code, path, message⟩]

@[simp] theorem issueUnless_eq_nil {ok : Bool} {code path message : String} :
    issueUnless ok code path message = [] ↔ ok = true := by
  cases ok <;> simp [issueUnless]

theorem acceptUnless_eq_ok {α : Type} {issues : List ValidationIssue} {value result : α} :
    acceptUnless issues value = .ok result ↔ issues = [] ∧ value = result := by
  unfold acceptUnless
  by_cases h : issues = []
  · rw [if_pos h]
    exact ⟨fun heq => ⟨h, Except.ok.inj heq⟩, fun heq => congrArg _ heq.2⟩
  · rw [if_neg h]
    exact ⟨(fun heq => nomatch heq), fun heq => absurd heq.1 h⟩

def catalogCode : String := "WASM_CATALOG_INVALID"
def wasmCatalogDigestMismatch : String := "WASM_CATALOG_DIGEST_MISMATCH"
def wasmCatalogBindingMismatch : String := "WASM_CATALOG_BINDING_MISMATCH"
def wasmCatalogEntryAlreadyRevoked : String := "WASM_CATALOG_ENTRY_ALREADY_REVOKED"
def wasmCatalogRevocationRegression : String := "WASM_CATALOG_REVOCATION_REGRESSION"
def historyCode : String := "WASM_CATALOG_HISTORY_INVALID"
def wasmCatalogHistoryDigestMismatch : String := "WASM_CATALOG_HISTORY_DIGEST_MISMATCH"
def indexCode : String := "WASM_CATALOG_INDEX_INVALID"
def wasmCatalogIndexDigestMismatch : String := "WASM_CATALOG_INDEX_DIGEST_MISMATCH"
def releaseCode : String := "CATALOG_RELEASE_INVALID"
def catalogReleaseReceiptDigestMismatch : String := "CATALOG_RELEASE_RECEIPT_DIGEST_MISMATCH"
def catalogReleaseReceiptMismatch : String := "CATALOG_RELEASE_RECEIPT_MISMATCH"
def catalogReleaseRetentionActive : String := "CATALOG_RELEASE_RETENTION_ACTIVE"
def deleteAuditCode : String := "CATALOG_DELETE_AUDIT_INVALID"
def bindingCode : String := "WASM_BINDING_INVALID"
def catalogRevisionConflict : String := "CATALOG_REVISION_CONFLICT"
def wasmCatalogEntryProtected : String := "WASM_CATALOG_ENTRY_PROTECTED"
def wasmCatalogEntryNotFound : String := "WASM_CATALOG_ENTRY_NOT_FOUND"
def wasmRuntimeBindingRevoked : String := "WASM_RUNTIME_BINDING_REVOKED"
def wasmRuntimeBindingReleased : String := "WASM_RUNTIME_BINDING_RELEASED"

def catalogReleaseRetentionSeconds : Int := 31536000
def wasmCatalogMaxEntries : Nat := 128

/-! ## The records -/

inductive WasmRuntimeArchitecture
  | linuxAmd64
  | linuxArm64
deriving DecidableEq

structure RuntimeCatalogRevocationV1 where
  cve : String
  reasonCode : String
  revokedAt : String
deriving DecidableEq

/-- A revocation exists exactly when the status is `revoked`. -/
inductive RuntimeCatalogEntryStatus
  | active
  | revoked (revocation : RuntimeCatalogRevocationV1)
deriving DecidableEq

structure RuntimeCatalogEntryV1 where
  entryKey : String
  kind : String
  imageDigest : String
  hostAbi : String
  world : String
  architecture : WasmRuntimeArchitecture
  status : RuntimeCatalogEntryStatus
deriving DecidableEq

def RuntimeCatalogEntryV1.isRevoked (entry : RuntimeCatalogEntryV1) : Bool :=
  match entry.status with
  | .active => false
  | .revoked _ => true

structure RuntimeCatalogPayloadV1 where
  schemaVersion : Nat
  revision : Nat
  entries : List RuntimeCatalogEntryV1
deriving DecidableEq

structure RuntimeCatalogV1 extends RuntimeCatalogPayloadV1 where
  catalogHash : String
deriving DecidableEq

structure CatalogHistoryRecordPayloadV1 where
  schemaVersion : Nat
  runtimeKind : String
  revision : Nat
  catalogHash : String
  catalog : RuntimeCatalogV1
  storedAt : String
deriving DecidableEq

structure CatalogHistoryRecordV1 extends CatalogHistoryRecordPayloadV1 where
  recordDigest : String
deriving DecidableEq

inductive CatalogIndexEntryStatus
  | present
  | deleted
deriving DecidableEq

structure CatalogHistoryIndexRevisionEntryV1 where
  revision : Nat
  catalogHash : String
  path : String
  status : CatalogIndexEntryStatus
  protectedReferenceCount : Nat
  releaseRetentionUntil : Option String
  deletedAt : Option String
deriving DecidableEq

structure CatalogHistoryIndexPayloadV1 where
  schemaVersion : Nat
  runtimeKind : String
  currentRevision : Nat
  currentHash : String
  revisions : List CatalogHistoryIndexRevisionEntryV1
  updatedAt : String
deriving DecidableEq

structure CatalogHistoryIndexV1 extends CatalogHistoryIndexPayloadV1 where
  indexDigest : String
deriving DecidableEq

structure CatalogReleaseReceiptPayloadV1 where
  schemaVersion : Nat
  runtimeKind : String
  releaseId : String
  entryKey : String
  catalogRevision : Nat
  catalogHash : String
  targetRuntimeBinding : RuntimeBindingIdentityV1
  ownerCommandId : String
  protectedReferenceCount : Nat
  drainedAt : String
  releasedAt : String
  releaseRetentionUntil : String
deriving DecidableEq

structure CatalogReleaseReceiptV1 extends CatalogReleaseReceiptPayloadV1 where
  receiptDigest : String
deriving DecidableEq

structure CatalogDeleteAuditV1 where
  schemaVersion : Nat
  runtimeKind : String
  deleteId : String
  revision : Nat
  catalogHash : String
  path : String
  releaseId : String
  ownerCommandId : String
  deletedAt : String
  reason : String
  objectDigest : String
deriving DecidableEq

inductive WasmCatalogEntryReferenceKind
  | activeVersion
  | readyOrPreparingCandidate
  | rollbackTarget
deriving DecidableEq

structure WasmCatalogEntryReferenceV1 where
  kind : WasmCatalogEntryReferenceKind
  runtimeBinding : RuntimeBindingIdentityV1
deriving DecidableEq

/-! ## Dates and digests -/

/-- A digest in lower-case hexadecimal. -/
abbrev Sha256Hex : Type := {text : String // isSha256Hex text = true}

/-- The milliseconds since the epoch a `Date` can hold. -/
abbrev TimeValue : Type := {millis : Int // -8640000000000000 ≤ millis ∧ millis ≤ 8640000000000000}

/-- `new Date(millis)`, `none` for an invalid date. -/
def timeValue (millis : Int) : Option TimeValue :=
  if h : -8640000000000000 ≤ millis ∧ millis ≤ 8640000000000000 then some ⟨millis, h⟩ else none

/-- `Date` and the digests over canonical bytes. -/
structure CatalogRules where
  /-- `Date.parse`, `none` for `NaN`. -/
  parseDate : String → Option TimeValue
  toIsoString : TimeValue → String
  computeRuntimeCatalogHashV1 : RuntimeCatalogPayloadV1 → Sha256Hex
  computeCatalogHistoryRecordDigestV1 : CatalogHistoryRecordPayloadV1 → Sha256Hex
  computeCatalogHistoryIndexDigestV1 : CatalogHistoryIndexPayloadV1 → Sha256Hex
  computeCatalogReleaseReceiptDigestV1 : CatalogReleaseReceiptPayloadV1 → Sha256Hex
  /-- The digest of a whole history record, as a delete audit names it. -/
  objectDigest : CatalogHistoryRecordV1 → Sha256Hex

variable (R : CatalogRules)

/-- `^\d{4}-\d{2}-\d{2}T\d{2}:\d{2}:\d{2}(?:\.\d+)?Z$` -/
def isRfc3339Text (value : String) : Bool :=
  let rest := (bytes value).drop 19
  let digits := (rest.drop 1).takeWhile isDecimalDigit
  matchesShape timestampShape ((bytes value).take 19) &&
    (rest == [ascii 'Z'] ||
      rest.head? == some (ascii '.') && digits != [] && rest.drop (digits.length + 1) == [ascii 'Z'])

/-- A timestamp that passes the pattern and that `Date.parse` reads. -/
def isCatalogTimestamp (value : String) : Bool := isRfc3339Text value && (R.parseDate value).isSome

/-- A reading of the clock. -/
abbrev ClockText : Type := {text : String // isCatalogTimestamp R text = true}

/-! ## Field checks -/

def requireSafeInteger (value : Nat) (path fieldName : String) (minimum maximum : Nat) (code : String) :
    List ValidationIssue :=
  issueUnless (isU53Between value minimum maximum) code (path ++ "/" ++ fieldName)
    (fieldName ++ " must be an integer between " ++ toString minimum ++ " and " ++ toString maximum)

def requireSha256Hex (value path fieldName code : String) : List ValidationIssue :=
  issueUnless (isSha256Hex value) code (path ++ "/" ++ fieldName)
    (fieldName ++ " must be a 64-character lower-case hex digest")

def requireOciSha256 (value path fieldName code : String) : List ValidationIssue :=
  issueUnless (isOciSha256 value) code (path ++ "/" ++ fieldName)
    (fieldName ++ " must be sha256: plus 64 lower-case hex characters")

def requireStringLiteral (value path fieldName literal code : String) : List ValidationIssue :=
  issueUnless (value == literal) code (path ++ "/" ++ fieldName)
    (fieldName ++ " must be exactly \"" ++ literal ++ "\"")

def requireUuidV7 (value path fieldName code : String) : List ValidationIssue :=
  issueUnless (isUuidV7 value) code (path ++ "/" ++ fieldName) (fieldName ++ " must be a lower-case UUIDv7")

def requireRfc3339Utc (value path fieldName code : String) : List ValidationIssue :=
  issueUnless (isCatalogTimestamp R value) code (path ++ "/" ++ fieldName)
    (fieldName ++ " must be an RFC3339 UTC timestamp ending in Z")

def requireEntryKey (value path code : String) : List ValidationIssue :=
  issueUnless (isEntryKey value) code (path ++ "/entryKey")
    "entryKey must match ^[a-z][a-z0-9.-]\x7b0,63\x7d$"

/-! ## The catalog -/

/-- `^CVE-\d{4}-\d{4,}$` -/
def isCve (value : String) : Bool :=
  let rest := (bytes value).drop 9
  matchesShape ("CVE-".toList.map (fun c b => b == ascii c) ++ List.replicate 4 isDecimalDigit ++
      [fun b => b == ascii '-']) ((bytes value).take 9) &&
    4 ≤ rest.length && rest.all isDecimalDigit

def requireRuntimeCatalogRevocation (revocation : RuntimeCatalogRevocationV1) (path code : String) :
    List ValidationIssue :=
  issueUnless (isCve revocation.cve) code (path ++ "/cve")
      "cve must match CVE-YYYY-NNNN with a 4-digit year and at least 4 digits" ++
    issueUnless (isEntryKey revocation.reasonCode) code (path ++ "/reasonCode")
      "reasonCode must be a bounded lower-case opaque identifier" ++
    requireRfc3339Utc R revocation.revokedAt path "revokedAt" code

def requireRuntimeCatalogEntry (entry : RuntimeCatalogEntryV1) (path : String) : List ValidationIssue :=
  let issues :=
    requireEntryKey entry.entryKey path catalogCode ++
    requireStringLiteral entry.kind path "kind" "wasm" catalogCode ++
    requireOciSha256 entry.imageDigest path "imageDigest" catalogCode ++
    requireStringLiteral entry.hostAbi path "hostABI" wasmHostAbiLiteral catalogCode ++
    requireStringLiteral entry.world path "world" wasmWorldLiteral catalogCode
  if issues ≠ [] then issues
  else
    match entry.status with
    | .active => []
    | .revoked revocation => requireRuntimeCatalogRevocation R revocation (path ++ "/revocation") catalogCode

/-- The issues of the first entry that has any. -/
def requireEachEntry (path : String) : Nat → List RuntimeCatalogEntryV1 → List ValidationIssue
  | _, [] => []
  | i, entry :: rest =>
    let issues := requireRuntimeCatalogEntry R entry (path ++ "/" ++ toString i)
    if issues ≠ [] then issues else requireEachEntry path (i + 1) rest

/-- The entries ascend by key, bytewise. -/
def requireEntryOrder (path : String) : List RuntimeCatalogEntryV1 → List ValidationIssue
  | entry :: next :: rest =>
    if entry.entryKey = next.entryKey then
      [⟨catalogCode, path, "entryKey must be unique; a multi-architecture runtime uses distinct entry keys"⟩]
    else if bytes entry.entryKey < bytes next.entryKey then requireEntryOrder path (next :: rest)
    else [⟨catalogCode, path, "entries must be sorted by entryKey in UTF-8 byte order"⟩]
  | _ => []

def requireRuntimeCatalogEntries (entries : List RuntimeCatalogEntryV1) (path : String) :
    List ValidationIssue :=
  if wasmCatalogMaxEntries < entries.length then
    [⟨catalogCode, path, "entries must have at most 128 items"⟩]
  else
    let issues := requireEachEntry R path 0 entries
    if issues ≠ [] then issues else requireEntryOrder path entries

def requireRuntimeCatalogPayload (payload : RuntimeCatalogPayloadV1) : List ValidationIssue :=
  requireSafeInteger payload.schemaVersion "" "schemaVersion" 1 1 catalogCode ++
    requireSafeInteger payload.revision "" "revision" 1 wasmU53Max catalogCode ++
    requireRuntimeCatalogEntries R payload.entries "/entries"

/-- A checked payload with its hash. -/
def RuntimeCatalogPayloadV1.withHash (payload : RuntimeCatalogPayloadV1) : RuntimeCatalogV1 :=
  { payload with catalogHash := (R.computeRuntimeCatalogHashV1 payload).val }

def sealRuntimeCatalogV1 (payload : RuntimeCatalogPayloadV1) : ValidationResult RuntimeCatalogV1 :=
  acceptUnless (requireRuntimeCatalogPayload R payload) (payload.withHash R)

def validateRuntimeCatalogV1 (catalog : RuntimeCatalogV1) : ValidationResult RuntimeCatalogV1 :=
  let issues := requireSha256Hex catalog.catalogHash "" "catalogHash" catalogCode ++
    requireRuntimeCatalogPayload R catalog.toRuntimeCatalogPayloadV1
  if issues ≠ [] then validationFailure issues
  else
    acceptUnless
      (issueUnless ((R.computeRuntimeCatalogHashV1 catalog.toRuntimeCatalogPayloadV1).val == catalog.catalogHash)
        wasmCatalogDigestMismatch "/catalogHash"
        ("catalogHash must equal hex(SHA-256(UTF8(\"iweb-runtime-catalog-v1\\n\" || " ++
          "JCS(catalog with catalogHash omitted))))"))
      catalog

/-! ## History records -/

/-- `<revision>-<catalogHash>.json` -/
def catalogHistoryRevisionFileName (revision : Nat) (catalogHash : String) : String :=
  toString revision ++ "-" ++ catalogHash ++ ".json"

def catalogHistoryRevisionFilePath (revision : Nat) (catalogHash : String) : String :=
  "/data/kernel/runtime-catalog/revisions/" ++ catalogHistoryRevisionFileName revision catalogHash

/-- `<releaseId>.json` -/
def catalogReleaseReceiptFileName (releaseId : String) : String := releaseId ++ ".json"

/-- `<deleteId>.json` -/
def catalogDeleteAuditFileName (deleteId : String) : String := deleteId ++ ".json"

def CatalogHistoryRecordPayloadV1.withDigest (payload : CatalogHistoryRecordPayloadV1) : CatalogHistoryRecordV1 :=
  { payload with recordDigest := (R.computeCatalogHistoryRecordDigestV1 payload).val }

/-- The issues a validation reports, none if it accepts. -/
def issuesOf {α : Type} : ValidationResult α → List ValidationIssue
  | .ok _ => []
  | .error issues => issues

/-- The issues of the fields of a record. -/
def requireHistoryFields (payload : CatalogHistoryRecordPayloadV1) : List ValidationIssue :=
  requireSafeInteger payload.schemaVersion "" "schemaVersion" 1 1 historyCode ++
    requireStringLiteral payload.runtimeKind "" "runtimeKind" "wasm" historyCode ++
    requireSafeInteger payload.revision "" "revision" 1 wasmU53Max historyCode ++
    requireSha256Hex payload.catalogHash "" "catalogHash" historyCode ++
    issuesOf (validateRuntimeCatalogV1 R payload.catalog) ++
    requireRfc3339Utc R payload.storedAt "" "storedAt" historyCode

def sealCatalogHistoryRecordV1 (payload : CatalogHistoryRecordPayloadV1) :
    ValidationResult CatalogHistoryRecordV1 :=
  if requireHistoryFields R payload ≠ [] then validationFailure (requireHistoryFields R payload)
  else
    acceptUnless
      (issueUnless
        (payload.revision == payload.catalog.revision && payload.catalogHash == payload.catalog.catalogHash)
        historyCode "" "wrapper revision/catalogHash must agree with the nested catalog revision/catalogHash")
      (payload.withDigest R)

def validateCatalogHistoryRecordV1 (record : CatalogHistoryRecordV1) :
    ValidationResult CatalogHistoryRecordV1 := do
  let issues := requireSha256Hex record.recordDigest "" "recordDigest" historyCode
  let sealedRecord ← sealCatalogHistoryRecordV1 R record.toCatalogHistoryRecordPayloadV1
  if issues ≠ [] then validationFailure issues
  else
    acceptUnless
      (issueUnless (sealedRecord.recordDigest == record.recordDigest) wasmCatalogHistoryDigestMismatch
        "/recordDigest" ("recordDigest must equal hex(SHA-256(UTF8(\"iweb-catalog-history-v1\\n\" || " ++
          "JCS(record with recordDigest omitted))))"))
      sealedRecord

/-! ## The index -/

/-- The issues so far and those of one entry; its path and its coupling are checked only while there are none. -/
def requireIndexRevisionEntry (issues : List ValidationIssue) (path : String)
    (entry : CatalogHistoryIndexRevisionEntryV1) : List ValidationIssue :=
  let issues := issues ++
    requireSafeInteger entry.revision path "revision" 1 wasmU53Max indexCode ++
    requireSha256Hex entry.catalogHash path "catalogHash" indexCode ++
    requireSafeInteger entry.protectedReferenceCount path "protectedReferenceCount" 0 wasmU53Max indexCode ++
    entry.releaseRetentionUntil.elim []
      (fun value => requireRfc3339Utc R value path "releaseRetentionUntil" indexCode) ++
    entry.deletedAt.elim [] (fun value => requireRfc3339Utc R value path "deletedAt" indexCode)
  if issues ≠ [] then issues
  else if entry.path ≠ catalogHistoryRevisionFilePath entry.revision entry.catalogHash then
    [⟨indexCode, path ++ "/path", "path must equal the fixed " ++
      "/data/kernel/runtime-catalog/revisions/<revision>-<catalogHash>.json"⟩]
  else
    match entry.status, entry.deletedAt with
    | .deleted, none => [⟨indexCode, path ++ "/deletedAt", "a deleted index entry must carry deletedAt"⟩]
    | .present, some _ => [⟨indexCode, path ++ "/deletedAt", "a present index entry must carry deletedAt null"⟩]
    | _, _ => []

def requireIndexRevisionEntries (issues : List ValidationIssue) :
    Nat → List CatalogHistoryIndexRevisionEntryV1 → List ValidationIssue
  | _, [] => issues
  | i, entry :: rest =>
    requireIndexRevisionEntries (requireIndexRevisionEntry R issues ("/revisions/" ++ toString i) entry) (i + 1) rest

/-- Every revision is below the next one. -/
def revisionsAscend : List CatalogHistoryIndexRevisionEntryV1 → Bool
  | entry :: next :: rest => decide (entry.revision < next.revision) && revisionsAscend (next :: rest)
  | _ => true

/-- The last present entry. -/
def highestPresent (revisions : List CatalogHistoryIndexRevisionEntryV1) :
    Option CatalogHistoryIndexRevisionEntryV1 :=
  (revisions.filter fun entry => entry.status == .present).getLast?

def CatalogHistoryIndexPayloadV1.withDigest (payload : CatalogHistoryIndexPayloadV1) : CatalogHistoryIndexV1 :=
  { payload with indexDigest := (R.computeCatalogHistoryIndexDigestV1 payload).val }

/-- The current pointer names the highest present entry, and the digest is that of the index. -/
def checkIndexPointer (index : CatalogHistoryIndexV1) : ValidationResult CatalogHistoryIndexV1 :=
  match highestPresent index.revisions with
  | none => validationFailure
      [⟨indexCode, "/currentRevision", "the index must contain at least one present revision"⟩]
  | some highest =>
    if index.currentRevision ≠ highest.revision ∨ index.currentHash ≠ highest.catalogHash then
      validationFailure [⟨indexCode, "/currentRevision", "currentRevision/currentHash must equal the highest " ++
        "non-deleted revision whose nested catalog hash agrees"⟩]
    else
      acceptUnless
        (issueUnless
          ((R.computeCatalogHistoryIndexDigestV1 index.toCatalogHistoryIndexPayloadV1).val == index.indexDigest)
          wasmCatalogIndexDigestMismatch "/indexDigest"
          "indexDigest must equal the domain digest of the index wrapper with the digest omitted")
        index

/-- The issues of the fields of an index, its entries left aside. -/
def requireIndexFields (index : CatalogHistoryIndexV1) : List ValidationIssue :=
  requireSafeInteger index.schemaVersion "" "schemaVersion" 1 1 indexCode ++
    requireStringLiteral index.runtimeKind "" "runtimeKind" "wasm" indexCode ++
    requireSafeInteger index.currentRevision "" "currentRevision" 1 wasmU53Max indexCode ++
    requireSha256Hex index.currentHash "" "currentHash" indexCode ++
    requireRfc3339Utc R index.updatedAt "" "updatedAt" indexCode ++
    requireSha256Hex index.indexDigest "" "indexDigest" indexCode

def validateCatalogHistoryIndexV1 (index : CatalogHistoryIndexV1) : ValidationResult CatalogHistoryIndexV1 :=
  let issues := requireIndexRevisionEntries R (requireIndexFields R index) 0 index.revisions
  if issues ≠ [] then validationFailure issues
  else if !revisionsAscend index.revisions then
    validationFailure [⟨indexCode, "/revisions",
      "revisions must be sorted by revision with no duplicate revision"⟩]
  else checkIndexPointer R index

/-! ## Release receipts -/

def validateRuntimeBindingIdentityV1 (binding : RuntimeBindingIdentityV1) : List ValidationIssue :=
  requireStringLiteral binding.kind "" "kind" "wasm" bindingCode ++
    requireSafeInteger binding.catalogRevision "" "catalogRevision" 1 wasmU53Max bindingCode ++
    requireSha256Hex binding.catalogHash "" "catalogHash" bindingCode ++
    requireEntryKey binding.entryKey "" bindingCode ++
    requireOciSha256 binding.imageDigest "" "imageDigest" bindingCode ++
    requireStringLiteral binding.hostAbi "" "hostABI" wasmHostAbiLiteral bindingCode ++
    requireStringLiteral binding.world "" "world" wasmWorldLiteral bindingCode

/-- The order of the three dates of a receipt whose fields passed. -/
def requireReleaseDates (receipt : CatalogReleaseReceiptPayloadV1) : List ValidationIssue :=
  match R.parseDate receipt.drainedAt, R.parseDate receipt.releasedAt, R.parseDate receipt.releaseRetentionUntil with
  | some drained, some released, some retention =>
    if released.val < drained.val then
      [⟨releaseCode, "/drainedAt",
        "drainedAt must not be later than releasedAt; the drain receipt precedes the release"⟩]
    else issueUnless (released.val + catalogReleaseRetentionSeconds * 1000 ≤ retention.val) releaseCode
      "/releaseRetentionUntil" "releaseRetentionUntil must be at least releasedAt + 31536000 seconds"
  | _, _, _ => []

def requireReleaseReceiptPayload (receipt : CatalogReleaseReceiptPayloadV1) : List ValidationIssue :=
  let issues :=
    requireSafeInteger receipt.schemaVersion "" "schemaVersion" 1 1 releaseCode ++
    requireStringLiteral receipt.runtimeKind "" "runtimeKind" "wasm" releaseCode ++
    requireUuidV7 receipt.releaseId "" "releaseId" releaseCode ++
    requireEntryKey receipt.entryKey "" releaseCode ++
    requireSafeInteger receipt.catalogRevision "" "catalogRevision" 1 wasmU53Max releaseCode ++
    requireSha256Hex receipt.catalogHash "" "catalogHash" releaseCode ++
    validateRuntimeBindingIdentityV1 receipt.targetRuntimeBinding ++
    requireUuidV7 receipt.ownerCommandId "" "ownerCommandId" releaseCode ++
    issueUnless (receipt.protectedReferenceCount == 0) releaseCode "/protectedReferenceCount"
      "protectedReferenceCount must be the literal 0 on a release receipt" ++
    requireRfc3339Utc R receipt.drainedAt "" "drainedAt" releaseCode ++
    requireRfc3339Utc R receipt.releasedAt "" "releasedAt" releaseCode ++
    requireRfc3339Utc R receipt.releaseRetentionUntil "" "releaseRetentionUntil" releaseCode
  if issues ≠ [] then issues else requireReleaseDates R receipt

def CatalogReleaseReceiptPayloadV1.withDigest (payload : CatalogReleaseReceiptPayloadV1) :
    CatalogReleaseReceiptV1 :=
  { payload with receiptDigest := (R.computeCatalogReleaseReceiptDigestV1 payload).val }

def validateCatalogReleaseReceiptV1 (receipt : CatalogReleaseReceiptV1) :
    ValidationResult CatalogReleaseReceiptV1 :=
  let issues := requireSha256Hex receipt.receiptDigest "" "receiptDigest" releaseCode ++
    requireReleaseReceiptPayload R receipt.toCatalogReleaseReceiptPayloadV1
  if issues ≠ [] then validationFailure issues
  else
    acceptUnless
      (issueUnless
        ((R.computeCatalogReleaseReceiptDigestV1 receipt.toCatalogReleaseReceiptPayloadV1).val ==
          receipt.receiptDigest)
        catalogReleaseReceiptDigestMismatch "/receiptDigest"
        "receiptDigest must equal the domain digest of the receipt with the digest omitted")
      receipt

/-! ## Delete audits -/

/-- The length of a text in UTF-16 code units. -/
def utf16Length (text : String) : Nat :=
  text.toList.foldl (fun n c => if c.toNat < 0x10000 then n + 1 else n + 2) 0

def requireDeleteReason (value path : String) : List ValidationIssue :=
  issueUnless (utf16Length value ≠ 0 && utf16Length value ≤ 128 &&
      value.toList.all fun c => 0x1f < c.toNat && c.toNat ≠ 0x7f)
    deleteAuditCode path "reason must be a non-empty printable string of at most 128 characters"

/-- The issues of the fields of an audit. -/
def requireDeleteAuditFields (audit : CatalogDeleteAuditV1) : List ValidationIssue :=
  requireSafeInteger audit.schemaVersion "" "schemaVersion" 1 1 deleteAuditCode ++
    requireStringLiteral audit.runtimeKind "" "runtimeKind" "wasm" deleteAuditCode ++
    requireUuidV7 audit.deleteId "" "deleteId" deleteAuditCode ++
    requireSafeInteger audit.revision "" "revision" 1 wasmU53Max deleteAuditCode ++
    requireSha256Hex audit.catalogHash "" "catalogHash" deleteAuditCode ++
    requireUuidV7 audit.releaseId "" "releaseId" deleteAuditCode ++
    requireUuidV7 audit.ownerCommandId "" "ownerCommandId" deleteAuditCode ++
    requireRfc3339Utc R audit.deletedAt "" "deletedAt" deleteAuditCode ++
    requireDeleteReason audit.reason "/reason" ++
    requireSha256Hex audit.objectDigest "" "objectDigest" deleteAuditCode

def validateCatalogDeleteAuditV1 (audit : CatalogDeleteAuditV1) : ValidationResult CatalogDeleteAuditV1 :=
  if requireDeleteAuditFields R audit ≠ [] then validationFailure (requireDeleteAuditFields R audit)
  else
    acceptUnless
      (issueUnless (audit.path == catalogHistoryRevisionFilePath audit.revision audit.catalogHash) deleteAuditCode
        "/path" "path must equal the fixed revision file path for the audited revision and hash")
      audit

end Iweb
