import Iweb.Admission.Journal
import Iweb.Foundations.CrashHoare

/-!
# The admission stores

Beside the journal an admission writes to three stores: content-addressed objects under a prefix of the
version, one row of the control database, and the receipt of the materializer. Their operations are the
contracts of the store traits. Canonical bytes are modelled as the record they encode. An operation that
writes is one write of a program, after which a crash can strike.
-/

namespace Iweb

open Std (ExtTreeMap)
open CrashHoare

/-! ## Codes -/

def wasmAdmissionDbConflict : String := "WASM_ADMISSION_DB_CONFLICT"
def wasmAdmissionReceiptMismatch : String := "WASM_ADMISSION_RECEIPT_MISMATCH"
def wasmAdmissionObjectCorrupt : String := "WASM_ADMISSION_OBJECT_CORRUPT"
def wasmAdmissionTerminalFailed : String := "WASM_ADMISSION_TERMINAL_FAILED"
def wasmAdmissionResumeNeedsRequest : String := "WASM_ADMISSION_RESUME_NEEDS_REQUEST"
def wasmAdmissionFailClosed : String := "WASM_ADMISSION_FAIL_CLOSED"

/-! ## Records -/

structure CompletionMarker where
  schemaVersion : Nat
  proof : AdmissionProofV1
deriving DecidableEq

structure AdmissionDbRow where
  schemaVersion : Nat
  proof : AdmissionProofV1
  /-- `"hidden"` or `"visible"`. -/
  visibility : String
deriving DecidableEq

structure MaterializerReceipt where
  schemaVersion : Nat
  proof : AdmissionProofV1
  materializationTarget : String
  hostServicePolicyDigest : Option String
deriving DecidableEq

/-- What is stored under one prefix. -/
structure ObjectPrefix where
  blobs : ExtTreeMap String (List UInt8)
  marker : Option CompletionMarker

def ObjectPrefix.empty : ObjectPrefix := ⟨∅, none⟩

def ObjectPrefix.withBlob (content : ObjectPrefix) (digestHex : String) (blob : List UInt8) :
    ObjectPrefix :=
  { content with blobs := content.blobs.insert digestHex blob }

structure AdmissionStores where
  journal : WasmAdmissionJournal
  objects : ExtTreeMap String ObjectPrefix
  db : ExtTreeMap VersionKey AdmissionDbRow
  receipts : ExtTreeMap VersionKey MaterializerReceipt

def AdmissionStores.empty : AdmissionStores := ⟨.new, ∅, ∅, ∅⟩

/-- `version_prefix` -/
def versionPrefix (proof : AdmissionProofV1) : String :=
  "admission-object/" ++ proof.applicationId ++ "/" ++ proof.versionId

variable (A : AdmissionRules)

/-- The receipt a proof asks for. -/
def receiptOf (proof : AdmissionProofV1) : MaterializerReceipt where
  schemaVersion := 1
  proof := proof
  materializationTarget := A.materializationTarget proof
  hostServicePolicyDigest := proof.hostServicePolicy.map HostServicePolicyV2.policyDigest

/-! ## Objects -/

/-- The content of a prefix; nothing is stored under an absent one. -/
def AdmissionStores.prefixOf (stores : AdmissionStores) (path : String) : ObjectPrefix :=
  (stores.objects[path]?).getD .empty

/-- A blob is stored under the address of its content. -/
def AdmissionStores.writeBlob (path digestHex : String) (blob : List UInt8) (stores : AdmissionStores) :
    AdmissionStores × Except KernelError Unit :=
  if A.sha256Hex blob ≠ digestHex then
    (stores, .error ⟨wasmAdmissionObjectCorrupt,
      "blob " ++ digestHex ++ " does not hash to its content address"⟩)
  else
    let content := (stores.prefixOf path).withBlob digestHex blob
    ({ stores with objects := stores.objects.insert path content }, .ok ())

def AdmissionStores.writeCompletionMarker (path : String) (marker : CompletionMarker)
    (stores : AdmissionStores) : AdmissionStores × Except KernelError Unit :=
  let content := { stores.prefixOf path with marker := some marker }
  ({ stores with objects := stores.objects.insert path content }, .ok ())

/-- A prefix is complete: it has a marker and at least one blob, each under the address of its
content. -/
def AdmissionStores.verifyPrefix (path : String) (stores : AdmissionStores) : Except KernelError Unit := do
  let content := stores.prefixOf path
  require content.marker.isSome wasmAdmissionObjectCorrupt
    "the completion marker is missing from the object prefix"
  require (!content.blobs.toList.isEmpty) wasmAdmissionObjectCorrupt
    "the object prefix carries no blob"
  content.blobs.toList.forM fun blob =>
    require (A.sha256Hex blob.2 == blob.1) wasmAdmissionObjectCorrupt
      ("blob " ++ blob.1 ++ " does not hash to its file name")

def AdmissionStores.removePrefix (path : String) (stores : AdmissionStores) :
    AdmissionStores × Except KernelError Unit :=
  ({ stores with objects := stores.objects.erase path }, .ok ())

/-! ## The control database -/

/-- Insert a hidden row; the same row, or its visible successor, may be there already. -/
def AdmissionStores.insertHiddenRow (key : VersionKey) (row : AdmissionDbRow) (stores : AdmissionStores) :
    AdmissionStores × Except KernelError Unit :=
  match stores.db[key]? with
  | none => ({ stores with db := stores.db.insert key row }, .ok ())
  | some existing =>
    if existing.proof ≠ row.proof then
      (stores, .error ⟨wasmAdmissionDbConflict,
        "the admission db row already exists with a different proof or bytes"⟩)
    else (stores, .ok ())

/-- The visibility CAS: whether the row was flipped. -/
def AdmissionStores.flipHiddenToVisible (key : VersionKey) (proof : AdmissionProofV1)
    (stores : AdmissionStores) : AdmissionStores × Except KernelError Bool :=
  match stores.db[key]? with
  | none => (stores, .error ⟨wasmAdmissionDbConflict,
      "the admission db row is missing during the visibility CAS"⟩)
  | some existing =>
    if existing.proof ≠ proof then
      (stores, .error ⟨wasmAdmissionDbConflict, "the visibility CAS names a different proof"⟩)
    else if existing.visibility = "visible" then (stores, .ok false)
    else if existing.visibility = "hidden" then
      ({ stores with db := stores.db.insert key { existing with visibility := "visible" } }, .ok true)
    else (stores, .error ⟨wasmAdmissionDbConflict,
      "the stored admission db row carries an unknown visibility"⟩)

/-- A visible row may not be removed. -/
def AdmissionStores.removeRow (key : VersionKey) (stores : AdmissionStores) :
    AdmissionStores × Except KernelError Unit :=
  if (stores.db[key]?).any fun row => row.visibility == "visible" then
    (stores, .error ⟨wasmAdmissionDbConflict, "a visible admission db row cannot be removed"⟩)
  else ({ stores with db := stores.db.erase key }, .ok ())

/-! ## The materializer -/

/-- An idempotent handoff leaves a durable receipt; a different one may not be there. -/
def AdmissionStores.handoff (key : VersionKey) (receipt : MaterializerReceipt) (target : String)
    (stores : AdmissionStores) : AdmissionStores × Except KernelError Unit :=
  if receipt.schemaVersion ≠ 1 ∨ receipt.materializationTarget ≠ A.materializationTarget receipt.proof ∨
      receipt.materializationTarget ≠ target then
    (stores, .error ⟨wasmAdmissionReceiptMismatch,
      "the materializer receipt does not match the proof-derived materialization target"⟩)
  else match stores.receipts[key]? with
    | none => ({ stores with receipts := stores.receipts.insert key receipt }, .ok ())
    | some existing =>
      if existing ≠ receipt then
        (stores, .error ⟨wasmAdmissionReceiptMismatch,
          "a different receipt already exists for this version"⟩)
      else (stores, .ok ())

def AdmissionStores.removeReceipt (key : VersionKey) (stores : AdmissionStores) :
    AdmissionStores × Except KernelError Unit :=
  ({ stores with receipts := stores.receipts.erase key }, .ok ())

/-! ## The journal as a store -/

def AdmissionStores.transition (key : VersionKey) (target : AdmissionState) (nowEpochMillis : Nat)
    (stores : AdmissionStores) : AdmissionStores × Except KernelError AdmissionJournalRow :=
  match stores.journal.transition key target nowEpochMillis with
  | .error failure => (stores, .error failure)
  | .ok (journal, row) => ({ stores with journal := journal }, .ok row)

def AdmissionStores.createOrJoin (request : AdmissionRequest) (token : Except KernelError (List UInt8))
    (nowEpochMillis : Nat) (stores : AdmissionStores) : AdmissionStores × Except KernelError CreateOrJoin :=
  let (journal, result) := stores.journal.createOrJoin A request token nowEpochMillis
  ({ stores with journal := journal }, result)

/-! ## Visibility -/

/-- `admitted_visible`: the proof of a version that may be routed to, `none` for one that is not visible.
A visible row whose witnesses disagree is an error. -/
def admittedVisible (stores : AdmissionStores) (key : VersionKey) :
    Except KernelError (Option AdmissionProofV1) :=
  let failClosed (detail : String) : Except KernelError (Option AdmissionProofV1) :=
    .error ⟨wasmAdmissionFailClosed, "visible version failed witness verification: " ++ detail⟩
  match stores.db[key]? with
  | none => .ok none
  | some row =>
    if row.schemaVersion ≠ 1 ∨ row.visibility ≠ "hidden" ∧ row.visibility ≠ "visible" then
      .error ⟨wasmAdmissionFailClosed, "the control-db row must be a typed hidden/visible admission row"⟩
    else if row.visibility ≠ "visible" then .ok none
    else match (stores.prefixOf (versionPrefix row.proof)).marker with
      | none => failClosed "the completion marker is missing"
      | some marker =>
        if marker.schemaVersion ≠ 1 ∨ marker.proof ≠ row.proof then
          failClosed "the completion marker proof differs from the control-db row"
        else match stores.verifyPrefix A (versionPrefix row.proof) with
          | .error e => failClosed e.detail
          | .ok () => match stores.receipts[key]? with
            | none => failClosed "the materializer receipt is missing"
            | some receipt =>
              if receipt.schemaVersion ≠ 1 ∨ receipt.proof ≠ row.proof then
                failClosed "the receipt proof differs from the control-db row"
              else if receipt.materializationTarget ≠ A.materializationTarget row.proof then
                failClosed "materializationTarget does not match the proof formula"
              else if receipt.hostServicePolicyDigest ≠
                  row.proof.hostServicePolicy.map HostServicePolicyV2.policyDigest then
                failClosed "the receipt must carry exactly the proof's hostServicePolicyDigest (present for V2, absent for V1)"
              else match verifyAdmissionProof A row.proof with
                | .error e => failClosed e.detail
                | .ok () => .ok (some row.proof)

end Iweb
