import Iweb.Admission.Stores
import Iweb.Foundations.CrashRefinement

/-!
# The admission transaction

`driveToVisible` takes an admission from the state its row is in to `Visible`: blobs and completion
marker, hidden row, receipt, visibility. Recovery drives every admission that has not ended, and collects
nothing by itself; collection removes what a failed admission left.
-/

namespace Iweb

open Std (ExtTreeMap)
open CrashHoare

/-- A program over the admission stores. -/
abbrev AdmissionM (α : Type) : Type := Prog AdmissionStores KernelError α

structure AdmissionOutcome where
  proof : AdmissionProofV1
  key : VersionKey
  created : Bool
  journalRevision : Nat
  state : AdmissionState

structure RecoveryReport where
  completed : List VersionKey
  failed : List VersionKey
  pending : List VersionKey
  /-- Visible rows whose witnesses disagree. -/
  quarantined : List VersionKey

variable (A : AdmissionRules)

/-- Failures that end an admission. -/
def integrityFailure (code : String) : Bool :=
  code == wasmAdmissionObjectCorrupt || code == wasmAdmissionDbConflict ||
    code == wasmAdmissionReceiptMismatch || code == wasmAdmissionFailClosed

/-- The row of a key; it must exist. -/
def journalRow (key : VersionKey) : AdmissionM AdmissionJournalRow := do
  match ← Prog.read fun stores : AdmissionStores => stores.journal.rows[key]? with
  | none => Prog.lift (.error ⟨wasmAdmissionJournalInvalid, "unknown journal row"⟩)
  | some row => return row

def moveRow (key : VersionKey) (target : AdmissionState) (now : Nat) : AdmissionM AdmissionJournalRow :=
  Prog.write (AdmissionStores.transition key target now)

/-- `map_err(|e| fail_row(..))`: an integrity failure ends the admission. -/
def orFailRow {α : Type} (key : VersionKey) (now : Nat) (m : AdmissionM α) : AdmissionM α :=
  m.onError fun failure =>
    if integrityFailure failure.code then do
      let _ ← moveRow key .failed now
      return ()
    else return ()

/-- The check of a prefix as a step of the transaction. -/
def verifyPrefixStep (path : String) : AdmissionM Unit := do
  let checked ← Prog.read (AdmissionStores.verifyPrefix A path)
  Prog.lift checked

/-- Store the blobs of a request, one after the other. -/
def writeBlobs (key : VersionKey) (path : String) (now : Nat) : List (String × List UInt8) → AdmissionM Unit
  | [] => return ()
  | (digestHex, blob) :: blobs => do
    if A.sha256Hex blob ≠ digestHex then
      Prog.lift (.error ⟨wasmAdmissionObjectCorrupt,
        "blob " ++ digestHex ++ " does not hash to its content address"⟩)
    else do
      orFailRow key now (Prog.write (AdmissionStores.writeBlob A path digestHex blob))
      writeBlobs key path now blobs

/-- From `Staging` to `Validated`. -/
def stageValidated (key : VersionKey) (row : AdmissionJournalRow) (now : Nat) :
    AdmissionM AdmissionJournalRow :=
  if row.state = .staging then moveRow key .validated now else return row

/-- From `Validated` to `ObjectComplete`: blobs and completion marker, from the owner's request. -/
def stageObjects (key : VersionKey) (row : AdmissionJournalRow) (request : Option AdmissionRequest)
    (now : Nat) : AdmissionM AdmissionJournalRow :=
  if row.state = .validated then
    match request with
    | none => Prog.lift (.error ⟨wasmAdmissionResumeNeedsRequest,
        "resuming from staging/validated requires the owner to retry with the original package bytes"⟩)
    | some request =>
      if request.applicationId ≠ row.proof.applicationId ∨ request.packageDigest ≠ row.proof.packageDigest then
        Prog.lift (.error ⟨wasmAdmissionProofMismatch,
          "retry request does not match the joined journal proof"⟩)
      else do
        let path := versionPrefix row.proof
        writeBlobs A key path now request.blobs
        if request.blobs.isEmpty then
          Prog.lift (.error ⟨wasmAdmissionObjectCorrupt, "a wasm package must carry at least one blob"⟩)
        else do
          orFailRow key now (Prog.write (AdmissionStores.writeCompletionMarker path ⟨1, row.proof⟩))
          orFailRow key now (verifyPrefixStep A path)
          moveRow key .objectComplete now
  else return row

/-- From `ObjectComplete` on the objects must still be there. -/
def stageCheckObjects (key : VersionKey) (row : AdmissionJournalRow) (now : Nat) : AdmissionM Unit :=
  if row.state = .objectComplete ∨ row.state = .dbHidden ∨ row.state = .materializerAcknowledged then
    orFailRow key now (verifyPrefixStep A (versionPrefix row.proof))
  else return ()

/-- From `ObjectComplete` to `DbHidden`. -/
def stageHidden (key : VersionKey) (row : AdmissionJournalRow) (now : Nat) : AdmissionM AdmissionJournalRow :=
  if row.state = .objectComplete then do
    orFailRow key now (Prog.write (AdmissionStores.insertHiddenRow key ⟨1, row.proof, "hidden"⟩))
    moveRow key .dbHidden now
  else return row

/-- From `DbHidden` to `MaterializerAcknowledged`. -/
def stageHandoff (key : VersionKey) (row : AdmissionJournalRow) (now : Nat) :
    AdmissionM AdmissionJournalRow :=
  if row.state = .dbHidden then do
    let receipt := receiptOf A row.proof
    orFailRow key now (Prog.write (AdmissionStores.handoff A key receipt receipt.materializationTarget))
    moveRow key .materializerAcknowledged now
  else return row

/-- `verify_receipt_durable` -/
def verifyReceiptDurable (key : VersionKey) (proof : AdmissionProofV1) (stores : AdmissionStores) :
    Except KernelError Unit :=
  match stores.receipts[key]? with
  | none => .error ⟨wasmAdmissionReceiptMismatch, "the materializer receipt is not durable"⟩
  | some receipt => do
    require (receipt.schemaVersion == 1 && receipt.proof == proof) wasmAdmissionReceiptMismatch
      "the durable receipt must carry the byte-identical proof"
    require (receipt.materializationTarget == A.materializationTarget proof) wasmAdmissionReceiptMismatch
      "materializationTarget must equal the domain digest formula of the proof"
    require (receipt.hostServicePolicyDigest ==
        proof.hostServicePolicy.map HostServicePolicyV2.policyDigest) wasmAdmissionReceiptMismatch
      "the receipt hostServicePolicyDigest must carry exactly the proof's host service policy digest"

/-- The receipt check as a step of the transaction. -/
def verifyReceiptStep (key : VersionKey) (proof : AdmissionProofV1) : AdmissionM Unit := do
  let checked ← Prog.read (verifyReceiptDurable A key proof)
  Prog.lift checked

/-- From `MaterializerAcknowledged` to `Visible`. -/
def stageVisible (key : VersionKey) (row : AdmissionJournalRow) (now : Nat) : AdmissionM AdmissionJournalRow :=
  if row.state = .materializerAcknowledged then do
    orFailRow key now (verifyReceiptStep A key row.proof)
    let _ ← orFailRow key now (Prog.write (AdmissionStores.flipHiddenToVisible key row.proof))
    moveRow key .visible now
  else return row

/-- The outcome a row stands for. -/
def outcomeOf (key : VersionKey) (row : AdmissionJournalRow) (created : Bool) : AdmissionOutcome :=
  ⟨row.proof, key, created, row.journalRevision, row.state⟩

/-- `drive_to_visible` -/
def driveToVisible (key : VersionKey) (request : Option AdmissionRequest) (created : Bool) (now : Nat) :
    AdmissionM AdmissionOutcome := do
  let row ← journalRow key
  if row.state = .visible then return outcomeOf key row false
  else if row.state.isTerminal then
    Prog.lift (.error ⟨wasmAdmissionTerminalFailed,
      "this admission has already reached a terminal failed/collected state"⟩)
  else do
    let expired ← Prog.lift (leaseExpired row now)
    if expired then do
      let _ ← moveRow key .failed now
      Prog.lift (.error ⟨wasmAdmissionLeaseExpired,
        "the admission lease expired; the row can only become failed and then collected"⟩)
    else do
      let row ← stageValidated key row now
      let row ← stageObjects A key row request now
      stageCheckObjects A key row now
      let row ← stageHidden key row now
      let row ← stageHandoff A key row now
      let row ← stageVisible A key row now
      return outcomeOf key row created

/-- `commit_wasm_admission` -/
def commitWasmAdmission (request : AdmissionRequest) (token : Except KernelError (List UInt8)) (now : Nat) :
    AdmissionM AdmissionOutcome := do
  let joined ← Prog.write (AdmissionStores.createOrJoin A request token now)
  driveToVisible A joined.key (some request) joined.created now

/-! ## Recovery -/

/-- Recover one admission and note how it ended. -/
def recoverRow (key : VersionKey) (now : Nat) (report : RecoveryReport) : AdmissionM RecoveryReport := do
  match ← Prog.read fun stores : AdmissionStores => stores.journal.rows[key]? with
  | none => return report
  | some row =>
    if row.state.isTerminal then return report
    else do
      let expired ← Prog.lift (leaseExpired row now)
      if expired then do
        let _ ← moveRow key .failed now
        return { report with failed := report.failed ++ [key] }
      else
        match ← (driveToVisible A key none false now).attempt with
        | .ok _ => return { report with completed := report.completed ++ [key] }
        | .error failure => do
          let nowFailed ← Prog.read fun stores : AdmissionStores =>
            (stores.journal.rows[key]?).any fun row => decide (row.state = .failed)
          if nowFailed then return { report with failed := report.failed ++ [key] }
          else if failure.code = wasmAdmissionResumeNeedsRequest ∨
              failure.code = wasmAdmissionTerminalFailed then
            return { report with pending := report.pending ++ [key] }
          else Prog.lift (.error failure)

def recoverRows (now : Nat) : List VersionKey → RecoveryReport → AdmissionM RecoveryReport
  | [], report => return report
  | key :: keys, report => do
    let report ← recoverRow A key now report
    recoverRows now keys report

/-- The visible rows of the database that are not `admittedVisible`. -/
def quarantinedRows (stores : AdmissionStores) : List VersionKey :=
  (stores.db.toList.filter fun entry => entry.2.visibility == "visible" &&
    match admittedVisible A stores entry.1 with
    | .error _ => true
    | .ok _ => false).map Prod.fst

/-- `recover_wasm_admission` -/
def recoverWasmAdmission (now : Nat) : AdmissionM RecoveryReport := do
  let keys ← Prog.read fun stores : AdmissionStores => stores.journal.rows.keys
  let report ← recoverRows A now keys ⟨[], [], [], []⟩
  let quarantined ← Prog.read (quarantinedRows A)
  return { report with quarantined := quarantined }

/-- `collect_failed_admission` -/
def collectFailedAdmission (key : VersionKey) (now : Nat) : AdmissionM AdmissionJournalRow := do
  let row ← journalRow key
  if row.state ≠ .failed then
    Prog.lift (.error ⟨wasmAdmissionStateInvalid, "only a failed admission may be collected"⟩)
  else do
    Prog.write (AdmissionStores.removePrefix (versionPrefix row.proof))
    Prog.write (AdmissionStores.removeRow key)
    Prog.write (AdmissionStores.removeReceipt key)
    moveRow key .collected now

/-! ## Runs -/

/-- One call on the admission; `crash` is the number of writes after which the process dies. -/
inductive AdmissionOp
  | commit (request : AdmissionRequest) (token : Except KernelError (List UInt8)) (now : Nat)
      (crash : Option Nat)
  | recover (now : Nat) (crash : Option Nat)
  | collect (key : VersionKey) (now : Nat) (crash : Option Nat)

/-- After a crash the process restarts and replays its journal. -/
def restarted (crash : Option Nat) (stores : AdmissionStores) : AdmissionStores :=
  if crash.isSome then { stores with journal := stores.journal.replayed } else stores

/-- The stores after one call. -/
def AdmissionOp.run (stores : AdmissionStores) : AdmissionOp → AdmissionStores
  | .commit request token now crash =>
    restarted crash ((commitWasmAdmission A request token now).leaves crash stores)
  | .recover now crash => restarted crash ((recoverWasmAdmission A now).leaves crash stores)
  | .collect key now crash => restarted crash ((collectFailedAdmission key now).leaves crash stores)

/-- The stores after a history of calls on empty ones. -/
def admissionRun (ops : List AdmissionOp) : AdmissionStores :=
  CrashRefinement.run (AdmissionOp.run A) .empty ops

end Iweb
