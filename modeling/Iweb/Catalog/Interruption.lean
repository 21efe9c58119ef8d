import Iweb.Catalog.Store
import Iweb.Foundations.CrashRefinement

/-!
# Interrupted calls of the catalog store

What a call changes is decided by the files it recovers. In a history each call runs to its end, or stops after
some of its writes and the owner rebuilds the index; the reference history it is compared with knows whole calls
and deletions that stopped after their audit.
-/

namespace Iweb

open WasmCatalogStore

variable (R : CatalogRules)

/-! ## What a call changes -/

/-- What is recovered from consistent files and a stored index. -/
def recoveredFrom (disk : CatalogDisk) (index : Option CatalogHistoryIndexV1) : WasmCatalogRecoveredState :=
  let records := sortRecords disk.revisions.contents
  ⟨records, disk.releaseReceipts.contents, disk.deleteAudits.contents, index,
    records.getLast?.map fun record => record.catalog⟩

inductive CatalogChange
  | store (record : CatalogHistoryRecordV1)
  | release (name : String) (receipt : CatalogReleaseReceiptV1)
  /-- The audit is written and the file of the record deleted. -/
  | collect (name : String) (audit : CatalogDeleteAuditV1) (record : CatalogHistoryRecordV1)
  /-- The audit was written before. -/
  | complete (record : CatalogHistoryRecordV1)

def CatalogChange.apply (disk : CatalogDisk) : CatalogChange → CatalogDisk
  | .store record => disk.putRecord record
  | .release name receipt => disk.putReceipt name receipt
  | .collect name audit record => (disk.putAudit name audit).dropRecord record
  | .complete record => disk.dropRecord record

/-- A deletion that stops after its audit. -/
def CatalogChange.approve (disk : CatalogDisk) : CatalogChange → CatalogDisk
  | .collect name audit _ => disk.putAudit name audit
  | _ => disk

def storeChange (state : WasmCatalogRecoveredState) (catalog : RuntimeCatalogV1) (clock : CatalogClock R) :
    Option CatalogChange :=
  match sealCatalogHistoryRecordV1 R ⟨1, "wasm", catalog.revision, catalog.catalogHash, catalog, clock.stored.val⟩ with
  | .error _ => none
  | .ok record => if state.records.any fun stored => stored.revision == record.revision then none else some (.store record)

def releaseChange (disk : CatalogDisk) (state : WasmCatalogRecoveredState) (input : WasmCatalogReleaseInput) :
    Option CatalogChange :=
  match disk.releaseReceipts.read (catalogReleaseReceiptFileName input.releaseId), state.current with
  | none, some current =>
    match releaseRuntimeCatalogEntry R ⟨current, input.entryKey, input.references.val, input.releaseId,
        input.ownerCommandId, input.drainedAt, input.releasedAt⟩ with
    | some (.ok receipt) => some (.release (catalogReleaseReceiptFileName input.releaseId) receipt)
    | _ => none
  | _, _ => none

/-- The deletion of a record that is present. -/
def gcPresentChange (state : WasmCatalogRecoveredState) (receipt : CatalogReleaseReceiptV1)
    (record : CatalogHistoryRecordV1) (input : WasmCatalogGcInput) : Option CatalogChange :=
  if state.records.length = 1 then none
  else
    match gcCatalogHistoryRevision R (gcRequest input receipt record) with
    | .error _ => none
    | .ok computed =>
      match gcAudit state input with
      | some existing => if existing = computed.audit then some (.complete record) else none
      | none => some (.collect (catalogDeleteAuditFileName input.deleteId) computed.audit record)

def gcChange (state : WasmCatalogRecoveredState) (input : WasmCatalogGcInput) : Option CatalogChange := do
  let receipt ← gcReceipt state input
  let record ← gcRecord state receipt
  gcPresentChange R state receipt record input

/-- What a call changes when it runs to its end. -/
def callChange (disk : CatalogDisk) : CatalogCall R → Option CatalogChange
  | .bootstrap payload clock => do
    let state := recoveredFrom disk none
    if state.current.isSome then none
    else do
      let catalog ← (sealRuntimeCatalogV1 R payload).toOption
      storeChange R state catalog clock
  | .append expected next references clock => do
    let state := recoveredFrom disk none
    let current ← state.current
    let catalog ← (appendRuntimeCatalogRevision R current expected next references.val).toOption
    storeChange R state catalog clock
  | .revoke expected entryKey revocation _ clock => do
    let state := recoveredFrom disk none
    let current ← state.current
    let catalog ← (revokeRuntimeCatalogEntry R current expected entryKey revocation).toOption
    storeChange R state catalog clock
  | .release input _ => releaseChange R disk (recoveredFrom disk none) input
  | .gc input _ => gcChange R (recoveredFrom disk none) input
  | .rebuildIndex _ _ => none

/-! ## Histories with interruptions -/

inductive CatalogStep
  /-- A call that runs to its end. -/
  | whole (call : CatalogCall R)
  /-- A call that stops after some of its writes; the owner then rebuilds the index. -/
  | interrupted (call : CatalogCall R) (writes : Nat) (references : CatalogReferences) (now : ClockText R)

/-- The store after a step. -/
def storeStep (disk : CatalogDisk) : CatalogStep R → CatalogDisk
  | .whole call => perform R disk call
  | .interrupted call writes references now =>
    perform R (call.program.leaves (some writes) disk) (.rebuildIndex references now)

/-- The reference: whole calls; of an interrupted step only the audit of a deletion is kept. -/
def referenceStep (disk : CatalogDisk) : CatalogStep R → CatalogDisk
  | .whole call => perform R disk call
  | .interrupted (.gc input _) _ _ _ =>
    (gcChange R (recoveredFrom disk none) input).elim disk (CatalogChange.approve disk)
  | .interrupted _ _ _ _ => disk

/-- What a step may amount to: an interrupted call happened or not, and a deletion may have stopped after its
audit. -/
inductive CatalogStep.Allowed : CatalogStep R → List (CatalogStep R) → Prop
  | whole (call : CatalogCall R) : Allowed (.whole call) [.whole call]
  | done (call : CatalogCall R) (writes : Nat) (references : CatalogReferences) (now : ClockText R) :
      Allowed (.interrupted call writes references now) [.whole call]
  | undone (call : CatalogCall R) (writes : Nat) (references : CatalogReferences) (now : ClockText R) :
      Allowed (.interrupted call writes references now) []
  | audited (input : WasmCatalogGcInput) (clock : CatalogClock R) (writes : Nat) (references : CatalogReferences)
      (now : ClockText R) :
      Allowed (.interrupted (.gc input clock) writes references now)
        [.interrupted (.gc input clock) writes references now]

/-- A deletion that passes every check, under a delete id without audit, of a revision that has an audit under
another one. -/
def auditsAgain (disk : CatalogDisk) (input : WasmCatalogGcInput) : Bool :=
  let state := recoveredFrom disk none
  match gcReceipt state input with
  | none => false
  | some receipt =>
    match gcRecord state receipt with
    | none => false
    | some record => decide (state.records.length ≠ 1) &&
        (gcCatalogHistoryRevision R (gcRequest input receipt record)).isOk && (gcAudit state input).isNone &&
        state.audits.any fun audit => audit.revision == record.revision

/-- The condition on a step and the store before it: no deletion that reaches its first write audits a revision
again. -/
def auditsOnce (disk : CatalogDisk) : CatalogStep R → Bool
  | .whole (.gc input _) => !auditsAgain R disk input
  | .interrupted (.gc input _) (_ + 1) _ _ => !auditsAgain R disk input
  | _ => true

end Iweb
