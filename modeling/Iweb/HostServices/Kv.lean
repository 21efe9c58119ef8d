import Iweb.Foundations.FiniteMap
import Iweb.HostServices.Ledger

/-!
# The KV backend

One SQLite file holds the entries of an application and one marker for every committed mutation. Each key
has a version that grows by one with every mutation; a deletion leaves a tombstone that keeps the version
line going. A mutation may carry the version it expects to replace. Tombstones are collected once no cursor
is live and their retention is over.

Entries, markers, cursors and snapshots are the fields of `KvBackend`; a transaction that fails leaves them
as they were. Tokens and identifiers a call draws, the measured size of the file and whether the deadline
has passed are arguments.
-/

namespace Iweb

open Std

inductive KvError
  | invalidKey
  | notFound
  | conflict
  | quotaExceeded
  | limitExceeded
  | cursorExpired
  | timeout
  | unavailable
  | internal
deriving DecidableEq

/-- `impl From<QuotaError> for KvError` -/
def KvError.ofQuota : QuotaError → KvError
  | .exceeded => .quotaExceeded
  | .unavailable => .unavailable

/-- `if !ok { return Err(error) }` -/
def KvError.unless (error : KvError) (ok : Bool) : Except KvError Unit := if ok then .ok () else .error error

@[simp] theorem KvError.unless_eq_ok {error : KvError} {ok : Bool} {u : Unit} :
    error.unless ok = .ok u ↔ ok = true := by
  cases ok <;> simp [KvError.unless]

def kvValueMaxBytes : Nat := 65536

def kvListLimitMax : Nat := 256

/-- `^[a-z][a-z0-9._-]{0,127}$` -/
def isApplicationKey (s : String) : Bool :=
  match bytes s with
  | [] => false
  | b :: bs => isLowerAlpha b && bs.length ≤ 127 &&
      bs.all fun b => isLabelChar b || b == ascii '.' || b == ascii '_'

/-- `apply_kv_cas`: an expected version must be the current one, and the next version is a larger one. -/
def applyKvCas (currentVersion expected : Option Nat) (nextVersion : Nat) : Except KvError Nat :=
  if expected.isSome && expected != currentVersion then .error .conflict
  else if wasmU53Max ≤ currentVersion.getD 0 then .error .unavailable
  else if nextVersion ≤ currentVersion.getD 0 then .error .unavailable
  else .ok nextVersion

/-- A row of `kv_entries`: a value, or the tombstone of a deletion and its time. -/
inductive KvEntry
  | live (value : List UInt8) (version : Nat)
  | tombstone (version : Nat) (deletedAtMs : Int)
deriving DecidableEq

def KvEntry.version : KvEntry → Nat
  | .live _ version => version
  | .tombstone version _ => version

inductive KvMethod
  | set
  | delete
deriving DecidableEq

/-- A row of `kv_operations`, written in the transaction of the mutation. -/
structure KvOperationMarker (D : Type) where
  operationId : String
  reservationId : String
  proofDigest : D
  method : KvMethod
  key : String
  assignedVersion : Nat

/-- What a cursor is bound to. -/
structure CursorBindingV1 where
  applicationId : String
  hostServicePolicyDigest : String
  keyPrefix : String
  snapshotToken : String
  lastKey : String
  expiresAtMs : Nat
deriving DecidableEq

structure KvListEntry where
  key : String
  value : List UInt8
  version : Nat
deriving DecidableEq

/-- The entries and markers are the file; the rest is lost when the backend is closed. -/
structure KvBackend (D : Type) where
  entries : ExtTreeMap String KvEntry
  operations : List (KvOperationMarker D)
  applicationId : String
  hostServicePolicyDigest : String
  cursors : ExtTreeMap String CursorBindingV1
  snapshots : ExtTreeMap String Nat
  quarantined : Bool

/-- What a mutation is called with besides its key: the quota profile, the clock, the identifiers and the
outcome of the measurement after its commit (`none` when the measurement fails). -/
structure KvContext where
  reservationId : String
  operationId : String
  envelopeBytes : Nat
  serviceCapBytes : Nat
  entryOverheadBytes : Nat
  reservationTtlMs : Nat
  nowMs : Nat
  deadlinePassed : Bool
  measuredBytes : Option Nat
deriving DecidableEq

namespace KvBackend

variable {D : Type}

/-- `KvBackend::new` on the tables of a file. -/
def reopened (b : KvBackend D) (applicationId hostServicePolicyDigest : String) : KvBackend D :=
  { b with applicationId, hostServicePolicyDigest, cursors := ∅, snapshots := ∅, quarantined := false }

/-- `KvBackend::new` on a new file. -/
def new (applicationId hostServicePolicyDigest : String) : KvBackend D :=
  ⟨∅, [], applicationId, hostServicePolicyDigest, ∅, ∅, false⟩

/-- `ensure_available` and `check_deadline`. -/
def ensureAvailable (b : KvBackend D) (deadlinePassed : Bool) : Except KvError Unit := do
  KvError.unavailable.unless !b.quarantined
  KvError.timeout.unless !deadlinePassed

/-- The current version of a key; a tombstone is one. -/
def currentVersion (b : KvBackend D) (key : String) : Option Nat := b.entries[key]?.map KvEntry.version

/-- `KvBackend::get`. -/
def get (b : KvBackend D) (key : String) (deadlinePassed : Bool) : Except KvError (List UInt8 × Nat) := do
  b.ensureAvailable deadlinePassed
  KvError.invalidKey.unless (isApplicationKey key)
  match b.entries[key]? with
  | some (.live value version) => .ok (value, version)
  | _ => .error .notFound

/-- The row a mutation leaves behind. -/
def mutatedEntry (method : KvMethod) (value : List UInt8) (version nowMs : Nat) : KvEntry :=
  match method with
  | .set => .live value version
  | .delete => .tombstone version (asI64 nowMs)

/-- `commit_cas`: the mutation and its marker in one transaction. -/
def commitCas (b : KvBackend D) (method : KvMethod) (key : String) (value : List UInt8) (expected : Option Nat)
    (reservation : ReservationRecordV2 D) (operationId : String) (nowMs : Nat) :
    Except KvError (Nat × KvBackend D) := do
  let currentVersion := b.currentVersion key
  let assigned ← applyKvCas currentVersion expected (currentVersion.getD 0 + 1)
  -- `operation_id` is the primary key of the markers
  KvError.internal.unless (b.operations.all (·.operationId != operationId))
  .ok (assigned, { b with
    entries := b.entries.insert key (mutatedEntry method value assigned nowMs)
    operations := b.operations ++
      [⟨operationId, reservation.reservationId, reservation.reservationProofDigest, method, key, assigned⟩] })

variable [DecidableEq D] (proofDigest : QuotaReservationProofPayloadV2 → D)

/-- `finalize_or_quarantine`: a reservation that cannot be finalized closes the backend. -/
def finalizeOrQuarantine (b : KvBackend D) (ledger : QuotaLedger D) (reservation : ReservationRecordV2 D)
    (measuredBytes : Option Nat) : KvBackend D × QuotaLedger D :=
  match measuredBytes with
  | none => ({ b with quarantined := true }, ledger)
  | some measured =>
    match ledger.finalize proofDigest reservation measured with
    | .ok ledger => (b, ledger)
    | .error _ => ({ b with quarantined := true }, ledger)

/-- Reserve, commit, finalize; a mutation that is not committed releases its reservation. -/
def mutate (b : KvBackend D) (ledger : QuotaLedger D) (c : KvContext) (method : KvMethod) (key : String)
    (value : List UInt8) (expected : Option Nat) : Except KvError Nat × KvBackend D × QuotaLedger D :=
  let delta := (bytes key).length + value.length + c.entryOverheadBytes
  match ledger.reserve proofDigest c.reservationId "kv" c.operationId delta c.envelopeBytes c.serviceCapBytes
      c.nowMs c.reservationTtlMs with
  | .error error => (.error (.ofQuota error), b, ledger)
  | .ok (reservation, ledger) =>
    match b.commitCas method key value expected reservation c.operationId c.nowMs with
    | .ok (version, b) => (.ok version, b.finalizeOrQuarantine proofDigest ledger reservation c.measuredBytes)
    | .error error => (.error error, b, ledger.release reservation.reservationId)

/-- `KvBackend::set_with_operation_id`. -/
def set (b : KvBackend D) (ledger : QuotaLedger D) (c : KvContext) (key : String) (value : List UInt8)
    (expected : Option Nat) : Except KvError Nat × KvBackend D × QuotaLedger D :=
  match b.ensureAvailable c.deadlinePassed with
  | .error error => (.error error, b, ledger)
  | .ok () =>
    if !isApplicationKey key then (.error .invalidKey, b, ledger)
    else if kvValueMaxBytes < value.length then (.error .limitExceeded, b, ledger)
    else b.mutate proofDigest ledger c .set key value expected

/-- `KvBackend::delete_with_operation_id`. -/
def delete (b : KvBackend D) (ledger : QuotaLedger D) (c : KvContext) (key : String) (expected : Option Nat) :
    Except KvError Nat × KvBackend D × QuotaLedger D :=
  match b.ensureAvailable c.deadlinePassed with
  | .error error => (.error error, b, ledger)
  | .ok () =>
    if !isApplicationKey key then (.error .invalidKey, b, ledger)
    else b.mutate proofDigest ledger c .delete key [] expected

/-- `gc_cursors`: what expires at this moment is gone. -/
def gcCursors (b : KvBackend D) (nowMs : Nat) : KvBackend D :=
  { b with
    cursors := b.cursors.filter fun _ binding => decide (nowMs < binding.expiresAtMs)
    snapshots := b.snapshots.filter fun _ expiry => decide (nowMs < expiry) }

/-- What a list request asks for, with the tokens it may issue. -/
structure ListRequest where
  keyPrefix : String
  cursor : Option String
  limit : Nat
  maxListItems : Nat
  maxListBytes : Nat
  cursorTtlMs : Nat
  nowMs : Nat
  deadlinePassed : Bool
  snapshotToken : String
  cursorToken : String
deriving DecidableEq

/-- The snapshot a page belongs to and the key it starts after: a new snapshot, or those of a live cursor of
this application, policy and prefix. -/
def resolveCursor (b : KvBackend D) (r : ListRequest) : Except KvError (String × Option String) :=
  match r.cursor with
  | none => .ok (r.snapshotToken, none)
  | some token => do
    let some binding := b.cursors[token]? | .error .invalidKey
    KvError.invalidKey.unless (binding.applicationId = b.applicationId &&
      binding.hostServicePolicyDigest = b.hostServicePolicyDigest && binding.keyPrefix = r.keyPrefix)
    KvError.cursorExpired.unless (b.snapshots.contains binding.snapshotToken && r.nowMs < binding.expiresAtMs)
    .ok (binding.snapshotToken, some binding.lastKey)

/-- The visible entries of a prefix after a key, in key order. Keys contain no character from `\x7b` on. -/
def matching (b : KvBackend D) (keyPrefix : String) (afterKey : Option String) : List KvListEntry :=
  b.entries.toList.filterMap fun
    | (key, .live value version) =>
      if keyPrefix ≤ key && key < keyPrefix ++ "\x7b" && afterKey.all (· < key) then some ⟨key, value, version⟩
      else none
    | (_, .tombstone _ _) => none

/-- The entries of a page, up to the first that exceeds the page's bytes; whether there was one. -/
def takePage (maxListBytes pageBytes : Nat) : List KvListEntry → List KvListEntry × Bool
  | [] => ([], false)
  | entry :: rest =>
    let entryBytes := (bytes entry.key).length + entry.value.length
    if maxListBytes < pageBytes + entryBytes then ([], true)
    else
      let (items, byteBreak) := takePage maxListBytes (pageBytes + entryBytes) rest
      (entry :: items, byteBreak)

/-- The page after a cursor was resolved; a page that leaves a match out issues a cursor. -/
def listPage (b : KvBackend D) (r : ListRequest) (snapshotToken : String) (afterKey : Option String) :
    Except KvError (List KvListEntry × Option String) × KvBackend D :=
  let rows := (b.matching r.keyPrefix afterKey).take (r.limit + 1)
  let (items, byteBreak) := takePage r.maxListBytes 0 (rows.take r.limit)
  match items.getLast? with
  | none => (if byteBreak then .error .limitExceeded else .ok ([], none), b)
  | some last =>
    if r.limit < rows.length || byteBreak then
      let binding := ⟨b.applicationId, b.hostServicePolicyDigest, r.keyPrefix, snapshotToken, last.key,
        r.nowMs + r.cursorTtlMs⟩
      (.ok (items, some r.cursorToken), { b with cursors := b.cursors.insert r.cursorToken binding })
    else (.ok (items, none), b)

/-- `KvBackend::list`. The cursor is resolved before expired cursors are collected. -/
def list (b : KvBackend D) (r : ListRequest) :
    Except KvError (List KvListEntry × Option String) × KvBackend D :=
  match b.ensureAvailable r.deadlinePassed with
  | .error error => (.error error, b)
  | .ok () =>
    if !isApplicationKey r.keyPrefix then (.error .invalidKey, b)
    else if r.limit < 1 || min r.maxListItems kvListLimitMax < r.limit then (.error .limitExceeded, b)
    else
      match b.resolveCursor r with
      | .error error => (.error error, b.gcCursors r.nowMs)
      | .ok (snapshotToken, afterKey) =>
        let b := b.gcCursors r.nowMs
        let b := if r.cursor.isSome then b
          else { b with snapshots := b.snapshots.insert snapshotToken (r.nowMs + r.cursorTtlMs) }
        b.listPage r snapshotToken afterKey

/-- `tombstone = 1 AND now - deleted_at_ms >= floor`; the floor is a saturating sum. -/
def isCollectible (maxCursorTtlMs hostCallReplayTtlMs nowMs : Nat) : KvEntry → Bool
  | .live _ _ => false
  | .tombstone _ deletedAtMs =>
    asI64 (min (maxCursorTtlMs + hostCallReplayTtlMs) (2 ^ 64 - 1)) ≤ asI64 nowMs - deletedAtMs

/-- `KvBackend::gc_tombstones`: nothing is collected while a cursor or a snapshot is live. The collected keys
and the backend without them. -/
def gcTombstones (b : KvBackend D) (maxCursorTtlMs hostCallReplayTtlMs nowMs : Nat) : List String × KvBackend D :=
  if !b.cursors.isEmpty || !b.snapshots.isEmpty then ([], b)
  else
    let collect := isCollectible maxCursorTtlMs hostCallReplayTtlMs nowMs
    ((b.entries.filter fun _ e => collect e).keys, { b with entries := b.entries.filter fun _ e => !collect e })

/-- `quarantine_on_orphan_marker`: a marker the ledger does not know closes the backend. -/
def quarantineOnOrphanMarker (b : KvBackend D) (ledgerOperationIds : List String) : KvBackend D :=
  if b.operations.any fun marker => !ledgerOperationIds.contains marker.operationId then
    { b with quarantined := true }
  else b

end KvBackend

/-! ## Runs of one store -/

/-- What happens to the store: a call on its backend, a new process that opens its file, or a call of
anyone on the shared ledger. -/
inductive KvCall (D : Type)
  | set (c : KvContext) (key : String) (value : List UInt8) (expected : Option Nat)
  | delete (c : KvContext) (key : String) (expected : Option Nat)
  | get (key : String) (deadlinePassed : Bool)
  | list (request : KvBackend.ListRequest)
  | gcTombstones (maxCursorTtlMs hostCallReplayTtlMs nowMs : Nat)
  | quarantineOnOrphanMarker (ledgerOperationIds : List String)
  | reopen (applicationId hostServicePolicyDigest : String)
  | ledger (envelopeBytes nowMs : Nat) (call : LedgerCall D)

/-- What a run shows of one key: a committed mutation with its expected and its assigned version, a version
that was returned to a caller, a tombstone that was collected. -/
inductive KvEvent
  | committed (key : String) (expected : Option Nat) (version : Nat)
  | returned (key : String) (version : Nat)
  | collected (key : String)
deriving DecidableEq

structure KvStore (D : Type) where
  backend : KvBackend D
  ledger : QuotaLedger D

/-- The events of a mutation: a committed one also returns its version. -/
def KvEvent.ofMutation (key : String) (expected : Option Nat) : Except KvError Nat → List KvEvent
  | .ok version => [.committed key expected version, .returned key version]
  | .error _ => []

def KvEvent.ofGet (key : String) : Except KvError (List UInt8 × Nat) → List KvEvent
  | .ok (_, version) => [.returned key version]
  | .error _ => []

def KvEvent.ofPage : Except KvError (List KvListEntry × Option String) → List KvEvent
  | .ok (items, _) => items.map fun entry => .returned entry.key entry.version
  | .error _ => []

/-- A call on the store: its events and the store after it. -/
def KvCall.perform {D : Type} [DecidableEq D] (proofDigest : QuotaReservationProofPayloadV2 → D)
    (s : KvStore D) : KvCall D → List KvEvent × KvStore D
  | .set c key value expected =>
    let (answer, backend, quota) := s.backend.set proofDigest s.ledger c key value expected
    (KvEvent.ofMutation key expected answer, ⟨backend, quota⟩)
  | .delete c key expected =>
    let (answer, backend, quota) := s.backend.delete proofDigest s.ledger c key expected
    (KvEvent.ofMutation key expected answer, ⟨backend, quota⟩)
  | .get key deadlinePassed => (KvEvent.ofGet key (s.backend.get key deadlinePassed), s)
  | .list request =>
    let (answer, backend) := s.backend.list request
    (KvEvent.ofPage answer, { s with backend })
  | .gcTombstones maxCursorTtlMs hostCallReplayTtlMs nowMs =>
    let (keys, backend) := s.backend.gcTombstones maxCursorTtlMs hostCallReplayTtlMs nowMs
    (keys.map .collected, { s with backend })
  | .quarantineOnOrphanMarker ids => ([], { s with backend := s.backend.quarantineOnOrphanMarker ids })
  | .reopen applicationId digest => ([], { s with backend := s.backend.reopened applicationId digest })
  | .ledger envelopeBytes nowMs call =>
    ([], { s with ledger := call.perform proofDigest envelopeBytes nowMs s.ledger })

/-- A store and everything that happened to it. -/
structure KvHistory (D : Type) where
  store : KvStore D
  trace : List KvEvent

def KvHistory.step {D : Type} [DecidableEq D] (proofDigest : QuotaReservationProofPayloadV2 → D)
    (h : KvHistory D) (call : KvCall D) : KvHistory D :=
  let (events, store) := call.perform proofDigest h.store
  ⟨store, h.trace ++ events⟩

/-- A new store of an application. -/
def KvHistory.start {D : Type} (applicationId hostServicePolicyDigest : String) : KvHistory D :=
  ⟨⟨.new applicationId hostServicePolicyDigest, .new applicationId⟩, []⟩

end Iweb
