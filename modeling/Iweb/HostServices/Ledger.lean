import Iweb.Foundations.CrashRefinement
import Iweb.Foundations.KeyedRows
import Iweb.Kernel.Wire

/-!
# The quota ledger

The KV and the SQL backend of one application share one byte envelope. A mutation first reserves a bound on
the bytes it may add, in one serialized transaction of `quota.sqlite3`; after the backend has committed, the
reservation is finalized with the measured size of the backend's file, or released when the backend was not
touched. A reservation that is past its expiry is no longer charged.

The tables of the database are the fields of `QuotaLedger`. A call that fails leaves them as they were, so a
call returns the new ledger or an error. Times are milliseconds; the identifiers a call draws are arguments.
-/

namespace Iweb

/-- Why a ledger call is refused. A lock wait that exceeds its bound (`Busy`) is not a decision of the
ledger and is left out. -/
inductive QuotaError
  /-- The inequality before the write does not hold. -/
  | exceeded
  /-- The state of the ledger cannot be proved. -/
  | unavailable
deriving DecidableEq

/-- `if !ok { return Err(error) }` -/
def QuotaError.unless (error : QuotaError) (ok : Bool) : Except QuotaError Unit :=
  if ok then .ok () else .error error

@[simp] theorem QuotaError.unless_eq_ok {error : QuotaError} {ok : Bool} {u : Unit} :
    error.unless ok = .ok u ↔ ok = true := by
  cases ok <;> simp [QuotaError.unless]

/-- The two data backends of an application. -/
inductive Backend
  | kv
  | sql
deriving DecidableEq

/-- `matches!(backend, "kv" | "sql")` -/
def Backend.parse (text : String) : Except QuotaError Backend :=
  if text = "kv" then .ok .kv else if text = "sql" then .ok .sql else .error .unavailable

/-- `value as i64` of a `u64`. -/
def asI64 (value : Nat) : Int := if value < 2 ^ 63 then value else value - 2 ^ 64

/-- A `u64` that went through an `INTEGER` column: written `as i64`, read back as `.max(0) as u64`. -/
def throughColumn (value : Nat) : Nat := (asI64 value).toNat

/-- `u64::checked_add` -/
def checkedAddU64 (a b : Nat) : Option Nat := if a + b < 2 ^ 64 then some (a + b) else none

/-- The fields a reservation proof covers; its schema version (2) and its state (`reserved`) are fixed. -/
structure QuotaReservationProofPayloadV2 where
  reservationId : String
  operationId : String
  applicationId : String
  backend : Backend
  ledgerRevision : Nat
  expectedUsageRevision : Nat
  baseCommittedBytes : Nat
  reservedDeltaBytes : Nat
  projectedCommittedBytes : Nat
  expiresAt : Nat
deriving DecidableEq

/-- `jcs_bytes` accepts the payload: every text is ASCII and every number is in the `u53` range. -/
def QuotaReservationProofPayloadV2.isCanonical (p : QuotaReservationProofPayloadV2) : Bool :=
  [p.reservationId, p.operationId, p.applicationId].all isAsciiText &&
    [p.ledgerRevision, p.expectedUsageRevision, p.baseCommittedBytes, p.reservedDeltaBytes,
      p.projectedCommittedBytes, p.expiresAt].all (· ≤ wasmU53Max)

inductive ReservationState
  | reserved
  | committed
  | released
deriving DecidableEq

/-- A row of `ledger_reservations`. -/
structure ReservationRecordV2 (D : Type) extends QuotaReservationProofPayloadV2 where
  state : ReservationState
  reservationProofDigest : D
deriving DecidableEq

/-- The row of `ledger_usage`. -/
structure UsageSnapshot where
  usageRevision : Nat
  committedBytes : Nat
  kvCommittedBytes : Nat
  sqlCommittedBytes : Nat
deriving DecidableEq

/-- The committed bytes of one backend. -/
def UsageSnapshot.backendBytes (u : UsageSnapshot) : Backend → Nat
  | .kv => u.kvCommittedBytes
  | .sql => u.sqlCommittedBytes

/-- The quota ledger of one application. -/
structure QuotaLedger (D : Type) where
  applicationId : String
  usage : UsageSnapshot
  reservations : List (ReservationRecordV2 D)
deriving DecidableEq

namespace QuotaLedger

variable {D : Type}

/-- `QuotaLedger::new` on a new file. -/
def new (applicationId : String) : QuotaLedger D := ⟨applicationId, ⟨0, 0, 0, 0⟩, []⟩

/-- `state = 'reserved' AND expires_at > now` -/
def isOutstanding (now : Nat) (r : ReservationRecordV2 D) : Bool :=
  r.state = .reserved && decide (asI64 now < asI64 r.expiresAt)

/-- `SUM` of an integer column; an overflow is an error. -/
def sumColumn (values : List Nat) : Except QuotaError Nat :=
  if values.sum < 2 ^ 63 then .ok values.sum else .error .unavailable

/-- The outstanding bytes among the reservations a condition selects. -/
def outstandingBytes (ledger : QuotaLedger D) (now : Nat) (select : ReservationRecordV2 D → Bool) :
    Except QuotaError Nat :=
  sumColumn ((ledger.reservations.filter fun r => isOutstanding now r && select r).map (·.reservedDeltaBytes))

/-- `committed + outstanding + delta`, if it stays within its bound. -/
def projected (committed outstanding delta bound : Nat) : Except QuotaError Nat :=
  match (checkedAddU64 committed outstanding).bind (checkedAddU64 · delta) with
  | none => .error .exceeded
  | some value => if bound < value then .error .exceeded else .ok value

/-- `COALESCE(MAX(ledger_revision),0) + 1` -/
def nextRevision (ledger : QuotaLedger D) : Nat :=
  (ledger.reservations.map (·.ledgerRevision)).foldl max 0 + 1

variable (proofDigest : QuotaReservationProofPayloadV2 → D)

/-- `QuotaLedger::reserve`. -/
def reserve (ledger : QuotaLedger D) (reservationId backend operationId : String)
    (reservedDeltaBytes envelopeBytes serviceCapBytes nowMs reservationTtlMs : Nat) :
    Except QuotaError (ReservationRecordV2 D × QuotaLedger D) := do
  let backend ← Backend.parse backend
  QuotaError.exceeded.unless (reservedDeltaBytes != 0 && reservationTtlMs != 0)
  QuotaError.unavailable.unless (isUuidV7 operationId)
  let usage := ledger.usage
  let outstandingTotal ← ledger.outstandingBytes nowMs fun _ => true
  let outstandingBackend ← ledger.outstandingBytes nowMs (·.backend = backend)
  let projectedTotal ← projected usage.committedBytes outstandingTotal reservedDeltaBytes envelopeBytes
  let _ ← projected (usage.backendBytes backend) outstandingBackend reservedDeltaBytes serviceCapBytes
  let some expiresAt := checkedAddU64 nowMs reservationTtlMs | .error .exceeded
  let payload : QuotaReservationProofPayloadV2 :=
    ⟨reservationId, operationId, ledger.applicationId, backend, ledger.nextRevision, usage.usageRevision,
      usage.committedBytes, reservedDeltaBytes, projectedTotal, expiresAt⟩
  QuotaError.unavailable.unless payload.isCanonical
  -- `reservation_id` is the primary key
  QuotaError.unavailable.unless (ledger.reservations.all (·.reservationId != reservationId))
  let record : ReservationRecordV2 D := ⟨payload, .reserved, proofDigest payload⟩
  .ok (record, { ledger with reservations := ledger.reservations ++ [record] })

/-- `QuotaLedger::reserve_remaining`: a reservation of everything the envelope has left. -/
def reserveRemaining (ledger : QuotaLedger D) (reservationId backend operationId : String)
    (envelopeBytes nowMs reservationTtlMs : Nat) : Except QuotaError (ReservationRecordV2 D × QuotaLedger D) := do
  let _ ← Backend.parse backend
  QuotaError.unavailable.unless (isUuidV7 operationId)
  let outstanding ← ledger.outstandingBytes nowMs fun _ => true
  let delta := envelopeBytes - ledger.usage.committedBytes - outstanding
  QuotaError.exceeded.unless (delta != 0)
  ledger.reserve proofDigest reservationId backend operationId delta envelopeBytes envelopeBytes nowMs
    reservationTtlMs

/-- `validate_reservation_record`: the only row of the operation, with the immutable fields of the given
record and a state the record may have reached. -/
def validateReservationRecord [DecidableEq D] (ledger : QuotaLedger D) (r : ReservationRecordV2 D) :
    Except QuotaError Unit :=
  match ledger.reservations.filter (·.operationId = r.operationId) with
  | [stored] =>
    QuotaError.unavailable.unless
      (r.applicationId = ledger.applicationId && r.reservedDeltaBytes != 0 && r.expiresAt != 0 &&
        isUuidV7 r.reservationId && isUuidV7 r.operationId && r.isCanonical &&
        r.reservationProofDigest = proofDigest r.toQuotaReservationProofPayloadV2 &&
        stored.toQuotaReservationProofPayloadV2 = r.toQuotaReservationProofPayloadV2 &&
        stored.reservationProofDigest = r.reservationProofDigest &&
        (stored.state = r.state || (r.state = .reserved && stored.state = .committed)))
  | _ => .error .unavailable

/-- `UPDATE ledger_reservations SET state = … WHERE reservation_id = …` -/
def setState (reservationId : String) (state : ReservationState) (rows : List (ReservationRecordV2 D)) :
    List (ReservationRecordV2 D) :=
  KeyedRows.update (·.reservationId) reservationId (fun r => { r with state }) rows

/-- The usage after one backend was measured; the total is the sum of the two backends. -/
def sealed (usage : UsageSnapshot) (backend : Backend) (measuredBackendBytes : Nat) :
    Except QuotaError UsageSnapshot :=
  let (kvBytes, sqlBytes) := match backend with
    | .kv => (measuredBackendBytes, usage.sqlCommittedBytes)
    | .sql => (usage.kvCommittedBytes, measuredBackendBytes)
  match checkedAddU64 kvBytes sqlBytes with
  | none => .error .unavailable
  | some committedBytes =>
    .ok ⟨usage.usageRevision + 1, throughColumn committedBytes, throughColumn kvBytes, throughColumn sqlBytes⟩

/-- `SELECT state FROM ledger_reservations WHERE reservation_id = …` -/
def stateOf (ledger : QuotaLedger D) (reservationId : String) : Option ReservationState :=
  (ledger.reservations.find? (·.reservationId = reservationId)).map (·.state)

/-- `QuotaLedger::finalize`. -/
def finalize [DecidableEq D] (ledger : QuotaLedger D) (r : ReservationRecordV2 D) (measuredBackendBytes : Nat) :
    Except QuotaError (QuotaLedger D) := do
  ledger.validateReservationRecord proofDigest r
  match ledger.stateOf r.reservationId with
  | some .committed => .ok ledger
  | some .reserved =>
    QuotaError.unavailable.unless (r.expectedUsageRevision ≤ ledger.usage.usageRevision)
    let usage ← sealed ledger.usage r.backend measuredBackendBytes
    .ok { ledger with usage, reservations := setState r.reservationId .committed ledger.reservations }
  | _ => .error .unavailable

/-- `QuotaLedger::release`: only a row that is still reserved is released. -/
def release (ledger : QuotaLedger D) (reservationId : String) : QuotaLedger D :=
  { ledger with
    reservations := KeyedRows.update (·.reservationId) reservationId
      (fun r => if r.state = .reserved then { r with state := .released } else r) ledger.reservations }

end QuotaLedger

/-! ## Histories of one ledger -/

/-- A call on a ledger whose envelope is fixed. -/
inductive LedgerCall (D : Type)
  | reserve (reservationId backend operationId : String)
      (reservedDeltaBytes serviceCapBytes reservationTtlMs : Nat)
  | reserveRemaining (reservationId backend operationId : String) (reservationTtlMs : Nat)
  | finalize (reservation : ReservationRecordV2 D) (measuredBackendBytes : Nat)
  | release (reservationId : String)
deriving DecidableEq

/-- The ledger a call leaves behind; a refused call leaves it alone. -/
def LedgerCall.perform {D : Type} [DecidableEq D] (proofDigest : QuotaReservationProofPayloadV2 → D)
    (envelopeBytes nowMs : Nat) (ledger : QuotaLedger D) : LedgerCall D → QuotaLedger D
  | .reserve reservationId backend operationId delta cap ttl =>
    match ledger.reserve proofDigest reservationId backend operationId delta envelopeBytes cap nowMs ttl with
    | .ok (_, ledger') => ledger'
    | .error _ => ledger
  | .reserveRemaining reservationId backend operationId ttl =>
    match ledger.reserveRemaining proofDigest reservationId backend operationId envelopeBytes nowMs ttl with
    | .ok (_, ledger') => ledger'
    | .error _ => ledger
  | .finalize reservation measured =>
    match ledger.finalize proofDigest reservation measured with
    | .ok ledger' => ledger'
    | .error _ => ledger
  | .release reservationId => ledger.release reservationId

/-- A call and the clock value it is made at. -/
structure LedgerStep (D : Type) where
  now : Nat
  call : LedgerCall D
deriving DecidableEq

/-- The ledger and the clock of the last call. -/
structure LedgerMoment (D : Type) where
  now : Nat
  ledger : QuotaLedger D

def LedgerMoment.step {D : Type} [DecidableEq D] (proofDigest : QuotaReservationProofPayloadV2 → D)
    (envelopeBytes : Nat) (m : LedgerMoment D) (s : LedgerStep D) : LedgerMoment D :=
  ⟨s.now, s.call.perform proofDigest envelopeBytes s.now m.ledger⟩

end Iweb
