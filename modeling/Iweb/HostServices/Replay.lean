import Iweb.HostServices.Ledger

/-!
# Claims of host calls

A mutating host call is claimed in the ledger before it is executed. The claim is a row of
`host_call_replay` under the digest of the whole call; it stays until the call is completed with a response,
and then for good, or until recovery releases it because no backend was touched. A repeated call gets the
stored response, or learns that the first one is in flight; a call that reuses the request id of the same
identity for something else is a conflict.

The digests of a body and of a key are parameters. A refused call leaves the table as it was; the operation
id a claim draws is an argument.
-/

namespace Iweb

/-- `ReplayKeyV2`: the complete idempotency key of a host call. -/
structure ReplayKeyV2 where
  requestId : String
  canonicalBody : List UInt8
  service : String
  method : String
  identityDigest : String
  policyDigest : String
  preparationGeneration : Nat
  executionGeneration : Nat
  fenceNonce : String
deriving DecidableEq

/-- The request id under the identity it is used by. -/
structure ReplayIdentity where
  requestId : String
  identityDigest : String
  policyDigest : String
  preparationGeneration : Nat
  executionGeneration : Nat
  fenceNonce : String
deriving DecidableEq

def ReplayKeyV2.identity (key : ReplayKeyV2) : ReplayIdentity :=
  ⟨key.requestId, key.identityDigest, key.policyDigest, key.preparationGeneration, key.executionGeneration,
    key.fenceNonce⟩

/-- `ReplayKeyProjectionV2`: what the key digest covers (its schema version is fixed). -/
structure ReplayKeyProjectionV2 (B : Type) where
  requestId : String
  canonicalBodyDigest : B
  service : String
  method : String
  identityDigest : String
  policyDigest : String
  preparationGeneration : Nat
  executionGeneration : Nat
  fenceNonce : String
deriving DecidableEq

/-- The hash of a body and the domain-separated hash of a key. -/
structure ReplayDigests (B K : Type) where
  body : List UInt8 → B
  key : ReplayKeyProjectionV2 B → K

inductive ReplayOutcome
  | ok
  | error
deriving DecidableEq

/-- `matches!(outcome, "ok" | "error")` -/
def ReplayOutcome.parse (text : String) : Except QuotaError ReplayOutcome :=
  if text = "ok" then .ok .ok else if text = "error" then .ok .error else .error .unavailable

/-- The columns `state`, `outcome` and `response_payload` of a row. -/
inductive ReplayState
  | claimed
  | terminal (outcome : ReplayOutcome) (responsePayload : List UInt8)
deriving DecidableEq

/-- A row of `host_call_replay`. The two times are the signed values of their columns. -/
structure ReplayRow (B K : Type) where
  replayKey : K
  key : ReplayKeyV2
  canonicalBodyDigest : B
  operationId : String
  state : ReplayState
  claimedAt : Int
  expiresAt : Int
deriving DecidableEq

/-- `ReplayClaimV2`. -/
inductive ReplayClaimV2
  | claimed (operationId : String)
  | completed (responsePayload : List UInt8) (outcome : ReplayOutcome)
  | inFlight
  | conflict
  | expired
deriving DecidableEq

/-- The texts of the key are ASCII and its generations are in the `u53` range (`jcs_bytes` of the
projection). -/
def ReplayKeyV2.isCanonical (key : ReplayKeyV2) : Bool :=
  [key.requestId, key.service, key.method, key.identityDigest, key.policyDigest, key.fenceNonce].all isAsciiText &&
    [key.preparationGeneration, key.executionGeneration].all (· ≤ wasmU53Max)

namespace Replay

variable {B K : Type} [DecidableEq B] [DecidableEq K] (d : ReplayDigests B K)

/-- What `key_digest` hashes. -/
def projection (key : ReplayKeyV2) : ReplayKeyProjectionV2 B :=
  ⟨key.requestId, d.body key.canonicalBody, key.service, key.method, key.identityDigest, key.policyDigest,
    key.preparationGeneration, key.executionGeneration, key.fenceNonce⟩

/-- `ReplayKeyV2::key_digest`. -/
def keyDigest (key : ReplayKeyV2) : Except QuotaError K :=
  if key.isCanonical then .ok (d.key (projection d key)) else .error .unavailable

/-- `ORDER BY claimed_at ASC LIMIT 1` -/
def earliest : List (ReplayRow B K) → Option (ReplayRow B K)
  | [] => none
  | row :: rows =>
    match earliest rows with
    | none => some row
    | some row' => if row'.claimedAt < row.claimedAt then some row' else some row

/-- The row of exactly this key, else the first row of the same request id under the same identity. -/
def existingRow (rows : List (ReplayRow B K)) (replayKey : K) (key : ReplayKeyV2) : Option (ReplayRow B K) :=
  match rows.find? (·.replayKey = replayKey) with
  | some row => some row
  | none => earliest (rows.filter (·.key.identity = key.identity))

/-- The row is the one of exactly this call. -/
def isSameCall (row : ReplayRow B K) (replayKey : K) (key : ReplayKeyV2) : Bool :=
  row.replayKey = replayKey && row.key.canonicalBody = key.canonicalBody &&
    row.canonicalBodyDigest = d.body key.canonicalBody && row.key.service = key.service &&
    row.key.method = key.method && row.key.identityDigest = key.identityDigest &&
    row.key.policyDigest = key.policyDigest && row.key.preparationGeneration = key.preparationGeneration &&
    row.key.executionGeneration = key.executionGeneration && row.key.fenceNonce = key.fenceNonce

/-- What an existing row answers. Its expiry is compared, not the caller's; an expiry that does not fit its
column makes the row unreadable. -/
def answerOf (row : ReplayRow B K) (replayKey : K) (key : ReplayKeyV2) (nowMs : Nat) :
    Except QuotaError ReplayClaimV2 := do
  QuotaError.unavailable.unless (0 ≤ row.expiresAt)
  if !isSameCall d row replayKey key then .ok .conflict
  else if row.expiresAt ≤ nowMs then .ok .expired
  else match row.state with
    | .claimed => .ok .inFlight
    | .terminal outcome payload => .ok (.completed payload outcome)

/-- `QuotaLedger::claim_replay`. -/
def claimReplay (rows : List (ReplayRow B K)) (operationId : String) (key : ReplayKeyV2) (nowMs expiresAt : Nat) :
    Except QuotaError (ReplayClaimV2 × List (ReplayRow B K)) := do
  QuotaError.unavailable.unless (!key.canonicalBody.isEmpty && decide (nowMs < expiresAt))
  let replayKey ← keyDigest d key
  match existingRow rows replayKey key with
  | some row =>
    let answer ← answerOf d row replayKey key nowMs
    .ok (answer, rows)
  | none =>
    -- `operation_id` is unique
    QuotaError.unavailable.unless (rows.all (·.operationId != operationId))
    .ok (.claimed operationId,
      rows ++ [⟨replayKey, key, d.body key.canonicalBody, operationId, .claimed, asI64 nowMs, asI64 expiresAt⟩])

/-- `UPDATE … SET state, outcome, response_payload WHERE replay_key = … AND operation_id = … AND state = 'claimed'` -/
def completeRow (replayKey : K) (operationId : String) (outcome : ReplayOutcome) (responsePayload : List UInt8)
    (row : ReplayRow B K) : ReplayRow B K :=
  if row.replayKey = replayKey ∧ row.operationId = operationId ∧ row.state = .claimed then
    { row with state := .terminal outcome responsePayload }
  else row

/-- `QuotaLedger::complete_replay`: a claimed row becomes terminal, a terminal one only confirms what it
says. -/
def completeReplay (rows : List (ReplayRow B K)) (key : ReplayKeyV2) (operationId : String)
    (responsePayload : List UInt8) (outcome : String) : Except QuotaError (List (ReplayRow B K)) := do
  let outcome ← ReplayOutcome.parse outcome
  QuotaError.unavailable.unless !responsePayload.isEmpty
  let replayKey ← keyDigest d key
  match rows.find? fun row => row.replayKey = replayKey && row.operationId = operationId with
  | none => .error .unavailable
  | some row =>
    if row.state = .claimed then .ok (rows.map (completeRow replayKey operationId outcome responsePayload))
    else if row.state = .terminal outcome responsePayload then .ok rows
    else .error .unavailable

/-- `DELETE … WHERE … AND state = 'claimed'`: whether one row was deleted, and the rows left. -/
def deleteClaimed (rows : List (ReplayRow B K)) (select : ReplayRow B K → Bool) : Bool × List (ReplayRow B K) :=
  let deleted (row : ReplayRow B K) : Bool := select row && row.state = .claimed
  (rows.countP deleted == 1, rows.filter fun row => !deleted row)

/-- `QuotaLedger::release_replay_claim`. -/
def releaseReplayClaim (rows : List (ReplayRow B K)) (key : ReplayKeyV2) (operationId : String) :
    Except QuotaError (Bool × List (ReplayRow B K)) := do
  let replayKey ← keyDigest d key
  .ok (deleteClaimed rows fun row => row.replayKey = replayKey && row.operationId = operationId)

/-- `QuotaLedger::release_replay_claim_by_operation_id`. -/
def releaseReplayClaimByOperationId (rows : List (ReplayRow B K)) (operationId : String) :
    Bool × List (ReplayRow B K) :=
  deleteClaimed rows (·.operationId = operationId)

end Replay

/-! ## Histories of one ledger -/

inductive ReplayCall
  | claim (operationId : String) (key : ReplayKeyV2) (nowMs expiresAt : Nat)
  | complete (key : ReplayKeyV2) (operationId : String) (responsePayload : List UInt8) (outcome : String)
  | release (key : ReplayKeyV2) (operationId : String)
  | releaseByOperationId (operationId : String)
deriving DecidableEq

inductive ReplayAnswer
  | claim (answer : ReplayClaimV2)
  | completed
  | released (changed : Bool)
  | refused (error : QuotaError)
deriving DecidableEq

/-- A call on the table: its answer and the rows after it. -/
def ReplayCall.perform {B K : Type} [DecidableEq B] [DecidableEq K] (d : ReplayDigests B K)
    (rows : List (ReplayRow B K)) : ReplayCall → ReplayAnswer × List (ReplayRow B K)
  | .claim operationId key nowMs expiresAt =>
    match Replay.claimReplay d rows operationId key nowMs expiresAt with
    | .ok (answer, rows') => (.claim answer, rows')
    | .error error => (.refused error, rows)
  | .complete key operationId responsePayload outcome =>
    match Replay.completeReplay d rows key operationId responsePayload outcome with
    | .ok rows' => (.completed, rows')
    | .error error => (.refused error, rows)
  | .release key operationId =>
    match Replay.releaseReplayClaim d rows key operationId with
    | .ok (changed, rows') => (.released changed, rows')
    | .error error => (.refused error, rows)
  | .releaseByOperationId operationId =>
    let (changed, rows') := Replay.releaseReplayClaimByOperationId rows operationId
    (.released changed, rows')

def ReplayCall.step {B K : Type} [DecidableEq B] [DecidableEq K] (d : ReplayDigests B K)
    (rows : List (ReplayRow B K)) (call : ReplayCall) : List (ReplayRow B K) := (call.perform d rows).2

/-- The operation whose claim a call releases, if it succeeds. -/
def ReplayCall.released {B K : Type} [DecidableEq B] [DecidableEq K] (d : ReplayDigests B K)
    (rows : List (ReplayRow B K)) (call : ReplayCall) : Option String :=
  match call, (call.perform d rows).1 with
  | .release _ operationId, .released true => some operationId
  | .releaseByOperationId operationId, .released true => some operationId
  | _, _ => none

end Iweb
