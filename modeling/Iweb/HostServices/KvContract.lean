import Iweb.HostServices.KvPaging
import Iweb.Kernel.TextBytes
import Mathlib.Data.List.Sort

/-!
# The contract of the KV service

The contract package describes the service by pure functions: how one mutation is decided, how a cursor is classified
and which page a list returns. What a call on the backend answers is compared with them; the expiry of every snapshot
is recorded beside the backend, which forgets it when it reclaims the snapshot.
-/

namespace Iweb

open Std CrashRefinement

/-! ## Mutations -/

namespace KvContract

/-- `isIwebKvVersion` -/
def isIwebKvVersion (n : Nat) : Bool := 1 ≤ n && n ≤ wasmU53Max

inductive KvCasDecision
  | committed (version : Nat)
  | conflict
  | unavailable
deriving DecidableEq

/-- `applyIwebKvCas` -/
def applyIwebKvCas (current expected : Option Nat) (nextVersion : Nat) : KvCasDecision :=
  if current.any fun version => !isIwebKvVersion version then .unavailable
  else if expected.any fun version => !isIwebKvVersion version then .unavailable
  else if !isIwebKvVersion nextVersion then .unavailable
  else if expected.isSome && expected != current then .conflict
  else if current.getD 0 = wasmU53Max then .unavailable
  else if nextVersion ≤ current.getD 0 then .unavailable
  else .committed nextVersion

/-- A decision of the backend; `none` for another failure. -/
def decisionOf : Except KvError Nat → Option KvCasDecision
  | .ok version => some (.committed version)
  | .error .conflict => some .conflict
  | .error .unavailable => some .unavailable
  | .error _ => none

/-! ## Cursors -/

inductive KvCursorDecision
  | valid
  | invalidScope
  | expired
deriving DecidableEq

structure CursorCheck where
  cursor : CursorBindingV1
  applicationId : String
  hostServicePolicyDigest : String
  keyPrefix : String
  snapshotToken : String
  snapshotAlive : Bool
  nowMs : Nat

/-- `cursorWellFormed` -/
def isWellFormed (cursor : CursorBindingV1) : Bool :=
  isSha256Hex cursor.hostServicePolicyDigest && isApplicationKey cursor.keyPrefix && cursor.snapshotToken != "" &&
    isApplicationKey cursor.lastKey && decide (cursor.expiresAtMs ≤ wasmU53Max)

/-- `checkIwebKvCursor` -/
def checkIwebKvCursor (input : CursorCheck) : KvCursorDecision :=
  if !isWellFormed input.cursor then .invalidScope
  else if input.cursor.applicationId ≠ input.applicationId ||
      input.cursor.hostServicePolicyDigest ≠ input.hostServicePolicyDigest ||
      input.cursor.keyPrefix ≠ input.keyPrefix || input.cursor.snapshotToken ≠ input.snapshotToken then .invalidScope
  else if !input.snapshotAlive || input.cursor.expiresAtMs ≤ input.nowMs then .expired
  else .valid

/-! ## Pages -/

/-- `iwebKvListLimitCeiling` -/
def iwebKvListLimitCeiling (profileMaxListItems : Nat) : Nat :=
  if profileMaxListItems < 1 || wasmU53Max < profileMaxListItems then 0 else min kvListLimitMax profileMaxListItems

/-- `isValidIwebKvListLimit` -/
def isValidIwebKvListLimit (limit profileMaxListItems : Nat) : Bool :=
  1 ≤ limit && limit ≤ wasmU53Max && 1 ≤ iwebKvListLimitCeiling profileMaxListItems &&
    limit ≤ iwebKvListLimitCeiling profileMaxListItems

structure IwebKvListEntry where
  key : String
  value : List UInt8
deriving DecidableEq

def IwebKvListEntry.size (entry : IwebKvListEntry) : Nat := (bytes entry.key).length + entry.value.length

inductive IwebKvListPagePlan
  | ok (items : List IwebKvListEntry) (nextLastKey : Option String)
  | limitExceeded
deriving DecidableEq

/-- The loop over the candidates: up to `room` more items after `pageBytes` bytes; `none` when the first one alone
exceeds the page. -/
def planItems (maxListBytes : Nat) : (room pageBytes : Nat) → (first : Bool) → List IwebKvListEntry →
    Option (List IwebKvListEntry)
  | _, _, _, [] => some []
  | 0, _, _, _ :: _ => some []
  | room + 1, pageBytes, first, entry :: rest =>
    if maxListBytes < pageBytes + entry.size then if first then none else some []
    else (planItems maxListBytes room (pageBytes + entry.size) false rest).map (entry :: ·)

/-- What a page is planned from. -/
structure PageInput where
  entries : List IwebKvListEntry
  tombstoneKeys : List String
  keyPrefix : String
  afterKey : Option String
  limit : Nat
  profileMaxListItems : Nat
  maxListBytes : Nat

/-- The visible entries in key order. -/
def visible (input : PageInput) : List IwebKvListEntry :=
  (input.entries.filter fun entry => !input.tombstoneKeys.contains entry.key && startsWith input.keyPrefix entry.key)
    |>.insertionSort (BytesLe fun entry => bytes entry.key)

/-- `planIwebKvListPage` -/
def planIwebKvListPage (input : PageInput) : IwebKvListPagePlan :=
  let ceiling := iwebKvListLimitCeiling input.profileMaxListItems
  let sorted := visible input
  let candidates := sorted.filter fun entry => input.afterKey.all fun afterKey => decide (bytes afterKey < bytes entry.key)
  if !isApplicationKey input.keyPrefix then .limitExceeded
  else if input.afterKey.any fun afterKey => !isApplicationKey afterKey then .limitExceeded
  else if input.maxListBytes < 1 || wasmU53Max < input.maxListBytes then .limitExceeded
  else if ceiling < 1 || input.limit < 1 || ceiling < input.limit then .limitExceeded
  else if input.tombstoneKeys.any fun key => !isApplicationKey key then .limitExceeded
  else if input.entries.any fun entry => !isApplicationKey entry.key || kvValueMaxBytes < entry.value.length then
    .limitExceeded
  else if (sorted.zip sorted.tail).any fun pair => pair.1.key == pair.2.key then .limitExceeded
  else
    match planItems input.maxListBytes input.limit 0 true candidates with
    | none => .limitExceeded
    | some items =>
      if items.length < candidates.length && !items.isEmpty then .ok items (items.getLast?.map IwebKvListEntry.key)
      else .ok items none

/-! ## Answers -/

/-- What a caller of list learns: the items and whether there is a cursor, or an error. -/
inductive KvListAnswer
  | page (items : List IwebKvListEntry) (continues : Bool)
  | refused (error : KvError)
deriving DecidableEq

def IwebKvListEntry.ofItem (item : KvListEntry) : IwebKvListEntry := ⟨item.key, item.value⟩

def KvListAnswer.ofList : Except KvError (List KvListEntry × Option String) → KvListAnswer
  | .ok (items, next) => .page (items.map .ofItem) next.isSome
  | .error error => .refused error

def KvListAnswer.ofPlan : IwebKvListPagePlan → KvListAnswer
  | .ok items nextLastKey => .page items nextLastKey.isSome
  | .limitExceeded => .refused .limitExceeded

end KvContract

variable {D : Type}

/-- The live entries of the file. -/
def KvBackend.liveEntries (b : KvBackend D) : List KvContract.IwebKvListEntry :=
  b.entries.toList.filterMap fun
    | (key, .live value _) => some ⟨key, value⟩
    | (_, .tombstone _ _) => none

/-- The key has a tombstone. -/
def KvBackend.isDeleted (b : KvBackend D) (key : String) : Bool :=
  match b.entries[key]? with
  | some (.tombstone _ _) => true
  | _ => false

/-- A store and the expiry of every snapshot that its backend took. -/
structure KvSnapshots (D : Type) where
  store : KvStore D
  expiries : String → Option Nat

namespace KvSnapshots

def start (applicationId hostServicePolicyDigest : String) : KvSnapshots D :=
  ⟨⟨.new applicationId hostServicePolicyDigest, .new applicationId⟩, fun _ => none⟩

/-- A new process starts without snapshots. -/
def step [DecidableEq D] (proofDigest : QuotaReservationProofPayloadV2 → D) (h : KvSnapshots D) (call : KvCall D) :
    KvSnapshots D :=
  let store := (call.perform proofDigest h.store).2
  match call with
  | .reopen _ _ => ⟨store, fun _ => none⟩
  | _ => ⟨store, fun token => store.backend.snapshots[token]?.or (h.expiries token)⟩

open KvContract

/-- What the contract answers to a list request: the prefix and the limit are checked, then the cursor is classified,
then the page is planned. A cursor that the backend does not hold was reclaimed or never issued. -/
def contractAnswer (h : KvSnapshots D) (r : KvBackend.ListRequest) (entries : List IwebKvListEntry)
    (tombstoneKeys : List String) : KvListAnswer :=
  let b := h.store.backend
  let page (afterKey : Option String) := KvListAnswer.ofPlan (planIwebKvListPage
    ⟨entries, tombstoneKeys, r.keyPrefix, afterKey, r.limit, r.maxListItems, r.maxListBytes⟩)
  if !isApplicationKey r.keyPrefix then .refused .invalidKey
  else if !isValidIwebKvListLimit r.limit r.maxListItems then .refused .limitExceeded
  else
    match r.cursor with
    | none => page none
    | some token =>
      match b.cursors[token]? with
      | none => .refused .invalidKey
      | some binding =>
        match checkIwebKvCursor
          { cursor := binding
            applicationId := b.applicationId
            hostServicePolicyDigest := b.hostServicePolicyDigest
            keyPrefix := r.keyPrefix
            snapshotToken := binding.snapshotToken
            snapshotAlive := (h.expiries binding.snapshotToken).any (r.nowMs < ·)
            nowMs := r.nowMs } with
        | .invalidScope => .refused .invalidKey
        | .expired => .refused .cursorExpired
        | .valid => page (some binding.lastKey)

end KvSnapshots

/-! ## The condition -/

/-- The expected version is one of the contract, and is the current one if that is the last of all. -/
def KvContract.ExpectedInRange (current expected : Option Nat) : Prop :=
  ∀ version, expected = some version →
    isIwebKvVersion version = true ∧ (current = some wasmU53Max → version = wasmU53Max)

/-- A mutation that the versions admit comes with an operation id of its own. -/
def KvBackend.IsNewOperation (b : KvBackend D) (key : String) (expected : Option Nat) (operationId : String) : Prop :=
  (∀ version, expected = some version → b.currentVersion key = some version) →
    b.currentVersion key ≠ some wasmU53Max → b.operations.all (·.operationId != operationId) = true

/-- A cursor that is held, is of the prefix and comes with a valid limit is bound to a policy digest, a token and an
expiry that the contract admits; and if it is not expired itself, its snapshot is held exactly as long as it has not
reached its expiry. -/
def KvSnapshots.CursorCurrent (h : KvSnapshots D) (r : KvBackend.ListRequest) : Prop :=
  ∀ token binding, r.cursor = some token → h.store.backend.cursors[token]? = some binding →
    binding.keyPrefix = r.keyPrefix → KvContract.isValidIwebKvListLimit r.limit r.maxListItems = true →
      KvContract.isWellFormed binding = true ∧
        (r.nowMs < binding.expiresAtMs → (h.store.backend.snapshots.contains binding.snapshotToken = true ↔
          (h.expiries binding.snapshotToken).any (r.nowMs < ·) = true))

/-- The limits of a host service policy. -/
structure KvBackend.ListRequest.Governed (r : KvBackend.ListRequest) : Prop where
  maxListItems : 1 ≤ r.maxListItems ∧ r.maxListItems ≤ 256
  maxListBytes : 1 ≤ r.maxListBytes ∧ r.maxListBytes ≤ 1048576

end Iweb
