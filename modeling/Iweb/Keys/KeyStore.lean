import Iweb.Kernel.Wire

/-!
# The owner key store

One identity has several revocable tokens `iwb_<keyId>_<secret>`. The store keeps the digest of each secret and
decides with the clock whether a key has expired; it compares timestamps as texts. The recovery token is always
valid and is no record of the store. A damaged store refuses every delegated key and every change.

A commit writes the intent, the snapshot and the audit line; only its outcome is modelled. The audit events
themselves are not.
-/

namespace Iweb.Keys

structure KeyRecord where
  keyId : String
  secretHash : String
  label : String
  createdAt : String
  expiresAt : Option String
  bannedAt : Option String
deriving DecidableEq

structure KeysFile where
  version : ℕ
  keys : List KeyRecord

inductive Actor where
  | bootstrap
  | delegated (keyId : String)
deriving DecidableEq

/-- The digest that the store uses. -/
structure KeyHost where
  sha256 : List UInt8 → List UInt8

structure KeyStore where
  keys : List KeyRecord
  damaged : Bool
  bootstrapDigest : List UInt8

/-! ## Texts -/

/-- Texts are compared by their bytes. -/
def textBefore (a b : String) : Bool := decide (bytes a < bytes b)

/-- `utc_now` at a clock that shows `nowMillis`. -/
def utcNow (nowMillis : ℕ) : String := formatRfc3339UtcMillis nowMillis

def hexDigit (n : ℕ) : Char := Char.ofNat (if n < 10 then 48 + n else 87 + n)

/-- `{b:02x}` for every byte. -/
def hexText (bs : List UInt8) : String :=
  String.ofList (bs.flatMap fun b => [hexDigit (b.toNat / 16), hexDigit (b.toNat % 16)])

def KeyHost.sha256Hex (host : KeyHost) (value : List UInt8) : String := hexText (host.sha256 value)

/-! ## Validation -/

def validDay (bs : List UInt8) : Bool :=
  let digit (i : ℕ) := (bs.getD i 0).toNat - 48
  let month := digit 5 * 10 + digit 6
  let day := digit 8 * 10 + digit 9
  let year := digit 0 * 1000 + digit 1 * 100 + digit 2 * 10 + digit 3
  let leap : Bool := year % 4 == 0 && (year % 100 != 0 || year % 400 == 0)
  match month with
  | 1 | 3 | 5 | 7 | 8 | 10 | 12 => 1 ≤ day && day ≤ 31
  | 4 | 6 | 9 | 11 => 1 ≤ day && day ≤ 30
  | 2 => if leap then 1 ≤ day && day ≤ 29 else 1 ≤ day && day ≤ 28
  | _ => false

/-- `YYYY-MM-DDTHH:MM:SS(.sss)?Z`; every byte that is read lies within the length that is checked first. -/
def validUtcStamp (value : String) : Bool :=
  let bs := bytes value
  let byteAt (i : ℕ) := bs.getD i 0
  (bs.length == 20 || bs.length == 24) &&
    [0, 1, 2, 3, 5, 6, 8, 9, 11, 12, 14, 15].all (fun i => isDecimalDigit (byteAt i)) &&
    (byteAt 4 == ascii '-' && byteAt 7 == ascii '-' && byteAt 10 == ascii 'T' && byteAt 13 == ascii ':' &&
      byteAt 16 == ascii ':' && byteAt (bs.length - 1) == ascii 'Z' &&
      (bs.length == 20 ||
        byteAt 19 == ascii '.' && [20, 21, 22].all fun i => isDecimalDigit (byteAt i)) &&
      (byteAt 5 == ascii '0' && inRange '1' '9' (byteAt 6) || byteAt 5 == ascii '1' && inRange '0' '2' (byteAt 6)) &&
      validDay bs &&
      (byteAt 11 == ascii '0' && isDecimalDigit (byteAt 12) ||
        byteAt 11 == ascii '1' && isDecimalDigit (byteAt 12) ||
        byteAt 11 == ascii '2' && inRange '0' '3' (byteAt 12)) &&
      inRange '0' '5' (byteAt 14) && isDecimalDigit (byteAt 15) &&
      inRange '0' '5' (byteAt 17) && isDecimalDigit (byteAt 18))

/-- `char::is_control` -/
def isControl (c : Char) : Bool := c.toNat < 0x20 || 0x7f ≤ c.toNat && c.toNat ≤ 0x9f

def validLabel (label : String) : Bool :=
  !(bytes label).isEmpty && (bytes label).length ≤ 128 && !label.toList.any isControl

def isKeyId (keyId : List UInt8) : Bool := keyId.length == 8 && keyId.all isHexLower

def validRecord (record : KeyRecord) : Bool :=
  isKeyId (bytes record.keyId) && isSha256Hex record.secretHash && validLabel record.label &&
    validUtcStamp record.createdAt && record.expiresAt.all validUtcStamp && record.bannedAt.all validUtcStamp

/-- Version, shape of the records, and one record for each key identifier. -/
def validSnapshot (file : KeysFile) : Bool :=
  file.version == 1 && file.keys.all validRecord && (file.keys.map (·.keyId)).Nodup

/-! ## Loading -/

/-- What is found at the path of the snapshot. -/
inductive SnapshotFile where
  | missing
  /-- A symbolic link, or a file that cannot be read or decoded. -/
  | unusable
  | file (content : KeysFile) (ownerOnly : Bool)

/-- `linked`: the pending or the audit file is a symbolic link. `reconciled`: the pending change, if any, was
settled one way or the other. -/
def KeyStore.load (host : KeyHost) (snapshot : SnapshotFile) (linked reconciled : Bool) (bootstrapToken : String) :
    KeyStore :=
  let damaged := linked || match snapshot with
    | .missing => false
    | .unusable => true
    | .file content ownerOnly => !validSnapshot content || !ownerOnly
  let keys := match snapshot with
    | .file content _ => content.keys
    | _ => []
  { keys := if damaged then [] else keys
    damaged := damaged || !reconciled
    bootstrapDigest := host.sha256 (bytes bootstrapToken) }

/-! ## Reading -/

/-- `expires_at` is at or before the clock, as texts. -/
def KeyRecord.expired (record : KeyRecord) (now : ℕ) : Bool :=
  record.expiresAt.any fun expiry => !textBefore (utcNow now) expiry

/-- `[A-Za-z0-9_-]` -/
def isBase64UrlChar (b : UInt8) : Bool :=
  inRange 'A' 'Z' b || isLowerAlpha b || isDecimalDigit b || b == ascii '-' || b == ascii '_'

/-- The part of a text before its first underscore and the part after it. -/
def splitOnce (text : List UInt8) : Option (List UInt8 × List UInt8) :=
  match text.dropWhile (· != ascii '_') with
  | [] => none
  | _ :: rest => some (text.takeWhile (· != ascii '_'), rest)

/-- Every record is compared, and the last one that matches counts. -/
def KeyStore.matching (store : KeyStore) (keyId : List UInt8) (secretDigest : String) : Option KeyRecord :=
  store.keys.foldl
    (fun matched record =>
      if secretDigest = record.secretHash ∧ keyId = bytes record.keyId then some record else matched)
    none

def KeyStore.authenticate (host : KeyHost) (store : KeyStore) (now : ℕ) (bearer : String) : Option Actor :=
  if store.damaged then
    if host.sha256 (bytes bearer) = store.bootstrapDigest then some .bootstrap else none
  else if host.sha256 (bytes bearer) = store.bootstrapDigest then some .bootstrap
  else if !(bytes "iwb_").isPrefixOf (bytes bearer) then none
  else
    match splitOnce ((bytes bearer).drop 4) with
    | none => none
    | some (keyId, secret) =>
      if !isKeyId keyId then none
      else if secret.length != 43 || !secret.all isBase64UrlChar then none
      else
        match store.matching keyId (host.sha256Hex secret) with
        | none => none
        | some record =>
          -- the identifier in the bearer is the one of the record that matched
          if record.bannedAt.isSome || record.expired now then none else some (.delegated record.keyId)

/-- Whether a key may still be used; each record is compared with the clock. -/
def KeyStore.isActive (store : KeyStore) (keyId : String) (now : ℕ) : Bool :=
  !store.damaged &&
    store.keys.any fun key =>
      key.keyId == keyId && key.bannedAt.isNone &&
        key.expiresAt.all fun expiry => textBefore (utcNow now) expiry

structure KeyMetadata where
  keyId : String
  label : String
  createdAt : Option String
  expiresAt : Option String
  bannedAt : Option String
  status : String
  revocable : Bool
deriving DecidableEq

def KeyRecord.metadata (key : KeyRecord) (now : ℕ) : KeyMetadata :=
  { keyId := key.keyId
    label := key.label
    createdAt := some key.createdAt
    expiresAt := key.expiresAt
    bannedAt := key.bannedAt
    status := if key.bannedAt.isSome then "banned" else if key.expired now then "expired" else "active"
    revocable := true }

def KeyStore.metadata (store : KeyStore) (now : ℕ) : List KeyMetadata :=
  { keyId := "bootstrap"
    label := "recovery (IWEB_API_TOKEN)"
    createdAt := none
    expiresAt := none
    bannedAt := none
    status := "active"
    revocable := false } :: store.keys.map (·.metadata now)

/-! ## Changes -/

/-- The step of a commit that failed, with what went wrong in it. -/
inductive CommitFailure where
  | pending (error : String)
  | snapshot (error : String)
  /-- Rotating, opening or appending to the audit log. -/
  | audit (error : String)

def CommitFailure.text : CommitFailure → String
  | .pending error => "pending write failed: " ++ error
  | .snapshot error => "keys snapshot write failed: " ++ error
  | .audit error => "audit " ++ error

/-- How the writes of a commit end: a failure leaves the keys of the store alone, and both a failure and a pending
file that stays may damage the store. -/
structure CommitOutcome where
  failure : Option CommitFailure
  damages : Bool

def KeyStore.commit {α : Type} (store : KeyStore) (outcome : CommitOutcome)
    (mutate : List KeyRecord → Except String (List KeyRecord × α)) : Except String α × KeyStore :=
  match mutate store.keys with
  | .error e => (.error e, store)
  | .ok (keys, a) =>
    match outcome.failure with
    | some failure => (.error failure.text, { store with damaged := store.damaged || outcome.damages })
    | none => (.ok a, { store with keys := keys, damaged := store.damaged || outcome.damages })

def storeDamaged : String := "key store is damaged; delegated state must be restored manually"

def labelRefused : String := "label must be 1-128 bytes without control characters"

def expiryRefused : String := "expiresAt must be a future RFC3339 UTC timestamp"

structure IssuedKey where
  token : String
  record : KeyRecord

/-- The random bytes of one attempt: four for the key identifier, and the encoded secret. -/
structure KeyDraw where
  idBytes : List UInt8
  secret : String
  length_idBytes : idBytes.length = 4

/-- The loop of `create`: draw until the identifier is new. `none` when the draws run out, where the code would
draw again. -/
def KeyStore.issue (host : KeyHost) (store : KeyStore) (label : String) (expiresAt : Option String) (issuedAt : ℕ)
    (outcome : CommitOutcome) : List KeyDraw → Option (Except String IssuedKey × KeyStore)
  | [] => none
  | draw :: draws =>
    let keyId := hexText draw.idBytes
    if store.keys.any (·.keyId == keyId) then store.issue host label expiresAt issuedAt outcome draws
    else
      let record : KeyRecord :=
        { keyId := keyId
          secretHash := host.sha256Hex (bytes draw.secret)
          label := label
          createdAt := utcNow issuedAt
          expiresAt := expiresAt
          bannedAt := none }
      some (store.commit outcome fun keys =>
        if keys.any (·.keyId == keyId) then .error "key identifier collision"
        else .ok (keys ++ [record], ⟨"iwb_" ++ keyId ++ "_" ++ draw.secret, record⟩))

/-- `checkedAt` is the clock when the expiry is checked, `issuedAt` when the record is made. -/
def KeyStore.create (host : KeyHost) (store : KeyStore) (label : String) (expiresAt : Option String)
    (checkedAt issuedAt : ℕ) (outcome : CommitOutcome) (draws : List KeyDraw) :
    Option (Except String IssuedKey × KeyStore) :=
  if store.damaged then some (.error storeDamaged, store)
  else if !validLabel label then some (.error labelRefused, store)
  else if expiresAt.any fun expiry => !validUtcStamp expiry || !textBefore (utcNow checkedAt) expiry then
    some (.error expiryRefused, store)
  else store.issue host label expiresAt issuedAt outcome draws

/-- The first record of the key is marked, once. -/
def markBanned (keyId bannedAt : String) : List KeyRecord → Except String (List KeyRecord × Unit)
  | [] => .error "UNKNOWN_KEY"
  | key :: keys =>
    if key.keyId = keyId then
      .ok ((if key.bannedAt.isNone then { key with bannedAt := some bannedAt } else key) :: keys, ())
    else
      match markBanned keyId bannedAt keys with
      | .error e => .error e
      | .ok (keys', u) => .ok (key :: keys', u)

def KeyStore.ban (store : KeyStore) (keyId : String) (bannedAt : ℕ) (outcome : CommitOutcome) :
    Except String Unit × KeyStore :=
  if store.damaged then (.error storeDamaged, store)
  else if keyId = "bootstrap" then (.error "IMMUTABLE_BOOTSTRAP", store)
  else store.commit outcome (markBanned keyId (utcNow bannedAt))

/-! ## Runs -/

inductive KeyOp where
  | create (label : String) (expiresAt : Option String) (checkedAt issuedAt : ℕ) (outcome : CommitOutcome)
      (draws : List KeyDraw)
  | ban (keyId : String) (bannedAt : ℕ) (outcome : CommitOutcome)

/-- One change of the store. -/
def KeyStore.step (host : KeyHost) (store : KeyStore) : KeyOp → KeyStore
  | .create label expiresAt checkedAt issuedAt outcome draws =>
    match store.create host label expiresAt checkedAt issuedAt outcome draws with
    | some (_, store') => store'
    | none => store
  | .ban keyId bannedAt outcome => (store.ban keyId bannedAt outcome).2

def KeyStore.after (host : KeyHost) (store : KeyStore) (ops : List KeyOp) : KeyStore :=
  ops.foldl (KeyStore.step host) store

end Iweb.Keys
