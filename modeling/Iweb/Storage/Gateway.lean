import Iweb.Catalog.Records
import Iweb.Foundations.CrashRefinement
import Iweb.Foundations.Delimited
import Iweb.Foundations.LineLog
import Iweb.Kernel.Utf16

/-!
# Storage capabilities

A capability is a token of four parts: the application, the expiry, a nonce and a signature of these. It is issued
under a secret, and verified against the secret, the application, the clock and a file of the nonces that were used. A
crash can leave any beginning of the line that the file was to take.
-/

namespace Iweb.Storage

/-! ## Texts -/

/-- `.` -/
def dot : UInt16 := 46

/-- The units of a lower-case label. -/
def isLabelUnit (u : UInt16) : Bool := (97 ≤ u.toNat && u.toNat ≤ 122) || (48 ≤ u.toNat && u.toNat ≤ 57)

/-- `OPAQUE_ID_PATTERN` -/
def isOpaqueIdText (text : JsString) : Bool :=
  text.length ≤ 64 && text.all (fun u => isLabelUnit u || u == 45) && text.head?.any isLabelUnit &&
    text.getLast?.any isLabelUnit

def isHexUnit (u : UInt16) : Bool := (97 ≤ u.toNat && u.toNat ≤ 102) || (48 ≤ u.toNat && u.toNat ≤ 57)

/-- `NONCE_PATTERN` -/
def isNonce (text : JsString) : Bool := text.length == 32 && text.all isHexUnit

def minSecretBytes : ℕ := 32
def maxSecretBytes : ℕ := 512
def minTtlMs : ℤ := 1000
def maxTtlMs : ℤ := 86400000
def maxTimestampDriftMs : ℤ := 3600000
def maxTokenLength : ℕ := 512
def signatureLength : ℕ := 43

/-- `Number.isSafeInteger` -/
def isSafeInteger (n : ℤ) : Bool := -9007199254740991 ≤ n && n ≤ 9007199254740991

/-- The text of a safe integer. -/
def integerText (n : ℤ) : JsString :=
  if n < 0 then 45 :: JsString.ofString n.natAbs.repr else JsString.ofString n.natAbs.repr

/-- A reading of the clock: a time value of the language. -/
abbrev WallClock : Type := { w : ℤ // -8640000000000000 ≤ w ∧ w ≤ 8640000000000000 }

abbrev Nonce : Type := { n : JsString // isNonce n = true }

/-- What the gateway takes from the platform: the signature under a secret, and the safe integer that a text stands
for. -/
structure Platform where
  sign : JsString → JsString → JsString
  number : JsString → Option ℤ
  /-- The base64url text of 32 bytes. -/
  sign_length : ∀ secret payload, (sign secret payload).length = signatureLength
  sign_ascii : ∀ secret payload, ∀ u ∈ sign secret payload, u.toNat < 0x80 ∧ u ≠ dot
  number_integerText : ∀ n, isSafeInteger n = true → number (integerText n) = some n

/-! ## Issuing -/

def payloadOf (applicationId expiresAtText nonce : JsString) : JsString :=
  applicationId ++ dot :: (expiresAtText ++ dot :: nonce)

/-- What a capability was issued for. -/
structure IssuedRecord where
  secret : JsString
  applicationId : JsString
  expiresAt : ℤ
  nonce : JsString
  valid_applicationId : isOpaqueIdText applicationId = true
  safe_expiresAt : isSafeInteger expiresAt = true
  valid_nonce : isNonce nonce = true

def IssuedRecord.payload (record : IssuedRecord) : JsString :=
  payloadOf record.applicationId (integerText record.expiresAt) record.nonce

def IssuedRecord.token (P : Platform) (record : IssuedRecord) : JsString :=
  record.payload ++ dot :: P.sign record.secret record.payload

structure IssueOptions where
  secret : JsString
  /-- `none` when it is not a text. -/
  applicationId : Option JsString
  ttlMs : ℤ
  now : Option ℤ
  nonce : Option JsString

structure IssuedCapability where
  token : JsString
  applicationId : JsString
  expiresAt : ℤ

def hasValidSecretLength (secret : JsString) : Bool :=
  minSecretBytes ≤ secret.utf8.length && secret.utf8.length ≤ maxSecretBytes

def IssueOptions.validNow (options : IssueOptions) (wall : WallClock) : Bool :=
  options.now.all fun now => isSafeInteger now && (now - wall.val).natAbs ≤ maxTimestampDriftMs.natAbs

def issueErrors (options : IssueOptions) (wall : WallClock) : List ValidationIssue :=
  issueUnless (options.applicationId.any isOpaqueIdText) "INVALID_IDENTIFIER" "/applicationId"
    "applicationId must be a lowercase opaque identifier" ++
  issueUnless (hasValidSecretLength options.secret) "INVALID_SECRET" "/secret"
    "secret must be a string of 32 to 512 bytes" ++
  issueUnless (minTtlMs ≤ options.ttlMs && options.ttlMs ≤ maxTtlMs) "INVALID_TTL" "/ttlMs"
    "ttlMs must be an integer between 1000 and 86400000 milliseconds" ++
  issueUnless (options.validNow wall) "INVALID_TIMESTAMP" "/now"
    "now must be a safe integer within 1 hour of the wall clock" ++
  issueUnless (options.nonce.all isNonce) "INVALID_NONCE" "/nonce" "nonce must be 32 lowercase hexadecimal characters"

/-- The expiry of a capability without issues is a safe integer. -/
theorem isSafeInteger_expiresAt {options : IssueOptions} {wall : WallClock} (h : issueErrors options wall = []) :
    isSafeInteger (options.now.getD wall.val + options.ttlMs) = true := by
  unfold issueErrors at h
  simp only [List.append_eq_nil_iff, issueUnless_eq_nil, Bool.and_eq_true, decide_eq_true_iff] at h
  obtain ⟨⟨⟨⟨-, -⟩, httl⟩, hnow⟩, -⟩ := h
  have hwall := wall.property
  unfold minTtlMs maxTtlMs at httl
  unfold IssueOptions.validNow maxTimestampDriftMs at hnow
  unfold isSafeInteger
  rw [Bool.and_eq_true, decide_eq_true_iff, decide_eq_true_iff]
  cases hsome : options.now with
  | none =>
    rw [Option.getD_none]
    omega
  | some now =>
    rw [hsome, Option.all_some, Bool.and_eq_true, decide_eq_true_iff] at hnow
    rw [Option.getD_some]
    omega

theorem isNonce_getD {options : IssueOptions} {wall : WallClock} (h : issueErrors options wall = []) (random : Nonce) :
    isNonce (options.nonce.getD random.val) = true := by
  unfold issueErrors at h
  simp only [List.append_eq_nil_iff, issueUnless_eq_nil] at h
  cases hnonce : options.nonce with
  | none => exact random.property
  | some nonce => simpa [hnonce] using h.2

theorem isOpaqueIdText_applicationId {options : IssueOptions} {wall : WallClock} (h : issueErrors options wall = [])
    {applicationId : JsString} (happlication : options.applicationId = some applicationId) :
    isOpaqueIdText applicationId = true := by
  unfold issueErrors at h
  simp only [List.append_eq_nil_iff, issueUnless_eq_nil] at h
  simpa [happlication] using h.1.1.1.1

/-- The capability that is issued, with what it was issued for. -/
def issueRecord (options : IssueOptions) (wall : WallClock) (random : Nonce) : ValidationResult IssuedRecord :=
  if h : issueErrors options wall = [] then
    match happlication : options.applicationId with
    | some applicationId => .ok
      { secret := options.secret
        applicationId := applicationId
        expiresAt := options.now.getD wall.val + options.ttlMs
        nonce := options.nonce.getD random.val
        valid_applicationId := isOpaqueIdText_applicationId h happlication
        safe_expiresAt := isSafeInteger_expiresAt h
        valid_nonce := isNonce_getD h random }
    | none => validationFailure []
  else validationFailure (issueErrors options wall)

def issueStorageCapability (P : Platform) (options : IssueOptions) (wall : WallClock) (random : Nonce) :
    ValidationResult IssuedCapability :=
  (issueRecord options wall random).map fun record => ⟨record.token P, record.applicationId, record.expiresAt⟩

/-! ## The file of the used nonces -/

/-- What the file system does with a call: the read can fail, and the append can fail or be cut short by a crash after
any number of the bytes. -/
inductive AppendEffect where
  | done
  | failed (written : ℕ)
  | crashed (written : ℕ)

structure StoreEffect where
  readFails : Bool
  append : AppendEffect

inductive Consumed where
  | fresh
  | replayed
  | thrown
  | crashed
deriving DecidableEq

def nonceLine (nonce : JsString) : List UInt8 := nonce.utf8 ++ [LineLog.newline]

/-- Some line of the file is the nonce. -/
def isPresent (file : Option (List UInt8)) (nonce : JsString) : Bool :=
  file.any fun content => (content.splitOn LineLog.newline).any (· == nonce.utf8)

/-- `DurableNonceStore.consume`: the file after it and what it answers. -/
def consume (file : Option (List UInt8)) (nonce : JsString) (effect : StoreEffect) :
    Option (List UInt8) × Consumed :=
  if effect.readFails then (file, .thrown)
  else if isPresent file nonce then (file, .replayed)
  else match effect.append with
    | .done => (some (file.getD [] ++ nonceLine nonce), .fresh)
    | .failed written => (some (file.getD [] ++ (nonceLine nonce).take written), .thrown)
    | .crashed written => (some (file.getD [] ++ (nonceLine nonce).take written), .crashed)

/-! ## Verification -/

inductive CapabilityFailureReason where
  | invalid
  | expired
  | reused
  | mismatch
deriving DecidableEq

structure VerifyOptions where
  secret : JsString
  token : JsString
  applicationId : JsString
  now : Option ℤ

/-- The parts of a token that pass all checks before the comparison of the signatures. -/
structure Parsed where
  applicationId : JsString
  expiresAtText : JsString
  nonce : JsString
  signature : JsString

def Parsed.payload (parsed : Parsed) : JsString :=
  payloadOf parsed.applicationId parsed.expiresAtText parsed.nonce

def parseCapability (P : Platform) (options : VerifyOptions) (wall : ℤ) : Except CapabilityFailureReason Parsed :=
  if options.token.length > maxTokenLength then .error .invalid
  else match Delimited.cut dot options.token with
    | [applicationId, expiresAtText, nonce, signature] =>
      if !isOpaqueIdText applicationId then .error .invalid
      else if applicationId ≠ options.applicationId then .error .mismatch
      else match P.number expiresAtText with
        | none => .error .invalid
        | some expiresAt =>
          if expiresAt ≤ options.now.getD wall then .error .expired
          else if !isNonce nonce then .error .invalid
          else if signature.length ≠ signatureLength then .error .invalid
          else .ok ⟨applicationId, expiresAtText, nonce, signature⟩
    | _ => .error .invalid

/-- `timingSafeEqual`, which throws when the lengths differ. -/
def timingSafeEqual (received wanted : List UInt8) : Option Bool :=
  if received.length ≠ wanted.length then none else some (received == wanted)

/-- How a call ends. -/
inductive Outcome where
  | accepted (applicationId : JsString)
  | refused (reason : CapabilityFailureReason)
  | thrown
  | crashed
deriving DecidableEq

def Parsed.answer (parsed : Parsed) : Consumed → Outcome
  | .fresh => .accepted parsed.applicationId
  | .replayed => .refused .reused
  | .thrown => .refused .invalid
  | .crashed => .crashed

/-- `verifyStorageCapability`: the file after it and how it ends. -/
def verifyStorageCapability (P : Platform) (file : Option (List UInt8)) (options : VerifyOptions) (wall : ℤ)
    (effect : StoreEffect) : Option (List UInt8) × Outcome :=
  match parseCapability P options wall with
  | .error reason => (file, .refused reason)
  | .ok parsed =>
    match timingSafeEqual parsed.signature.utf8 (P.sign options.secret parsed.payload).utf8 with
    | none => (file, .thrown)
    | some false => (file, .refused .invalid)
    | some true =>
      let (file, consumed) := consume file parsed.nonce effect
      (file, parsed.answer consumed)

/-! ## Runs -/

structure Answer where
  options : VerifyOptions
  now : ℤ
  outcome : Outcome
  /-- How many capabilities were issued before. -/
  issuedBefore : ℕ

structure GatewayState where
  file : Option (List UInt8)
  issued : List IssuedRecord
  answers : List Answer
  /-- The nonces that a call has begun to append. -/
  attempted : List JsString

def GatewayState.initial : GatewayState := ⟨none, [], [], []⟩

inductive GatewayEvent where
  | issue (options : IssueOptions) (wall : WallClock) (random : Nonce)
  | verify (options : VerifyOptions) (wall : WallClock) (effect : StoreEffect)

/-- The nonce that a call begins to append. -/
def appending (P : Platform) (file : Option (List UInt8)) (options : VerifyOptions) (wall : ℤ)
    (effect : StoreEffect) : Option JsString :=
  match parseCapability P options wall with
  | .error _ => none
  | .ok parsed =>
    if parsed.signature = P.sign options.secret parsed.payload ∧ effect.readFails = false ∧
      isPresent file parsed.nonce = false then some parsed.nonce else none

/-- A restart between two calls changes nothing: the file is all that the store has. -/
def GatewayState.step (P : Platform) (s : GatewayState) : GatewayEvent → GatewayState
  | .issue options wall random =>
    match issueRecord options wall random with
    | .ok record => { s with issued := s.issued ++ [record] }
    | .error _ => s
  | .verify options wall effect =>
    let (file, outcome) := verifyStorageCapability P s.file options wall.val effect
    { s with
      file := file
      answers := s.answers ++ [⟨options, options.now.getD wall.val, outcome, s.issued.length⟩]
      attempted := s.attempted ++ (appending P s.file options wall.val effect).toList }

/-- The token of an answer that accepts it. -/
def Answer.acceptedToken (answer : Answer) : Option JsString :=
  match answer.outcome with
  | .accepted _ => some answer.options.token
  | _ => none

/-- Capabilities are single-use and scoped, and verification fails closed. -/
structure SingleUse (P : Platform) (s : GatewayState) : Prop where
  once : (s.answers.filterMap Answer.acceptedToken).Nodup
  in_scope : ∀ answer ∈ s.answers, ∀ applicationId, answer.outcome = .accepted applicationId →
    applicationId = answer.options.applicationId ∧ ∃ record ∈ s.issued.take answer.issuedBefore,
      record.secret = answer.options.secret ∧ record.applicationId = answer.options.applicationId ∧
        record.token P = answer.options.token ∧ answer.now < record.expiresAt
  answered : ∀ answer ∈ s.answers, answer.outcome ≠ .thrown
  usable : ∀ record ∈ s.issued, record.nonce ∉ s.attempted → ∀ (now : Option ℤ) (wall : WallClock),
    now.getD wall.val < record.expiresAt →
      (verifyStorageCapability P s.file ⟨record.secret, record.token P, record.applicationId, now⟩ wall.val
        ⟨false, .done⟩).2 = .accepted record.applicationId

/-- Signatures are not forged: a call that presents the signature of a payload under its secret presents a payload that
was issued under this secret. -/
def Unforged (P : Platform) (s : GatewayState) : GatewayEvent → Prop
  | .verify options wall _ => ∀ parsed, parseCapability P options wall.val = .ok parsed →
    parsed.signature = P.sign options.secret parsed.payload →
      ∃ record ∈ s.issued, record.secret = options.secret ∧ record.payload = parsed.payload
  | .issue .. => True

/-- A signature that is compared is ASCII, and a nonce is appended only to complete lines. -/
def Careful (P : Platform) (s : GatewayState) : GatewayEvent → Prop
  | .verify options wall effect =>
    (∀ parsed, parseCapability P options wall.val = .ok parsed → ∀ u ∈ parsed.signature, u.toNat < 0x80) ∧
      ∀ nonce, appending P s.file options wall.val effect = some nonce → LineLog.terminated (s.file.getD []) = true
  | .issue .. => True

end Iweb.Storage
