import Iweb.HostServices.LoggingWire
import Iweb.Supervisor.Executor
import Mathlib.Logic.Function.Basic

/-!
# The handoff table of the relay

The Kernel hands the secret and config snapshots of a command to the relay, each as a descriptor with the record that
says what it holds. The relay keeps them until the execution is spawned.
-/

namespace Iweb

def iwebSecretSnapshotExpired : String := "IWEB_SECRET_SNAPSHOT_EXPIRED"
def iwebConfigSnapshotExpired : String := "IWEB_CONFIG_SNAPSHOT_EXPIRED"
def snapshotWireInvalid : String := "SNAPSHOT_WIRE_INVALID"
def snapshotValuesDigestMismatch : String := "SNAPSHOT_VALUES_DIGEST_MISMATCH"
def snapshotFdPolicyRejected : String := "SNAPSHOT_FD_POLICY_REJECTED"

structure SnapshotFdError where
  code : String
  detail : String
deriving DecidableEq

inductive SnapshotFrameKind
  | secretRequest
  | configRequest
  | acknowledgement
deriving DecidableEq

structure SecretSnapshotFdHandoffV1 where
  schemaVersion : Nat
  kind : String
  commandId : String
  commandDigest : String
  reference : String
  applicationId : String
  versionId : String
  preparationGeneration : Nat
  secretRevision : Nat
  valuesDigest : String
  fdDigest : String
  expiresAt : String
deriving DecidableEq

structure ConfigSnapshotFdHandoffV1 where
  schemaVersion : Nat
  kind : String
  commandId : String
  commandDigest : String
  reference : String
  applicationId : String
  versionId : String
  preparationGeneration : Nat
  configRevision : Nat
  valuesDigest : String
  fdDigest : String
  expiresAt : String
deriving DecidableEq

inductive SnapshotHandoffPayload
  | secret (payload : SecretSnapshotFdHandoffV1)
  | config (payload : ConfigSnapshotFdHandoffV1)
deriving DecidableEq

namespace SnapshotHandoffPayload

def frameKind : SnapshotHandoffPayload → SnapshotFrameKind
  | .secret _ => .secretRequest
  | .config _ => .configRequest

def commandId : SnapshotHandoffPayload → String
  | .secret payload => payload.commandId
  | .config payload => payload.commandId

def fdDigest : SnapshotHandoffPayload → String
  | .secret payload => payload.fdDigest
  | .config payload => payload.fdDigest

def valuesDigest : SnapshotHandoffPayload → String
  | .secret payload => payload.valuesDigest
  | .config payload => payload.valuesDigest

def expiresAt : SnapshotHandoffPayload → String
  | .secret payload => payload.expiresAt
  | .config payload => payload.expiresAt

def expiredCode : SnapshotHandoffPayload → String
  | .secret _ => iwebSecretSnapshotExpired
  | .config _ => iwebConfigSnapshotExpired

/-- The members of a payload in the order of their keys. -/
def members : SnapshotHandoffPayload → List (String × Json)
  | .secret payload =>
    [("application_id", .string payload.applicationId), ("command_digest", .string payload.commandDigest),
      ("command_id", .string payload.commandId), ("expires_at", .string payload.expiresAt),
      ("fd_digest", .string payload.fdDigest), ("kind", .string payload.kind),
      ("preparation_generation", .ofNat payload.preparationGeneration), ("ref", .string payload.reference),
      ("schema_version", .ofNat payload.schemaVersion), ("secret_revision", .ofNat payload.secretRevision),
      ("values_digest", .string payload.valuesDigest), ("version_id", .string payload.versionId)]
  | .config payload =>
    [("application_id", .string payload.applicationId), ("command_digest", .string payload.commandDigest),
      ("command_id", .string payload.commandId), ("config_revision", .ofNat payload.configRevision),
      ("expires_at", .string payload.expiresAt), ("fd_digest", .string payload.fdDigest),
      ("kind", .string payload.kind), ("preparation_generation", .ofNat payload.preparationGeneration),
      ("ref", .string payload.reference), ("schema_version", .ofNat payload.schemaVersion),
      ("values_digest", .string payload.valuesDigest), ("version_id", .string payload.versionId)]

end SnapshotHandoffPayload

/-! ## Digests -/

/-- SHA-256, in hex, of a domain's line followed by bytes, or by the canonical bytes of a value. -/
structure SnapshotDigests where
  ofBytes : String → List UInt8 → String
  ofJcs : String → Json → String

def secretSnapshotDigestDomain : String := "iweb-secret-snapshot-v1"
def configSnapshotDigestDomain : String := "iweb-config-snapshot-v1"
def snapshotHandoffDigestDomain : String := "iweb-snapshot-handoff-v1"

/-- `compute_snapshot_fd_digest` -/
def computeSnapshotFdDigest (digests : SnapshotDigests) (kind : SnapshotFrameKind) (fdBytes : List UInt8) :
    Except SnapshotFdError String :=
  match kind with
  | .secretRequest => .ok (digests.ofBytes secretSnapshotDigestDomain fdBytes)
  | .configRequest => .ok (digests.ofBytes configSnapshotDigestDomain fdBytes)
  | .acknowledgement =>
    .error ⟨snapshotWireInvalid, "an acknowledgement frame carries no snapshot descriptor digest"⟩

/-- What `validate_jcs_domain` says of a text or a number outside its domain. -/
def jcsDomainFault : Json → String
  | .string _ => "non-ASCII strings are outside the canonical ASCII-only domain"
  | _ => "integer exceeds the u53 JSON safe-integer domain"

/-- `handoff_jcs_bytes`, as the value whose bytes they are. -/
def handoffJcsBytes (payload : SnapshotHandoffPayload) : Except SnapshotFdError Json :=
  match payload.members.find? fun member => !validateJcsDomain member.2 with
  | some member =>
    .error ⟨snapshotWireInvalid, "handoff payload is outside the canonical JCS domain: " ++ jcsDomainFault member.2⟩
  | none => .ok (.object payload.members)

/-- `compute_snapshot_handoff_digest` -/
def computeSnapshotHandoffDigest (digests : SnapshotDigests) (payload : SnapshotHandoffPayload) :
    Except SnapshotFdError String :=
  (handoffJcsBytes payload).map (digests.ofJcs snapshotHandoffDigestDomain)

/-! ## The table -/

inductive SnapshotAckStatus
  | accepted
  | rejected
deriving DecidableEq

structure SnapshotFdAckV1 where
  schemaVersion : Nat
  kind : String
  commandId : String
  handoffDigest : String
  status : SnapshotAckStatus
  failureCode : Option String
  journalRevision : Nat
deriving DecidableEq

/-- A handoff the relay holds: its descriptor, the bytes read from it, what is known of it, and the answer given. -/
structure HeldHandoff where
  payload : SnapshotHandoffPayload
  fd : Nat
  fdBytes : List UInt8
  descriptorRegularFile : Bool
  descriptorReadOnly : Bool
  storedAck : SnapshotFdAckV1
deriving DecidableEq

/-- What is held for a command. -/
structure HeldCommand where
  secret : Option HeldHandoff
  config : Option HeldHandoff
deriving DecidableEq

namespace HeldCommand

def empty : HeldCommand := ⟨none, none⟩

def slot (command : HeldCommand) : SnapshotFrameKind → Option HeldHandoff
  | .secretRequest => command.secret
  | .configRequest => command.config
  | .acknowledgement => none

def fill (command : HeldCommand) (kind : SnapshotFrameKind) (held : HeldHandoff) : HeldCommand :=
  match kind with
  | .secretRequest => { command with secret := some held }
  | .configRequest => { command with config := some held }
  | .acknowledgement => command

end HeldCommand

structure HandoffTable where
  inner : String → Option HeldCommand
  nextJournalRevision : Nat

/-- What a lookup shows of a held handoff. -/
structure HeldHandoffSummary where
  payload : SnapshotHandoffPayload
  fdBytes : List UInt8
  descriptorRegularFile : Bool
  descriptorReadOnly : Bool

def HeldHandoff.summary (held : HeldHandoff) : HeldHandoffSummary :=
  ⟨held.payload, held.fdBytes, held.descriptorRegularFile, held.descriptorReadOnly⟩

structure SpawnInputs where
  secretFd : Nat
  configFd : Option Nat

/-- The arguments of an accept. -/
structure SnapshotDelivery where
  payload : SnapshotHandoffPayload
  fd : Nat
  fdBytes : List UInt8
  descriptorRegularFile : Bool
  descriptorReadOnly : Bool
  nowEpochMillis : Int

/-- `handoff_expires_epoch_millis` -/
def handoffExpiresEpochMillis (payload : SnapshotHandoffPayload) : Except SnapshotFdError Int :=
  match parseRfc3339UtcMillis payload.expiresAt with
  | .error failure => .error ⟨snapshotWireInvalid, "expiresAt is not RFC3339 UTC: " ++ failure.detail⟩
  | .ok millis =>
    if 2 ^ 63 ≤ millis then .error ⟨snapshotWireInvalid, "expiresAt exceeds the epoch-millisecond domain"⟩
    else .ok millis

/-- The checks of an accept, with the digest of the handoff. -/
def SnapshotDelivery.check (digests : SnapshotDigests) (delivery : SnapshotDelivery) :
    Except SnapshotFdError String := do
  let payload := delivery.payload
  let expiresMillis ← handoffExpiresEpochMillis payload
  if expiresMillis ≤ delivery.nowEpochMillis then
    .error ⟨payload.expiredCode, "the snapshot handoff window has expired; no descriptor is retained"⟩
  else
    let recomputed ← computeSnapshotFdDigest digests payload.frameKind delivery.fdBytes
    if recomputed ≠ payload.fdDigest ∨ recomputed ≠ payload.valuesDigest then
      .error ⟨snapshotValuesDigestMismatch,
        "the descriptor bytes digest does not equal the handoff fdDigest and valuesDigest"⟩
    else if delivery.descriptorRegularFile = false ∨ delivery.descriptorReadOnly = false then
      .error ⟨snapshotFdPolicyRejected, "the received descriptor must reference a regular read-only file"⟩
    else computeSnapshotHandoffDigest digests payload

namespace HandoffTable

def new : HandoffTable := ⟨fun _ => none, 0⟩

/-- `lookup` -/
def lookup (table : HandoffTable) (commandId : String) : Option HeldHandoffSummary × Option HeldHandoffSummary :=
  match table.inner commandId with
  | none => (none, none)
  | some command => (command.secret.map HeldHandoff.summary, command.config.map HeldHandoff.summary)

/-- `with_spawn_inputs` -/
def withSpawnInputs {τ : Type} (table : HandoffTable) (commandId : String) (spawn : SpawnInputs → τ) :
    Except String τ :=
  match table.inner commandId with
  | none => .error snapshotHandoffMissing
  | some command =>
    match command.secret with
    | none => .error snapshotHandoffMissing
    | some secret => .ok (spawn ⟨secret.fd, command.config.map HeldHandoff.fd⟩)

/-- `consume`; the table after it, and how many handoffs it dropped. -/
def consume (table : HandoffTable) (commandId : String) : HandoffTable × Nat :=
  ({ table with inner := Function.update table.inner commandId none },
    match table.inner commandId with
    | none => 0
    | some command => command.secret.isSome.toNat + command.config.isSome.toNat)

/-- `accept`; the table after it, and its answer. -/
def accept (digests : SnapshotDigests) (table : HandoffTable) (delivery : SnapshotDelivery) :
    HandoffTable × Except SnapshotFdError SnapshotFdAckV1 :=
  match delivery.check digests with
  | .error failure => (table, .error failure)
  | .ok handoffDigest =>
    let payload := delivery.payload
    let command := (table.inner payload.commandId).getD .empty
    -- The entry of the command is there from here on, also where the handoff is refused.
    let entered : HandoffTable :=
      { table with inner := Function.update table.inner payload.commandId (some command) }
    match command.slot payload.frameKind with
    | some existing =>
      match computeSnapshotHandoffDigest digests existing.payload with
      | .error failure => (entered, .error failure)
      | .ok existingDigest =>
        if existingDigest = handoffDigest then (entered, .ok existing.storedAck)
        else
          (entered, .error ⟨snapshotHandoffIdConflict,
            "a known commandId was re-sent with a differing handoff body; no descriptor is replaced"⟩)
    | none =>
      let revision := table.nextJournalRevision + 1
      let ack : SnapshotFdAckV1 := ⟨1, "ack", payload.commandId, handoffDigest, .accepted, none, revision⟩
      let held : HeldHandoff :=
        ⟨payload, delivery.fd, delivery.fdBytes, delivery.descriptorRegularFile, delivery.descriptorReadOnly, ack⟩
      (⟨Function.update table.inner payload.commandId (some (command.fill payload.frameKind held)), revision⟩,
        .ok ack)

/-- The handoff of a kind held for a command. -/
def held (table : HandoffTable) (commandId : String) (kind : SnapshotFrameKind) : Option HeldHandoff :=
  (table.inner commandId).bind fun command => command.slot kind

/-- Two tables answer alike for every command. -/
def SameAnswers (table other : HandoffTable) : Prop :=
  ∀ commandId, table.lookup commandId = other.lookup commandId ∧
    (∀ (τ : Type) (spawn : SpawnInputs → τ),
      table.withSpawnInputs commandId spawn = other.withSpawnInputs commandId spawn) ∧
    (table.consume commandId).2 = (other.consume commandId).2

end HandoffTable

/-! ## Runs -/

inductive HandoffCall
  | accept (delivery : SnapshotDelivery)
  | lookup (commandId : String)
  | withSpawnInputs (commandId : String)
  | consume (commandId : String)

/-- A delivery that was accepted, with the answer given to it. -/
structure HandoffAcceptance where
  delivery : SnapshotDelivery
  ack : SnapshotFdAckV1

/-- The table, and what it has accepted so far. -/
structure HandoffSystem where
  table : HandoffTable
  accepted : List HandoffAcceptance

namespace HandoffSystem

def initial : HandoffSystem := ⟨.new, []⟩

variable (digests : SnapshotDigests)

def step (system : HandoffSystem) : HandoffCall → HandoffSystem
  | .accept delivery =>
    let (table, answer) := system.table.accept digests delivery
    ⟨table, system.accepted ++ answer.toOption.toList.map (HandoffAcceptance.mk delivery)⟩
  | .lookup _ => system
  | .withSpawnInputs _ => system
  | .consume commandId => { system with table := (system.table.consume commandId).1 }

/-- A command and a kind name one handoff: whatever was accepted for them is one body with one answer. -/
def OneHandoff (system : HandoffSystem) : Prop :=
  ∀ first ∈ system.accepted, ∀ second ∈ system.accepted,
    first.delivery.payload.commandId = second.delivery.payload.commandId →
      first.delivery.payload.frameKind = second.delivery.payload.frameKind →
        first.delivery.payload = second.delivery.payload ∧ first.ack = second.ack

/-- A journal revision names one handoff. -/
def OneRevision (system : HandoffSystem) : Prop :=
  ∀ first ∈ system.accepted, ∀ second ∈ system.accepted,
    first.ack.journalRevision = second.ack.journalRevision → first.delivery.payload = second.delivery.payload

/-- What is held has the digests of its record, and was accepted with it before it expired. -/
structure HeldAsAccepted (system : HandoffSystem) (commandId : String) (kind : SnapshotFrameKind)
    (held : HeldHandoff) : Prop where
  command : held.payload.commandId = commandId
  frame : held.payload.frameKind = kind
  fdDigest : computeSnapshotFdDigest digests kind held.fdBytes = .ok held.payload.fdDigest
  valuesDigest : held.payload.fdDigest = held.payload.valuesDigest
  accepted : ∃ acceptance ∈ system.accepted, acceptance.delivery.payload = held.payload ∧
    acceptance.delivery.fdBytes = held.fdBytes ∧ acceptance.ack = held.storedAck ∧
      ∃ expires, handoffExpiresEpochMillis held.payload = .ok expires ∧ acceptance.delivery.nowEpochMillis < expires

/-- A delivery that passes the checks is for a command and a kind that are held, or were never accepted. -/
def KeepsId (system : HandoffSystem) : HandoffCall → Prop
  | .accept delivery => (delivery.check digests).toOption.isSome = true →
    (system.table.held delivery.payload.commandId delivery.payload.frameKind).isSome = true ∨
      ∀ acceptance ∈ system.accepted, acceptance.delivery.payload.commandId = delivery.payload.commandId →
        acceptance.delivery.payload.frameKind ≠ delivery.payload.frameKind
  | _ => True

/-- The payloads delivered in a run. -/
def deliveredPayloads (calls : List HandoffCall) : List SnapshotHandoffPayload :=
  calls.filterMap fun call => match call with
    | .accept delivery => some delivery.payload
    | _ => none

instance KeepsId.decidable (system : HandoffSystem) : (call : HandoffCall) → Decidable (system.KeepsId digests call)
  | .accept delivery => inferInstanceAs (Decidable ((delivery.check digests).toOption.isSome = true →
      (system.table.held delivery.payload.commandId delivery.payload.frameKind).isSome = true ∨
        ∀ acceptance ∈ system.accepted, acceptance.delivery.payload.commandId = delivery.payload.commandId →
          acceptance.delivery.payload.frameKind ≠ delivery.payload.frameKind))
  | .lookup _ => .isTrue trivial
  | .withSpawnInputs _ => .isTrue trivial
  | .consume _ => .isTrue trivial

/-- No two payloads of a list have the same digest. -/
def CollisionFree (payloads : List SnapshotHandoffPayload) : Prop :=
  ∀ first ∈ payloads, ∀ second ∈ payloads,
    digests.ofJcs snapshotHandoffDigestDomain (.object first.members) =
      digests.ofJcs snapshotHandoffDigestDomain (.object second.members) → first = second

end HandoffSystem

end Iweb
