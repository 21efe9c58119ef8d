import Iweb.Foundations.CrashRefinement
import Iweb.Kernel.Wire

/-!
# The logging ring

The diagnostic records of one application in memory. A write is validated, its reserved fields are redacted, and
it is measured; a full ring drops it and counts it. Records are never evicted, and an owner drains them by pages.
-/

namespace Iweb

open CrashRefinement

def logMessageMaxBytes : Nat := 4096
def logFieldsMax : Nat := 32
def logFieldValueMaxBytes : Nat := 1024
def drainMaxEvents : Nat := 1000

inductive LogLevel
  | trace
  | debug
  | info
  | warn
  | error
deriving DecidableEq

def LogLevel.asStr : LogLevel → String
  | .trace => "trace"
  | .debug => "debug"
  | .info => "info"
  | .warn => "warn"
  | .error => "error"

inductive LoggingError
  | invalidEvent
  | limitExceeded
  | appIsolation
  | unavailable
  | internal
deriving DecidableEq

/-! ## Events -/

structure LoggingField where
  key : String
  value : String
deriving DecidableEq

structure LoggingEvent where
  level : LogLevel
  message : String
  fields : List LoggingField
deriving DecidableEq

/-- What the host adds to an event. -/
structure LoggingHostContext where
  applicationId : String
  versionId : String
  preparationGeneration : Nat
  executionGeneration : Nat
  timestampUtc : String
  operationId : Option String
deriving DecidableEq

def logReservedFieldKeys : List String :=
  ["authorization", "cookie", "set-cookie", "x-api-key", "api-key", "token", "secret", "password", "credential",
    "request-body", "sql", "kv", "config", "owner-key"]

def logRedactedValue : String := "[REDACTED]"

def redactLoggingField (field : LoggingField) : LoggingField :=
  if logReservedFieldKeys.contains field.key then { field with value := logRedactedValue } else field

def redactLoggingFields (fields : List LoggingField) : List LoggingField := fields.map redactLoggingField

/-- `^[a-z][a-z0-9._-]{0,63}$` -/
def isValidFieldKey (key : String) : Bool :=
  match bytes key with
  | [] => false
  | b :: rest => rest.length ≤ 63 && isLowerAlpha b &&
      rest.all fun b => isLabelChar b || b == ascii '.' || b == ascii '_'

/-- The number of decimal digits. -/
def digitCount (value : Nat) : Nat := if 10 ≤ value then digitCount (value / 10) + 1 else 1

def byteLength (s : String) : Nat := (bytes s).length

def fieldBytes (field : LoggingField) : Nat := byteLength field.key + byteLength field.value

/-- The size of an event is measured after its redaction. -/
def measureLoggingEventBytes (event : LoggingEvent) (host : LoggingHostContext) (eventId : Nat) : Nat :=
  byteLength host.timestampUtc + byteLength host.applicationId + byteLength host.versionId +
    (match host.operationId with | none => 0 | some operationId => byteLength operationId) +
    digitCount host.preparationGeneration + digitCount host.executionGeneration + digitCount eventId +
    byteLength event.level.asStr + byteLength event.message +
    ((redactLoggingFields event.fields).map fieldBytes).sum

/-- The fields after those with the given keys. -/
def validateLoggingFields : List String → List LoggingField → Except LoggingError Unit
  | _, [] => .ok ()
  | seen, field :: fields =>
    if !isValidFieldKey field.key then .error .invalidEvent
    else if seen.contains field.key then .error .invalidEvent
    else if logFieldValueMaxBytes < byteLength field.value then .error .limitExceeded
    else validateLoggingFields (field.key :: seen) fields

def validateLoggingEvent (event : LoggingEvent) (maxMessageBytes : Nat) : Except LoggingError Unit :=
  if maxMessageBytes < byteLength event.message || logMessageMaxBytes < byteLength event.message then
    .error .limitExceeded
  else if logFieldsMax < event.fields.length then .error .limitExceeded
  else validateLoggingFields [] event.fields

/-! ## The ring -/

structure RetainedLogRecord where
  eventId : Nat
  timestampUtc : String
  applicationId : String
  versionId : String
  preparationGeneration : Nat
  executionGeneration : Nat
  level : LogLevel
  message : String
  fields : List LoggingField
  operationId : Option String
deriving DecidableEq

structure RingCapacity where
  maxEvents : Nat
  maxBytes : Nat
deriving DecidableEq

structure LoggingRing where
  applicationId : String
  capacity : RingCapacity
  events : List RetainedLogRecord
  retainedBytes : Nat
  droppedCount : Nat
  nextEventId : Nat

structure DrainResponse where
  applicationId : String
  events : List RetainedLogRecord
  droppedCount : Nat
  hasMore : Bool
  lastEventId : Nat

/-- `^[a-z0-9](?:[a-z0-9-]{0,62}[a-z0-9])?$` -/
def isOpaqueId (s : String) : Bool :=
  let bs := bytes s
  bs.length ≤ 64 && bs.all isLabelChar && bs.head?.any isLabelEdge && bs.getLast?.any isLabelEdge

namespace LoggingRing

def fresh (applicationId : String) (capacity : RingCapacity) : LoggingRing := ⟨applicationId, capacity, [], 0, 0, 1⟩

/-- `LoggingRing::new` -/
def new (applicationId : String) (capacity : RingCapacity) : Except LoggingError LoggingRing :=
  if !isOpaqueId applicationId then .error .internal
  else if capacity.maxEvents = 0 ∨ capacity.maxBytes = 0 then .error .internal
  else .ok (fresh applicationId capacity)

/-- The record of an event under an id. -/
def recordOf (host : LoggingHostContext) (event : LoggingEvent) (eventId : Nat) : RetainedLogRecord where
  eventId := eventId
  timestampUtc := host.timestampUtc
  applicationId := host.applicationId
  versionId := host.versionId
  preparationGeneration := host.preparationGeneration
  executionGeneration := host.executionGeneration
  level := event.level
  message := event.message
  fields := redactLoggingFields event.fields
  operationId := host.operationId

/-- `LoggingRing::write`; `false` says that the event was dropped. -/
def write (ring : LoggingRing) (host : LoggingHostContext) (event : LoggingEvent) (maxEventBytes : Nat) :
    LoggingRing × Except LoggingError Bool :=
  if host.applicationId ≠ ring.applicationId then (ring, .error .appIsolation)
  else
    match validateLoggingEvent event logMessageMaxBytes with
    | .error failure => (ring, .error failure)
    | .ok () =>
      let eventBytes := measureLoggingEventBytes event host ring.nextEventId
      if maxEventBytes < eventBytes then (ring, .error .limitExceeded)
      else if ring.capacity.maxEvents ≤ ring.events.length ∨ ring.capacity.maxBytes < ring.retainedBytes + eventBytes then
        ({ ring with droppedCount := ring.droppedCount + 1 }, .ok false)
      else
        ({ ring with
            events := ring.events ++ [recordOf host event ring.nextEventId]
            retainedBytes := ring.retainedBytes + eventBytes
            nextEventId := ring.nextEventId + 1 }, .ok true)

/-- `LoggingRing::drain` -/
def drain (ring : LoggingRing) (applicationId : String) (afterEventId maxEvents : Nat) :
    Except LoggingError DrainResponse :=
  if applicationId ≠ ring.applicationId then .error .appIsolation
  else if ¬(1 ≤ maxEvents ∧ maxEvents ≤ drainMaxEvents) then .error .limitExceeded
  else
    let eligible := ring.events.filter fun record => afterEventId < record.eventId
    let selected := min eligible.length maxEvents
    .ok {
      applicationId := ring.applicationId
      events := eligible.take selected
      droppedCount := ring.droppedCount
      hasMore := selected < eligible.length
      lastEventId := ring.nextEventId - 1 }

end LoggingRing

/-! ## Histories -/

/-- The arguments of a write. -/
structure LoggingWrite where
  host : LoggingHostContext
  event : LoggingEvent
  maxEventBytes : Nat

/-- A write of the application's own host, with a valid event within its byte limit. -/
def LoggingWrite.fits (w : LoggingWrite) (ring : LoggingRing) : Bool :=
  w.host.applicationId == ring.applicationId &&
    (validateLoggingEvent w.event logMessageMaxBytes).toOption.isSome &&
    measureLoggingEventBytes w.event w.host ring.nextEventId ≤ w.maxEventBytes

inductive LoggingCall
  | write (w : LoggingWrite)
  | drain (applicationId : String) (afterEventId maxEvents : Nat)

/-- The ring after a call. -/
def LoggingRing.step (ring : LoggingRing) : LoggingCall → LoggingRing
  | .write w => (ring.write w.host w.event w.maxEventBytes).1
  | .drain _ _ _ => ring

/-- The valid events of a history, each with the ring it was written to. -/
def offeredEvents (ring : LoggingRing) : List LoggingCall → List LoggingWrite
  | [] => []
  | .write w :: calls =>
    if w.fits ring then w :: offeredEvents (ring.step (.write w)) calls else offeredEvents (ring.step (.write w)) calls
  | .drain applicationId after maxEvents :: calls => offeredEvents (ring.step (.drain applicationId after maxEvents)) calls

/-- The id a client has seen last. -/
def lastSeen (after : Nat) (records : List RetainedLogRecord) : Nat :=
  match records.getLast? with
  | none => after
  | some record => record.eventId

/-- An owner drains page by page, from the id seen last, until there is no more; before each page the ring may
take other calls. The records of the pages come back, with the ring of the last one. -/
def drainLoop (maxEvents : Nat) : List (List LoggingCall) → LoggingRing → Nat →
    List RetainedLogRecord × Option LoggingRing
  | [], _, _ => ([], none)
  | calls :: rest, ring, after =>
    let ring := run LoggingRing.step ring calls
    match ring.drain ring.applicationId after maxEvents with
    | .error _ => ([], none)
    | .ok response =>
      if response.hasMore then
        let (records, last) := drainLoop maxEvents rest ring (lastSeen after response.events)
        (response.events ++ records, last)
      else (response.events, some ring)

/-- The size of a retained record. -/
def recordBytes (record : RetainedLogRecord) : Nat :=
  measureLoggingEventBytes ⟨record.level, record.message, record.fields⟩
    ⟨record.applicationId, record.versionId, record.preparationGeneration, record.executionGeneration,
      record.timestampUtc, record.operationId⟩ record.eventId

/-- What holds of a ring, and of the events that were offered to it. -/
structure LoggingRing.Sound (ring : LoggingRing) (offered : List LoggingWrite) : Prop where
  bytes : ring.retainedBytes = (ring.events.map recordBytes).sum
  bounded : ring.retainedBytes ≤ ring.capacity.maxBytes
  count : ring.events.length ≤ ring.capacity.maxEvents
  ids : ring.events.map RetainedLogRecord.eventId = List.range' 1 ring.events.length
  next : ring.nextEventId = ring.events.length + 1
  /-- The retained records are those of some of the offered events, in their order, and the others are counted. -/
  retained : ∃ kept : List LoggingWrite, kept.Sublist offered ∧
    ring.events = kept.mapIdx (fun i w => LoggingRing.recordOf w.host w.event (i + 1)) ∧
    kept.length + ring.droppedCount = offered.length
  redacted : ∀ record ∈ ring.events, ∀ field ∈ record.fields, field.key ∈ logReservedFieldKeys →
    field.value = logRedactedValue

/-- A write that fits is retained or counted, and any other one changes nothing. -/
def LoggingRing.Offers (ring : LoggingRing) (w : LoggingWrite) : Prop :=
  if w.fits ring then
    (∃ eventBytes, ring.step (.write w) = { ring with
      events := ring.events ++ [LoggingRing.recordOf w.host w.event ring.nextEventId]
      retainedBytes := ring.retainedBytes + eventBytes
      nextEventId := ring.nextEventId + 1 }) ∨
    ring.step (.write w) = { ring with droppedCount := ring.droppedCount + 1 }
  else ring.step (.write w) = ring

/-- Pages of any size drain every record once and in order, whatever is written between the pages; without
writes between them, one page more than there are records is enough. -/
structure LoggingRing.Drains (ring : LoggingRing) : Prop where
  complete : ∀ (maxEvents : Nat) (between : List (List LoggingCall)) (records : List RetainedLogRecord)
    (last : LoggingRing), drainLoop maxEvents between ring 0 = (records, some last) → records = last.events
  ends : ∀ maxEvents, 1 ≤ maxEvents → maxEvents ≤ drainMaxEvents →
    drainLoop maxEvents (List.replicate (ring.events.length + 1) []) ring 0 = (ring.events, some ring)

end Iweb
