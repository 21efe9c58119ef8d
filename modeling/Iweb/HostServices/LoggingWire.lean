import Iweb.HostServices.Logging
import Iweb.Kernel.Identity
import Iweb.Kernel.Json

/-!
# The logging ring as its owner reads it

The owner of an application reads its ring through the supervisor, which asks the process of the application. That
one answers with canonical JSON, whose texts are ASCII, and the supervisor takes only an answer that passes its own
check. A body is the value its text parses to.
-/

namespace Iweb

/-! ## Canonical JSON -/

mutual

/-- `validate_jcs_domain` -/
def validateJcsDomain : Json → Bool
  | .null => true
  | .bool _ => true
  | .integer value => 0 ≤ value && value ≤ (wasmU53Max : Int)
  | .decimal _ => false
  | .string value => isAsciiText value
  | .array items => validateJcsItems items
  | .object members => validateJcsMembers members

def validateJcsItems : List Json → Bool
  | [] => true
  | item :: items => validateJcsDomain item && validateJcsItems items

def validateJcsMembers : List (String × Json) → Bool
  | [] => true
  | (key, member) :: members => isAsciiText key && validateJcsDomain member && validateJcsMembers members

end

/-- `jcs_bytes` -/
def jcsBytes (value : Json) : Option Json := if validateJcsDomain value then some value else none

/-! ## The wires of the ring -/

def LoggingField.toWire (field : LoggingField) : Json :=
  .object [("key", .string field.key), ("value", .string field.value)]

/-- A record without its operation id. -/
def RetainedLogRecord.toWire (record : RetainedLogRecord) : Json :=
  .object [("eventId", .ofNat record.eventId), ("timestampUtc", .string record.timestampUtc),
    ("applicationId", .string record.applicationId), ("versionId", .string record.versionId),
    ("preparationGeneration", .ofNat record.preparationGeneration),
    ("executionGeneration", .ofNat record.executionGeneration), ("level", .string record.level.asStr),
    ("message", .string record.message), ("fields", .array (record.fields.map LoggingField.toWire))]

/-- `DrainResponse::to_wire` -/
def DrainResponse.toWire (response : DrainResponse) : Json :=
  .object [("schemaVersion", .ofNat 1), ("applicationId", .string response.applicationId),
    ("events", .array (response.events.map RetainedLogRecord.toWire)), ("droppedCount", .ofNat response.droppedCount),
    ("hasMore", .bool response.hasMore), ("lastEventId", .ofNat response.lastEventId)]

structure MonitorSummary where
  applicationId : String
  retainedEvents : Nat
  retainedBytes : Nat
  droppedCount : Nat
  lastEventId : Nat
  capacity : RingCapacity

/-- `LoggingRing::monitor_summary` -/
def LoggingRing.monitorSummary (ring : LoggingRing) : MonitorSummary where
  applicationId := ring.applicationId
  retainedEvents := ring.events.length
  retainedBytes := ring.retainedBytes
  droppedCount := ring.droppedCount
  lastEventId := ring.nextEventId - 1
  capacity := ring.capacity

/-- `MonitorSummary::to_wire` -/
def MonitorSummary.toWire (summary : MonitorSummary) : Json :=
  .object [("applicationId", .string summary.applicationId), ("retainedEvents", .ofNat summary.retainedEvents),
    ("retainedBytes", .ofNat summary.retainedBytes), ("droppedCount", .ofNat summary.droppedCount),
    ("lastEventId", .ofNat summary.lastEventId),
    ("capacity", .object [("maxEvents", .ofNat summary.capacity.maxEvents),
      ("maxBytes", .ofNat summary.capacity.maxBytes)])]

/-! ## The endpoint -/

structure LoggingDrainRequestWireV1 where
  schemaVersion : Nat
  applicationId : String
  afterEventId : Nat
  maxEvents : Nat

/-- `LoggingDrainRequestWireV1::validate`: the detail of the first error. -/
def LoggingDrainRequestWireV1.validate (request : LoggingDrainRequestWireV1) : Except String Unit :=
  if request.schemaVersion ≠ 1 then .error "drain request schemaVersion must be the literal 1"
  else if !isOpaqueId request.applicationId then
    .error "applicationId must match ^[a-z0-9]([a-z0-9-]\x7b0,62\x7d[a-z0-9])?$"
  else if !isU53Between request.afterEventId 0 wasmU53Max then
    .error ("afterEventId must be an integer between " ++ toString 0 ++ " and " ++ toString wasmU53Max)
  else if ¬(1 ≤ request.maxEvents ∧ request.maxEvents ≤ drainMaxEvents) then
    .error "maxEvents must be a positive bounded value"
  else .ok ()

/-- A request to an endpoint; the record is what its body parses to. -/
structure HostLoggingRequest where
  path : String
  method : String
  token : Option String
  bodyLength : Nat
  record : Option LoggingDrainRequestWireV1

inductive HostLoggingBody
  | empty
  | error (code detail : String)
  | wire (value : Json)

structure HostLoggingAnswer where
  status : Nat
  body : HostLoggingBody

def hostLoggingDrainPath : String := "/v1/host-logging/drain"

def hostLoggingSummaryPath : String := "/v1/host-logging/summary"

def hostLoggingDrainMaxBodyBytes : Nat := 4096

/-- `split_host_logging_path` -/
def splitHostLoggingPath (path base : String) : Option String :=
  let start := base.toList ++ ['/']
  if !start.isPrefixOf path.toList then none
  else
    let suffix := path.toList.drop start.length
    if suffix.isEmpty || suffix.contains '/' then none else some (String.ofList suffix)

/-- The arm of the summary. -/
def handleLoggingSummary (provider : Option LoggingRing) (request : HostLoggingRequest) (applicationId : String) :
    Option HostLoggingAnswer :=
  if request.method ≠ "GET" then some ⟨405, .empty⟩
  else if !isOpaqueId applicationId then some ⟨404, .empty⟩
  else
    match provider with
    | none => some ⟨404, .error "IWEB_LOG_APPLICATION_UNKNOWN" "no logging ring exists for this application"⟩
    | some ring =>
      if ring.monitorSummary.applicationId ≠ applicationId then
        some ⟨403, .error "IWEB_LOG_APP_ISOLATION" "the monitor summary belongs to another application"⟩
      else (jcsBytes ring.monitorSummary.toWire).map fun payload => ⟨200, .wire payload⟩

/-- The arm of a drain. -/
def handleLoggingDrain (provider : Option LoggingRing) (request : HostLoggingRequest) (applicationId : String) :
    Option HostLoggingAnswer :=
  let invalid (detail : String) : HostLoggingAnswer := ⟨400, .error "IWEB_LOG_DRAIN_REQUEST_INVALID" detail⟩
  if request.method ≠ "POST" then some ⟨405, .empty⟩
  else if !isOpaqueId applicationId then some ⟨404, .empty⟩
  else
    match provider with
    | none => some ⟨404, .error "IWEB_LOG_APPLICATION_UNKNOWN" "no logging ring exists for this application"⟩
    | some ring =>
      if hostLoggingDrainMaxBodyBytes < request.bodyLength then some ⟨413, .empty⟩
      else
        match request.record with
        | none => some (invalid "the drain request body does not parse as the typed record")
        | some record =>
          match record.validate with
          | .error detail => some (invalid detail)
          | .ok () =>
            if record.applicationId ≠ applicationId then
              some ⟨403, .error "IWEB_LOG_APP_ISOLATION"
                "the drain request names a different application than the drain target"⟩
            else
              match ring.drain applicationId record.afterEventId record.maxEvents with
              | .error .appIsolation =>
                some ⟨403, .error "IWEB_LOG_APP_ISOLATION" "the drain target does not own this logging ring"⟩
              | .error .limitExceeded =>
                some ⟨400, .error "IWEB_LOG_LIMIT_EXCEEDED" "the drain request exceeds the bounded drain window"⟩
              | .error _ => some ⟨500, .error "IWEB_LOG_INTERNAL" "the logging ring is unavailable"⟩
              | .ok drained => (jcsBytes drained.toWire).map fun payload => ⟨200, .wire payload⟩

/-- `handle_host_logging` -/
def handleHostLogging (expectedToken : Option String) (provider : Option LoggingRing) (request : HostLoggingRequest) :
    Option HostLoggingAnswer :=
  if expectedToken.isNone || request.token ≠ expectedToken then
    some ⟨403, .error "IWEB_LOG_AUTH_REQUIRED" "host-logging endpoints require the execution-bound access token"⟩
  else
    match splitHostLoggingPath request.path hostLoggingSummaryPath with
    | some applicationId => handleLoggingSummary provider request applicationId
    | none =>
      match splitHostLoggingPath request.path hostLoggingDrainPath with
      | some applicationId => handleLoggingDrain provider request applicationId
      | none => none

/-- The answer of the ingress to a request of a reserved path. -/
def answerHostLogging (expectedToken : Option String) (provider : Option LoggingRing) (request : HostLoggingRequest) :
    HostLoggingAnswer :=
  (handleHostLogging expectedToken provider request).getD ⟨404, .empty⟩

end Iweb
