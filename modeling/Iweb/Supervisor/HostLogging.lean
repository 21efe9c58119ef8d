import Iweb.HostServices.LoggingWire

/-!
# The owner's check of a drained ring

The supervisor keeps no records of its own. It takes an answer of the ring's process only as a whole: with exactly
the keys of the wire, records of the event grammar in rising order, and no reserved field that is not redacted.
-/

namespace Iweb

/-- A problem of a wire: its path and its message. -/
structure WireIssue where
  path : String
  message : String
deriving DecidableEq

structure IwebLoggingEventV1 where
  level : LogLevel
  message : String
  fields : List LoggingField

structure IwebLoggingRetainedRecordV1 where
  eventId : Nat
  timestampUtc : String
  applicationId : String
  versionId : String
  preparationGeneration : Nat
  executionGeneration : Nat
  level : LogLevel
  message : String
  fields : List LoggingField
deriving DecidableEq

structure IwebLoggingDrainResponseV1 where
  applicationId : String
  events : List IwebLoggingRetainedRecordV1
  droppedCount : Nat
  hasMore : Bool
  lastEventId : Nat
deriving DecidableEq

structure IwebLoggingMonitorSummaryV1 where
  applicationId : String
  retainedEvents : Nat
  retainedBytes : Nat
  droppedCount : Nat
  lastEventId : Nat
  maxEvents : Json
  maxBytes : Json

namespace HostLogging

/-! ## Values and keys -/

/-- `requireWireU53` -/
def requireWireU53 (value : Json) (path : String) (minimum : Nat) : List WireIssue × Option Nat :=
  match value with
  | .integer number =>
    if (minimum : Int) ≤ number ∧ number ≤ (wasmU53Max : Int) then ([], some number.toNat)
    else ([⟨path, "must be a u53 safe integer >= " ++ toString minimum⟩], none)
  | _ => ([⟨path, "must be a u53 safe integer >= " ++ toString minimum⟩], none)

/-- A check of a single value. -/
def issueUnless (ok : Bool) (path message : String) : List WireIssue := if ok then [] else [⟨path, message⟩]

/-- The keys an object has too many, and those it lacks. -/
def keyIssues (members : List (String × Json)) (keys : List String) (path what : String) : List WireIssue :=
  ((members.filter fun member => !keys.contains member.1).map fun member =>
    ⟨path ++ "/" ++ member.1, "unknown field is not allowed in " ++ what⟩) ++
  ((keys.filter fun key => !(members.map Prod.fst).contains key).map fun key =>
    ⟨path ++ "/" ++ key, "required field is missing in " ++ what⟩)

/-- `^\d{4}-\d{2}-\d{2}T\d{2}:\d{2}:\d{2}(?:\.\d{1,3})?Z$` -/
def isLogTimestamp (text : String) : Bool :=
  matchesShape timestampShape ((bytes text).take 19) &&
    match (bytes text).drop 19 with
    | [] => false
    | b :: rest =>
      let digits := rest.takeWhile isDecimalDigit
      (b == ascii 'Z' && rest.isEmpty) ||
        (b == ascii '.' && 1 ≤ digits.length && digits.length ≤ 3 && rest.drop digits.length == [ascii 'Z'])

def isNumber : Json → Bool
  | .integer _ => true
  | .decimal _ => true
  | _ => false

/-! ## The check of an event -/

def levels : List LogLevel := [.trace, .debug, .info, .warn, .error]

def levelOf (text : String) : Option LogLevel := levels.find? fun level => level.asStr == text

/-- The fields of an event from an index on, after those with the given keys. -/
def validateEventFields (index : Nat) (seen : List String) : List Json → List WireIssue × List LoggingField
  | [] => ([], [])
  | entry :: entries =>
    let path := "/fields/" ++ toString index
    match entry with
    | .object members =>
      let unknown := (members.filter fun member => !(["key", "value"].contains member.1)).map fun member =>
        ⟨path ++ "/" ++ member.1, "unknown field is not allowed"⟩
      match (Json.field members "key").asStr.filter isValidFieldKey with
      | none =>
        let (issues, fields) := validateEventFields (index + 1) seen entries
        (unknown ++ [⟨path ++ "/key", "key must match ^[a-z][a-z0-9._-]\x7b0,63\x7d$"⟩] ++ issues, fields)
      | some key =>
        if seen.contains key then
          let (issues, fields) := validateEventFields (index + 1) seen entries
          (unknown ++ [⟨path ++ "/key", "field keys must be unique"⟩] ++ issues, fields)
        else
          let (issues, fields) := validateEventFields (index + 1) (key :: seen) entries
          match (Json.field members "value").asStr with
          | none => (unknown ++ [⟨path ++ "/value", "field value must be a string"⟩] ++ issues, fields)
          | some value =>
            if logFieldValueMaxBytes < byteLength value then
              (unknown ++ [⟨path ++ "/value",
                "field value must be at most " ++ toString logFieldValueMaxBytes ++ " UTF-8 bytes"⟩] ++ issues,
                fields)
            else (unknown ++ issues, ⟨key, value⟩ :: fields)
    | _ =>
      let (issues, fields) := validateEventFields (index + 1) seen entries
      (⟨path, "field must be an object"⟩ :: issues, fields)

/-- `validateIwebLoggingEvent`, of an event whose level and message are texts and whose fields are a list. -/
def validateEvent (level message : String) (fields : List Json) : Except (List WireIssue) IwebLoggingEventV1 :=
  let levelIssues := issueUnless (levelOf level).isSome "/level" "level must be one of trace|debug|info|warn|error"
  let messageIssues := issueUnless (byteLength message ≤ logMessageMaxBytes) "/message"
    ("message must be at most " ++ toString logMessageMaxBytes ++ " UTF-8 bytes")
  let countIssues := issueUnless (fields.length ≤ logFieldsMax) "/fields"
    ("fields must contain at most " ++ toString logFieldsMax ++ " entries")
  let (fieldIssues, values) := validateEventFields 0 [] fields
  match levelIssues ++ messageIssues ++ countIssues ++ fieldIssues, levelOf level with
  | [], some level => .ok ⟨level, message, values⟩
  | issues, _ => .error issues

/-! ## The check of a record -/

def retainedRecordKeys : List String :=
  ["eventId", "timestampUtc", "applicationId", "versionId", "preparationGeneration", "executionGeneration", "level",
    "message", "fields"]

/-- The event of a record: not an event at all if one of its parts has another type. -/
def recordEvent (members : List (String × Json)) : Except (List WireIssue) IwebLoggingEventV1 :=
  match (Json.field members "level").asStr, (Json.field members "message").asStr, Json.field members "fields" with
  | some level, some message, .array fields => validateEvent level message fields
  | _, _, _ => .error [⟨"", "event must be an object"⟩]

/-- The problems of a record, but for those of its redaction. -/
def retainedRecordIssues (path : String) (members : List (String × Json)) : List WireIssue :=
  let eventIssues := match recordEvent members with
    | .ok _ => []
    | .error issues => issues.map fun issue => ⟨path ++ issue.path, issue.message⟩
  keyIssues members retainedRecordKeys path "a retained record" ++
    (requireWireU53 (Json.field members "eventId") (path ++ "/eventId") 1).1 ++
    issueUnless ((Json.field members "timestampUtc").asStr.any isLogTimestamp) (path ++ "/timestampUtc")
      "timestampUtc must be an ISO-8601 UTC instant with a Z suffix" ++
    issueUnless ((Json.field members "applicationId").asStr.any isOpaqueId) (path ++ "/applicationId")
      "applicationId must be a lowercase opaque identifier" ++
    issueUnless (Json.field members "versionId").asStr.isSome (path ++ "/versionId") "versionId must be a string" ++
    (requireWireU53 (Json.field members "preparationGeneration") (path ++ "/preparationGeneration") 0).1 ++
    (requireWireU53 (Json.field members "executionGeneration") (path ++ "/executionGeneration") 0).1 ++ eventIssues

/-- The record of an object whose parts have their types. -/
def retainedRecordOf (members : List (String × Json)) : Option IwebLoggingRetainedRecordV1 := do
  let eventId ← (requireWireU53 (Json.field members "eventId") "" 1).2
  let timestampUtc ← (Json.field members "timestampUtc").asStr
  let applicationId ← (Json.field members "applicationId").asStr
  let versionId ← (Json.field members "versionId").asStr
  let preparation ← (requireWireU53 (Json.field members "preparationGeneration") "" 0).2
  let execution ← (requireWireU53 (Json.field members "executionGeneration") "" 0).2
  let event ← (recordEvent members).toOption
  return ⟨eventId, timestampUtc, applicationId, versionId, preparation, execution, event.level, event.message,
    event.fields⟩

/-- `validateIwebLoggingRetainedRecordWireV1`, after the problems found before. -/
def validateRetainedRecord (before : List WireIssue) (path : String) (input : Json) :
    List WireIssue × Option IwebLoggingRetainedRecordV1 :=
  match input with
  | .object members =>
    match before ++ retainedRecordIssues path members, retainedRecordOf members with
    | [], some record =>
      if redactLoggingFields record.fields ≠ record.fields then
        ([⟨path ++ "/fields",
          "a reserved field key carries an unredacted value; the redaction boundary was violated"⟩], none)
      else ([], some record)
    | issues, _ => (issues, none)
  | _ => (before ++ [⟨path, "retained record must be an object"⟩], none)

/-! ## The check of an answer -/

/-- The records of an answer from an index on, after the id of the last one taken and the problems found before. -/
def validateRecords (request : LoggingDrainRequestWireV1) (index previous : Nat) (before : List WireIssue) :
    List Json → List WireIssue × List IwebLoggingRetainedRecordV1
  | [] => (before, [])
  | input :: inputs =>
    let path := "/events/" ++ toString index
    match validateRetainedRecord before path input with
    | (issues, none) => validateRecords request (index + 1) previous issues inputs
    | (issues, some record) =>
      if record.applicationId ≠ request.applicationId then
        validateRecords request (index + 1) previous
          (issues ++ [⟨path ++ "/applicationId", "a retained record belongs to another application"⟩]) inputs
      else if record.eventId ≤ previous then
        validateRecords request (index + 1) previous (issues ++ [⟨path ++ "/eventId",
          "retained event ids must strictly increase within one drain response"⟩]) inputs
      else if record.eventId ≤ request.afterEventId then
        validateRecords request (index + 1) previous (issues ++ [⟨path ++ "/eventId",
          "the authority returned an event at or before the request cursor"⟩]) inputs
      else
        let (issues, records) := validateRecords request (index + 1) record.eventId issues inputs
        (issues, record :: records)

def drainResponseKeys : List String :=
  ["schemaVersion", "applicationId", "events", "droppedCount", "hasMore", "lastEventId"]

/-- The last id precedes that of the last record. -/
def lastPrecedes (lastEventId : Option Nat) (events : List IwebLoggingRetainedRecordV1) : Bool :=
  match lastEventId, events.getLast? with
  | some last, some record => last < record.eventId
  | _, _ => false

/-- `validateIwebLoggingDrainResponseWireV1` -/
def validateDrainResponse (input : Json) (request : LoggingDrainRequestWireV1) :
    Except (List WireIssue) IwebLoggingDrainResponseV1 :=
  match input with
  | .object members =>
    let isOne := match Json.field members "schemaVersion" with
      | .integer value => value == 1
      | _ => false
    let droppedCount := requireWireU53 (Json.field members "droppedCount") "/droppedCount" 0
    let lastEventId := requireWireU53 (Json.field members "lastEventId") "/lastEventId" 0
    let hasMore := match Json.field members "hasMore" with
      | .bool value => some value
      | _ => none
    let issues := keyIssues members drainResponseKeys "" "a drain response" ++
      issueUnless isOne "/schemaVersion" "schemaVersion must be the literal 1" ++
      issueUnless ((Json.field members "applicationId").asStr == some request.applicationId) "/applicationId"
        "the drain response belongs to another application" ++
      droppedCount.1 ++ lastEventId.1 ++ issueUnless hasMore.isSome "/hasMore" "hasMore must be a boolean"
    match Json.field members "events" with
    | .array inputs =>
      let counted := issues ++ issueUnless (inputs.length ≤ request.maxEvents) "/events"
        "the authority returned more events than the request maximum"
      let (found, events) := validateRecords request 0 0 counted inputs
      let issues := found ++ issueUnless (!lastPrecedes lastEventId.2 events) "/lastEventId"
        "lastEventId must not precede the last returned event"
      match issues, droppedCount.2, lastEventId.2, hasMore with
      | [], some droppedCount, some lastEventId, some hasMore =>
        .ok ⟨request.applicationId, events, droppedCount, hasMore, lastEventId⟩
      | issues, _, _, _ => .error issues
    | _ => .error (issues ++ [⟨"/events", "events must be an array"⟩])
  | _ => .error [⟨"", "drain response must be an object"⟩]

def monitorSummaryKeys : List String :=
  ["applicationId", "retainedEvents", "retainedBytes", "droppedCount", "lastEventId", "capacity"]

/-- `validateIwebLoggingMonitorSummaryWireV1` -/
def validateMonitorSummary (input : Json) (applicationId : String) :
    Except (List WireIssue) IwebLoggingMonitorSummaryV1 :=
  match input with
  | .object members =>
    let retainedEvents := requireWireU53 (Json.field members "retainedEvents") "/retainedEvents" 0
    let retainedBytes := requireWireU53 (Json.field members "retainedBytes") "/retainedBytes" 0
    let droppedCount := requireWireU53 (Json.field members "droppedCount") "/droppedCount" 0
    let lastEventId := requireWireU53 (Json.field members "lastEventId") "/lastEventId" 0
    let capacity := match Json.field members "capacity" with
      | .object capacity => some capacity
      | _ => none
    let capacityIssues := match capacity with
      | none => [⟨"/capacity", "capacity must be an object"⟩]
      | some capacity =>
        ((capacity.filter fun member => !(["maxEvents", "maxBytes"].contains member.1)).map fun member =>
          ⟨"/capacity/" ++ member.1, "unknown field is not allowed in ring capacity"⟩) ++
        issueUnless (isNumber (Json.field capacity "maxEvents") && isNumber (Json.field capacity "maxBytes"))
          "/capacity" "maxEvents and maxBytes must be present numbers"
    let issues := keyIssues members monitorSummaryKeys "" "a monitor summary" ++
      issueUnless ((Json.field members "applicationId").asStr == some applicationId) "/applicationId"
        "the monitor summary belongs to another application" ++
      retainedEvents.1 ++ retainedBytes.1 ++ droppedCount.1 ++ lastEventId.1 ++ capacityIssues
    match issues, retainedEvents.2, retainedBytes.2, droppedCount.2, lastEventId.2, capacity with
    | [], some retainedEvents, some retainedBytes, some droppedCount, some lastEventId, some capacity =>
      .ok ⟨applicationId, retainedEvents, retainedBytes, droppedCount, lastEventId, Json.field capacity "maxEvents",
        Json.field capacity "maxBytes"⟩
    | issues, _, _, _, _, _ => .error issues
  | _ => .error [⟨"", "monitor summary must be an object"⟩]

end HostLogging

/-! ## What the owner is owed -/

/-- A record as its owner reads it. -/
def RetainedLogRecord.owner (record : RetainedLogRecord) : IwebLoggingRetainedRecordV1 :=
  ⟨record.eventId, record.timestampUtc, record.applicationId, record.versionId, record.preparationGeneration,
    record.executionGeneration, record.level, record.message, record.fields⟩

def DrainResponse.owner (response : DrainResponse) : IwebLoggingDrainResponseV1 :=
  ⟨response.applicationId, response.events.map RetainedLogRecord.owner, response.droppedCount, response.hasMore,
    response.lastEventId⟩

def MonitorSummary.owner (summary : MonitorSummary) : IwebLoggingMonitorSummaryV1 :=
  ⟨summary.applicationId, summary.retainedEvents, summary.retainedBytes, summary.droppedCount, summary.lastEventId,
    .ofNat summary.capacity.maxEvents, .ofNat summary.capacity.maxBytes⟩

/-- The execution a ring belongs to. -/
structure LoggingIdentity where
  applicationId : String
  versionId : String
  preparationGeneration : Nat
  executionGeneration : Nat
  applicationId_valid : isOpaqueId applicationId = true
  versionId_valid : isWasmVersionId (bytes versionId) = true
  preparationGeneration_le : preparationGeneration ≤ wasmU53Max
  executionGeneration_le : executionGeneration ≤ wasmU53Max

/-- A write of an execution. -/
structure ExecutionWrite where
  timestampUtc : String
  operationId : Option String
  event : LoggingEvent
  maxEventBytes : Nat

/-- The call of the ring for a write of an execution. -/
def LoggingIdentity.call (identity : LoggingIdentity) (w : ExecutionWrite) : LoggingCall :=
  .write ⟨⟨identity.applicationId, identity.versionId, identity.preparationGeneration, identity.executionGeneration,
    w.timestampUtc, w.operationId⟩, w.event, w.maxEventBytes⟩

/-- The ring of an execution after its writes. -/
def LoggingIdentity.ring (identity : LoggingIdentity) (capacity : RingCapacity) (writes : List ExecutionWrite) :
    LoggingRing :=
  CrashRefinement.run LoggingRing.step (.fresh identity.applicationId capacity) (writes.map identity.call)

/-- The page of the records after an id. -/
def LoggingRing.page (ring : LoggingRing) (afterEventId maxEvents : Nat) : List RetainedLogRecord :=
  (ring.events.filter fun record => afterEventId < record.eventId).take maxEvents

/-- The texts of a record are ASCII, and its timestamp has a year of four digits. -/
def RetainedLogRecord.isDeliverable (record : RetainedLogRecord) : Bool :=
  HostLogging.isLogTimestamp record.timestampUtc && isAsciiText record.message &&
    record.fields.all fun field => isAsciiText field.value

/-- An authenticated request for a drain, with the record in its body. -/
structure HostLoggingRequest.IsDrain (request : HostLoggingRequest) (token : String)
    (record : LoggingDrainRequestWireV1) : Prop where
  path : request.path = hostLoggingDrainPath ++ "/" ++ record.applicationId
  method : request.method = "POST"
  token : request.token = some token
  bodyLength : request.bodyLength ≤ hostLoggingDrainMaxBodyBytes
  valid : record.validate = .ok ()
  record : request.record = some record

/-- An authenticated request for a summary. -/
structure HostLoggingRequest.IsSummary (request : HostLoggingRequest) (token applicationId : String) : Prop where
  path : request.path = hostLoggingSummaryPath ++ "/" ++ applicationId
  method : request.method = "GET"
  token : request.token = some token

end Iweb
