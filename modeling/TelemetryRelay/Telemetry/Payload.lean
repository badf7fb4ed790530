import TelemetryRelay.Log.Notice
import TelemetryRelay.Telemetry.Record

/-! # From records to payloads

    Every record makes one event. A record with a body makes one log entry too,
    and a body that is an object fans out into a metric for each entry under
    `metrics` and a span for each object under `spans`. The order of the records
    is kept in all four collections. Times are checked as they come, and the
    first bad one stops the build, so that a harvest is never half built.
-/

namespace TelemetryRelay

namespace Telemetry

open Timestamp (Instant)

/-! ## Section 1: Names -/

/-- The name the relay goes by. -/
def relayName : String := "newrelic-lambda-extension"

/-- The version of the relay. -/
def relayVersion : String := "0.1.0"

/-- How log entries and metrics name their producer. -/
def pluginId : String := "com.newrelic.lambda.extension"

/-- The type of every event. -/
def eventType : String := "TelemetryApiEvent"

/-- What the names of metrics start with. -/
def metricNamespace : String := "aws.telemetry.lambda_ext."

/-- The host spans are said to come from. -/
def traceHost : String := "aws.amazon.com"

/-- The greatest number of octets of a log message. -/
def maxMessageOctets : Nat := 4094 + 10000

/-- The function the relay runs beside. -/
structure Identity where
  name : String
  arn : String
deriving DecidableEq, Repr, Inhabited

/-! ## Section 2: Items -/

/-- What an event says of a record. -/
structure EventItem where
  timestamp : Instant
  function : String
  logEventType : String
deriving DecidableEq, Repr

/-- A log entry. -/
structure LogItem where
  timestamp : Instant
  message : String
  identity : Identity
  logEventType : String
  requestId : String
deriving DecidableEq, Repr

/-- A metric. -/
structure MetricItem where
  name : String
  value : Json.Value
  timestamp : Instant
  identity : Identity
  logEventType : String
  requestId : String
deriving Repr

/-- The value of a span attribute: only a duration is a number. -/
inductive AttributeValue where
  | number (x : Binary64)
  | text (s : String)
deriving DecidableEq, Repr

/-- The attributes of a span, in increasing order of their names. -/
abbrev Attributes := List (String × AttributeValue)

/-- Writes an attribute at its place, or replaces the one of this name. -/
def Attributes.write : Attributes → String → AttributeValue → Attributes
  | [], name, value => [(name, value)]
  | head :: rest, name, value =>
    if name < head.1 then (name, value) :: head :: rest
    else if name = head.1 then (name, value) :: rest
    else head :: Attributes.write rest name value

/-- A span. -/
structure SpanItem where
  traceId : String
  id : String
  timestamp : Instant
  attributes : Attributes
deriving DecidableEq, Repr

/-- The four collections built from a harvest. -/
structure Payloads where
  events : List EventItem
  logging : List LogItem
  metrics : List MetricItem
  traces : List SpanItem
deriving Repr

/-- Nothing built. -/
def Payloads.empty : Payloads := ⟨[], [], [], []⟩

/-- Puts the collections of `q` after those of `p`. -/
def Payloads.append (p q : Payloads) : Payloads :=
  ⟨p.events ++ q.events, p.logging ++ q.logging, p.metrics ++ q.metrics,
    p.traces ++ q.traces⟩

/-! ## Section 3: Items as JSON -/

open Json (Value)

/-- An instant as a JSON number. -/
def instantValue (instant : Instant) : Value := .number (.integer instant)

/-- The fields that name the relay. -/
def relayFields : Json.Fields :=
  [("extension.name", .string relayName), ("extension.version", .string relayVersion)]

/-- An event as JSON. -/
def EventItem.toValue (item : EventItem) : Value :=
  .object ([("eventType", .string eventType), ("timestamp", instantValue item.timestamp)]
    ++ relayFields
    ++ [("lambda.name", .string item.function),
        ("lambda.logevent.type", .string item.logEventType)])

/-- A log entry as JSON. -/
def LogItem.toValue (item : LogItem) : Value :=
  .object [("timestamp", instantValue item.timestamp), ("message", .string item.message),
    ("attributes", .object
      [("plugin", .string pluginId),
       ("entity", .object [("name", .string item.identity.name)]),
       ("faas", .object
         [("arn", .string item.identity.arn), ("name", .string item.identity.name)]),
       ("aws", .object
         ([("lambda.logevent.type", .string item.logEventType)] ++ relayFields
           ++ [("lambda.name", .string item.identity.name),
               ("lambda.arn", .string item.identity.arn),
               ("requestId", .string item.requestId)]))])]

/-- A metric as JSON. -/
def MetricItem.toValue (item : MetricItem) : Value :=
  .object [("name", .string item.name), ("value", item.value),
    ("timestamp", instantValue item.timestamp),
    ("attributes", .object
      ([("plugin", .string pluginId), ("faas.arn", .string item.identity.arn),
        ("faas.name", .string item.identity.name),
        ("lambda.logevent.type", .string item.logEventType),
        ("requestId", .string item.requestId)] ++ relayFields
        ++ [("lambda.name", .string item.identity.name)]))]

/-- An attribute value as JSON. -/
def AttributeValue.toValue : AttributeValue → Value
  | .number x => .number (.real x)
  | .text s => .string s

/-- A span as JSON. -/
def SpanItem.toValue (item : SpanItem) : Value :=
  .object [("trace.id", .string item.traceId), ("id", .string item.id),
    ("timestamp", instantValue item.timestamp),
    ("attributes", .object (item.attributes.map fun field => (field.1, field.2.toValue)))]

/-- Metrics as they are sent. -/
def metricsEnvelope (items : List MetricItem) : Value :=
  .array [.object [("metrics", .array (items.map MetricItem.toValue))]]

/-- Spans as they are sent, with what they have in common. -/
def tracesEnvelope (function : String) (items : List SpanItem) : Value :=
  .array [.object
    [("common", .object [("attributes", .object
       [("host", .string traceHost), ("service.name", .string function)])]),
     ("spans", .array (items.map SpanItem.toValue))]]

/-! ## Section 4: Building -/

/-- Why a harvest cannot be built. -/
inductive BuildError where
  | recordTime (recordType value : String) (fault : Timestamp.Fault)
  | spanStart (recordType value : String) (fault : Timestamp.Fault)
  | spanStartType (recordType value : String)
deriving DecidableEq, Repr

/-- The message of a build error. -/
def BuildError.message : BuildError → String
  | .recordTime recordType value fault =>
    "invalid timestamp " ++ Text.quoted value ++ " on " ++ recordType ++ " record: "
      ++ fault.message
  | .spanStart recordType value fault =>
    "invalid span start " ++ Text.quoted value ++ " on " ++ recordType ++ " record: "
      ++ fault.message
  | .spanStartType recordType value =>
    "span start on " ++ recordType ++ " record is not a string: " ++ value

/-- A body as text: texts as they are, anything else as compact JSON. -/
def renderBody : Value → String
  | .string s => s
  | value => value.text

/-- The last position of a text with at most so many octets before it, looked for from there
    backwards. There is none if the search passes the start of the text. -/
def lastPosition? (text : String) : Nat → Option text.Pos
  | 0 => if h : String.Pos.Raw.IsValid text ⟨0⟩ then some (text.pos ⟨0⟩ h) else none
  | n + 1 =>
    if h : String.Pos.Raw.IsValid text ⟨n + 1⟩ then some (text.pos ⟨n + 1⟩ h)
    else lastPosition? text n

/-- Cuts a message that is too long, between characters. -/
def truncateMessage (message : String) : String :=
  if message.utf8ByteSize ≤ maxMessageOctets then message
  else
    match lastPosition? message maxMessageOctets with
    | some position => (message.sliceTo position).copy
    | none => message

/-- The time of a record. -/
def recordInstant (record : RawRecord) : Except BuildError Instant :=
  match Timestamp.parse record.time with
  | .ok instant => .ok instant
  | .error fault => .error (.recordTime record.recordType record.time fault)

/-- The event of a record. Names of event attributes have no dots. -/
def eventItem (identity : Identity) (record : RawRecord) (instant : Instant) : EventItem :=
  { timestamp := instant
    function := identity.name
    logEventType := record.recordType.map fun c => if c = '.' then '_' else c }

/-- The log entry of a record with a body. -/
def logItems (identity : Identity) (entry : Entry) (instant : Instant) : List LogItem :=
  (entry.record.body.map fun body =>
    { timestamp := instant
      message := truncateMessage (renderBody body)
      identity := identity
      logEventType := entry.record.recordType
      requestId := entry.requestId }).toList

/-- The request a record belongs to: the one its body names, or else the
    invocation it was collected under. -/
def requestOf (entry : Entry) (fields : Json.Fields) : String :=
  ((fields.find? "requestId").bind Value.text?).getD entry.requestId

/-- The metrics of a record whose body has these fields. -/
def metricItems (identity : Identity) (entry : Entry) (fields : Json.Fields)
    (instant : Instant) : List MetricItem :=
  (((fields.find? "metrics").bind Value.fields?).getD []).map fun metric =>
    { name := metricNamespace ++ metric.1
      value := metric.2
      timestamp := instant
      identity := identity
      logEventType := entry.record.recordType
      requestId := requestOf entry fields }

/-- The elements under `spans` of a body with these fields. -/
def spanElements (fields : Json.Fields) : List Value :=
  ((fields.find? "spans").bind Value.items?).getD []

/-- The duration of a span: a number where it is one, else text. -/
def durationValue : Value → AttributeValue
  | .number n => .number n.toBinary64
  | value => .text (renderBody value)

/-- The start of a span. -/
def startInstant (recordType : String) : Value → Except BuildError Instant
  | .string s =>
    match Timestamp.parse s with
    | .ok instant => .ok instant
    | .error fault => .error (.spanStart recordType s fault)
  | value => .error (.spanStartType recordType value.text)

/-- The attribute with the type of the record a span is in. -/
def eventAttribute : String := "event"

/-- The attribute with the service a span is of, which is the relay. -/
def serviceAttribute : String := "service.name"

/-- The attribute with the duration of a span. -/
def durationAttribute : String := "duration.ms"

/-- The field of a span that holds its start. -/
def startField : String := "start"

/-- The field of a span that holds its duration. -/
def durationField : String := "durationMs"

/-- Takes the fields of a span into its start and attributes, in order. -/
def spanFrom (recordType : String) :
    Json.Fields → Instant → Attributes → Except BuildError (Instant × Attributes)
  | [], instant, attributes => .ok (instant, attributes)
  | (name, value) :: rest, instant, attributes =>
    if name = startField then
      match startInstant recordType value with
      | .ok start => spanFrom recordType rest start attributes
      | .error e => .error e
    else if name = durationField then
      spanFrom recordType rest instant
        (attributes.write durationAttribute (durationValue value))
    else
      spanFrom recordType rest instant (attributes.write name (.text (renderBody value)))

/-- The attributes of a span before its own fields are looked at. -/
def initialAttributes (recordType : String) : Attributes :=
  (Attributes.write [] eventAttribute (.text recordType)).write
    serviceAttribute (.text relayName)

/-- The span of an object under `spans`. -/
def spanItem (entry : Entry) (traceId id : String) (instant : Instant)
    (fields : Json.Fields) : Except BuildError SpanItem :=
  match spanFrom entry.record.recordType fields instant
      (initialAttributes entry.record.recordType) with
  | .ok (start, attributes) => .ok ⟨traceId, id, start, attributes⟩
  | .error e => .error e

/-- The spans of the elements under `spans`. Elements that are not objects make
    none. `ids` supplies an id for each span, of which `drawn` are used. -/
def spanItems (ids : Nat → String) (entry : Entry) (traceId : String) (instant : Instant) :
    Nat → List Value → Except BuildError (List SpanItem)
  | _, [] => .ok []
  | drawn, element :: rest =>
    match element.fields? with
    | none => spanItems ids entry traceId instant drawn rest
    | some fields =>
      match spanItem entry traceId (ids drawn) instant fields with
      | .error e => .error e
      | .ok span =>
        match spanItems ids entry traceId instant (drawn + 1) rest with
        | .error e => .error e
        | .ok spans => .ok (span :: spans)

/-- What one record makes. -/
def buildEntry (ids : Nat → String) (drawn : Nat) (identity : Identity) (entry : Entry) :
    Except BuildError Payloads :=
  match recordInstant entry.record with
  | .error e => .error e
  | .ok instant =>
    let events := [eventItem identity entry.record instant]
    let logging := logItems identity entry instant
    match entry.record.bodyFields? with
    | none => .ok ⟨events, logging, [], []⟩
    | some fields =>
      match spanItems ids entry (requestOf entry fields) instant drawn
          (spanElements fields) with
      | .error e => .error e
      | .ok traces => .ok ⟨events, logging, metricItems identity entry fields instant, traces⟩

/-- What a list of records makes, if all of them can be built. -/
def buildFrom (ids : Nat → String) (identity : Identity) :
    Nat → List Entry → Except BuildError Payloads
  | _, [] => .ok .empty
  | drawn, entry :: rest =>
    match buildEntry ids drawn identity entry with
    | .error e => .error e
    | .ok payloads =>
      match buildFrom ids identity (drawn + payloads.traces.length) rest with
      | .error e => .error e
      | .ok more => .ok (payloads.append more)

/-- What a list of records makes, drawing span ids from the first on. -/
def build (ids : Nat → String) (identity : Identity) (entries : List Entry) :
    Except BuildError Payloads :=
  buildFrom ids identity 0 entries

/-! ## Section 5: Notices -/

/-- The notices for elements under `spans` that are not objects, up to one that
    cannot be built, and whether there was none such. -/
def spanNotices (entry : Entry) (instant : Instant) : List Value → List Log.Notice × Bool
  | [] => ([], true)
  | element :: rest =>
    match element.fields? with
    | none =>
      let (notices, goesOn) := spanNotices entry instant rest
      (.spanNotObject entry.record.recordType :: notices, goesOn)
    | some fields =>
      match spanItem entry "" "" instant fields with
      | .ok _ => spanNotices entry instant rest
      | .error _ => ([], false)

/-- The notices about one record, and whether the build goes on after it. -/
def entryNotices (entry : Entry) : List Log.Notice × Bool :=
  match recordInstant entry.record with
  | .error _ => ([], false)
  | .ok instant => spanNotices entry instant (spanElements (entry.record.bodyFields?.getD []))

/-- The notices about single records of a build. -/
def elementNotices : List Entry → List Log.Notice
  | [] => []
  | entry :: rest =>
    let (notices, goesOn) := entryNotices entry
    notices ++ if goesOn then elementNotices rest else []

/-- The notices of a build with its result. -/
def buildNotices (entries : List Entry) (result : Except BuildError Payloads) :
    List Log.Notice :=
  elementNotices entries ++
    match result with
    | .ok p => [.built p.events.length p.logging.length p.metrics.length p.traces.length]
    | .error _ => []

/-! ## Section 6: First consequences -/

theorem Payloads.empty_append (p : Payloads) : Payloads.empty.append p = p := by
  cases p; rfl

/-- Every record that can be built makes exactly one event. -/
theorem events_length_buildEntry (ids : Nat → String) (drawn : Nat) (identity : Identity)
    (entry : Entry) (p : Payloads) (h : buildEntry ids drawn identity entry = .ok p) :
    p.events.length = 1 := by
  unfold buildEntry at h
  split at h
  · cases h
  · split at h
    · cases h; rfl
    · split at h
      · cases h
      · cases h; rfl

end Telemetry

end TelemetryRelay
