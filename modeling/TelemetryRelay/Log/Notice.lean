import TelemetryRelay.Ingest.Endpoint
import TelemetryRelay.Json.Fault
import TelemetryRelay.Log.Line
import TelemetryRelay.Timestamp

/-! # What the relay reports

    Every step returns the notices it has to give, in order. A notice is data;
    its wording and its level are decided here. The few notices that tell the
    time take it from a clock face, since nothing else does.
-/

namespace TelemetryRelay

namespace Log

/-- How times are shown. -/
structure ClockFace where
  /-- The time a computation took, with its unit. -/
  spent : String
  /-- The whole milliseconds something took. -/
  millis : String
  /-- An instant. -/
  instant : Timestamp.Instant → String

/-- Something worth reporting. -/
inductive Notice where
  | placeholderAdded (requestId : String)
  | harvested (invocations octets : Nat) (oldest : Timestamp.Instant) (force : Bool)
  | collectionDisabled
  | chunkDropped (octets : Nat)
  | collectorDone
  | dispatching (invocations : Nat) (force : Bool)
  | chunkMalformed (octets : Nat) (requestId : String) (fault : Json.Fault)
  | spanNotObject (recordType : String)
  | built (events logging metrics traces : Nat)
  | eventsSkipped (events : Nat)
  | recordOversized (index octets limit : Nat)
  | rangeBisected (first last octets middle : Nat)
  | sent (octets : Nat) (signal : Signal) (url status : String)
  | sendFailed (signal : Signal) (chunk records : Nat) (cause : String)
  | dispatched (records chunks failed : Nat)
  | fetchingSecret (secretId : String)
  | levelInvalid (value : String)
  | proxyInvalid (cause : String)
  | registered (name extensionId : String)
  | subscribed (destination : String)
  | queueClosed (octets : Nat)
  | connectionFailed (cause : String)
  | listenerStopped
  | waiting
  | received (event : String)
  | cancelled
  | shuttingDown (reason : String)
  | drainTimedOut
  | shutDown
  | delivered (payloads : Nat)
  | deliveryFailed (cause : String)
  | harvestFailed (cause : String)
  | loggingEnabled
  | batching (octets interval : Nat) (compression : String)
  | endpointsResolved (endpoints : Ingest.Endpoints)
  | extensionRegistered (name function extensionId : String)
  | extensionFailed (cause : String)
  | signalled (name : String)
deriving DecidableEq, Repr

namespace Notice

/-- The level of a notice. -/
def level : Notice → Level
  | .chunkMalformed .. | .sendFailed .. | .proxyInvalid .. | .deliveryFailed ..
  | .harvestFailed .. | .extensionFailed .. => .error
  | .eventsSkipped .. | .recordOversized .. | .levelInvalid .. | .queueClosed ..
  | .drainTimedOut => .warn
  | .collectionDisabled | .cancelled | .shuttingDown .. | .shutDown
  | .extensionRegistered .. | .signalled .. => .info
  | .chunkDropped .. | .spanNotObject .. | .rangeBisected .. => .trace
  | _ => .debug

/-- The wording of a notice. -/
def message (face : ClockFace) : Notice → String
  | .placeholderAdded requestId =>
    "Telemetry for unregistered invocation " ++ Text.quoted requestId
      ++ ", adding placeholder"
  | .harvested invocations octets oldest force =>
    "Harvested " ++ toString invocations ++ " invocations holding " ++ toString octets
      ++ " bytes, oldest started at " ++ face.instant oldest
      ++ " (forced: " ++ toString force ++ ")"
  | .collectionDisabled =>
    "Agent data collection disabled, pushed telemetry will be dropped"
  | .chunkDropped octets =>
    "Agent data collection disabled, dropping " ++ toString octets ++ " bytes"
  | .collectorDone => "Telemetry queue closed, collector exiting"
  | .dispatching invocations force =>
    "Dispatching " ++ toString invocations ++ " harvested invocations (forced: "
      ++ toString force ++ ")"
  | .chunkMalformed octets requestId fault =>
    "Skipping malformed telemetry chunk of " ++ toString octets ++ " bytes for "
      ++ requestId ++ ": " ++ fault.message
  | .spanNotObject recordType =>
    "Skipping non-object span on " ++ recordType ++ " record"
  | .built events logging metrics traces =>
    "Built " ++ toString events ++ " events, " ++ toString logging ++ " logs, "
      ++ toString metrics ++ " metrics and " ++ toString traces ++ " spans in "
      ++ face.spent
  | .eventsSkipped events =>
    "No account id configured, skipping " ++ toString events ++ " events"
  | .recordOversized index octets limit =>
    "Record " ++ toString index ++ " compresses to " ++ toString octets
      ++ " bytes, over the " ++ toString limit ++ " byte limit, sending it anyway"
  | .rangeBisected first last octets middle =>
    "Chunk " ++ toString first ++ ".." ++ toString last ++ " compressed to "
      ++ toString octets ++ " bytes, bisecting at " ++ toString middle
  | .sent octets signal url status =>
    "Sent " ++ toString octets ++ " byte " ++ signal.name ++ " payload to " ++ url
      ++ " in " ++ face.millis ++ " ms, status " ++ status
  | .sendFailed signal chunk records cause =>
    "Failed to send " ++ signal.name ++ " chunk " ++ toString chunk ++ " ("
      ++ toString records ++ " records): " ++ cause
  | .dispatched records chunks failed =>
    "Dispatched " ++ toString records ++ " records in " ++ toString chunks
      ++ " chunks (" ++ toString failed ++ " failed) in " ++ face.millis ++ " ms"
  | .fetchingSecret secretId => "Fetching license key from secret " ++ secretId
  | .levelInvalid value =>
    Level.invalidMessage value ++ ", using " ++ Level.standard.directive
  | .proxyInvalid cause =>
    "Unable to parse proxy configuration: " ++ cause
      ++ ", falling back to direct connection"
  | .registered name extensionId =>
    "Registered extension " ++ name ++ " as " ++ extensionId
  | .subscribed destination => "Subscribed " ++ destination ++ " to the Telemetry API"
  | .queueClosed octets =>
    "Telemetry queue closed, dropping " ++ toString octets ++ " bytes"
  | .connectionFailed cause => "Telemetry connection error: " ++ cause
  | .listenerStopped => "Telemetry listener stopped"
  | .waiting => "Waiting for next event"
  | .received event => "Received event " ++ event
  | .cancelled => "Cancelled, exiting"
  | .shuttingDown reason => "Shutting down (" ++ reason ++ ")"
  | .drainTimedOut => "Shutdown deadline reached while draining telemetry"
  | .shutDown => "Extension shut down"
  | .delivered payloads => "Delivered " ++ toString payloads ++ " telemetry payloads"
  | .deliveryFailed cause => cause
  | .harvestFailed cause => "Harvest failed: " ++ cause
  | .loggingEnabled => "Logging subsystem enabled"
  | .batching octets interval compression =>
    "Batching up to " ++ toString octets ++ " bytes or " ++ toString interval
      ++ " ms, sending with " ++ compression ++ " compression"
  | .endpointsResolved endpoints => "Resolved endpoints: " ++ endpoints.describe
  | .extensionRegistered name function extensionId =>
    "Registered " ++ name ++ " for " ++ function ++ " as " ++ extensionId
  | .extensionFailed cause => "Extension failed: " ++ cause
  | .signalled name => "Received " ++ name

/-- A notice as an event outside any span. -/
def event (face : ClockFace) (notice : Notice) : Event :=
  ⟨notice.level, [], some (notice.message face), []⟩

/-- The line of a notice, without the final line break. -/
def line (face : ClockFace) (notice : Notice) : String := (notice.event face).text

end Notice

/-- The lines of those notices that are severe enough. -/
def lines (face : ClockFace) (threshold : Option Level) (notices : List Notice) :
    List String :=
  (notices.filter fun notice => notice.level.shownAt threshold).map (Notice.line face)

end Log

end TelemetryRelay
