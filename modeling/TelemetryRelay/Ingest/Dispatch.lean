import TelemetryRelay.Compression.Scheme
import TelemetryRelay.Credential.Keyring
import TelemetryRelay.Ingest.Delivery
import TelemetryRelay.Telemetry.Batch
import TelemetryRelay.Telemetry.Payload
import TelemetryRelay.Telemetry.Split

/-! # Dispatching a harvest

    A harvest is decoded, built into payloads, split into bodies and delivered.
    Nothing is sent unless everything before the sending succeeded. A body that
    fails does not hold back the others, and is never sent again.
-/

namespace TelemetryRelay

namespace Ingest

open Telemetry (Chunk Encoder Entry Identity Invocation Payloads)

/-! ## Section 1: Results -/

/-- A body that was not delivered. -/
structure Failure where
  signal : Signal
  chunk : Nat
  error : DeliveryError
deriving DecidableEq, Repr

/-- What became of the bodies of a dispatch. -/
structure Summary where
  attempted : Nat
  succeeded : Nat
  failures : List Failure
deriving DecidableEq, Repr

/-- The summary of a dispatch without bodies. -/
def Summary.empty : Summary := ⟨0, 0, []⟩

/-- The number of bodies that were not delivered. -/
def Summary.failed (summary : Summary) : Nat := summary.attempted - summary.succeeded

/-- Takes one outcome into a summary. -/
def Summary.add (summary : Summary) (parcel : Parcel) (outcome : Outcome) : Summary :=
  match outcome with
  | .delivered _ =>
    { summary with attempted := summary.attempted + 1, succeeded := summary.succeeded + 1 }
  | .failed error =>
    { summary with
      attempted := summary.attempted + 1
      failures := summary.failures ++ [⟨parcel.signal, parcel.chunk, error⟩] }

/-- The summary of outcomes in the order in which they came. -/
def settle (outcomes : List (Parcel × Outcome)) : Summary :=
  outcomes.foldl (fun summary p => summary.add p.1 p.2) .empty

/-- Why a harvest was not delivered as a whole. -/
inductive HarvestError where
  | build (error : Telemetry.BuildError)
  | credential (error : Credential.KeyError)
  | split (signal : Signal) (error : Telemetry.SplitError)
  | delivery (summary : Summary)
deriving DecidableEq, Repr

/-- The message of a harvest error. -/
def HarvestError.message : HarvestError → String
  | .build error => "failed to build telemetry payloads: " ++ error.message
  | .credential error => "failed to resolve license key: " ++ error.message
  | .split signal error =>
    "failed to prepare " ++ signal.name ++ " payload: " ++ error.message
  | .delivery summary =>
    toString summary.failed ++ " of " ++ toString summary.attempted
      ++ " telemetry payloads failed to send"

/-- The result of a dispatch whose bodies were posted. -/
def conclude (summary : Summary) : Except HarvestError Summary :=
  if 0 < summary.failed then .error (.delivery summary) else .ok summary

/-! ## Section 2: Records of a harvest -/

/-- The records of one chunk, or why it has none. -/
def entriesOf (requestId : String) (chunk : Bytes) : Except Json.Fault (List Entry) :=
  (Telemetry.decodeChunk chunk).map fun records => records.map fun record => ⟨requestId, record⟩

/-- The chunks of a harvest with the ids they are filed under, in order. -/
def filedChunks (harvested : List Invocation) : List (String × Bytes) :=
  harvested.flatMap fun invocation =>
    invocation.chunks.map fun chunk => (invocation.requestId, chunk)

/-- The records of filed chunks. Chunks that cannot be read have none. -/
def entriesOfChunks (chunks : List (String × Bytes)) : List Entry :=
  chunks.flatMap fun filed => ((entriesOf filed.1 filed.2).toOption.getD [])

/-- The records of a harvest, in the order of their arrival. -/
def flatten (harvested : List Invocation) : List Entry :=
  entriesOfChunks (filedChunks harvested)

/-- The notices about chunks that cannot be read. -/
def malformedNotices (harvested : List Invocation) : List Log.Notice :=
  (filedChunks harvested).filterMap fun filed =>
    match Telemetry.decodeChunk filed.2 with
    | .ok _ => none
    | .error fault => some (.chunkMalformed filed.2.length filed.1 fault)

/-! ## Section 3: Bodies of payloads -/

/-- How bodies are compressed. -/
structure Codec where
  encoding : String
  compress : Bytes → Except String Bytes

/-- The codec of a compression scheme. -/
def codecOf (scheme : Compression.Scheme) : Codec :=
  ⟨scheme.encoding, fun data => .ok (scheme.compress data)⟩

/-- How items become a body, from how they are written as JSON. -/
def Codec.encoder {α : Type} (codec : Codec) (write : List α → Json.Value) : Encoder α :=
  ⟨fun items => .ok (Bytes.ofText (write items).text), codec.compress⟩

/-- Items as a plain JSON array. -/
def plainArray {α : Type} (toValue : α → Json.Value) (items : List α) : Json.Value :=
  .array (items.map toValue)

/-- The bodies of one kind of telemetry, without those that have no address. -/
def bodiesOf (codec : Codec) (limit : Nat) (identity : Identity) (payloads : Payloads) :
    Signal → Log.Logged Telemetry.SplitError (List Chunk)
  | .logging =>
    Telemetry.split (codec.encoder (plainArray Telemetry.LogItem.toValue)) limit payloads.logging
  | .metrics =>
    Telemetry.split (codec.encoder Telemetry.metricsEnvelope) limit payloads.metrics
  | .events =>
    Telemetry.split (codec.encoder (plainArray Telemetry.EventItem.toValue)) limit payloads.events
  | .traces =>
    Telemetry.split (codec.encoder (Telemetry.tracesEnvelope identity.name)) limit payloads.traces

/-- Bodies with where they go. -/
def parcelsOf (signal : Signal) (url : String) (chunks : List Chunk) : List Parcel :=
  chunks.zipIdx.map fun p => ⟨signal, p.2, url, p.1.last - p.1.first, p.1.body⟩

/-- How harvests are dispatched. -/
structure Dispatcher where
  client : Http.Client
  timeout : Nat
  codec : Codec
  endpoints : Endpoints
  limit : Nat

/-- The courier of a dispatcher. -/
def Dispatcher.courier (dispatcher : Dispatcher) : Courier :=
  ⟨dispatcher.client, dispatcher.timeout, dispatcher.codec.encoding⟩

/-- The parcels of one kind of telemetry. Events without an address are skipped
    with a notice; the other kinds always have one. -/
def Dispatcher.prepare (dispatcher : Dispatcher) (identity : Identity) (payloads : Payloads)
    (signal : Signal) : Log.Logged HarvestError (List Parcel) :=
  match dispatcher.endpoints.url? signal with
  | some url =>
    let bodies := bodiesOf dispatcher.codec dispatcher.limit identity payloads signal
    match bodies.result with
    | .ok chunks => ⟨bodies.notices, .ok (parcelsOf signal url chunks)⟩
    | .error error => ⟨bodies.notices, .error (.split signal error)⟩
  | none =>
    ⟨if payloads.events.isEmpty then [] else [.eventsSkipped payloads.events.length], .ok []⟩

/-- The parcels of several kinds of telemetry. -/
def Dispatcher.prepareAll (dispatcher : Dispatcher) (identity : Identity)
    (payloads : Payloads) : List Signal → Log.Logged HarvestError (List Parcel)
  | [] => .ok []
  | signal :: rest =>
    (dispatcher.prepare identity payloads signal).andThen fun parcels =>
    (dispatcher.prepareAll identity payloads rest).andThen fun more =>
      .ok (parcels ++ more)

/-- The parcels of all payloads, in the order of the kinds. -/
def Dispatcher.plan (dispatcher : Dispatcher) (identity : Identity) (payloads : Payloads) :
    Log.Logged HarvestError (List Parcel) :=
  dispatcher.prepareAll identity payloads Signal.all

/-! ## Section 4: A dispatch -/

/-- What a dispatch starts from. -/
structure Context where
  network : Http.Network
  history : List Http.Request
  cancellation : Cancellation
  keyring : Credential.Keyring
  /-- Ids for spans, and how many of them are used. -/
  ids : Nat → String
  drawn : Nat

/-- What a dispatch leads to. -/
structure Cycle where
  /-- The requests it made. -/
  made : List Http.Request
  /-- The bodies it handed to the courier. -/
  parcels : List Parcel
  keyring : Credential.Keyring
  drawn : Nat
  /-- Whether an answer cancelled the work. -/
  cancels : Bool
  notices : List Log.Notice
  result : Except HarvestError Summary

/-- A dispatch that ends before anything is sent. -/
def Context.stop (context : Context) (notices : List Log.Notice)
    (result : Except HarvestError Summary) : Cycle :=
  ⟨[], [], context.keyring, context.drawn, false, notices, result⟩

/-- Posts the parcels of a dispatch and sums their outcomes up. -/
def Dispatcher.deliver (dispatcher : Dispatcher) (context : Context) (credential : String)
    (records drawn : Nat) (notices : List Log.Notice) (parcels : List Parcel) : Cycle :=
  let round := dispatcher.courier.sendAll context.network credential context.history
    context.cancellation parcels
  let summary := settle round.outcomes
  { made := round.made
    parcels := parcels
    keyring := context.keyring
    drawn := drawn
    cancels := round.cancels
    notices := notices ++ round.outcomes.map (fun p => notice p.1 p.2)
      ++ [.dispatched records summary.attempted summary.failed]
    result := conclude summary }

/-- Dispatches a harvest. -/
def Dispatcher.dispatch (dispatcher : Dispatcher) (context : Context) (identity : Identity)
    (harvested : List Invocation) : Cycle :=
  let entries := flatten harvested
  let malformed := malformedNotices harvested
  if entries.isEmpty then context.stop malformed (.ok .empty)
  else
    let built := Telemetry.buildFrom context.ids identity context.drawn entries
    let notices := malformed ++ Telemetry.buildNotices entries built
    match built with
    | .error error => context.stop notices (.error (.build error))
    | .ok payloads =>
      let (key, keyring) := context.keyring.obtain
      let context := { context with keyring := keyring }
      match key with
      | .error error => context.stop notices (.error (.credential error))
      | .ok credential =>
        let plan := dispatcher.plan identity payloads
        let notices := notices ++ plan.notices
        match plan.result with
        | .error error => context.stop notices (.error error)
        | .ok parcels =>
          dispatcher.deliver context credential entries.length
            (context.drawn + payloads.traces.length) notices parcels

/-! ## Section 5: First consequences -/

/-- Without records there is nothing to do. -/
theorem dispatch_empty (dispatcher : Dispatcher) (context : Context) (identity : Identity)
    (harvested : List Invocation) (h : flatten harvested = []) :
    dispatcher.dispatch context identity harvested =
      context.stop (malformedNotices harvested) (.ok .empty) := by
  simp [Dispatcher.dispatch, h]

end Ingest

end TelemetryRelay
