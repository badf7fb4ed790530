import TelemetryRelay.Json.Shape

/-! # Raw telemetry records

    The host pushes telemetry in chunks. A chunk is a JSON array of records,
    each with its time, its type and a free-form body: a text for the lines a
    function logs, an object for events of the platform.
-/

namespace TelemetryRelay

namespace Telemetry

/-- One record as the host pushed it. -/
structure RawRecord where
  time : String
  recordType : String
  body : Option Json.Value
deriving Repr, Inhabited

/-- A record with the invocation it was collected under. -/
structure Entry where
  requestId : String
  record : RawRecord
deriving Repr, Inhabited

namespace RawRecord

/-- The fields of a body that is an object. Only these carry metrics and spans. -/
def bodyFields? (record : RawRecord) : Option Json.Fields :=
  record.body.bind Json.Value.fields?

/-- A record as JSON; a missing body is left out. -/
def toValue (record : RawRecord) : Json.Value :=
  .object ([("time", .string record.time), ("type", .string record.recordType)]
    ++ (record.body.map fun body => ("record", body)).toList)

/-! ## Reading records -/

/-- A record that is being read. -/
structure Draft where
  time : Option String
  recordType : Option String
  body : Option (Option Json.Value)

/-- The time of a record. -/
def timeField : Json.Field Draft where
  name := "time"
  isRead draft := draft.time.isSome
  read _ draft octets := do
    let (text, rest) ← Json.expectString octets
    .ok ({ draft with time := some text }, rest)
  mayLack := false

/-- The type of a record. -/
def typeField : Json.Field Draft where
  name := "type"
  isRead draft := draft.recordType.isSome
  read _ draft octets := do
    let (text, rest) ← Json.expectString octets
    .ok ({ draft with recordType := some text }, rest)
  mayLack := false

/-- The body of a record, which may be absent or `null`. -/
def bodyField : Json.Field Draft where
  name := "record"
  isRead draft := draft.body.isSome
  read levels draft octets := do
    let (body, rest) ← Json.optional levels octets
    .ok ({ draft with body := some body }, rest)
  mayLack := true

/-- The record a draft amounts to. -/
def ofDraft (draft : Draft) : Except Json.Fault RawRecord :=
  match draft.time, draft.recordType with
  | none, _ => .error (.missingField "time")
  | some _, none => .error (.missingField "type")
  | some time, some recordType => .ok ⟨time, recordType, draft.body.join⟩

/-- The shape of a record. -/
def shape : Json.Shape Draft RawRecord where
  name := "RawTelemetryRecord"
  fields := [timeField, typeField, bodyField]
  start := ⟨none, none, none⟩
  finish := ofDraft

end RawRecord

/-- Reads a chunk: an array of records. -/
def decodeChunk (chunk : Bytes) : Except Json.Fault (List RawRecord) :=
  Json.document (Json.expectList Json.nestingLimit RawRecord.shape.read) chunk

/-- Writes a list of records as a chunk. -/
def chunkText (records : List RawRecord) : String :=
  Json.arrayText (records.map fun record => record.toValue.text)

end Telemetry

end TelemetryRelay
