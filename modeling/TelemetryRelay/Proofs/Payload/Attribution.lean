import Mathlib.Data.List.Forall2
import TelemetryRelay.Proofs.Payload.Buildable

/-! # Whose items a build makes

    Each item of a payload comes from one piece of one record: an event from the record
    itself, a log entry from its body, a metric from an entry under `metrics`, a span from
    an object under `spans`. This module says which item that is, and above all which
    request it names:

    - a log entry names the invocation its record was collected under, whatever the body
      says,
    - a metric and a span name the request the body names, if it names one by a text, and
      that invocation otherwise.

    The items of a build are then those of all pieces, one by one and in order.
-/

namespace TelemetryRelay

namespace Telemetry

open Timestamp (Instant)

/-! ## Section 1: Pieces of records -/

/-- The request a record names: the text under `requestId` of an object body. -/
def RawRecord.namedRequest? (record : RawRecord) : Option String :=
  match record.body with
  | some (.object fields) =>
    match Json.Fields.find? fields "requestId" with
    | some (.string requestId) => some requestId
    | _ => none
  | _ => none

/-- The request that metrics and spans of a record are attributed to. -/
def Entry.owner (entry : Entry) : String :=
  entry.record.namedRequest?.getD entry.requestId

/-- The entries of the object under `metrics` of an object body. -/
def RawRecord.metricFields (record : RawRecord) : Json.Fields :=
  match record.body with
  | some (.object fields) =>
    match Json.Fields.find? fields "metrics" with
    | some (.object metrics) => metrics
    | _ => []
  | _ => []

/-- The objects in the array under `spans` of an object body. -/
def RawRecord.spanFields (record : RawRecord) : List Json.Fields :=
  match record.body with
  | some (.object fields) => spanObjects fields
  | _ => []

/-- The event that a record makes. -/
def IsEventOf (identity : Identity) (entry : Entry) (_ : Unit) (item : EventItem) : Prop :=
  ∃ instant, Timestamp.parse entry.record.time = .ok instant ∧
    item = eventItem identity entry.record instant

/-- The log entry that the body of a record makes. It names the invocation the record was
    collected under. -/
def IsLogOf (identity : Identity) (entry : Entry) (body : Json.Value) (item : LogItem) : Prop :=
  ∃ instant, Timestamp.parse entry.record.time = .ok instant ∧
    item =
      { timestamp := instant
        message := truncateMessage (renderBody body)
        identity := identity
        logEventType := entry.record.recordType
        requestId := entry.requestId }

/-- The metric that an entry under `metrics` makes. It names the owner of the record. -/
def IsMetricOf (identity : Identity) (entry : Entry) (metric : String × Json.Value)
    (item : MetricItem) : Prop :=
  ∃ instant, Timestamp.parse entry.record.time = .ok instant ∧
    item =
      { name := metricNamespace ++ metric.1
        value := metric.2
        timestamp := instant
        identity := identity
        logEventType := entry.record.recordType
        requestId := entry.owner }

/-- The span that an object under `spans` makes. Its trace is the owner of the record. -/
def IsSpanOf (entry : Entry) (fields : Json.Fields) (item : SpanItem) : Prop :=
  item.traceId = entry.owner ∧
    ∃ instant, Timestamp.parse entry.record.time = .ok instant ∧
      spanItem entry entry.owner item.id instant fields = .ok item

/-! ## Section 2: Items of one record -/

section Fanned

variable {σ ι : Type} {pieces : RawRecord → List σ} {Makes : Entry → σ → ι → Prop}

/-- The pieces of some records, each with the record it is of. -/
def piecesOf (pieces : RawRecord → List σ) (entries : List Entry) : List (Entry × σ) :=
  entries.flatMap fun entry => (pieces entry.record).map fun piece => (entry, piece)

/-- **Fanned**: items that the pieces of some records make, one by one and in order. -/
def Fanned (pieces : RawRecord → List σ) (Makes : Entry → σ → ι → Prop)
    (entries : List Entry) (items : List ι) : Prop :=
  List.Forall₂ (fun p item => Makes p.1 p.2 item) (piecesOf pieces entries) items

/-- The items of one record are those of its pieces. -/
theorem fanned_one {entry : Entry} {items : List ι}
    (h : List.Forall₂ (Makes entry) (pieces entry.record) items) :
    Fanned pieces Makes [entry] items := by
  unfold Fanned piecesOf
  rw [List.flatMap_singleton, List.forall₂_map_left_iff]
  exact h

/-- Items of more records come after those of the first ones. -/
theorem Fanned.append {first second : List Entry} {items more : List ι}
    (h : Fanned pieces Makes first items) (hmore : Fanned pieces Makes second more) :
    Fanned pieces Makes (first ++ second) (items ++ more) := by
  unfold Fanned piecesOf at *
  rw [List.flatMap_append]
  exact List.rel_append h hmore

/-- Items that are known to be made in one way may be said to be made in a weaker one. -/
theorem Fanned.imp {Weaker : Entry → σ → ι → Prop} {entries : List Entry} {items : List ι}
    (h : Fanned pieces Makes entries items)
    (himp : ∀ entry piece item, Makes entry piece item → Weaker entry piece item) :
    Fanned pieces Weaker entries items := by
  unfold Fanned at *
  refine List.Forall₂.imp ?_ h
  intro p item hmakes
  exact himp p.1 p.2 item hmakes

end Fanned

/-- What the body of a record has is found by looking at it as an object. -/
theorem RawRecord.body_of_bodyFields? {record : RawRecord} {fields : Json.Fields}
    (h : record.bodyFields? = some fields) : record.body = some (.object fields) := by
  unfold RawRecord.bodyFields? at h
  cases hbody : record.body with
  | none =>
    rw [hbody] at h
    cases h
  | some value =>
    rw [hbody] at h
    cases value with
    | object _ =>
      cases h
      rfl
    | _ => cases h

/-- A record without an object as its body names no request, and has no metrics and no
    spans. -/
theorem RawRecord.pieces_of_not_object {record : RawRecord} (h : record.bodyFields? = none) :
    record.metricFields = [] ∧ record.spanFields = [] := by
  unfold RawRecord.bodyFields? at h
  unfold RawRecord.metricFields RawRecord.spanFields
  cases hbody : record.body with
  | none => exact ⟨rfl, rfl⟩
  | some value =>
    rw [hbody] at h
    cases value with
    | object _ => cases h
    | _ => exact ⟨rfl, rfl⟩

/-- The request that the build looks up is the owner of the record. -/
theorem requestOf_eq_owner {entry : Entry} {fields : Json.Fields}
    (hbody : entry.record.body = some (.object fields)) :
    requestOf entry fields = entry.owner := by
  unfold requestOf Entry.owner RawRecord.namedRequest?
  rw [hbody]
  cases hfind : fields.find? "requestId" with
  | none => simp [hfind]
  | some value => cases value <;> simp [hfind, Json.Value.text?]

/-- A record has a time that can be read if its instant is known. -/
theorem parse_of_recordInstant {record : RawRecord} {instant : Instant}
    (h : recordInstant record = .ok instant) :
    Timestamp.parse record.time = .ok instant := by
  unfold recordInstant at h
  split at h
  · next hparse =>
    cases h
    exact hparse
  · cases h

theorem logItems_of_body (identity : Identity) {entry : Entry} {instant : Instant}
    (hparse : Timestamp.parse entry.record.time = .ok instant) :
    List.Forall₂ (IsLogOf identity entry) entry.record.body.toList
      (logItems identity entry instant) := by
  unfold logItems
  cases entry.record.body with
  | none => exact .nil
  | some body => exact .cons ⟨instant, hparse, rfl⟩ .nil

theorem metricItems_of_fields {identity : Identity} {entry : Entry} {fields : Json.Fields}
    {instant : Instant} (hparse : Timestamp.parse entry.record.time = .ok instant)
    (hbody : entry.record.body = some (.object fields)) :
    List.Forall₂ (IsMetricOf identity entry) entry.record.metricFields
      (metricItems identity entry fields instant) := by
  have hfields : ((fields.find? "metrics").bind Json.Value.fields?).getD []
      = entry.record.metricFields := by
    unfold RawRecord.metricFields
    rw [hbody]
    cases hfind : fields.find? "metrics" with
    | none => simp [hfind]
    | some value => cases value <;> simp [hfind, Json.Value.fields?]
  rw [metricItems, hfields, List.forall₂_map_right_iff, List.forall₂_same]
  intro metric _
  exact ⟨instant, hparse, by rw [requestOf_eq_owner hbody]⟩

/-- Spans carry the trace and the id they are made with. -/
theorem spanItem_names {entry : Entry} {traceId id : String} {instant : Instant}
    {fields : Json.Fields} {item : SpanItem}
    (h : spanItem entry traceId id instant fields = .ok item) :
    item.traceId = traceId ∧ item.id = id := by
  unfold spanItem at h
  split at h
  · cases h
    exact ⟨rfl, rfl⟩
  · cases h

/-- Spans are made from the objects among the elements, one by one. -/
theorem spanItems_of_elements {ids : Nat → String} {entry : Entry} {instant : Instant}
    (hparse : Timestamp.parse entry.record.time = .ok instant) :
    ∀ {elements : List Json.Value} {drawn : Nat} {items : List SpanItem},
      spanItems ids entry entry.owner instant drawn elements = .ok items →
      List.Forall₂ (IsSpanOf entry) (elements.filterMap Json.Value.fields?) items
  | [], drawn, items, h => by
    cases h
    exact .nil
  | element :: rest, drawn, items, h => by
    rcases spanItems_cons_ok h with
      ⟨hfields, hrest⟩ | ⟨fields, span, spans, hfields, hspan, hrest, rfl⟩
    · rw [List.filterMap_cons_none hfields]
      exact spanItems_of_elements hparse hrest
    · rw [List.filterMap_cons_some hfields]
      obtain ⟨htrace, hid⟩ := spanItem_names hspan
      refine .cons ⟨htrace, instant, hparse, ?_⟩ (spanItems_of_elements hparse hrest)
      rw [hid]
      exact hspan

/-! ## Section 3: Items of a build -/

/-- **Attributed**: in each of the four collections, items that the pieces of some records
    make. -/
structure Attributed (identity : Identity) (entries : List Entry) (payloads : Payloads) :
    Prop where
  events : Fanned (fun _ => [()]) (IsEventOf identity) entries payloads.events
  logging : Fanned (fun record => record.body.toList) (IsLogOf identity) entries
    payloads.logging
  metrics : Fanned RawRecord.metricFields (IsMetricOf identity) entries payloads.metrics
  traces : Fanned RawRecord.spanFields IsSpanOf entries payloads.traces

/-- **Step**: what one record makes is attributed to it. -/
theorem attributed_entry {ids : Nat → String} {drawn : Nat} {identity : Identity}
    {entry : Entry} {payloads : Payloads}
    (h : buildEntry ids drawn identity entry = .ok payloads) :
    Attributed identity [entry] payloads := by
  unfold buildEntry at h
  cases hinstant : recordInstant entry.record with
  | error e =>
    rw [hinstant] at h
    cases h
  | ok instant =>
    have hparse := parse_of_recordInstant hinstant
    have hevents : List.Forall₂ (IsEventOf identity entry) [()]
        [eventItem identity entry.record instant] := .cons ⟨instant, hparse, rfl⟩ .nil
    have hlogging := logItems_of_body identity hparse
    simp only [hinstant] at h
    cases hfields : entry.record.bodyFields? with
    | none =>
      obtain ⟨hmetrics, hspans⟩ := RawRecord.pieces_of_not_object hfields
      simp only [hfields] at h
      cases h
      refine ⟨fanned_one hevents, fanned_one hlogging, fanned_one ?_, fanned_one ?_⟩
      · rw [hmetrics]
        exact .nil
      · rw [hspans]
        exact .nil
    | some fields =>
      have hbody := RawRecord.body_of_bodyFields? hfields
      simp only [hfields] at h
      rw [requestOf_eq_owner hbody] at h
      cases htraces : spanItems ids entry entry.owner instant drawn (spanElements fields) with
      | error e =>
        simp only [htraces] at h
        cases h
      | ok traces =>
        simp only [htraces] at h
        cases h
        refine ⟨fanned_one hevents, fanned_one hlogging,
          fanned_one (metricItems_of_fields hparse hbody), fanned_one ?_⟩
        rw [RawRecord.spanFields, hbody]
        show List.Forall₂ _ (spanObjects fields) _
        rw [← filterMap_spanElements]
        exact spanItems_of_elements hparse htraces

/-- What more records make comes after what the first ones make. -/
theorem Attributed.append {identity : Identity} {first second : List Entry}
    {payloads more : Payloads} (h : Attributed identity first payloads)
    (hmore : Attributed identity second more) :
    Attributed identity (first ++ second) (payloads.append more) :=
  ⟨h.events.append hmore.events, h.logging.append hmore.logging,
    h.metrics.append hmore.metrics, h.traces.append hmore.traces⟩

/-- **Run**: whatever a build makes is attributed to its records. -/
theorem attributed_build {ids : Nat → String} {identity : Identity} :
    ∀ {entries : List Entry} {drawn : Nat} {payloads : Payloads},
      buildFrom ids identity drawn entries = .ok payloads →
      Attributed identity entries payloads
  | [], drawn, payloads, h => by
    cases h
    exact ⟨.nil, .nil, .nil, .nil⟩
  | entry :: rest, drawn, payloads, h => by
    obtain ⟨first, more, hfirst, hmore, rfl⟩ := buildFrom_cons_ok h
    exact (attributed_entry hfirst).append (attributed_build hmore)

end Telemetry

end TelemetryRelay
