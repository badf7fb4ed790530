import TelemetryRelay.Proofs.Payload.Attribution

/-! # The ids of spans

    A span has an id that says nothing about its record: it is drawn from a source of ids.
    This module separates the ids from all the rest of a build:

    - what is built, but for the ids, is the same for all sources, and wherever in them a
      build begins,
    - the ids themselves are drawn one for each span, in order.
-/

namespace TelemetryRelay

namespace Telemetry

open Timestamp (Instant)

/-! ## Section 1: Span ids aside -/

/-- A span without its id. -/
def SpanItem.withoutId (span : SpanItem) : SpanItem := { span with id := "" }

/-- Payloads whose spans have no ids. -/
def Payloads.withoutIds (payloads : Payloads) : Payloads :=
  { payloads with traces := payloads.traces.map SpanItem.withoutId }

/-- A source that gives no ids. -/
def noIds : Nat → String := fun _ => ""

theorem Payloads.withoutIds_append (p q : Payloads) :
    (p.append q).withoutIds = p.withoutIds.append q.withoutIds := by
  simp [append, withoutIds]

theorem spanItem_withoutId (entry : Entry) (traceId id : String) (instant : Instant)
    (fields : Json.Fields) :
    (spanItem entry traceId id instant fields).map SpanItem.withoutId
      = spanItem entry traceId "" instant fields := by
  unfold spanItem
  cases spanFrom entry.record.recordType fields instant
      (initialAttributes entry.record.recordType) with
  | error error => rfl
  | ok made => rfl

variable (ids : Nat → String)

/-- Spans without their ids are the spans that are made without ids. -/
theorem spanItems_withoutId (entry : Entry) (traceId : String) (instant : Instant) :
    ∀ (elements : List Json.Value) (drawn drawn' : Nat),
      (spanItems ids entry traceId instant drawn elements).map (List.map SpanItem.withoutId)
        = spanItems noIds entry traceId instant drawn' elements
  | [], _, _ => rfl
  | element :: rest, drawn, drawn' => by
    -- the sources need not be at the same place: `drawn` and `drawn'` vary in the induction
    rw [spanItems, spanItems]
    cases element.fields? with
    | none => exact spanItems_withoutId entry traceId instant rest drawn drawn'
    | some fields =>
      have hspan := spanItem_withoutId entry traceId (ids drawn) instant fields
      have hrest := spanItems_withoutId entry traceId instant rest (drawn + 1) (drawn' + 1)
      simp only [noIds] at hrest ⊢
      rw [← hspan, ← hrest]
      cases spanItem entry traceId (ids drawn) instant fields with
      | error error => rfl
      | ok span =>
        cases spanItems ids entry traceId instant (drawn + 1) rest with
        | error error => rfl
        | ok spans => rfl

theorem buildEntry_withoutIds (drawn drawn' : Nat) (identity : Identity) (entry : Entry) :
    (buildEntry ids drawn identity entry).map Payloads.withoutIds
      = buildEntry noIds drawn' identity entry := by
  unfold buildEntry
  cases recordInstant entry.record with
  | error error => rfl
  | ok instant =>
    cases entry.record.bodyFields? with
    | none => rfl
    | some fields =>
      have hspans := spanItems_withoutId ids entry (requestOf entry fields) instant
        (spanElements fields) drawn drawn'
      simp only
      rw [← hspans]
      cases spanItems ids entry (requestOf entry fields) instant drawn
          (spanElements fields) with
      | error error => rfl
      | ok spans => rfl

/-- **Ids**: what is built, without the ids of its spans, is what is built without ids. -/
theorem buildFrom_withoutIds (identity : Identity) :
    ∀ (entries : List Entry) (drawn drawn' : Nat),
      (buildFrom ids identity drawn entries).map Payloads.withoutIds
        = buildFrom noIds identity drawn' entries
  | [], _, _ => rfl
  | entry :: rest, drawn, drawn' => by
    have hentry := buildEntry_withoutIds ids drawn drawn' identity entry
    rw [buildFrom, buildFrom, ← hentry]
    cases buildEntry ids drawn identity entry with
    | error error => rfl
    | ok payloads =>
      have hrest := buildFrom_withoutIds identity rest (drawn + payloads.traces.length)
        (drawn' + payloads.withoutIds.traces.length)
      simp only [Except.map] at hrest ⊢
      rw [← hrest]
      cases buildFrom ids identity (drawn + payloads.traces.length) rest with
      | error error => rfl
      | ok more => exact congrArg Except.ok (payloads.withoutIds_append more)

/-! ## Section 2: Ids in order -/

/-- The next ids of a source, from the place to which it is drawn. -/
def nextIds (drawn count : Nat) : List String := (List.range' drawn count).map ids

/-- More ids come after those that are drawn first. -/
theorem nextIds_append (drawn first second : Nat) :
    nextIds ids drawn first ++ nextIds ids (drawn + first) second
      = nextIds ids drawn (first + second) := by
  unfold nextIds
  rw [← List.map_append, List.range'_append_1]

theorem ids_spanItems {entry : Entry} {traceId : String} {instant : Instant} :
    ∀ {elements : List Json.Value} {drawn : Nat} {items : List SpanItem},
      spanItems ids entry traceId instant drawn elements = .ok items →
      items.map SpanItem.id = nextIds ids drawn items.length
  | [], drawn, items, h => by
    cases h
    rfl
  | element :: rest, drawn, items, h => by
    rcases spanItems_cons_ok h with
      ⟨-, hrest⟩ | ⟨fields, span, spans, -, hspan, hrest, rfl⟩
    -- an element that is no object draws no id
    · exact ids_spanItems hrest
    · rw [List.map_cons, (spanItem_names hspan).2, ids_spanItems hrest]
      rfl

theorem ids_buildEntry {drawn : Nat} {identity : Identity} {entry : Entry}
    {payloads : Payloads} (h : buildEntry ids drawn identity entry = .ok payloads) :
    payloads.traces.map SpanItem.id = nextIds ids drawn payloads.traces.length := by
  unfold buildEntry at h
  split at h
  · cases h
  · split at h
    · cases h
      rfl
    · split at h
      · cases h
      · next htraces =>
        cases h
        exact ids_spanItems ids htraces

/-- **Ids**: the spans of a build have the next ids of the source, one for each span and in
    order. -/
theorem ids_buildFrom {identity : Identity} :
    ∀ {entries : List Entry} {drawn : Nat} {payloads : Payloads},
      buildFrom ids identity drawn entries = .ok payloads →
      payloads.traces.map SpanItem.id = nextIds ids drawn payloads.traces.length
  | [], drawn, payloads, h => by
    cases h
    rfl
  | entry :: rest, drawn, payloads, h => by
    obtain ⟨first, more, hfirst, hmore, rfl⟩ := buildFrom_cons_ok h
    show (first.traces ++ more.traces).map SpanItem.id
      = nextIds ids drawn (first.traces ++ more.traces).length
    rw [List.map_append, List.length_append, ids_buildEntry ids hfirst, ids_buildFrom hmore,
      nextIds_append]

end Telemetry

end TelemetryRelay
