import TelemetryRelay.Telemetry.Payload

/-! # Which records can be built

    A build stops at the first time it cannot read. This module says which lists
    of records that happens to, without following the build: those with a
    malformed record. A record is malformed if its own time cannot be read, or if
    one of its span objects has a start that is no text or cannot be read. What
    else a record holds, and where in the list it stands, does not matter.
-/

namespace TelemetryRelay

namespace Telemetry

open Timestamp (Instant)

/-! ## Section 1: Malformed records -/

/-- A text that is not the time of an instant. -/
def IsBadTime (text : String) : Prop := ∃ fault, Timestamp.parse text = .error fault

/-- A value that is not the start of a span. -/
def IsBadStart : Json.Value → Prop
  | .string text => IsBadTime text
  | _ => True

/-- A span object with a field for its start that holds none. -/
def IsBadSpan (fields : Json.Fields) : Prop :=
  ∃ value, (startField, value) ∈ fields ∧ IsBadStart value

/-- The objects among the values in the array under `spans`, if there is one. -/
def spanObjects (fields : Json.Fields) : List Json.Fields :=
  match fields.find? "spans" with
  | some (.array elements) => elements.filterMap Json.Value.fields?
  | _ => []

/-- **Malformed**: a record whose time cannot be read, or with a bad span. -/
def Malformed (record : RawRecord) : Prop :=
  IsBadTime record.time ∨
    ∃ fields, record.body = some (.object fields) ∧ ∃ span ∈ spanObjects fields, IsBadSpan span

/-! ## Section 2: Failures of the parts of a build -/

/-- A result that is an error. -/
def Fails {ε α : Type} (result : Except ε α) : Prop := ∃ error, result = .error error

@[simp] theorem not_fails_ok {ε α : Type} (x : α) : ¬ Fails (.ok x : Except ε α) := by
  rintro ⟨error, h⟩
  cases h

@[simp] theorem fails_error {ε α : Type} (error : ε) : Fails (.error error : Except ε α) :=
  ⟨error, rfl⟩

theorem recordInstant_fails_iff (record : RawRecord) :
    Fails (recordInstant record) ↔ IsBadTime record.time := by
  unfold recordInstant IsBadTime
  split
  · next instant hparse => simp [hparse]
  · next fault hparse => simp [hparse]

theorem startInstant_fails_iff (recordType : String) (value : Json.Value) :
    Fails (startInstant recordType value) ↔ IsBadStart value := by
  cases value with
  | string text =>
    show Fails (startInstant recordType (.string text)) ↔ IsBadTime text
    cases hparse : Timestamp.parse text with
    | ok instant => simp [startInstant, IsBadTime, hparse]
    | error fault => simp [startInstant, IsBadTime, hparse]
  | null => simp [startInstant, IsBadStart]
  | bool b => simp [startInstant, IsBadStart]
  | number n => simp [startInstant, IsBadStart]
  | array items => simp [startInstant, IsBadStart]
  | object fields => simp [startInstant, IsBadStart]

/-- A span is bad at its first field or after it. -/
theorem isBadSpan_cons (name : String) (value : Json.Value) (rest : Json.Fields) :
    IsBadSpan ((name, value) :: rest) ↔
      (name = startField ∧ IsBadStart value) ∨ IsBadSpan rest := by
  constructor
  · rintro ⟨start, hmem, hbad⟩
    rcases List.mem_cons.mp hmem with heq | hmem
    · obtain ⟨rfl, rfl⟩ := Prod.mk.inj heq
      exact .inl ⟨rfl, hbad⟩
    · exact .inr ⟨start, hmem, hbad⟩
  · rintro (⟨rfl, hbad⟩ | ⟨start, hmem, hbad⟩)
    · exact ⟨value, List.mem_cons_self, hbad⟩
    · exact ⟨start, List.mem_cons_of_mem _ hmem, hbad⟩

theorem spanFrom_fails_iff (recordType : String) :
    ∀ (fields : Json.Fields) (instant : Instant) (attributes : Attributes),
      Fails (spanFrom recordType fields instant attributes) ↔ IsBadSpan fields
  | [], instant, attributes => by simp [spanFrom, IsBadSpan]
  | (name, value) :: rest, instant, attributes => by
    rw [isBadSpan_cons, spanFrom]
    by_cases hstart : name = startField
    -- a bad start ends the span, and a good one is only what the rest starts from
    · rw [if_pos hstart, ← startInstant_fails_iff recordType value]
      cases startInstant recordType value with
      | ok start => simpa [hstart] using spanFrom_fails_iff recordType rest start attributes
      | error e => simp [hstart]
    · rw [if_neg hstart]
      split
      · rw [spanFrom_fails_iff recordType rest]
        simp [hstart]
      · rw [spanFrom_fails_iff recordType rest]
        simp [hstart]

theorem spanItem_fails_iff (entry : Entry) (traceId id : String) (instant : Instant)
    (fields : Json.Fields) :
    Fails (spanItem entry traceId id instant fields) ↔ IsBadSpan fields := by
  rw [← spanFrom_fails_iff entry.record.recordType fields instant
    (initialAttributes entry.record.recordType), spanItem]
  split
  · next start attributes hspan => simp [hspan]
  · next e hspan => simp [hspan]

theorem spanItems_fails_iff (ids : Nat → String) (entry : Entry) (traceId : String)
    (instant : Instant) :
    ∀ (elements : List Json.Value) (drawn : Nat),
      Fails (spanItems ids entry traceId instant drawn elements) ↔
        ∃ span ∈ elements.filterMap Json.Value.fields?, IsBadSpan span
  | [], drawn => by simp [spanItems]
  | element :: rest, drawn => by
    rw [spanItems]
    cases hfields : element.fields? with
    | none =>
      -- an element that is no object is passed over
      rw [List.filterMap_cons_none hfields]
      exact spanItems_fails_iff ids entry traceId instant rest drawn
    | some fields =>
      have ih := spanItems_fails_iff ids entry traceId instant rest (drawn + 1)
      rw [List.filterMap_cons_some hfields]
      simp only [List.mem_cons, exists_eq_or_imp]
      rw [← ih, ← spanItem_fails_iff entry traceId (ids drawn) instant fields]
      cases spanItem entry traceId (ids drawn) instant fields with
      | error e => simp
      | ok span =>
        cases spanItems ids entry traceId instant (drawn + 1) rest with
        | error e => simp
        | ok spans => simp

/-- Elements that make spans make one of the first, if it is an object, and then those of the
    rest. -/
theorem spanItems_cons_ok {ids : Nat → String} {entry : Entry} {traceId : String}
    {instant : Instant} {drawn : Nat} {element : Json.Value} {rest : List Json.Value}
    {items : List SpanItem}
    (h : spanItems ids entry traceId instant drawn (element :: rest) = .ok items) :
    (element.fields? = none ∧ spanItems ids entry traceId instant drawn rest = .ok items) ∨
    (∃ fields span spans, element.fields? = some fields ∧
      spanItem entry traceId (ids drawn) instant fields = .ok span ∧
      spanItems ids entry traceId instant (drawn + 1) rest = .ok spans ∧
      items = span :: spans) := by
  rw [spanItems] at h
  cases hfields : element.fields? with
  | none =>
    rw [hfields] at h
    exact .inl ⟨rfl, h⟩
  | some fields =>
    rw [hfields] at h
    cases hspan : spanItem entry traceId (ids drawn) instant fields with
    | error e =>
      simp only [hspan] at h
      cases h
    | ok span =>
      cases hrest : spanItems ids entry traceId instant (drawn + 1) rest with
      | error e =>
        simp only [hspan, hrest] at h
        cases h
      | ok spans =>
        simp only [hspan, hrest] at h
        cases h
        exact .inr ⟨fields, span, spans, rfl, hspan, rfl, rfl⟩

/-- The span objects are those the build looks for under `spans`. -/
theorem filterMap_spanElements (fields : Json.Fields) :
    (spanElements fields).filterMap Json.Value.fields? = spanObjects fields := by
  unfold spanElements spanObjects
  cases hspans : fields.find? "spans" with
  | none => rfl
  | some value => cases value <;> rfl

/-! ## Section 3: The whole build -/

theorem buildEntry_fails_iff (ids : Nat → String) (drawn : Nat) (identity : Identity)
    (entry : Entry) :
    Fails (buildEntry ids drawn identity entry) ↔ Malformed entry.record := by
  unfold buildEntry Malformed
  rw [← recordInstant_fails_iff]
  cases hinstant : recordInstant entry.record with
  | error e => simp
  | ok instant =>
    -- with a good time, only the spans of an object body can fail
    have hbody (fields : Json.Fields) :
        entry.record.bodyFields? = some fields ↔ entry.record.body = some (.object fields) := by
      unfold RawRecord.bodyFields?
      cases entry.record.body with
      | none => simp
      | some value => cases value <;> simp [Json.Value.fields?]
    cases hfields : entry.record.bodyFields? with
    | none =>
      have hnot (fields : Json.Fields) : entry.record.body ≠ some (.object fields) := by
        intro hsome
        rw [(hbody fields).mpr hsome] at hfields
        cases hfields
      simp [hnot]
    | some fields =>
      have hspans := spanItems_fails_iff ids entry (requestOf entry fields) instant
        (spanElements fields) drawn
      rw [filterMap_spanElements] at hspans
      rw [(hbody fields).mp hfields]
      simp only [not_fails_ok, false_or, Option.some.injEq, Json.Value.object.injEq,
        exists_eq_left']
      rw [← hspans]
      cases spanItems ids entry (requestOf entry fields) instant drawn
          (spanElements fields) with
      | error e => simp
      | ok traces => simp

/-- **Buildable**: a build fails exactly if one of the records is malformed. -/
theorem buildFrom_fails_iff (ids : Nat → String) (identity : Identity) :
    ∀ (entries : List Entry) (drawn : Nat),
      Fails (buildFrom ids identity drawn entries) ↔
        ∃ entry ∈ entries, Malformed entry.record
  | [], drawn => by simp [buildFrom]
  | entry :: rest, drawn => by
    simp only [List.mem_cons, exists_eq_or_imp]
    rw [buildFrom, ← buildEntry_fails_iff ids drawn identity entry]
    cases buildEntry ids drawn identity entry with
    | error e => simp
    | ok payloads =>
      have ih := buildFrom_fails_iff ids identity rest (drawn + payloads.traces.length)
      simp only [not_fails_ok, false_or]
      rw [← ih]
      cases buildFrom ids identity (drawn + payloads.traces.length) rest with
      | error e => simp
      | ok more => simp

/-- Records that are built are the first one built and then the rest. -/
theorem buildFrom_cons_ok {ids : Nat → String} {identity : Identity} {drawn : Nat}
    {entry : Entry} {rest : List Entry} {payloads : Payloads}
    (h : buildFrom ids identity drawn (entry :: rest) = .ok payloads) :
    ∃ first more, buildEntry ids drawn identity entry = .ok first ∧
      buildFrom ids identity (drawn + first.traces.length) rest = .ok more ∧
      payloads = first.append more := by
  rw [buildFrom] at h
  cases hfirst : buildEntry ids drawn identity entry with
  | error e =>
    simp only [hfirst] at h
    cases h
  | ok first =>
    cases hmore : buildFrom ids identity (drawn + first.traces.length) rest with
    | error e =>
      simp only [hfirst, hmore] at h
      cases h
    | ok more =>
      simp only [hfirst, hmore] at h
      cases h
      exact ⟨first, more, rfl, hmore, rfl⟩

/-- Records that are built make one event each. -/
theorem length_events_buildFrom (ids : Nat → String) (identity : Identity) :
    ∀ (entries : List Entry) (drawn : Nat) {payloads : Payloads},
      buildFrom ids identity drawn entries = .ok payloads →
      payloads.events.length = entries.length
  | [], _, _, h => by
    cases h
    rfl
  | entry :: rest, drawn, payloads, h => by
    obtain ⟨first, more, hfirst, hmore, rfl⟩ := buildFrom_cons_ok h
    have hone := events_length_buildEntry ids drawn identity entry first hfirst
    have hrest := length_events_buildFrom ids identity rest _ hmore
    simp [Payloads.append, hone, hrest, Nat.add_comm]

end Telemetry

end TelemetryRelay
