import Mathlib.Data.List.Forall2
import TelemetryRelay.Proofs.Payload.Attribution

/-! # What the fields of a span come to

    The fields of a span object are taken one after the other. A `start` moves the span, a
    `durationMs` becomes its duration, and any other field becomes an attribute of its own
    name. All of them write to the same attributes, in which the type of the record and the
    name of the relay stand from the outset. This module says what is found in the end:

    - a span starts at the last of its `start` fields, or at the time of its record,
    - there is one attribute of each name, and it holds what was last written to it,
    - the attributes that the relay itself sets are therefore what it sets them to if no
      field of the span goes by their names; a field that does replaces them.
-/

namespace TelemetryRelay

/-- What is picked from the last field from which something is picked. -/
def Json.Fields.last? {α : Type} (pick : String × Json.Value → Option α)
    (fields : Json.Fields) : Option α :=
  (fields.filterMap pick).getLast?

/-- Later fields come before earlier ones. -/
theorem Json.Fields.last?_cons {α : Type} (pick : String × Json.Value → Option α)
    (field : String × Json.Value) (rest : Json.Fields) :
    Json.Fields.last? pick (field :: rest) = (rest.last? pick).or (pick field) := by
  unfold Json.Fields.last?
  cases hpick : pick field with
  | none => rw [List.filterMap_cons_none hpick, Option.or_none]
  | some value =>
    rw [List.filterMap_cons_some hpick, List.getLast?_cons]
    cases (rest.filterMap pick).getLast? <;> rfl

namespace Telemetry

open Timestamp (Instant)

/-! ## Section 1: Attributes by name -/

/-- The attribute of this name. -/
def Attributes.find? (attributes : Attributes) (name : String) : Option AttributeValue :=
  (List.find? (fun pair => pair.1 == name) attributes).map fun pair => pair.2

/-- Attributes of increasing names. No two of them have the same name. -/
def Attributes.Ordered (attributes : Attributes) : Prop :=
  List.Pairwise (fun first second => first.1 < second.1) attributes

theorem Attributes.find?_cons (head : String × AttributeValue) (rest : Attributes)
    (name : String) :
    Attributes.find? (head :: rest) name
      = if head.1 = name then some head.2 else rest.find? name := by
  unfold Attributes.find?
  by_cases h : head.1 = name
  · simp [h]
  · simp [h]

/-- What is written is found under its name, and nothing else changes. -/
theorem Attributes.find?_write (name name' : String) (value : AttributeValue) :
    ∀ attributes : Attributes,
      (attributes.write name value).find? name'
        = if name = name' then some value else attributes.find? name'
  | [] => Attributes.find?_cons (name, value) [] name'
  | head :: rest => by
    rw [Attributes.write]
    split
    · exact Attributes.find?_cons (name, value) (head :: rest) name'
    · split
      · next heq =>
        -- the attribute of this name is replaced, so that the old one is not in the way
        rw [Attributes.find?_cons, Attributes.find?_cons, heq]
        by_cases hname : head.1 = name'
        · simp [hname]
        · simp [hname]
      · next hne =>
        rw [Attributes.find?_cons, Attributes.find?_cons, Attributes.find?_write]
        by_cases hname : name = name'
        · rw [← hname]
          simp [Ne.symm hne]
        · simp [hname]

theorem Attributes.name_of_mem_write {name : String} {value : AttributeValue}
    {pair : String × AttributeValue} :
    ∀ {attributes : Attributes}, pair ∈ attributes.write name value →
      pair.1 = name ∨ pair ∈ attributes
  | [], h => by
    rw [Attributes.write, List.mem_singleton] at h
    exact .inl (congrArg Prod.fst h)
  | head :: rest, h => by
    rw [Attributes.write] at h
    split at h
    · rcases List.mem_cons.mp h with rfl | h
      · exact .inl rfl
      · exact .inr h
    · split at h
      · rcases List.mem_cons.mp h with rfl | h
        · exact .inl rfl
        · exact .inr (List.mem_cons_of_mem _ h)
      · rcases List.mem_cons.mp h with rfl | h
        · exact .inr List.mem_cons_self
        · rcases Attributes.name_of_mem_write h with hname | h
          · exact .inl hname
          · exact .inr (List.mem_cons_of_mem _ h)

/-- Writing keeps the attributes in order. -/
theorem Attributes.Ordered.write {name : String} {value : AttributeValue} :
    ∀ {attributes : Attributes}, attributes.Ordered → (attributes.write name value).Ordered
  | [], _ => List.pairwise_singleton _ _
  | head :: rest, h => by
    obtain ⟨hhead, hrest⟩ := List.pairwise_cons.mp h
    rw [Attributes.write]
    split
    · next hlt =>
      refine List.pairwise_cons.mpr ⟨?_, h⟩
      intro pair hmem
      rcases List.mem_cons.mp hmem with rfl | hmem
      · exact hlt
      · exact String.lt_trans hlt (hhead pair hmem)
    · next hle =>
      split
      · next heq =>
        rw [← heq] at hhead
        exact List.pairwise_cons.mpr ⟨hhead, hrest⟩
      · next hne =>
        -- the place is further on, where every name that is met is above that of the head
        have hlt : head.1 < name := by
          by_contra hnot
          exact hne (String.le_antisymm (String.not_lt.mp hnot) (String.not_lt.mp hle))
        refine List.pairwise_cons.mpr ⟨?_, Attributes.Ordered.write hrest⟩
        intro pair hmem
        rcases Attributes.name_of_mem_write hmem with hname | hmem
        · rw [hname]
          exact hlt
        · exact hhead pair hmem

/-! ## Section 2: The start and the attributes of a span -/

/-- The value of a field of this name. -/
def valueAt? (name : String) (field : String × Json.Value) : Option Json.Value :=
  if field.1 = name then some field.2 else none

/-- What a field of a span writes to the attribute of this name, if it does. -/
def written? (name : String) (field : String × Json.Value) : Option AttributeValue :=
  if field.1 = startField then none
  else if field.1 = durationField then
    if durationAttribute = name then some (durationValue field.2) else none
  else if field.1 = name then some (.text (renderBody field.2)) else none

/-- What the relay itself sets the attribute of this name to, if it does. -/
def reserved? (recordType name : String) : Option AttributeValue :=
  if serviceAttribute = name then some (.text relayName)
  else if eventAttribute = name then some (.text recordType)
  else none

/-- **Start**: a span starts at the last of its `start` fields, and if it has none at the
    time it is given. -/
def StartsAt (time : Instant) (fields : Json.Fields) (instant : Instant) : Prop :=
  match fields.last? (valueAt? startField) with
  | none => instant = time
  | some value => ∃ text, value = .string text ∧ Timestamp.parse text = .ok instant

theorem ordered_initialAttributes (recordType : String) :
    (initialAttributes recordType).Ordered :=
  Attributes.Ordered.write (Attributes.Ordered.write List.Pairwise.nil)

theorem find?_initialAttributes (recordType name : String) :
    (initialAttributes recordType).find? name = reserved? recordType name := by
  unfold initialAttributes reserved?
  rw [Attributes.find?_write, Attributes.find?_write]
  congr 1

/-- A start that is read is the text of an instant. -/
theorem startInstant_ok {recordType : String} {value : Json.Value} {instant : Instant}
    (h : startInstant recordType value = .ok instant) :
    ∃ text, value = .string text ∧ Timestamp.parse text = .ok instant := by
  cases value with
  | string text =>
    rw [startInstant] at h
    cases hparse : Timestamp.parse text with
    | error fault =>
      rw [hparse] at h
      cases h
    | ok start =>
      rw [hparse] at h
      cases h
      exact ⟨text, rfl, hparse⟩
  | _ => cases h

/-- What the fields of a span make of a start and of attributes. -/
structure Taken (fields : Json.Fields) (time : Instant) (attributes : Attributes)
    (made : Instant × Attributes) : Prop where
  start : StartsAt time fields made.1
  found : ∀ name, made.2.find? name = (fields.last? (written? name)).or (attributes.find? name)
  ordered : attributes.Ordered → made.2.Ordered

/-- **Step**: a field that is written is taken first, and the rest write over it. -/
theorem Taken.cons_written {name target : String} {value : Json.Value}
    {written : AttributeValue} {rest : Json.Fields} {time : Instant} {attributes : Attributes}
    {made : Instant × Attributes} (hstart : name ≠ startField)
    (hwritten : ∀ name', written? name' (name, value)
      = if target = name' then some written else none)
    (h : Taken rest time (attributes.write target written) made) :
    Taken ((name, value) :: rest) time attributes made where
  start := by
    have hlast : Json.Fields.last? (valueAt? startField) ((name, value) :: rest)
        = rest.last? (valueAt? startField) := by
      rw [Json.Fields.last?_cons, valueAt?, if_neg hstart, Option.or_none]
    unfold StartsAt
    rw [hlast]
    exact h.start
  found name' := by
    -- what the rest write hides it, and it hides what stood there before
    rw [h.found, Json.Fields.last?_cons, Option.or_assoc, Attributes.find?_write, hwritten]
    by_cases hname : target = name'
    · simp [hname]
    · simp [hname]
  ordered hordered := h.ordered hordered.write

/-- **Step**: a start is what the rest begin with. -/
theorem Taken.cons_start {value : Json.Value} {rest : Json.Fields} {recordType : String}
    {time start : Instant} {attributes : Attributes} {made : Instant × Attributes}
    (hstart : startInstant recordType value = .ok start) (h : Taken rest start attributes made) :
    Taken ((startField, value) :: rest) time attributes made where
  start := by
    have hrest := h.start
    unfold StartsAt at *
    rw [Json.Fields.last?_cons, valueAt?, if_pos rfl]
    -- a later start moves the span again, so that this one does not count
    cases hlast : rest.last? (valueAt? startField) with
    | some later =>
      rw [hlast] at hrest
      exact hrest
    | none =>
      rw [hlast] at hrest
      rw [hrest]
      exact startInstant_ok hstart
  found name := by
    rw [h.found, Json.Fields.last?_cons, Option.or_assoc, written?, if_pos rfl, Option.none_or]
  ordered := h.ordered

/-- **Run**: what is made of the fields of a span, whatever they are. -/
theorem taken_spanFrom (recordType : String) :
    ∀ {fields : Json.Fields} {time : Instant} {attributes : Attributes}
      {made : Instant × Attributes},
      spanFrom recordType fields time attributes = .ok made →
      Taken fields time attributes made
  | [], time, attributes, made, h => by
    cases h
    exact ⟨rfl, fun name => rfl, id⟩
  | (name, value) :: rest, time, attributes, made, h => by
    rw [spanFrom] at h
    split at h
    · next hname =>
      rw [hname]
      cases hstart : startInstant recordType value with
      | error e =>
        rw [hstart] at h
        cases h
      | ok start =>
        rw [hstart] at h
        exact .cons_start hstart (taken_spanFrom recordType h)
    · next hstart =>
      split at h
      · next hduration =>
        refine .cons_written hstart ?_ (taken_spanFrom recordType h)
        intro name'
        rw [written?, if_neg hstart, if_pos hduration]
      · next hduration =>
        refine .cons_written hstart ?_ (taken_spanFrom recordType h)
        intro name'
        rw [written?, if_neg hstart, if_neg hduration]

/-- A span that is built has what its fields make of the time of its record and of what the
    relay sets. -/
theorem taken_spanItem {entry : Entry} {traceId id : String} {time : Instant}
    {fields : Json.Fields} {item : SpanItem}
    (h : spanItem entry traceId id time fields = .ok item) :
    Taken fields time (initialAttributes entry.record.recordType)
      (item.timestamp, item.attributes) := by
  unfold spanItem at h
  split at h
  · next hspan =>
    cases h
    exact taken_spanFrom _ hspan
  · cases h

/-! ## Section 3: Attributes the relay sets -/

/-- The names of the attributes that the relay itself sets. -/
def reservedNames : List String := [eventAttribute, serviceAttribute, durationAttribute]

/-- **Authentic**: attributes that say of a span what the relay says of it. The event is the
    type of the record, the service is the relay, and a duration that is a number is that
    number. -/
structure Authentic (recordType : String) (fields : Json.Fields) (attributes : Attributes) :
    Prop where
  event : attributes.find? eventAttribute = some (.text recordType)
  service : attributes.find? serviceAttribute = some (.text relayName)
  duration : ∀ number, fields.last? (valueAt? durationField) = some (.number number) →
    attributes.find? durationAttribute = some (.number number.toBinary64)

/-- **Attributes of a span**: one of each name, with what was last written to it. What the
    relay sets comes first; if no field goes by one of its names, the attributes are
    authentic. -/
structure AttributesOf (recordType : String) (fields : Json.Fields) (attributes : Attributes) :
    Prop where
  ordered : attributes.Ordered
  found : ∀ name,
    attributes.find? name = (fields.last? (written? name)).or (reserved? recordType name)
  authentic : (∀ field ∈ fields, field.1 ∉ reservedNames) → Authentic recordType fields attributes

/-- An attribute whose name no field has, and which is not the duration, is not written. -/
theorem last?_written?_eq_none {name : String} {fields : Json.Fields}
    (hname : name ≠ durationAttribute) (h : ∀ field ∈ fields, field.1 ≠ name) :
    fields.last? (written? name) = none := by
  unfold Json.Fields.last?
  rw [List.getLast?_eq_none_iff, List.filterMap_eq_nil_iff]
  intro field hmem
  unfold written?
  split
  · rfl
  · split
    · exact if_neg (Ne.symm hname)
    · exact if_neg (h field hmem)

/-- If no field has its name, the duration is only written by `durationMs`. -/
theorem last?_written?_duration {fields : Json.Fields}
    (h : ∀ field ∈ fields, field.1 ≠ durationAttribute) :
    fields.last? (written? durationAttribute)
      = (fields.last? (valueAt? durationField)).map durationValue := by
  have hpick : ∀ field ∈ fields, written? durationAttribute field
      = (valueAt? durationField field).map durationValue := by
    intro field hmem
    unfold written? valueAt?
    by_cases hduration : field.1 = durationField
    · have hstart : durationField ≠ startField := by decide
      simp [hduration, hstart]
    · simp [hduration, h field hmem]
  unfold Json.Fields.last?
  rw [List.filterMap_congr hpick, ← List.map_filterMap, List.getLast?_map]

theorem attributesOf_taken {recordType : String} {fields : Json.Fields} {time : Instant}
    {made : Instant × Attributes}
    (h : Taken fields time (initialAttributes recordType) made) :
    AttributesOf recordType fields made.2 := by
  have hfound (name : String) := h.found name
  simp only [find?_initialAttributes] at hfound
  refine ⟨h.ordered (ordered_initialAttributes recordType), hfound, ?_⟩
  intro hfields
  have hfree {name : String} (hreserved : name ∈ reservedNames) :
      ∀ field ∈ fields, field.1 ≠ name := by
    rintro field hmem rfl
    exact hfields field hmem hreserved
  refine ⟨?_, ?_, ?_⟩
  · rw [hfound, last?_written?_eq_none (by decide) (hfree (by decide))]
    rfl
  · rw [hfound, last?_written?_eq_none (by decide) (hfree (by decide))]
    rfl
  · intro number hnumber
    rw [hfound, last?_written?_duration (hfree (by decide)), hnumber]
    rfl

/-- A span whose fields have names of their own. -/
def plainSpan : Json.Fields :=
  [("name", .string "init"), ("durationMs", .number (.integer 5))]

/-- A span with fields that go by the names of what the relay sets. -/
def forgedSpan : Json.Fields :=
  [("event", .string "forged"), ("service.name", .string "other"),
    ("durationMs", .number (.integer 5)), ("duration.ms", .string "7")]

/-- A record with these two spans. -/
def twoSpans : Entry where
  requestId := "r"
  record :=
    { time := "2024-01-01T00:00:00Z"
      recordType := "platform.report"
      body := some (.object [("spans", .array [.object plainSpan, .object forgedSpan])]) }

/-- What the record makes. -/
def twoSpansBuilt : Payloads where
  events := [eventItem ⟨"f", "a"⟩ twoSpans.record 1704067200000]
  logging := logItems ⟨"f", "a"⟩ twoSpans 1704067200000
  metrics := []
  traces :=
    [⟨"r", "i", 1704067200000,
        [("duration.ms", .number (Binary64.ofInt 5)), ("event", .text "platform.report"),
          ("name", .text "init"), ("service.name", .text "newrelic-lambda-extension")]⟩,
      ⟨"r", "i", 1704067200000,
        [("duration.ms", .text "7"), ("event", .text "forged"),
          ("service.name", .text "other")]⟩]

theorem build_twoSpans :
    build (fun _ => "i") ⟨"f", "a"⟩ [twoSpans] = .ok twoSpansBuilt := by
  have hparse : Timestamp.parse twoSpans.record.time = .ok 1704067200000 := by decide +kernel
  simp only [build, buildFrom, buildEntry, recordInstant, hparse]
  rfl

/-- **Last written**: each span of a build has one attribute of each name, with what the last
    of its fields that writes it writes, and with what the relay sets if there is none. A span
    with no field of a reserved name has authentic attributes. -/
theorem span_attributes_are_last_written {ids : Nat → String} {identity : Identity}
    {entries : List Entry} {payloads : Payloads}
    (h : build ids identity entries = .ok payloads) :
    Fanned RawRecord.spanFields
      (fun entry fields item => AttributesOf entry.record.recordType fields item.attributes)
      entries payloads.traces := by
  refine (attributed_build h).traces.imp ?_
  rintro entry fields item ⟨-, instant, -, hspan⟩
  exact attributesOf_taken (taken_spanItem hspan)

/-- The record is built, and the attributes of both of its spans are what was last written. -/
theorem twoSpans_attributes :
    build (fun _ => "i") ⟨"f", "a"⟩ [twoSpans] = .ok twoSpansBuilt ∧
      Fanned RawRecord.spanFields
        (fun entry fields item => AttributesOf entry.record.recordType fields item.attributes)
        [twoSpans] twoSpansBuilt.traces :=
  ⟨build_twoSpans, span_attributes_are_last_written build_twoSpans⟩

/-- Attributes that the relay sets are replaced by fields of a span that go by their names. -/
theorem fields_replace_reserved_attributes :
    ¬ ∀ (ids : Nat → String) (identity : Identity) (entries : List Entry) (payloads : Payloads),
      build ids identity entries = .ok payloads →
      Fanned RawRecord.spanFields
        (fun entry fields item => Authentic entry.record.recordType fields item.attributes)
        entries payloads.traces := by
  intro h
  have hspans : List.Forall₂
      (fun (p : Entry × Json.Fields) (item : SpanItem) =>
        Authentic p.1.record.recordType p.2 item.attributes)
      [(twoSpans, plainSpan), (twoSpans, forgedSpan)] twoSpansBuilt.traces :=
    h (fun _ => "i") ⟨"f", "a"⟩ [twoSpans] twoSpansBuilt build_twoSpans
  cases hspans with
  | cons _ hrest =>
    cases hrest with
    | cons hforged _ =>
      have hevent : some (AttributeValue.text "forged") = some (.text "platform.report") :=
        hforged.event
      simp at hevent

end Telemetry

end TelemetryRelay
