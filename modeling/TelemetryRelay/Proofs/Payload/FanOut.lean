import TelemetryRelay.Proofs.Payload.SpanIds
import TelemetryRelay.Proofs.Payload.Spans

/-! # Builds in document order

    A build goes through its records once, from the first to the last. It adds to four
    collections as it goes, and stops at the first time it cannot read. This module says
    what that amounts to:

    - a build of two lists of records is the build of the first and then of the second,
    - the faults of a record are its own time, if it cannot be read, and then the faulty
      starts of its spans; a build fails with the first fault of all of its records, and
      succeeds if there is none,
    - a build that succeeds has an item for each piece of each record, in order. Each has
      the time of its record, except for spans with a start of their own.
-/

namespace TelemetryRelay

namespace Telemetry

open Timestamp (Instant)

/-! ## Section 1: Builds of two lists -/

theorem Payloads.append_assoc (p q r : Payloads) :
    (p.append q).append r = p.append (q.append r) := by
  simp [append]

/-- **Step by step**: the records of a second list are built after those of the first, with
    the ids that these leave. -/
theorem buildFrom_append (ids : Nat → String) (identity : Identity) (second : List Entry) :
    ∀ (first : List Entry) (drawn : Nat),
      buildFrom ids identity drawn (first ++ second)
        = (buildFrom ids identity drawn first).bind fun payloads =>
            (buildFrom ids identity (drawn + payloads.traces.length) second).map payloads.append
  | [], drawn => by
    show buildFrom ids identity drawn second
      = (buildFrom ids identity drawn second).map Payloads.empty.append
    cases buildFrom ids identity drawn second with
    | error e => rfl
    | ok payloads => exact congrArg Except.ok payloads.empty_append.symm
  | entry :: rest, drawn => by
    rw [List.cons_append, buildFrom, buildFrom]
    cases buildEntry ids drawn identity entry with
    | error e => rfl
    | ok one =>
      have ih := buildFrom_append ids identity second rest (drawn + one.traces.length)
      simp only
      rw [ih]
      cases buildFrom ids identity (drawn + one.traces.length) rest with
      | error e => rfl
      | ok more =>
        have hdrawn : drawn + (one.append more).traces.length
            = drawn + one.traces.length + more.traces.length := by
          simp [Payloads.append, Nat.add_assoc]
        -- the ids go on where the first list left them
        simp only [Except.bind]
        rw [hdrawn]
        cases buildFrom ids identity (drawn + one.traces.length + more.traces.length) second with
        | error e => rfl
        | ok last => exact congrArg Except.ok (Payloads.append_assoc one more last).symm

/-- **Homomorphism**: but for the ids of spans, the build of two lists is that of the first
    followed by that of the second. It is the error of the first if that fails, and else the
    error of the second if that does. -/
theorem build_append (ids ids' ids'' : Nat → String) (identity : Identity)
    (first second : List Entry) :
    (build ids identity (first ++ second)).map Payloads.withoutIds
      = (build ids' identity first).bind fun payloads =>
          (build ids'' identity second).map fun more => (payloads.append more).withoutIds := by
  unfold build
  have hfirst := buildFrom_withoutIds ids' identity first 0 0
  rw [buildFrom_withoutIds ids identity (first ++ second) 0 0, buildFrom_append, ← hfirst]
  cases buildFrom ids' identity 0 first with
  | error e => rfl
  | ok payloads =>
    have hsecond := buildFrom_withoutIds ids'' identity second 0
      (0 + payloads.withoutIds.traces.length)
    simp only [Except.bind, Except.map] at hsecond ⊢
    rw [← hsecond]
    cases buildFrom ids'' identity 0 second with
    | error e => rfl
    | ok more => exact congrArg Except.ok (payloads.withoutIds_append more).symm

/-! ## Section 2: Faults in document order -/

/-- The error of a result, if it is one. -/
def errorOf {ε α : Type} : Except ε α → Option ε
  | .ok _ => none
  | .error e => some e

/-- The fault of the time of a record. -/
def RawRecord.timeFault? (record : RawRecord) : Option BuildError :=
  match Timestamp.parse record.time with
  | .ok _ => none
  | .error fault => some (.recordTime record.recordType record.time fault)

/-- The fault of a field of a span. Only a start can be at fault. -/
def startFault? (recordType : String) (field : String × Json.Value) : Option BuildError :=
  if field.1 = startField then
    match field.2 with
    | .string text =>
      match Timestamp.parse text with
      | .ok _ => none
      | .error fault => some (.spanStart recordType text fault)
    | value => some (.spanStartType recordType value.text)
  else none

/-- The faults of some spans, one span after the other. -/
def spanFaults (recordType : String) (spans : List Json.Fields) : List BuildError :=
  spans.flatMap fun fields => fields.filterMap (startFault? recordType)

/-- **Faults**: what keeps a record from being built, its own time before its spans. -/
def RawRecord.faults (record : RawRecord) : List BuildError :=
  record.timeFault?.toList ++ spanFaults record.recordType record.spanFields

/-- The faults of some records, one record after the other. -/
def faultsOf (entries : List Entry) : List BuildError :=
  entries.flatMap fun entry => entry.record.faults

theorem spanFaults_cons (recordType : String) (fields : Json.Fields)
    (spans : List Json.Fields) :
    (spanFaults recordType (fields :: spans)).head?
      = (fields.filterMap (startFault? recordType)).head?.or
          (spanFaults recordType spans).head? := by
  unfold spanFaults
  rw [List.flatMap_cons, List.head?_append]

theorem errorOf_recordInstant (record : RawRecord) :
    errorOf (recordInstant record) = record.timeFault? := by
  unfold recordInstant RawRecord.timeFault?
  cases Timestamp.parse record.time <;> rfl

theorem errorOf_startInstant (recordType : String) (value : Json.Value) :
    errorOf (startInstant recordType value) = startFault? recordType (startField, value) := by
  rw [startFault?, if_pos rfl]
  cases value with
  | string text =>
    rw [startInstant]
    show errorOf _ = match Timestamp.parse text with
      | .ok _ => none
      | .error fault => some _
    cases Timestamp.parse text <;> rfl
  | _ => rfl

/-- A span fails with the first of its fields that is at fault. -/
theorem errorOf_spanFrom (recordType : String) :
    ∀ (fields : Json.Fields) (instant : Instant) (attributes : Attributes),
      errorOf (spanFrom recordType fields instant attributes)
        = (fields.filterMap (startFault? recordType)).head?
  | [], instant, attributes => rfl
  | (name, value) :: rest, instant, attributes => by
    rw [spanFrom]
    by_cases hstart : name = startField
    · have hfault := errorOf_startInstant recordType value
      rw [if_pos hstart, hstart]
      cases hinstant : startInstant recordType value with
      | error e =>
        rw [hinstant] at hfault
        rw [List.filterMap_cons_some hfault.symm]
        rfl
      | ok start =>
        -- a start that is read is no fault, wherever it moves the span
        rw [hinstant] at hfault
        rw [List.filterMap_cons_none hfault.symm]
        exact errorOf_spanFrom recordType rest start attributes
    · have hfault : startFault? recordType (name, value) = none := if_neg hstart
      rw [if_neg hstart, List.filterMap_cons_none hfault]
      split
      · exact errorOf_spanFrom recordType rest instant _
      · exact errorOf_spanFrom recordType rest instant _

theorem errorOf_spanItem (entry : Entry) (traceId id : String) (instant : Instant)
    (fields : Json.Fields) :
    errorOf (spanItem entry traceId id instant fields)
      = (fields.filterMap (startFault? entry.record.recordType)).head? := by
  rw [← errorOf_spanFrom entry.record.recordType fields instant
    (initialAttributes entry.record.recordType), spanItem]
  cases spanFrom entry.record.recordType fields instant
    (initialAttributes entry.record.recordType) <;> rfl

theorem errorOf_spanItems (ids : Nat → String) (entry : Entry) (traceId : String)
    (instant : Instant) :
    ∀ (elements : List Json.Value) (drawn : Nat),
      errorOf (spanItems ids entry traceId instant drawn elements)
        = (spanFaults entry.record.recordType
            (elements.filterMap Json.Value.fields?)).head?
  | [], drawn => rfl
  | element :: rest, drawn => by
    rw [spanItems]
    cases hfields : element.fields? with
    | none =>
      -- an element that is no object has no faults
      rw [List.filterMap_cons_none hfields]
      exact errorOf_spanItems ids entry traceId instant rest drawn
    | some fields =>
      have hspan := errorOf_spanItem entry traceId (ids drawn) instant fields
      have hrest := errorOf_spanItems ids entry traceId instant rest (drawn + 1)
      simp only
      rw [List.filterMap_cons_some hfields, spanFaults_cons, ← hspan, ← hrest]
      cases spanItem entry traceId (ids drawn) instant fields with
      | error e => rfl
      | ok span => cases spanItems ids entry traceId instant (drawn + 1) rest <;> rfl

theorem errorOf_buildEntry (ids : Nat → String) (drawn : Nat) (identity : Identity)
    (entry : Entry) :
    errorOf (buildEntry ids drawn identity entry) = entry.record.faults.head? := by
  have htime := errorOf_recordInstant entry.record
  unfold RawRecord.faults buildEntry
  rw [← htime, List.head?_append]
  cases recordInstant entry.record with
  | error e => rfl
  | ok instant =>
    -- with a time that is read, only the spans of an object body can be at fault
    cases hfields : entry.record.bodyFields? with
    | none =>
      rw [(RawRecord.pieces_of_not_object hfields).2]
      rfl
    | some fields =>
      have hspans := errorOf_spanItems ids entry (requestOf entry fields) instant
        (spanElements fields) drawn
      have hpieces : entry.record.spanFields
          = (spanElements fields).filterMap Json.Value.fields? := by
        rw [filterMap_spanElements, RawRecord.spanFields,
          RawRecord.body_of_bodyFields? hfields]
      simp only
      rw [hpieces, ← hspans]
      cases spanItems ids entry (requestOf entry fields) instant drawn
        (spanElements fields) <;> rfl

/-- **First fault**: a build fails with the first fault of its records, and does not fail if
    they have none. -/
theorem errorOf_buildFrom (ids : Nat → String) (identity : Identity) :
    ∀ (entries : List Entry) (drawn : Nat),
      errorOf (buildFrom ids identity drawn entries) = (faultsOf entries).head?
  | [], drawn => rfl
  | entry :: rest, drawn => by
    have hone := errorOf_buildEntry ids drawn identity entry
    unfold faultsOf
    rw [List.flatMap_cons, List.head?_append, buildFrom, ← hone]
    cases buildEntry ids drawn identity entry with
    | error e => rfl
    | ok payloads =>
      have hrest := errorOf_buildFrom ids identity rest (drawn + payloads.traces.length)
      unfold faultsOf at hrest
      simp only
      rw [← hrest]
      cases buildFrom ids identity (drawn + payloads.traces.length) rest <;> rfl

/-- The time of a record is found to be at fault before its spans are looked at. -/
example :
    errorOf (build noIds ⟨"f", "a"⟩ [⟨"r", ⟨"never", "platform.report",
      some (.object [("spans", .array [.null, .object [("start", .bool true)]])])⟩⟩])
      = some (.recordTime "platform.report" "never" .tooShort) := by
  decide +kernel

/-! ## Section 3: What a build makes -/

/-- A span has a start of its own, or the time of its record. -/
def IsTimedSpan (entry : Entry) (fields : Json.Fields) (item : SpanItem) : Prop :=
  ∃ time, Timestamp.parse entry.record.time = .ok time ∧ StartsAt time fields item.timestamp

/-- **Fan-out**: items for the pieces of some records, one by one and in order, with their
    times and with the next ids of a source. -/
structure FansOut (ids : Nat → String) (identity : Identity) (entries : List Entry)
    (payloads : Payloads) : Prop extends Attributed identity entries payloads where
  timed : Fanned RawRecord.spanFields IsTimedSpan entries payloads.traces
  drawn : payloads.traces.map SpanItem.id = nextIds ids 0 payloads.traces.length

theorem fansOut_build {ids : Nat → String} {identity : Identity} {entries : List Entry}
    {payloads : Payloads} (h : build ids identity entries = .ok payloads) :
    FansOut ids identity entries payloads where
  toAttributed := attributed_build h
  timed := by
    refine (attributed_build h).traces.imp ?_
    rintro entry fields item ⟨-, time, hparse, hspan⟩
    exact ⟨time, hparse, (taken_spanItem hspan).start⟩
  drawn := ids_buildFrom ids h

/-- **Fan-out in order**: records without faults are built, and fan out. All others fail with
    their first fault. Builds of lists that follow each other follow each other. -/
theorem build_fans_out_in_order (ids ids' ids'' : Nat → String) (identity : Identity)
    (entries more : List Entry) :
    (match faultsOf entries with
      | [] => ∃ payloads, build ids identity entries = .ok payloads ∧
          FansOut ids identity entries payloads
      | fault :: _ => build ids identity entries = .error fault) ∧
    (build ids identity (entries ++ more)).map Payloads.withoutIds
      = (build ids' identity entries).bind fun payloads =>
          (build ids'' identity more).map fun next => (payloads.append next).withoutIds := by
  refine ⟨?_, build_append ids ids' ids'' identity entries more⟩
  have hfault := errorOf_buildFrom ids identity entries 0
  cases hbuild : build ids identity entries with
  | ok payloads =>
    rw [← build, hbuild] at hfault
    rw [List.head?_eq_none_iff.mp hfault.symm]
    exact ⟨payloads, rfl, fansOut_build hbuild⟩
  | error e =>
    rw [← build, hbuild] at hfault
    obtain ⟨rest, hfaults⟩ := List.head?_eq_some_iff.mp hfault.symm
    rw [hfaults]

end Telemetry

end TelemetryRelay
