import Mathlib.Logic.Relation
import TelemetryRelay.Proofs.Dispatch.Conservation
import TelemetryRelay.Proofs.Dispatch.Order
import TelemetryRelay.Proofs.Payload.SpanIds

/-! # How records are framed does not matter

    Records come to a dispatch in chunks, and chunks in invocations. Some chunks cannot be
    read. This module says what of all this a dispatch depends on:

    - `Reframing` has a constructor for each way in which two harvests can hold the same
      records in other chunks, and `Reframed` is any number of these, in both directions,
    - harvests that are reframed hold the same records under the same ids, in order,
    - a dispatch depends on these records only; a chunk that cannot be read adds one notice
      in front of all others, and changes nothing else,
    - what is built of the records is the same for all sources of span ids, but for the ids.
-/

namespace TelemetryRelay

namespace Ingest

open Telemetry (Fails Identity Invocation Payloads RawRecord)

/-! ## Section 1: Harvests with the same records -/

/-- Chunks that can all be read, with their records one after the other. -/
def Reads (chunks : List Bytes) (records : List RawRecord) : Prop :=
  ∃ parts, List.Forall₂ (fun chunk part => Telemetry.decodeChunk chunk = .ok part) chunks parts ∧
    parts.flatten = records

/-- An invocation in which no record can be read. -/
def IsBarren (invocation : Invocation) : Prop :=
  ∀ chunk ∈ invocation.chunks, ∀ records,
    Telemetry.decodeChunk chunk = .ok records → records = []

/-- **Reframing**: one way in which a harvest can hold the records of another. -/
inductive Reframing : List Invocation → List Invocation → Prop
  /-- A chunk that cannot be read is left out. -/
  | refused (before after : List Invocation) (invocation : Invocation)
      (front back : List Bytes) (chunk : Bytes) :
      Fails (Telemetry.decodeChunk chunk) → invocation.chunks = front ++ chunk :: back →
      Reframing (before ++ invocation :: after)
        (before ++ { invocation with chunks := front ++ back } :: after)
  /-- An invocation in which no record can be read is left out. -/
  | barren (before after : List Invocation) (invocation : Invocation) :
      IsBarren invocation → Reframing (before ++ invocation :: after) (before ++ after)
  /-- Chunks that follow each other are put together in one. -/
  | joined (before after : List Invocation) (invocation : Invocation)
      (front part back : List Bytes) (whole : Bytes) (records : List RawRecord) :
      invocation.chunks = front ++ part ++ back → Reads part records →
      Telemetry.decodeChunk whole = .ok records →
      Reframing (before ++ invocation :: after)
        (before ++ { invocation with chunks := front ++ whole :: back } :: after)

/-- **Reframed**: harvests that differ in any number of these ways, in both directions. -/
def Reframed : List Invocation → List Invocation → Prop := Relation.EqvGen Reframing

theorem recordsOf_of_ok (requestId : String) {chunk : Bytes} {records : List RawRecord}
    (h : Telemetry.decodeChunk chunk = .ok records) :
    recordsOf requestId chunk = records.map fun record => ⟨requestId, record⟩ := by
  simp [recordsOf, entriesOf, h, Except.map, Except.toOption]

theorem recordsOf_of_fails (requestId : String) {chunk : Bytes}
    (h : Fails (Telemetry.decodeChunk chunk)) : recordsOf requestId chunk = [] := by
  obtain ⟨fault, hfault⟩ := h
  simp [recordsOf, entriesOf, hfault, Except.map, Except.toOption]

/-- The records of a barren invocation are none. -/
theorem IsBarren.records {invocation : Invocation} (h : IsBarren invocation) :
    invocation.chunks.flatMap (recordsOf invocation.requestId) = [] := by
  rw [List.flatMap_eq_nil_iff]
  intro chunk hmem
  cases hdecode : Telemetry.decodeChunk chunk with
  | error fault => exact recordsOf_of_fails _ ⟨fault, hdecode⟩
  | ok records =>
    rw [recordsOf_of_ok _ hdecode, h chunk hmem records hdecode]
    rfl

/-- The records of chunks that can be read are those read, under their id. -/
theorem Reads.records {chunks : List Bytes} {records : List RawRecord}
    (h : Reads chunks records) (requestId : String) :
    chunks.flatMap (recordsOf requestId) = records.map fun record => ⟨requestId, record⟩ := by
  obtain ⟨parts, hparts, rfl⟩ := h
  induction hparts with
  | nil => rfl
  | cons hchunk _ ih =>
    rw [List.flatMap_cons, List.flatten_cons, List.map_append, ih, recordsOf_of_ok _ hchunk]

/-- **Step**: reframing a harvest once keeps its records. -/
theorem Reframing.flatten_eq {harvested other : List Invocation}
    (h : Reframing harvested other) : flatten other = flatten harvested := by
  -- as a `flatMap` over invocations, records before and after the change are the same
  rw [flatten_eq_flatMap, flatten_eq_flatMap]
  cases h with
  | refused before after invocation front back chunk hrefused hchunks =>
    have hnone := recordsOf_of_fails invocation.requestId hrefused
    simp [hchunks, hnone]
  | barren before after invocation hbarren =>
    simp [hbarren.records]
  | joined before after invocation front part back whole records hchunks hpart hwhole =>
    have hsame : part.flatMap (recordsOf invocation.requestId)
        = recordsOf invocation.requestId whole := by
      rw [hpart.records, recordsOf_of_ok _ hwhole]
    simp [hchunks, hsame]

/-- **Run**: reframing it any number of times does. -/
theorem Reframed.flatten_eq {harvested other : List Invocation} (h : Reframed harvested other) :
    flatten other = flatten harvested := by
  induction h with
  | rel _ _ hstep => exact hstep.flatten_eq
  | refl _ => rfl
  | symm _ _ _ ih => exact ih.symm
  | trans _ _ _ _ _ ih ih' => exact ih'.trans ih

/-! ## Section 2: What a dispatch depends on -/

/-- A cycle with some notices in front of its own. -/
def Cycle.following (notices : List Log.Notice) (cycle : Cycle) : Cycle :=
  { cycle with notices := notices ++ cycle.notices }

theorem stop_append (context : Context) (first notices : List Log.Notice)
    (result : Except HarvestError Summary) :
    context.stop (first ++ notices) result = (context.stop notices result).following first :=
  rfl

theorem deliver_append (dispatcher : Dispatcher) (context : Context) (credential : String)
    (records drawn : Nat) (first notices : List Log.Notice) (parcels : List Parcel) :
    dispatcher.deliver context credential records drawn (first ++ notices) parcels
      = (dispatcher.deliver context credential records drawn notices parcels).following
        first := by
  simp [Dispatcher.deliver, Cycle.following, List.append_assoc]

section

variable (dispatcher : Dispatcher) (context : Context) (identity : Identity)
  (harvested : List Invocation)

/-- **Records decide**: harvests with the same records are dispatched alike, after the
    notices about their own chunks that cannot be read. -/
theorem exists_dispatch_of_records :
    ∃ rest : Cycle, ∀ other, flatten other = flatten harvested →
      dispatcher.dispatch context identity other = rest.following (malformedNotices other) := by
  by_cases hempty : flatten harvested = []
  · refine ⟨context.stop [] (.ok .empty), fun other hsame => ?_⟩
    rw [dispatch_empty dispatcher context identity other (hsame.trans hempty), ← stop_append,
      List.append_nil]
  · let reported := Telemetry.buildNotices (flatten harvested) (context.build identity harvested)
    have hreports (other : List Invocation) (hsame : flatten other = flatten harvested) :
        context.reports identity other = malformedNotices other ++ reported := by
      rw [Context.reports, Context.build, hsame]
      rfl
    have hbuild (other : List Invocation) (hsame : flatten other = flatten harvested) :
        context.build identity other = context.build identity harvested := by
      rw [Context.build, hsame, Context.build]
    have hdispatch (other : List Invocation) (hsame : flatten other = flatten harvested) :=
      dispatch_of_records dispatcher context identity other (hsame ▸ hempty)
    -- how far the dispatch comes is the same for all of them
    cases hbuilt : context.build identity harvested with
    | error error =>
      refine ⟨context.stop reported (.error (.build error)), fun other hsame => ?_⟩
      rw [hdispatch other hsame, hbuild other hsame, hreports other hsame, hbuilt]
      exact stop_append ..
    | ok payloads =>
      cases hkey : context.keyring.obtain.1 with
      | error error =>
        refine ⟨context.asked.stop reported (.error (.credential error)), fun other hsame => ?_⟩
        rw [hdispatch other hsame, hbuild other hsame, hreports other hsame, hbuilt]
        simp only [hkey]
        exact stop_append ..
      | ok credential =>
        let planned := reported ++ (dispatcher.plan identity payloads).notices
        cases hplan : (dispatcher.plan identity payloads).result with
        | error error =>
          refine ⟨context.asked.stop planned (.error error), fun other hsame => ?_⟩
          rw [hdispatch other hsame, hbuild other hsame, hreports other hsame, hbuilt]
          simp only [hkey, hplan, List.append_assoc]
          exact stop_append ..
        | ok parcels =>
          refine ⟨dispatcher.deliver context.asked credential (flatten harvested).length
            (context.drawn + payloads.traces.length) planned parcels, fun other hsame => ?_⟩
          rw [hdispatch other hsame, hbuild other hsame, hreports other hsame, hbuilt, hsame]
          simp only [hkey, hplan, List.append_assoc]
          exact deliver_append ..

/-! ## Section 3: Other ids -/

variable {harvested}

/-- Where compressing never fails, an error before the posting is the one of the build or,
    if something was built, the one of the key. -/
theorem Course.early_iff {dispatcher : Dispatcher} {context : Context} {identity : Identity}
    {cycle : Cycle} (hcourse : Course dispatcher context identity harvested cycle)
    (hcodec : dispatcher.codec.Total) {error : HarvestError} (hearly : error.IsEarly) :
    cycle.result = .error error ↔
      flatten harvested ≠ [] ∧
        match context.build identity harvested with
        | .error cause => error = .build cause
        | .ok _ => ∃ cause, context.keyring.obtain.1 = .error cause ∧ error = .credential cause := by
  cases hcourse with
  | empty hempty =>
    constructor
    · nofun
    · exact fun h => absurd hempty h.1
  | unbuilt cause hsome hbuilt =>
    simp only [hbuilt, Context.stop, Except.error.injEq, hsome, ne_eq, not_false_eq_true,
      true_and]
    exact eq_comm
  | keyless payloads cause hsome hbuilt hkey =>
    simp only [hbuilt, hkey, Context.stop, Except.error.injEq, hsome, ne_eq, not_false_eq_true,
      true_and, exists_eq_left']
    exact eq_comm
  | unsplit payloads credential cause hsome hbuilt hkey hplan =>
    exact absurd hplan (Dispatcher.plan_ne_error hcodec identity payloads)
  | delivered payloads credential parcels hsome hbuilt hkey hplan =>
    simp only [hbuilt, hkey]
    constructor
    · exact fun hresult => absurd hearly (not_isEarly_of_conclude hresult)
    · rintro ⟨-, cause, hcause, -⟩
      cases hcause

/-- A context with another source of ids. -/
def Context.drawing (context : Context) (ids : Nat → String) (drawn : Nat) : Context :=
  { context with ids := ids, drawn := drawn }

/-- **Same but for the ids**: what two sources of ids lead to for harvests with the same
    records. -/
structure SameButIds (dispatcher : Dispatcher) (context free : Context) (identity : Identity)
    (harvested other : List Invocation) : Prop where
  /-- The same is built, or fails to be built for the same reason. -/
  build : (free.build identity other).map Payloads.withoutIds
    = (context.build identity harvested).map Payloads.withoutIds
  /-- The key is looked up in the same cases. -/
  keyring : (dispatcher.dispatch free identity other).keyring
    = (dispatcher.dispatch context identity harvested).keyring
  /-- The errors before the posting are the same. -/
  early : dispatcher.codec.Total → ∀ error : HarvestError, error.IsEarly →
    ((dispatcher.dispatch free identity other).result = .error error ↔
      (dispatcher.dispatch context identity harvested).result = .error error)
  /-- The parcels of all kinds whose items have no ids are the same. -/
  parcels : dispatcher.codec.Total → ∀ signal, signal ≠ .traces →
    ((dispatcher.dispatch free identity other).parcels.filter
        fun parcel => parcel.signal = signal)
      = (dispatcher.dispatch context identity harvested).parcels.filter
        fun parcel => parcel.signal = signal

/-- Payloads that are the same without ids have the same bodies of all kinds but spans. -/
theorem bodiesOf_withoutIds (codec : Codec) (limit : Nat) {payloads payloads' : Payloads}
    (h : payloads'.withoutIds = payloads.withoutIds) {signal : Signal}
    (hsignal : signal ≠ .traces) :
    bodiesOf codec limit identity payloads' signal
      = bodiesOf codec limit identity payloads signal := by
  have hevents : payloads'.events = payloads.events := (congrArg Payloads.events h :)
  have hmetrics : payloads'.metrics = payloads.metrics := (congrArg Payloads.metrics h :)
  have hlogging : payloads'.logging = payloads.logging := (congrArg Payloads.logging h :)
  cases signal with
  | logging => simp only [bodiesOf, hlogging]
  | metrics => simp only [bodiesOf, hmetrics]
  | events => simp only [bodiesOf, hevents]
  | traces => exact absurd rfl hsignal

/-- What is built of the same records is the same without ids. -/
theorem build_drawing (ids : Nat → String) (drawn : Nat) {other : List Invocation}
    (hsame : flatten other = flatten harvested) :
    ((context.drawing ids drawn).build identity other).map Payloads.withoutIds
      = (context.build identity harvested).map Payloads.withoutIds := by
  rw [Context.build, Context.build, hsame,
    Telemetry.buildFrom_withoutIds _ identity (flatten harvested) _ 0,
    Telemetry.buildFrom_withoutIds _ identity (flatten harvested) _ 0]

/-- **Other ids**: where records come from another harvest and ids from another source, all
    is the same but for the ids. -/
theorem sameButIds_drawing (ids : Nat → String) (drawn : Nat) {other : List Invocation}
    (hsame : flatten other = flatten harvested) :
    SameButIds dispatcher context (context.drawing ids drawn) identity harvested other := by
  have hbuild := build_drawing context identity ids drawn hsame
  have hcourse := dispatch_course dispatcher context identity harvested
  have hcourse' := dispatch_course dispatcher (context.drawing ids drawn) identity other
  refine ⟨hbuild, ?_, ?_, ?_⟩
  · have hbuildable : Buildable other ↔ Buildable harvested :=
      ⟨fun h => ⟨hsame ▸ h.some, hsame ▸ h.sound⟩, fun h => ⟨hsame ▸ h.some, hsame ▸ h.sound⟩⟩
    by_cases h : Buildable harvested
    · rw [(hcourse.of_buildable h).1, (hcourse'.of_buildable (hbuildable.mpr h)).1]
      rfl
    · rw [keyring_of_not_buildable dispatcher context identity h,
        keyring_of_not_buildable dispatcher _ identity (hbuildable.not.mpr h)]
      rfl
  · intro hcodec error hearly
    rw [hcourse.early_iff hcodec hearly, hcourse'.early_iff hcodec hearly, hsame]
    -- by `hbuild` both are built or neither is, and then for the same reason
    cases hbuilt : context.build identity harvested with
    | error cause =>
      cases hbuilt' : (context.drawing ids drawn).build identity other with
      | error cause' =>
        rw [hbuilt, hbuilt'] at hbuild
        rw [Except.error.inj hbuild]
      | ok payloads => simp [hbuilt, hbuilt', Except.map] at hbuild
    | ok payloads =>
      cases hbuilt' : (context.drawing ids drawn).build identity other with
      | error cause => simp [hbuilt, hbuilt', Except.map] at hbuild
      | ok payloads' => rfl
  · intro hcodec signal hsignal
    rw [hcourse.parcels_eq hcodec, hcourse'.parcels_eq hcodec]
    cases hbuilt : context.build identity harvested with
    | error cause =>
      cases hbuilt' : (context.drawing ids drawn).build identity other with
      | error cause' => rfl
      | ok payloads => simp [hbuilt, hbuilt', Except.map] at hbuild
    | ok payloads =>
      cases hbuilt' : (context.drawing ids drawn).build identity other with
      | error cause => simp [hbuilt, hbuilt', Except.map] at hbuild
      | ok payloads' =>
        rw [hbuilt, hbuilt'] at hbuild
        have hshare : dispatcher.share identity payloads' signal
            = dispatcher.share identity payloads signal :=
          Dispatcher.share_congr rfl rfl rfl
            (bodiesOf_withoutIds identity _ _ (Except.ok.inj hbuild) hsignal)
        have hkey : (context.drawing ids drawn).keyring = context.keyring := rfl
        rw [hkey]
        cases context.keyring.obtain.1 with
        | error error => rfl
        | ok credential =>
          simp only [Dispatcher.filter_shares, hshare]

end

/-! ## Section 4: Framing does not matter -/

/-- **Reports**: one notice for each chunk that cannot be read, in the order of the chunks. -/
def ReportsRefused (harvested : List Invocation) (notices : List Log.Notice) : Prop :=
  List.Forall₂
    (fun filed notice => ∃ fault, Telemetry.decodeChunk filed.2 = .error fault ∧
      notice = .chunkMalformed filed.2.length filed.1 fault)
    ((filedChunks harvested).filter fun filed => !(Telemetry.decodeChunk filed.2).isOk) notices

theorem reportsRefused (harvested : List Invocation) :
    ReportsRefused harvested (malformedNotices harvested) := by
  unfold ReportsRefused malformedNotices
  induction filedChunks harvested with
  | nil => exact .nil
  | cons filed rest ih =>
    cases hdecode : Telemetry.decodeChunk filed.2 with
    | error fault => simpa [hdecode, Except.isOk, Except.toBool] using ih
    | ok records => simpa [hdecode, Except.isOk, Except.toBool] using ih

/-- Cycles that did the same, whatever they gave notice of. -/
structure Cycle.Agrees (cycle other : Cycle) : Prop where
  made : other.made = cycle.made
  parcels : other.parcels = cycle.parcels
  keyring : other.keyring = cycle.keyring
  drawn : other.drawn = cycle.drawn
  cancels : other.cancels = cycle.cancels
  result : other.result = cycle.result

/-- **Framing does not matter**: harvests that differ only in chunks that cannot be read, in
    invocations without a record that can be read, and in how records that follow each other
    in an invocation are put in chunks are dispatched alike. The requests, the parcels, the
    lookup of the key and the result are the same. Each dispatch gives one notice for each of
    its own chunks that cannot be read, in their order, and then the same notices as the
    other. From another source of ids, all is the same but for the ids of spans. -/
theorem framing_does_not_matter (dispatcher : Dispatcher) (context : Context)
    (identity : Identity) {harvested other : List Invocation} (h : Reframed harvested other) :
    let cycle := dispatcher.dispatch context identity harvested
    let reframed := dispatcher.dispatch context identity other
    cycle.Agrees reframed ∧
    (∃ refused refused' reported,
      ReportsRefused harvested refused ∧ cycle.notices = refused ++ reported ∧
      ReportsRefused other refused' ∧ reframed.notices = refused' ++ reported) ∧
    ∀ ids drawn,
      SameButIds dispatcher context (context.drawing ids drawn) identity harvested other := by
  intro cycle reframed
  obtain ⟨rest, hrest⟩ := exists_dispatch_of_records dispatcher context identity harvested
  have hcycle : cycle = rest.following (malformedNotices harvested) := hrest harvested rfl
  have hreframed : reframed = rest.following (malformedNotices other) :=
    hrest other h.flatten_eq
  refine ⟨?_, ?_, ?_⟩
  · rw [hcycle, hreframed]
    exact ⟨rfl, rfl, rfl, rfl, rfl, rfl⟩
  · refine ⟨malformedNotices harvested, malformedNotices other, rest.notices,
      reportsRefused harvested, ?_, reportsRefused other, ?_⟩
    · rw [hcycle]
      rfl
    · rw [hreframed]
      rfl
  · exact fun ids drawn =>
      sameButIds_drawing dispatcher context identity ids drawn h.flatten_eq

/-- The chunk of one record without a body. -/
def loneChunk (record : RawRecord) : Bytes := Bytes.ofText (Telemetry.chunkText [record])

/-- Two records in chunks of their own, after a chunk that cannot be read, and an invocation
    without records. -/
def scatteredRecords : List Invocation :=
  [⟨"r", 0, [Bytes.ofText "oops", loneChunk ⟨"2024-01-01T00:00:00Z", "a", none⟩,
      loneChunk ⟨"2024-01-01T00:00:01Z", "b", none⟩]⟩,
    ⟨"s", 0, [Bytes.ofText "[]"]⟩]

/-- They are reframed as two records in one chunk. -/
theorem reframed_scatteredRecords : Reframed scatteredRecords twoRecords := by
  have hrefused : Fails (Telemetry.decodeChunk (Bytes.ofText "oops")) := ⟨_, rfl⟩
  have hbarren : IsBarren ⟨"s", 0, [Bytes.ofText "[]"]⟩ := by
    intro chunk hmem records hdecode
    rw [List.mem_singleton.mp hmem] at hdecode
    exact (Except.ok.inj hdecode).symm
  have hpart : Reads [loneChunk ⟨"2024-01-01T00:00:00Z", "a", none⟩,
      loneChunk ⟨"2024-01-01T00:00:01Z", "b", none⟩]
      [⟨"2024-01-01T00:00:00Z", "a", none⟩, ⟨"2024-01-01T00:00:01Z", "b", none⟩] :=
    ⟨[[_], [_]], .cons rfl (.cons rfl .nil), rfl⟩
  -- first the chunk goes, then the invocation, and then the records are put together
  refine .trans _ _ _ (.rel _ _ (.refused [] [_] _ [] _ _ hrefused rfl)) ?_
  refine .trans _ _ _ (.rel _ _ (.barren [_] [] _ hbarren)) ?_
  exact .rel _ _ (.joined [] [] _ [] _ [] _ _ (List.append_nil _).symm hpart rfl)

/-- Both are posted in two parcels, which makes two requests. -/
theorem framing_scatteredRecords :
    let cycle := narrowDispatcher.dispatch openContext ⟨"f", "a"⟩ scatteredRecords
    cycle.Agrees (narrowDispatcher.dispatch openContext ⟨"f", "a"⟩ twoRecords) ∧
      cycle.parcels.length = 2 := by
  have hagrees := (framing_does_not_matter narrowDispatcher openContext ⟨"f", "a"⟩
    reframed_scatteredRecords).1
  refine ⟨hagrees, ?_⟩
  decide +kernel

end Ingest

end TelemetryRelay
