import TelemetryRelay.Ingest.Dispatch
import TelemetryRelay.Proofs.Batch.Arrival
import TelemetryRelay.Proofs.Payload.Attribution

/-! # Where the items of a harvest stand

    The items that are built from a harvest come from records, these from chunks, and
    these from operations on the batch. This module says which item stands where, from
    the operations alone. A piece of a record has a place of four numbers:

    - when its id was first used, among the ids used since the last harvest,
    - when its chunk was filed, among the chunks under this id,
    - which record of the chunk it is of, and which piece of this record it is.

    The items of each collection are those of all pieces, in the lexicographic order of
    their places. So the items of one invocation are never between those of another.
-/

namespace TelemetryRelay

namespace Ingest

open Telemetry (Batch Entry Identity Invocation Payloads RawRecord Reading Thresholds)
open Telemetry.Batch (Operation Since after filedUnder filings firstUses)

/-! ## Section 1: Places -/

section Numbered

variable {α β : Type} {parts : α → List (List Nat × β)}

/-- The parts of some elements. The place of a part is the number of its element, and
    after that its place in the element. -/
def numbered (parts : α → List (List Nat × β)) (elements : List α) : List (List Nat × β) :=
  elements.zipIdx.flatMap fun p => (parts p.1).map fun q => (p.2 :: q.1, q.2)

/-- Without their places, the parts are those of each element. -/
theorem map_snd_numbered (elements : List α) :
    (numbered parts elements).map Prod.snd
      = elements.flatMap fun element => (parts element).map Prod.snd := by
  unfold numbered
  rw [List.map_flatMap]
  conv_rhs => rw [← List.zipIdx_map_fst 0 elements, List.flatMap_map]
  simp only [List.map_map, Function.comp_def]

theorem mem_numbered {elements : List α} {place : List Nat} {part : β} :
    (place, part) ∈ numbered parts elements ↔
      ∃ number element rest, elements[number]? = some element ∧ place = number :: rest ∧
        (rest, part) ∈ parts element := by
  unfold numbered
  rw [List.mem_flatMap]
  constructor
  · rintro ⟨⟨element, number⟩, hmem, hpart⟩
    obtain ⟨⟨rest, _⟩, hin, heq⟩ := List.mem_map.mp hpart
    obtain ⟨rfl, rfl⟩ := Prod.mk.inj heq
    exact ⟨number, element, rest, List.mem_zipIdx_iff_getElem?.mp hmem, rfl, hin⟩
  · rintro ⟨number, element, rest, hget, rfl, hin⟩
    refine ⟨(element, number), List.mem_zipIdx_iff_getElem?.mpr hget, ?_⟩
    exact List.mem_map_of_mem (f := fun q : List Nat × β => (number :: q.1, q.2)) hin

/-- Elements are numbered in increasing order. -/
theorem pairwise_snd_zipIdx :
    ∀ (elements : List α) (start : Nat),
      (elements.zipIdx start).Pairwise fun p q => p.2 < q.2
  | [], _ => .nil
  | element :: rest, start => by
    rw [List.zipIdx_cons, List.pairwise_cons]
    refine ⟨?_, pairwise_snd_zipIdx rest (start + 1)⟩
    intro p hmem
    exact List.le_snd_of_mem_zipIdx hmem

/-- Parts stand in the order of their places if those of each element do. -/
theorem pairwise_numbered (h : ∀ element, (parts element).Pairwise fun p q => p.1 < q.1)
    (elements : List α) : (numbered parts elements).Pairwise fun p q => p.1 < q.1 := by
  unfold numbered
  rw [List.pairwise_flatMap]
  constructor
  · intro p _
    rw [List.pairwise_map]
    exact (h p.1).imp fun hlt => List.cons_lt_cons_iff.mpr (.inr ⟨rfl, hlt⟩)
  · -- the numbers of the elements decide
    refine (pairwise_snd_zipIdx elements 0).imp ?_
    intro p q hlt first hfirst second hsecond
    obtain ⟨_, _, rfl⟩ := List.mem_map.mp hfirst
    obtain ⟨_, _, rfl⟩ := List.mem_map.mp hsecond
    exact List.cons_lt_cons_iff.mpr (.inl hlt)

end Numbered

/-! ## Section 2: Places of pieces -/

section Placed

variable {σ ι : Type} {pieces : RawRecord → List σ}

/-- **Stands at**: a piece of a record that was filed by the operations `recent`, after the
    operations `before`, and its place. -/
def StandsAt (before recent : List Operation) (pieces : RawRecord → List σ)
    (place : List Nat) (entry : Entry) (piece : σ) : Prop :=
  ∃ use arrival position rank chunk records,
    place = [use, arrival, position, rank] ∧
    (firstUses before recent)[use]? = some entry.requestId ∧
    (filedUnder entry.requestId (filings before recent))[arrival]? = some chunk ∧
    Telemetry.decodeChunk chunk = .ok records ∧
    records[position]? = some entry.record ∧
    (pieces entry.record)[rank]? = some piece

/-- **Arrangement**: items made by all pieces of the records filed by the operations
    `recent`, after the operations `before`. They are in the order of the places where the
    pieces stand, and those under one id are not mixed with those under another. -/
structure Arrangement (before recent : List Operation) (pieces : RawRecord → List σ)
    (Makes : Entry → σ → ι → Prop) (items : List ι) (placed : List (List Nat × Entry × σ)) :
    Prop where
  stands : ∀ place entry piece, (place, entry, piece) ∈ placed ↔
    StandsAt before recent pieces place entry piece
  ordered : placed.Pairwise fun p q => p.1 < q.1
  apart : ∀ first middle last, [first, middle, last].Sublist placed →
    first.2.1.requestId = last.2.1.requestId → middle.2.1.requestId = first.2.1.requestId
  made : List.Forall₂ (fun p item => Makes p.2.1 p.2.2 item) placed items

/-- Items that have such an arrangement. -/
def Arranged (before recent : List Operation) (pieces : RawRecord → List σ)
    (Makes : Entry → σ → ι → Prop) (items : List ι) : Prop :=
  ∃ placed, Arrangement before recent pieces Makes items placed

/-- The records of a chunk; none if it cannot be read. -/
def recordsOf (requestId : String) (chunk : Bytes) : List Entry :=
  (entriesOf requestId chunk).toOption.getD []

theorem mem_recordsOf {requestId : String} {chunk : Bytes} {position : Nat} {entry : Entry} :
    (recordsOf requestId chunk)[position]? = some entry ↔
      entry.requestId = requestId ∧ ∃ records, Telemetry.decodeChunk chunk = .ok records ∧
        records[position]? = some entry.record := by
  unfold recordsOf entriesOf
  cases hdecode : Telemetry.decodeChunk chunk with
  | error fault => simp [Except.map, Except.toOption]
  | ok records =>
    simp only [Except.map, Except.toOption, Option.getD_some, List.getElem?_map,
      Option.map_eq_some_iff, Except.ok.injEq, exists_eq_left']
    constructor
    · rintro ⟨record, hget, rfl⟩
      exact ⟨rfl, hget⟩
    · rintro ⟨rfl, hget⟩
      exact ⟨entry.record, hget, rfl⟩

/-- The pieces of all records filed by the operations `recent`, after the operations
    `before`, with their places. -/
def placedPieces (before recent : List Operation) (pieces : RawRecord → List σ) :
    List (List Nat × Entry × σ) :=
  numbered (fun requestId =>
    numbered (fun chunk =>
      numbered (fun entry =>
        numbered (fun piece => [([], entry, piece)]) (pieces entry.record))
      (recordsOf requestId chunk))
    (filedUnder requestId (filings before recent)))
  (firstUses before recent)

theorem mem_placedPieces {before recent : List Operation} {place : List Nat} {entry : Entry}
    {piece : σ} :
    (place, entry, piece) ∈ placedPieces before recent pieces ↔
      StandsAt before recent pieces place entry piece := by
  unfold placedPieces StandsAt
  simp only [mem_numbered, List.mem_singleton, Prod.mk.injEq, mem_recordsOf]
  constructor
  · rintro ⟨use, _, _, huse, rfl, arrival, chunk, _, harrival, rfl, position, _, _,
      ⟨rfl, records, hdecode, hposition⟩, rfl, rank, _, _, hrank, rfl, rfl, rfl, rfl⟩
    exact ⟨use, arrival, position, rank, chunk, records, rfl, huse, harrival, hdecode,
      hposition, hrank⟩
  · rintro ⟨use, arrival, position, rank, chunk, records, rfl, huse, harrival, hdecode,
      hposition, hrank⟩
    exact ⟨use, _, _, huse, rfl, arrival, chunk, _, harrival, rfl, position, entry, _,
      ⟨rfl, records, hdecode, hposition⟩, rfl, rank, piece, _, hrank, rfl, rfl, rfl, rfl⟩

theorem pairwise_placedPieces (before recent : List Operation) :
    (placedPieces before recent pieces).Pairwise fun p q => p.1 < q.1 := by
  unfold placedPieces
  apply pairwise_numbered
  intro requestId
  apply pairwise_numbered
  intro chunk
  apply pairwise_numbered
  intro entry
  apply pairwise_numbered
  intro piece
  exact List.pairwise_singleton _ _

/-- Without their places, these are the pieces of the records of the filed chunks. -/
theorem map_snd_placedPieces (before recent : List Operation) :
    (placedPieces before recent pieces).map Prod.snd
      = Telemetry.piecesOf pieces ((firstUses before recent).flatMap fun requestId =>
          (filedUnder requestId (filings before recent)).flatMap (recordsOf requestId)) := by
  unfold placedPieces Telemetry.piecesOf
  simp only [map_snd_numbered, List.flatMap_assoc, List.map_singleton]
  simp only [List.map_eq_flatMap]

/-- Of three pieces in their order, the one in the middle stands under the id of the outer
    ones, if these stand under one. -/
theorem StandsAt.not_between {before recent : List Operation} {place place' place'' : List Nat}
    {entry entry' entry'' : Entry} {piece piece' piece'' : σ}
    (h : StandsAt before recent pieces place entry piece)
    (h' : StandsAt before recent pieces place' entry' piece')
    (h'' : StandsAt before recent pieces place'' entry'' piece'')
    (hlt : place < place') (hlt' : place' < place'')
    (hsame : entry.requestId = entry''.requestId) :
    entry'.requestId = entry.requestId := by
  obtain ⟨use, _, _, _, _, _, rfl, huse, -⟩ := h
  obtain ⟨use', _, _, _, _, _, rfl, huse', -⟩ := h'
  obtain ⟨use'', _, _, _, _, _, rfl, huse'', -⟩ := h''
  -- an id has one first use
  have hdistinct : (firstUses before recent).Nodup := Batch.nodup_eraseDups _
  have houter : use = use'' := by
    have hbound := (List.getElem?_eq_some_iff.mp huse).1
    apply (List.getElem?_inj hbound hdistinct).mp
    rw [huse, huse'', hsame]
  have hmiddle : use' = use := by
    rcases List.cons_lt_cons_iff.mp hlt with hless | ⟨heq, -⟩
    · rcases List.cons_lt_cons_iff.mp hlt' with hless' | ⟨heq', -⟩
      · omega
      · omega
    · exact heq.symm
  rw [hmiddle, huse] at huse'
  exact (Option.some.inj huse').symm

/-- Items that the pieces of the filed records make, one by one, are arranged. -/
theorem arrangement_of_fanned {before recent : List Operation} {Makes : Entry → σ → ι → Prop}
    {items : List ι}
    (h : Telemetry.Fanned pieces Makes ((firstUses before recent).flatMap fun requestId =>
      (filedUnder requestId (filings before recent)).flatMap (recordsOf requestId)) items) :
    Arrangement before recent pieces Makes items (placedPieces before recent pieces) where
  stands _ _ _ := mem_placedPieces
  ordered := pairwise_placedPieces before recent
  apart first middle last hsub := by
    have hstands : ∀ p ∈ [first, middle, last], StandsAt before recent pieces p.1 p.2.1 p.2.2 :=
      fun p hmem => mem_placedPieces.mp (hsub.subset hmem)
    have hordered := (pairwise_placedPieces before recent).sublist hsub
    simp only [List.pairwise_cons, List.mem_cons, List.not_mem_nil, or_false] at hordered hstands
    exact (hstands first (.inl rfl)).not_between (hstands middle (.inr (.inl rfl)))
      (hstands last (.inr (.inr rfl))) (hordered.1 middle (.inl rfl))
      (hordered.2.1 last rfl)
  made := by
    unfold Telemetry.Fanned at h
    rw [← map_snd_placedPieces, List.forall₂_map_left_iff] at h
    exact h

end Placed

/-! ## Section 3: Harvests -/

/-- The records of a harvest are those of its chunks under their ids. -/
theorem flatten_eq_flatMap (harvested : List Invocation) :
    flatten harvested = harvested.flatMap fun invocation =>
      invocation.chunks.flatMap (recordsOf invocation.requestId) := by
  simp only [flatten, entriesOfChunks, filedChunks, List.flatMap_assoc, List.flatMap_map]
  rfl

/-- The records of a harvest are those of the chunks filed since the last one, by the first
    uses of their ids. -/
theorem flatten_harvest {thresholds : Thresholds} {created moment : Nat} {reading : Reading}
    {force : Bool} {before recent : List (Reading × Operation)}
    (hsince : Since thresholds created before recent moment)
    (heffect : (after thresholds created (before ++ recent)).TakesEffect thresholds reading
      (.harvest force)) :
    flatten ((after thresholds created (before ++ recent)).harvest thresholds reading force).taken
      = (firstUses (before.map Prod.snd) (recent.map Prod.snd)).flatMap fun requestId =>
          (filedUnder requestId (filings (before.map Prod.snd) (recent.map Prod.snd))).flatMap
            (recordsOf requestId) := by
  have hheld (invocations : List Invocation) :
      (invocations.flatMap fun invocation =>
          invocation.chunks.flatMap (recordsOf invocation.requestId))
        = (invocations.map Invocation.held).flatMap fun held =>
            held.2.flatMap (recordsOf held.1) := by
    rw [List.flatMap_map]
    rfl
  rw [(Batch.harvest_with_effect heffect).1, flatten_eq_flatMap, hheld, hsince.held,
    List.flatMap_map]

/-- **Attribution and order**: when a run on a batch ends with a harvest that takes effect,
    and its records can be built, the items of each collection are those of all pieces of the
    records filed since the harvest before, in the lexicographic order of the first use of
    the id, the arrival of the chunk under it, the position of the record and the rank of the
    piece. A log entry names the id that its chunk was filed under, and so do a metric and a
    span, unless the body names a request by a text, which they name then. -/
theorem harvest_attributes_in_order (thresholds : Thresholds) (created : Nat)
    (operations : List (Reading × Operation)) (reading : Reading) (force : Bool)
    (heffect : (after thresholds created operations).TakesEffect thresholds reading
      (.harvest force))
    (ids : Nat → String) (identity : Identity) (payloads : Payloads)
    (hbuilt : Telemetry.build ids identity
      (flatten ((after thresholds created operations).harvest thresholds reading force).taken)
        = .ok payloads) :
    (∃ before recent moment, operations = before ++ recent ∧
      Since thresholds created before recent moment) ∧
    ∀ before recent moment, operations = before ++ recent →
      Since thresholds created before recent moment →
      Arranged (before.map Prod.snd) (recent.map Prod.snd) (fun _ => [()])
        (Telemetry.IsEventOf identity) payloads.events ∧
      Arranged (before.map Prod.snd) (recent.map Prod.snd) (fun record => record.body.toList)
        (Telemetry.IsLogOf identity) payloads.logging ∧
      Arranged (before.map Prod.snd) (recent.map Prod.snd) RawRecord.metricFields
        (Telemetry.IsMetricOf identity) payloads.metrics ∧
      Arranged (before.map Prod.snd) (recent.map Prod.snd) RawRecord.spanFields
        Telemetry.IsSpanOf payloads.traces := by
  refine ⟨Batch.exists_since thresholds created operations, ?_⟩
  rintro before recent moment rfl hsince
  rw [flatten_harvest hsince heffect] at hbuilt
  have hattributed := Telemetry.attributed_build hbuilt
  exact ⟨⟨_, arrangement_of_fanned hattributed.events⟩,
    ⟨_, arrangement_of_fanned hattributed.logging⟩,
    ⟨_, arrangement_of_fanned hattributed.metrics⟩,
    ⟨_, arrangement_of_fanned hattributed.traces⟩⟩

/-- Two invocations are registered. A report that names a third request arrives for the
    second one, and after that a line for the first one. -/
def lateLine : List (Reading × Operation) :=
  [(⟨0, 1⟩, .addInvocation "a" 0), (⟨0, 2⟩, .addInvocation "b" 0),
    (⟨0, 3⟩, .addToLatest (Bytes.ofText (Telemetry.chunkText
      [⟨"2024-01-01T00:00:00Z", "platform.report",
        some (.object [("requestId", .string "c"),
          ("metrics", .object [("m", .number (.integer 1))])])⟩]))),
    (⟨0, 4⟩, .addTelemetry "a" (Bytes.ofText (Telemetry.chunkText
      [⟨"2024-01-01T00:00:01Z", "function", some (.string "late")⟩])))]

/-- The line comes first, as its id was used first, and the metric names the request that
    the report names. -/
theorem late_line_comes_first :
    ∃ payloads, Telemetry.build (fun _ => "") ⟨"f", "arn"⟩
        (flatten ((after ⟨1000, 1000⟩ 0 lateLine).harvest ⟨1000, 1000⟩ ⟨0, 5⟩ true).taken)
          = .ok payloads ∧
      payloads.logging.map Telemetry.LogItem.requestId = ["a", "b"] ∧
      payloads.metrics.map Telemetry.MetricItem.requestId = ["c"] ∧
      Arranged [] (lateLine.map Prod.snd) (fun record => record.body.toList)
        (Telemetry.IsLogOf ⟨"f", "arn"⟩) payloads.logging := by
  have hread : ((Telemetry.build (fun _ => "") ⟨"f", "arn"⟩ (flatten
      ((after ⟨1000, 1000⟩ 0 lateLine).harvest ⟨1000, 1000⟩ ⟨0, 5⟩ true).taken)).toOption.map
        fun payloads => (payloads.logging.map Telemetry.LogItem.requestId,
          payloads.metrics.map Telemetry.MetricItem.requestId)) = some (["a", "b"], ["c"]) := by
    decide +kernel
  cases hbuilt : Telemetry.build (fun _ => "") ⟨"f", "arn"⟩
      (flatten ((after ⟨1000, 1000⟩ 0 lateLine).harvest ⟨1000, 1000⟩ ⟨0, 5⟩ true).taken) with
  | error e =>
    rw [hbuilt] at hread
    cases hread
  | ok payloads =>
    rw [hbuilt] at hread
    obtain ⟨hlogging, hmetrics⟩ := Prod.mk.inj (Option.some.inj hread)
    have hquiet : Batch.Quiet ⟨1000, 1000⟩ (after ⟨1000, 1000⟩ 0 []) lateLine :=
      ⟨id, id, id, id, trivial⟩
    have harranged := harvest_attributes_in_order ⟨1000, 1000⟩ 0 lateLine ⟨0, 5⟩ true (.inl rfl)
      (fun _ => "") ⟨"f", "arn"⟩ payloads hbuilt
    exact ⟨payloads, rfl, hlogging, hmetrics,
      (harranged.2 [] lateLine 0 rfl ⟨.inl ⟨rfl, rfl⟩, hquiet⟩).2.1⟩

end Ingest

end TelemetryRelay
