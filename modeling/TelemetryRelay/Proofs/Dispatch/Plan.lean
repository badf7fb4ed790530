import Mathlib.Data.List.Nodup
import TelemetryRelay.Ingest.Dispatch
import TelemetryRelay.Proofs.Split.Bisection

/-! # What a plan consists of

    A plan turns payloads into parcels, one kind of telemetry after the other.
    This module says what the parcels of a plan are:

    - a plan that succeeds is the shares of the kinds, one after the other,
    - the share of a kind is empty without an address; with one it carries the
      items of the kind, part by part, numbered from 0,
    - so no two parcels have the same kind and number.

    Items of all kinds are looked at in one form, as the JSON values they are
    sent as.
-/

namespace TelemetryRelay

namespace Ingest

open Telemetry (Carries Chunk Encoder Identity Payloads)

/-! ## Section 1: Items and documents as JSON -/

/-- The items of one kind, as they are written. -/
def itemValues (payloads : Payloads) : Signal → List Json.Value
  | .logging => payloads.logging.map Telemetry.LogItem.toValue
  | .metrics => payloads.metrics.map Telemetry.MetricItem.toValue
  | .events => payloads.events.map Telemetry.EventItem.toValue
  | .traces => payloads.traces.map Telemetry.SpanItem.toValue

/-- The items of one kind in no payloads. -/
theorem itemValues_empty (signal : Signal) : itemValues .empty signal = [] := by
  cases signal <;> rfl

/-- The document that carries items of one kind: a plain array for log entries and
    events, and one envelope for metrics and for spans. The envelope of spans
    names the function. -/
def document (function : String) : Signal → List Json.Value → Json.Value
  | .logging, items => .array items
  | .metrics, items => .array [.object [("metrics", .array items)]]
  | .events, items => .array items
  | .traces, items =>
    .array [.object
      [("common", .object [("attributes", .object
         [("host", .string Telemetry.traceHost), ("service.name", .string function)])]),
       ("spans", .array items)]]

/-- Encoders that write the same document make the same body. -/
theorem body_encoder {α β : Type} (codec : Codec) (write : List α → Json.Value)
    (write' : List β → Json.Value) (part : List α) (part' : List β)
    (h : write' part' = write part) :
    (codec.encoder write').body part' = (codec.encoder write).body part := by
  simp only [Encoder.body, Codec.encoder, h]

/-- A body is the compressed text of what is written. -/
theorem compress_of_body {α : Type} {codec : Codec} {write : List α → Json.Value}
    {part : List α} {body : Bytes} (h : (codec.encoder write).body part = .ok body) :
    codec.compress (Bytes.ofText (write part).text) = .ok body := by
  simp only [Encoder.body, Codec.encoder] at h
  cases hcompress : codec.compress (Bytes.ofText (write part).text) with
  | error cause => rw [hcompress] at h; cases h
  | ok compressed => rw [hcompress] at h; cases h; rfl

/-- Items that are split by how they are written are split as the values they are
    written as. -/
theorem exists_parts_of_encoder {α : Type} {codec : Codec} {limit : Nat}
    {write : List α → Json.Value} {wrap : List Json.Value → Json.Value}
    (toValue : α → Json.Value) (hwrite : ∀ part, wrap (part.map toValue) = write part)
    {items : List α} {chunks : List Chunk}
    (h : (Telemetry.split (codec.encoder write) limit items).result = .ok chunks) :
    ∃ parts : List (List Json.Value), parts.flatten = items.map toValue ∧
      List.Forall₂ (Carries (codec.encoder wrap) limit) parts chunks := by
  obtain ⟨parts, hflatten, hcarries⟩ := Telemetry.exists_parts_of_split h
  have hbody (part : List α) :
      (codec.encoder wrap).body (part.map toValue) = (codec.encoder write).body part :=
    body_encoder codec write wrap part (part.map toValue) (hwrite part)
  refine ⟨parts.map (List.map toValue), ?_, ?_⟩
  · rw [← hflatten, List.map_flatten]
  · rw [List.forall₂_map_left_iff]
    exact hcarries.imp fun _ _ hcarry => hcarry.map toValue hbody

/-- The bodies of a kind carry the items of this kind, each in a document of this
    kind. -/
theorem exists_parts_of_bodies {codec : Codec} {limit : Nat} {identity : Identity}
    {payloads : Payloads} {signal : Signal} {chunks : List Chunk}
    (h : (bodiesOf codec limit identity payloads signal).result = .ok chunks) :
    ∃ parts : List (List Json.Value), parts.flatten = itemValues payloads signal ∧
      List.Forall₂ (Carries (codec.encoder (document identity.name signal)) limit)
        parts chunks := by
  cases signal with
  | logging => exact exists_parts_of_encoder Telemetry.LogItem.toValue (fun _ => rfl) h
  | metrics => exact exists_parts_of_encoder Telemetry.MetricItem.toValue (fun _ => rfl) h
  | events => exact exists_parts_of_encoder Telemetry.EventItem.toValue (fun _ => rfl) h
  | traces => exact exists_parts_of_encoder Telemetry.SpanItem.toValue (fun _ => rfl) h

/-- A codec that never fails. -/
def Codec.Total (codec : Codec) : Prop := ∀ text, ∃ body, codec.compress text = .ok body

/-- The schemes never fail. -/
theorem Codec.Total.codecOf (scheme : Compression.Scheme) : (codecOf scheme).Total :=
  fun text => ⟨scheme.compress text, rfl⟩

theorem Codec.Total.encoder {α : Type} {codec : Codec} (h : codec.Total)
    (write : List α → Json.Value) : (codec.encoder write).Total := by
  intro part
  obtain ⟨body, hbody⟩ := h (Bytes.ofText (write part).text)
  exact ⟨body, by simp only [Encoder.body, Codec.encoder, hbody]⟩

/-- Where compressing never fails, every kind has its bodies. -/
theorem Codec.Total.exists_bodies {codec : Codec} (h : codec.Total) (limit : Nat)
    (identity : Identity) (payloads : Payloads) (signal : Signal) :
    ∃ chunks, (bodiesOf codec limit identity payloads signal).result = .ok chunks := by
  cases signal <;> exact Telemetry.exists_split (h.encoder _) _

/-! ## Section 2: The parcels of one kind -/

/-- Parcels have the kind and the address they are made for. -/
theorem mem_parcelsOf {signal : Signal} {url : String} {chunks : List Chunk}
    {parcel : Parcel} (h : parcel ∈ parcelsOf signal url chunks) :
    parcel.signal = signal ∧ parcel.url = url := by
  obtain ⟨numbered, -, rfl⟩ := List.mem_map.mp h
  exact ⟨rfl, rfl⟩

/-- Parcels are numbered from 0 in their order. -/
theorem map_chunk_parcelsOf (signal : Signal) (url : String) (chunks : List Chunk) :
    (parcelsOf signal url chunks).map Parcel.chunk
      = List.range (parcelsOf signal url chunks).length := by
  have hnumbers : (parcelsOf signal url chunks).map Parcel.chunk
      = (chunks.zipIdx 0).map Prod.snd := by
    rw [parcelsOf, List.map_map]
    rfl
  rw [hnumbers, List.zipIdx_map_snd, parcelsOf, List.length_map, List.length_zipIdx,
    List.range_eq_range']

/-- What holds between parts and chunks, whatever the numbers, holds between the
    parcels of the chunks and the parts. -/
theorem forall₂_parcelsOf {γ : Type} {R : γ → Chunk → Prop} {S : Parcel → γ → Prop}
    (signal : Signal) (url : String)
    (hRS : ∀ part chunk number, R part chunk →
      S ⟨signal, number, url, chunk.last - chunk.first, chunk.body⟩ part)
    {parts : List γ} {chunks : List Chunk} (h : List.Forall₂ R parts chunks) :
    List.Forall₂ S (parcelsOf signal url chunks) parts := by
  -- the numbers may start anywhere, so that the induction can go on behind the head
  have hfrom : ∀ start, List.Forall₂ S
      ((chunks.zipIdx start).map fun p =>
        ⟨signal, p.2, url, p.1.last - p.1.first, p.1.body⟩) parts := by
    induction h with
    | nil => intro start; exact .nil
    | cons hhead _ ih =>
      intro start
      exact .cons (hRS _ _ start hhead) (ih (start + 1))
  exact hfrom 0

/-- What a parcel is made of: some items, in a document of its kind that names the
    function. -/
structure Packs (codec : Codec) (limit : Nat) (function : String) (parcel : Parcel)
    (part : List Json.Value) : Prop where
  nonempty : part ≠ []
  count : parcel.records = part.length
  body : codec.compress (Bytes.ofText (document function parcel.signal part).text)
    = .ok parcel.body
  bounded : parcel.body.length ≤ limit ∨ part.length = 1

/-! ## Section 3: The shares of the kinds -/

namespace Dispatcher

variable (dispatcher : Dispatcher) (identity : Identity) (payloads : Payloads)

/-- The parcels of one kind in a plan. -/
def share (signal : Signal) : List Parcel :=
  match (dispatcher.prepare identity payloads signal).result with
  | .ok parcels => parcels
  | .error _ => []

variable {dispatcher identity payloads}

/-- A kind without an address has no share. -/
theorem share_of_no_url {signal : Signal} (h : dispatcher.endpoints.url? signal = none) :
    dispatcher.share identity payloads signal = [] := by
  unfold share prepare
  rw [h]

/-- The share of a kind with an address is made of the bodies of this kind. -/
theorem share_of_url {signal : Signal} {url : String}
    (hurl : dispatcher.endpoints.url? signal = some url) {parcels : List Parcel}
    (h : (dispatcher.prepare identity payloads signal).result = .ok parcels) :
    ∃ chunks, dispatcher.share identity payloads signal = parcelsOf signal url chunks ∧
      (bodiesOf dispatcher.codec dispatcher.limit identity payloads signal).result
        = .ok chunks := by
  have hshare : dispatcher.share identity payloads signal = parcels := by
    unfold share
    rw [h]
  unfold prepare at h
  simp only [hurl] at h
  split at h
  · next chunks hbodies =>
    cases h
    exact ⟨chunks, hshare, hbodies⟩
  · cases h

/-- The share of a kind with an address consists of the items of this kind, packed part
    by part. -/
theorem packed_share {signal : Signal} {url : String}
    (hurl : dispatcher.endpoints.url? signal = some url) {parcels : List Parcel}
    (h : (dispatcher.prepare identity payloads signal).result = .ok parcels) :
    ∃ parts : List (List Json.Value), parts.flatten = itemValues payloads signal ∧
      List.Forall₂ (fun parcel part => parcel.signal = signal ∧ parcel.url = url ∧
          Packs dispatcher.codec dispatcher.limit identity.name parcel part)
        (dispatcher.share identity payloads signal) parts := by
  obtain ⟨chunks, hshare, hbodies⟩ := share_of_url hurl h
  obtain ⟨parts, hflatten, hcarries⟩ := exists_parts_of_bodies hbodies
  refine ⟨parts, hflatten, ?_⟩
  rw [hshare]
  refine forall₂_parcelsOf signal url ?_ hcarries
  intro part chunk number hcarry
  exact ⟨rfl, rfl, hcarry.nonempty, hcarry.count, compress_of_body hcarry.body,
    hcarry.bounded⟩

/-- A kind without items has no share. -/
theorem share_of_no_items {signal : Signal} (hitems : itemValues payloads signal = [])
    {parcels : List Parcel}
    (h : (dispatcher.prepare identity payloads signal).result = .ok parcels) :
    dispatcher.share identity payloads signal = [] := by
  cases hurl : dispatcher.endpoints.url? signal with
  | none => exact share_of_no_url hurl
  | some url =>
    obtain ⟨chunks, hshare, hbodies⟩ := share_of_url hurl h
    obtain ⟨parts, hflatten, hcarries⟩ := exists_parts_of_bodies hbodies
    rw [hitems, List.flatten_eq_nil_iff] at hflatten
    cases hcarries with
    | nil => exact hshare
    | cons hhead _ => exact absurd (hflatten _ List.mem_cons_self) hhead.nonempty

variable (dispatcher identity payloads) in
/-- A share is empty, or made of chunks for the address of its kind. -/
theorem share_cases (signal : Signal) :
    dispatcher.share identity payloads signal = [] ∨
      ∃ url chunks, dispatcher.share identity payloads signal = parcelsOf signal url chunks := by
  cases hurl : dispatcher.endpoints.url? signal with
  | none => exact .inl (share_of_no_url hurl)
  | some url =>
    cases hprepare : (dispatcher.prepare identity payloads signal).result with
    | error e =>
      left
      unfold share
      rw [hprepare]
    | ok parcels =>
      right
      obtain ⟨chunks, hshare, -⟩ := share_of_url hurl hprepare
      exact ⟨url, chunks, hshare⟩

/-- Parcels of a share are of its kind. -/
theorem signal_of_mem_share {signal : Signal} {parcel : Parcel}
    (h : parcel ∈ dispatcher.share identity payloads signal) : parcel.signal = signal := by
  rcases share_cases dispatcher identity payloads signal with hnil | ⟨url, chunks, hshare⟩
  · rw [hnil] at h
    cases h
  · rw [hshare] at h
    exact (mem_parcelsOf h).1

/-- The parcels of a share are numbered from 0 in their order. -/
theorem map_chunk_share (signal : Signal) :
    (dispatcher.share identity payloads signal).map Parcel.chunk
      = List.range (dispatcher.share identity payloads signal).length := by
  rcases share_cases dispatcher identity payloads signal with hnil | ⟨url, chunks, hshare⟩
  · rw [hnil]
    rfl
  · rw [hshare]
    exact map_chunk_parcelsOf signal url chunks

/-- The result for several kinds, its notices aside. -/
theorem result_prepareAll_cons (signal : Signal) (rest : List Signal) :
    (dispatcher.prepareAll identity payloads (signal :: rest)).result =
      (dispatcher.prepare identity payloads signal).result.bind fun parcels =>
      (dispatcher.prepareAll identity payloads rest).result.bind fun more =>
        .ok (parcels ++ more) := by
  rw [prepareAll, Log.Logged.result_andThen]
  simp only [Log.Logged.result_andThen]
  rfl

/-- **Shares**: where kinds are prepared with success, the parcels are their
    shares, in the order of the kinds. -/
theorem prepareAll_eq_shares :
    ∀ (signals : List Signal) (parcels : List Parcel),
      (dispatcher.prepareAll identity payloads signals).result = .ok parcels →
      parcels = signals.flatMap (dispatcher.share identity payloads) ∧
        ∀ signal ∈ signals, (dispatcher.prepare identity payloads signal).result
          = .ok (dispatcher.share identity payloads signal)
  | [], parcels, h => by
    cases h
    exact ⟨rfl, by simp⟩
  | signal :: rest, parcels, h => by
    rw [result_prepareAll_cons] at h
    -- success of the whole is success of the head and of the rest
    cases hhead : (dispatcher.prepare identity payloads signal).result with
    | error e => rw [hhead] at h; cases h
    | ok first =>
      cases htail : (dispatcher.prepareAll identity payloads rest).result with
      | error e => rw [hhead, htail] at h; cases h
      | ok more =>
        rw [hhead, htail] at h
        cases h
        have hfirst : dispatcher.share identity payloads signal = first := by
          unfold share
          rw [hhead]
        obtain ⟨hmore, hall⟩ := prepareAll_eq_shares rest more htail
        refine ⟨?_, ?_⟩
        · rw [List.flatMap_cons, hfirst, ← hmore]
        · intro other hmem
          rcases List.mem_cons.mp hmem with rfl | hmem
          · rw [hfirst, hhead]
          · exact hall other hmem

/-- A plan that succeeds is the shares of all kinds. -/
theorem plan_eq_shares {parcels : List Parcel}
    (h : (dispatcher.plan identity payloads).result = .ok parcels) :
    parcels = Signal.all.flatMap (dispatcher.share identity payloads) ∧
      ∀ signal, (dispatcher.prepare identity payloads signal).result
        = .ok (dispatcher.share identity payloads signal) := by
  obtain ⟨hparcels, hall⟩ := prepareAll_eq_shares Signal.all parcels h
  exact ⟨hparcels, fun signal => hall signal signal.mem_all⟩

variable (dispatcher identity payloads) in
/-- The parcels of one kind among the shares of all kinds are the share of this kind. -/
theorem filter_shares (signal : Signal) :
    ((Signal.all.flatMap (dispatcher.share identity payloads)).filter
        fun parcel => parcel.signal = signal)
      = dispatcher.share identity payloads signal := by
  have hfilter (other : Signal) :
      ((dispatcher.share identity payloads other).filter fun parcel => parcel.signal = signal)
        = if other = signal then dispatcher.share identity payloads other else [] := by
    split
    · next heq =>
      rw [List.filter_eq_self]
      intro parcel hmem
      simp [signal_of_mem_share hmem, heq]
    · next hne =>
      rw [List.filter_eq_nil_iff]
      intro parcel hmem
      simp [signal_of_mem_share hmem, hne]
  simp only [Signal.all, List.flatMap_cons, List.flatMap_nil, List.filter_append, hfilter]
  cases signal <;> simp

/-- The parcels of one kind in a plan that succeeds are the share of this kind. -/
theorem filter_plan {parcels : List Parcel}
    (h : (dispatcher.plan identity payloads).result = .ok parcels) (signal : Signal) :
    (parcels.filter fun parcel => parcel.signal = signal)
      = dispatcher.share identity payloads signal := by
  rw [(plan_eq_shares h).1]
  exact filter_shares dispatcher identity payloads signal

variable (dispatcher identity payloads) in
/-- A share is made of the bodies of its kind, if it has an address. -/
theorem share_eq (signal : Signal) :
    dispatcher.share identity payloads signal =
      match dispatcher.endpoints.url? signal,
        (bodiesOf dispatcher.codec dispatcher.limit identity payloads signal).result with
      | some url, .ok chunks => parcelsOf signal url chunks
      | _, _ => [] := by
  unfold share prepare
  cases dispatcher.endpoints.url? signal with
  | none => rfl
  | some url =>
    simp only
    cases (bodiesOf dispatcher.codec dispatcher.limit identity payloads signal).result with
    | error error => rfl
    | ok chunks => rfl

/-- A share depends on how its kind is compressed, limited and addressed, and on the bodies
    of its kind. -/
theorem share_congr {other : Dispatcher} {payloads' : Payloads} {signal : Signal}
    (hcodec : other.codec = dispatcher.codec) (hlimit : other.limit = dispatcher.limit)
    (hurl : other.endpoints.url? signal = dispatcher.endpoints.url? signal)
    (hbodies : bodiesOf dispatcher.codec dispatcher.limit identity payloads' signal
      = bodiesOf dispatcher.codec dispatcher.limit identity payloads signal) :
    other.share identity payloads' signal = dispatcher.share identity payloads signal := by
  rw [share_eq, share_eq, hurl, hcodec, hlimit, hbodies]

end Dispatcher

/-! ## Section 4: Every parcel is told apart -/

/-- What tells a parcel from the others of its dispatch: its kind and number. -/
def Parcel.key (parcel : Parcel) : Signal × Nat := (parcel.signal, parcel.chunk)

namespace Dispatcher

variable {dispatcher : Dispatcher} {identity : Identity} {payloads : Payloads}

/-- The keys of a share are distinct. -/
theorem nodup_keys_share (signal : Signal) :
    ((dispatcher.share identity payloads signal).map Parcel.key).Nodup := by
  have hnumbers : ((dispatcher.share identity payloads signal).map Parcel.chunk).Nodup := by
    rw [map_chunk_share]
    exact List.nodup_range
  apply List.Nodup.of_map Prod.snd
  rw [List.map_map]
  exact hnumbers

/-- **Distinct keys**: no two parcels of a plan have the same kind and number. -/
theorem nodup_keys_plan {parcels : List Parcel}
    (h : (dispatcher.plan identity payloads).result = .ok parcels) :
    (parcels.map Parcel.key).Nodup := by
  rw [(plan_eq_shares h).1, List.map_flatMap, List.nodup_flatMap]
  refine ⟨fun signal _ => nodup_keys_share signal, ?_⟩
  -- shares of different kinds have no key in common
  have hdistinct : Signal.all.Pairwise (· ≠ ·) := by decide
  refine hdistinct.imp ?_
  intro first second hne
  apply List.disjoint_left.mpr
  intro key hfirst hsecond
  obtain ⟨parcel, hin, rfl⟩ := List.mem_map.mp hfirst
  obtain ⟨parcel', hin', hkey⟩ := List.mem_map.mp hsecond
  apply hne
  rw [← signal_of_mem_share hin, ← signal_of_mem_share hin']
  exact (congrArg Prod.fst hkey).symm

/-! ## Section 5: When planning succeeds -/

/-- **Planning**: where compressing never fails, planning succeeds. -/
theorem exists_plan (hcodec : dispatcher.codec.Total) (identity : Identity)
    (payloads : Payloads) :
    ∃ parcels, (dispatcher.plan identity payloads).result = .ok parcels := by
  have hprepare (signal : Signal) :
      ∃ parcels, (dispatcher.prepare identity payloads signal).result = .ok parcels := by
    obtain ⟨chunks, hchunks⟩ :=
      hcodec.exists_bodies dispatcher.limit identity payloads signal
    unfold prepare
    split
    · simp only [hchunks]
      exact ⟨_, rfl⟩
    · exact ⟨[], rfl⟩
  have hall (signals : List Signal) :
      ∃ parcels, (dispatcher.prepareAll identity payloads signals).result = .ok parcels := by
    induction signals with
    | nil => exact ⟨[], rfl⟩
    | cons signal rest ih =>
      obtain ⟨first, hfirst⟩ := hprepare signal
      obtain ⟨more, hmore⟩ := ih
      refine ⟨first ++ more, ?_⟩
      rw [result_prepareAll_cons, hfirst, hmore]
      rfl
  exact hall Signal.all

/-- Where compressing never fails, no plan does. -/
theorem plan_ne_error (hcodec : dispatcher.codec.Total) (identity : Identity)
    (payloads : Payloads) {error : HarvestError} :
    (dispatcher.plan identity payloads).result ≠ .error error := by
  obtain ⟨parcels, hplan⟩ := exists_plan hcodec identity payloads
  rw [hplan]
  nofun

end Dispatcher

end Ingest

end TelemetryRelay
