import TelemetryRelay.Proofs.Compression.Stored
import TelemetryRelay.Proofs.Dispatch.Stages

/-! # Every item arrives once

    What is posted for one kind of telemetry is read back here the way a receiver
    does: the scheme is taken from the headers of the request, the body is
    decompressed and read as JSON, and the items are taken out of the document.
    This module shows that

    - the items of a kind that are read back, body after body, are those that were
      built, in order,
    - every body carries an item, and is not too long unless it carries only one,
    - nothing is posted for a kind without items or without an address.

    How bodies are decompressed and JSON is read is left open. All that is asked of
    a receiver is that it reads back the documents that these items can make.
-/

namespace TelemetryRelay

namespace Ingest

open Telemetry (Carries Identity Invocation Payloads)

/-! ## Section 1: Reading back -/

/-- How bodies are read at the other end. -/
structure Receiver where
  /-- Decompresses by the scheme that a header names. -/
  decompress : Bytes → Bytes → Option Bytes
  /-- Reads JSON. -/
  parse : Bytes → Option Json.Value

/-- The items in a document of one kind. -/
def carried : Signal → Json.Value → List Json.Value
  | .logging, .array items => items
  | .metrics, .array [.object [("metrics", .array items)]] => items
  | .events, .array items => items
  | .traces, .array [.object [_, ("spans", .array items)]] => items
  | _, _ => []

theorem carried_document (function : String) (signal : Signal) (items : List Json.Value) :
    carried signal (document function signal items) = items := by
  cases signal <;> rfl

namespace Receiver

/-- The document in a request. -/
def document? (receiver : Receiver) (draft : Http.Draft) : Option Json.Value :=
  (draft.headers.lookup "content-encoding").bind fun scheme =>
  (receiver.decompress scheme draft.body).bind receiver.parse

/-- The items of one kind in a request. -/
def items (receiver : Receiver) (signal : Signal) (draft : Http.Draft) : List Json.Value :=
  ((receiver.document? draft).map (carried signal)).getD []

/-- A document that some of the payloads make: items of one kind that follow each
    other. -/
def IsDocument (identity : Identity) (payloads : Payloads) (value : Json.Value) : Prop :=
  ∃ signal part, part ≠ [] ∧ part <:+: itemValues payloads signal ∧
    value = document identity.name signal part

/-- A receiver that reads back what is written and compressed of these payloads. -/
structure ReadsBack (receiver : Receiver) (codec : Codec) (identity : Identity)
    (payloads : Payloads) : Prop where
  decompress : ∀ value, IsDocument identity payloads value → ∀ body,
    codec.compress (Bytes.ofText value.text) = .ok body →
    receiver.decompress (Bytes.ofText codec.encoding) body = some (Bytes.ofText value.text)
  parse : ∀ value, IsDocument identity payloads value →
    receiver.parse (Bytes.ofText value.text) = some value

/-- What is compressed of a document is read back as this document. -/
theorem ReadsBack.document? {receiver : Receiver} {dispatcher : Dispatcher}
    {identity : Identity} {payloads : Payloads}
    (h : receiver.ReadsBack dispatcher.codec identity payloads) {value : Json.Value}
    (hvalue : IsDocument identity payloads value) (credential : String) {parcel : Parcel}
    (hbody : dispatcher.codec.compress (Bytes.ofText value.text) = .ok parcel.body) :
    receiver.document? (dispatcher.courier.draft credential parcel) = some value := by
  have hscheme : (dispatcher.courier.draft credential parcel).headers.lookup
      "content-encoding" = some (Bytes.ofText dispatcher.codec.encoding) := rfl
  have hdecompress := h.decompress value hvalue parcel.body hbody
  unfold Receiver.document?
  rw [hscheme, Option.bind_some]
  show (receiver.decompress _ parcel.body).bind receiver.parse = some value
  rw [hdecompress, Option.bind_some, h.parse value hvalue]

end Receiver

/-! ## Section 2: What a parcel carries -/

/-- What a receiver finds in a parcel: a document of its kind that carries a part of
    the items. -/
structure Holds (receiver : Receiver) (dispatcher : Dispatcher) (credential : String)
    (function : String) (parcel : Parcel) (part : List Json.Value) : Prop where
  nonempty : part ≠ []
  count : parcel.records = part.length
  document : receiver.document? (dispatcher.courier.draft credential parcel)
    = some (document function parcel.signal part)
  bounded : parcel.body.length ≤ dispatcher.limit ∨ part.length = 1

/-- The items that are read back from a parcel are the part it holds. -/
theorem Holds.items {receiver : Receiver} {dispatcher : Dispatcher} {credential : String}
    {function : String} {parcel : Parcel} {part : List Json.Value}
    (h : Holds receiver dispatcher credential function parcel part) :
    receiver.items parcel.signal (dispatcher.courier.draft credential parcel) = part := by
  rw [Receiver.items, h.document, Option.map_some, carried_document, Option.getD_some]

/-- The parcels of a kind with an address hold its items, part by part. -/
theorem exists_parts_of_share {receiver : Receiver} {dispatcher : Dispatcher}
    {identity : Identity} {payloads : Payloads}
    (hreads : receiver.ReadsBack dispatcher.codec identity payloads) (credential : String)
    {signal : Signal} {url : String} (hurl : dispatcher.endpoints.url? signal = some url)
    {parcels : List Parcel}
    (hplan : (dispatcher.prepare identity payloads signal).result = .ok parcels) :
    ∃ parts : List (List Json.Value), parts.flatten = itemValues payloads signal ∧
      List.Forall₂ (fun parcel part => parcel.signal = signal ∧ parcel.url = url ∧
          Holds receiver dispatcher credential identity.name parcel part)
        (dispatcher.share identity payloads signal) parts := by
  obtain ⟨parts, hflatten, hpacked⟩ := Dispatcher.packed_share hurl hplan
  refine ⟨parts, hflatten, ?_⟩
  -- each part follows in the items, which is what the receiver has to be able to read
  rw [List.forall₂_iff_zip] at hpacked ⊢
  refine ⟨hpacked.1, fun {parcel part} hzip => ?_⟩
  obtain ⟨hsignal, hurl', hpacks⟩ := hpacked.2 hzip
  have hinfix : part <:+: itemValues payloads parcel.signal :=
    hsignal ▸ hflatten ▸ List.infix_of_mem_flatten (List.of_mem_zip hzip).2
  have hdocument := hreads.document?
    ⟨parcel.signal, part, hpacks.nonempty, hinfix, rfl⟩ credential hpacks.body
  exact ⟨hsignal, hurl', hpacks.nonempty, hpacks.count, hdocument, hpacks.bounded⟩

/-! ## Section 3: What a kind carries -/

/-- Lists that go along with each other are read the same, one after the other. -/
theorem flatMap_eq_flatten {α β : Type} {R : α → List β → Prop} {f : α → List β}
    (hf : ∀ x part, R x part → f x = part) {xs : List α} {parts : List (List β)}
    (h : List.Forall₂ R xs parts) : xs.flatMap f = parts.flatten := by
  induction h with
  | nil => rfl
  | cons hhead _ ih => rw [List.flatMap_cons, List.flatten_cons, hf _ _ hhead, ih]

/-- Every element of the first list goes along with one of the second. -/
theorem exists_of_forall₂ {α β : Type} {R : α → β → Prop} {xs : List α} {ys : List β}
    (h : List.Forall₂ R xs ys) : ∀ x ∈ xs, ∃ y, R x y := by
  induction h with
  | nil =>
    intro x hx
    cases hx
  | cons hhead _ ih =>
    intro x hx
    rcases List.mem_cons.mp hx with rfl | hx
    · exact ⟨_, hhead⟩
    · exact ih x hx

section

variable {receiver : Receiver} {dispatcher : Dispatcher} {identity : Identity}
  {payloads : Payloads} {signal : Signal}

/-- The items that are read back from the parcels of a kind with an address are the
    items of this kind, and each parcel holds a part of them. -/
theorem share_carries (hreads : receiver.ReadsBack dispatcher.codec identity payloads)
    (credential : String) {url : String}
    (hurl : dispatcher.endpoints.url? signal = some url) {parcels : List Parcel}
    (hplan : (dispatcher.prepare identity payloads signal).result = .ok parcels) :
    ((dispatcher.share identity payloads signal).flatMap fun parcel =>
        receiver.items signal (dispatcher.courier.draft credential parcel))
      = itemValues payloads signal ∧
    ∀ parcel ∈ dispatcher.share identity payloads signal, parcel.url = url ∧
      ∃ part, Holds receiver dispatcher credential identity.name parcel part := by
  obtain ⟨parts, hflatten, hholds⟩ := exists_parts_of_share hreads credential hurl hplan
  refine ⟨?_, ?_⟩
  · rw [← hflatten]
    refine flatMap_eq_flatten ?_ hholds
    rintro parcel part ⟨rfl, -, hpart⟩
    exact hpart.items
  · intro parcel hmem
    obtain ⟨part, -, hurl', hpart⟩ := exists_of_forall₂ hholds parcel hmem
    exact ⟨hurl', part, hpart⟩

end

/-! ## Section 4: A harvest of two records -/

namespace Receiver

/-- A receiver that reads bodies and JSON as the relay does. -/
def standard : Receiver where
  decompress scheme body :=
    (Utf8.decode scheme).bind fun name => Compression.Scheme.decompress name body
  parse text := (Json.document (Json.value Json.nestingLimit) text).toOption

/-- It reads what is stored. -/
theorem decompress_standard (text : Bytes) :
    standard.decompress (Bytes.ofText "GZIP") (Gzip.compress 0 text) = some text := by
  have hname : Utf8.decode (Bytes.ofText "GZIP") = some "GZIP" := by decide +kernel
  simp only [standard, hname, Option.bind_some]
  exact Gzip.decompress_compress_zero text

end Receiver

/-- Two records without a body, one second apart. -/
def twoRecords : List Invocation :=
  [⟨"r", 0, [Bytes.ofText (Telemetry.chunkText
    [⟨"2024-01-01T00:00:00Z", "a", none⟩, ⟨"2024-01-01T00:00:01Z", "b", none⟩])]⟩]

/-- The events of these records. -/
def twoEvents : Payloads :=
  ⟨[⟨1704067200000, "f", "a"⟩, ⟨1704067201000, "f", "b"⟩], [], [], []⟩

/-- A dispatcher whose bodies have room for one event. -/
def narrowDispatcher : Dispatcher where
  client := ⟨none, ⟨none, none, []⟩⟩
  timeout := 1000
  codec := codecOf (.gzip 0)
  endpoints := ⟨"http://a/", "http://b/", some "http://c/", "http://d/"⟩
  limit := 250

/-- A context with a known key in which every request is accepted. -/
def openContext : Context :=
  ⟨fun _ _ => .answered ⟨200, [], []⟩, [], .never, .ofKey "k", fun _ => "", 0⟩

/-- The records are read and built. -/
theorem build_twoRecords : openContext.build ⟨"f", "a"⟩ twoRecords = .ok twoEvents := by
  have hflatten : flatten twoRecords =
      [⟨"r", ⟨"2024-01-01T00:00:00Z", "a", none⟩⟩,
        ⟨"r", ⟨"2024-01-01T00:00:01Z", "b", none⟩⟩] := by
    rfl
  have hfirst : Timestamp.parse "2024-01-01T00:00:00Z" = .ok 1704067200000 := by
    decide +kernel
  have hsecond : Timestamp.parse "2024-01-01T00:00:01Z" = .ok 1704067201000 := by
    decide +kernel
  have ha : String.map (fun c => if c = '.' then '_' else c) "a" = "a" := by decide +kernel
  have hb : String.map (fun c => if c = '.' then '_' else c) "b" = "b" := by decide +kernel
  rw [Context.build, hflatten]
  simp only [Telemetry.buildFrom, Telemetry.buildEntry, Telemetry.recordInstant,
    Telemetry.eventItem, hfirst, hsecond, ha, hb]
  rfl

/-- The parts of two items. -/
theorem parts_of_pair {α : Type} {first second : α} {part : List α} (hne : part ≠ [])
    (h : part <:+: [first, second]) :
    part = [first, second] ∨ part = [first] ∨ part = [second] := by
  simp only [List.infix_cons_iff, List.prefix_cons_iff, List.infix_nil, List.prefix_nil, hne,
    false_or, or_false] at h
  rcases h with ⟨rest, rfl, rfl | ⟨rest', rfl, rfl⟩⟩ | ⟨rest, rfl, rfl⟩
  · exact .inr (.inl rfl)
  · exact .inl rfl
  · exact .inr (.inr rfl)

/-- The documents that the two events can make. -/
theorem document_of_twoEvents {value : Json.Value}
    (h : Receiver.IsDocument ⟨"f", "a"⟩ twoEvents value) :
    value = .array (twoEvents.events.map Telemetry.EventItem.toValue) ∨
    value = .array [Telemetry.EventItem.toValue ⟨1704067200000, "f", "a"⟩] ∨
    value = .array [Telemetry.EventItem.toValue ⟨1704067201000, "f", "b"⟩] := by
  obtain ⟨signal, part, hne, hpart, rfl⟩ := h
  cases signal with
  -- only events are built of these records
  | logging => exact absurd (List.infix_nil.mp hpart) hne
  | metrics => exact absurd (List.infix_nil.mp hpart) hne
  | traces => exact absurd (List.infix_nil.mp hpart) hne
  | events =>
    rcases parts_of_pair hne hpart with rfl | rfl | rfl
    · exact .inl rfl
    · exact .inr (.inl rfl)
    · exact .inr (.inr rfl)

set_option maxRecDepth 100000 in
/-- These documents are read back. -/
theorem parse_twoEvents {value : Json.Value}
    (h : Receiver.IsDocument ⟨"f", "a"⟩ twoEvents value) :
    Receiver.standard.parse (Bytes.ofText value.text) = some value := by
  rcases document_of_twoEvents h with rfl | rfl | rfl
  · rfl
  · rfl
  · rfl

/-- The receiver reads back what the two events make. -/
theorem readsBack_twoEvents :
    Receiver.standard.ReadsBack narrowDispatcher.codec ⟨"f", "a"⟩ twoEvents where
  decompress := by
    intro value _ body hbody
    cases hbody
    exact Receiver.decompress_standard _
  parse := fun _ => parse_twoEvents

/-! ## Section 5: What a dispatch carries -/

/-- **Every item arrives once**: where there are records, they are built, there is a
    key and compressing does not fail, a dispatch comes to the posting of its parcels
    with this key. What a receiver reads back of one kind, body after body in the
    order of their numbers, are the items of this kind in order. Each body holds a
    part of them in a document of this kind, and is too long only if it holds a
    single item. Nothing is posted for a kind without an address or without items. -/
theorem parcels_conserve_items (dispatcher : Dispatcher) (context : Context)
    (identity : Identity) (harvested : List Invocation) (receiver : Receiver)
    (payloads : Payloads) (credential : String) (hsome : flatten harvested ≠ [])
    (hbuilt : context.build identity harvested = .ok payloads)
    (hkey : context.keyring.obtain.1 = .ok credential) (hcodec : dispatcher.codec.Total)
    (hreads : receiver.ReadsBack dispatcher.codec identity payloads) :
    let cycle := dispatcher.dispatch context identity harvested
    (∀ error, cycle.result = .error error → ¬ error.IsEarly) ∧
    cycle.made = (dispatcher.courier.sendAll context.network credential context.history
      context.cancellation cycle.parcels).made ∧
    ∀ signal,
      let parcels := cycle.parcels.filter fun parcel => parcel.signal = signal
      (dispatcher.endpoints.url? signal = none → parcels = []) ∧
      (itemValues payloads signal = [] → parcels = []) ∧
      ∀ url, dispatcher.endpoints.url? signal = some url →
        (parcels.flatMap fun parcel =>
            receiver.items signal (dispatcher.courier.draft credential parcel))
          = itemValues payloads signal ∧
        parcels.map Parcel.chunk = List.range parcels.length ∧
        ∀ parcel ∈ parcels, parcel.url = url ∧
          ∃ part, Holds receiver dispatcher credential identity.name parcel part := by
  intro cycle
  obtain ⟨planned, hplan⟩ := Dispatcher.exists_plan hcodec identity payloads
  have hcycle : cycle = _ :=
    dispatch_of_plan dispatcher context identity harvested hsome hbuilt hkey hplan
  refine ⟨?_, ?_, ?_⟩
  · intro error herror
    rw [hcycle] at herror
    exact not_isEarly_of_conclude herror
  · rw [hcycle]
    rfl
  · intro signal parcels
    -- the parcels of a kind are its share of the plan
    have hshare : parcels = dispatcher.share identity payloads signal := by
      have hplanned : cycle.parcels = planned := by
        rw [hcycle]
        rfl
      show (cycle.parcels.filter fun parcel => parcel.signal = signal) = _
      rw [hplanned]
      exact Dispatcher.filter_plan hplan signal
    have hprepare := (Dispatcher.plan_eq_shares hplan).2 signal
    rw [hshare]
    refine ⟨?_, ?_, ?_⟩
    · intro hurl
      exact Dispatcher.share_of_no_url hurl
    · intro hitems
      exact Dispatcher.share_of_no_items hitems hprepare
    · intro url hurl
      obtain ⟨hitems, hholds⟩ := share_carries hreads credential hurl hprepare
      exact ⟨hitems, Dispatcher.map_chunk_share signal, hholds⟩

/-- The two events do not fit into one body, and arrive in two. -/
theorem parcels_conserve_two_events :
    let cycle := narrowDispatcher.dispatch openContext ⟨"f", "a"⟩ twoRecords
    let parcels := cycle.parcels.filter fun parcel => parcel.signal = .events
    parcels.length = 2 ∧
      (parcels.flatMap fun parcel =>
          Receiver.standard.items .events (narrowDispatcher.courier.draft "k" parcel))
        = twoEvents.events.map Telemetry.EventItem.toValue := by
  intro cycle parcels
  have hsome : flatten twoRecords ≠ [] := by
    have hlength : (flatten twoRecords).length = 2 := by decide +kernel
    exact List.ne_nil_of_length_pos (by omega)
  have hdispatch := parcels_conserve_items narrowDispatcher openContext ⟨"f", "a"⟩ twoRecords
    .standard twoEvents "k" hsome build_twoRecords rfl (.codecOf _) readsBack_twoEvents
  have hevents := (hdispatch.2.2 .events).2.2 "http://c/" rfl
  refine ⟨?_, hevents.1⟩
  show ((narrowDispatcher.dispatch openContext ⟨"f", "a"⟩ twoRecords).parcels.filter
    fun parcel => parcel.signal = .events).length = 2
  decide +kernel

end Ingest

end TelemetryRelay
