import TelemetryRelay.Proofs.Dispatch.Framing
import TelemetryRelay.Proofs.Dispatch.Keys
import TelemetryRelay.Proofs.Http.Addresses

/-! # Where a dispatch sends what it posts

    Each kind of telemetry has an address of its own: one that is set, or the standard one
    of the region that the key belongs to. Events have none without an account. This module
    says what an address depends on, and what depends on it:

    - the region is told by the first two octets of the key,
    - the address of a kind depends on its own setting, and only that of events on the
      account,
    - what is posted of a kind depends on the address of this kind and of no other.
-/

namespace TelemetryRelay

/-! ## Section 1: Networks that answer each request alike -/

namespace Http

/-- **Steady**: what becomes of a request depends on the request only, and never cancels the
    work. -/
structure Steady (network : Network) : Prop where
  same : ∀ history request, network history request = network [] request
  goesOn : ∀ history request, network history request ≠ .cancelling

variable {network : Network} (h : Steady network)
include h

theorem Steady.send_eq (client : Client) (history : List Request) (url : Url) (draft : Draft) :
    client.send network history url draft = client.send network [] url draft := by
  have hconst : network = fun _ request => network [] request := funext₂ h.same
  rw [hconst]
  rfl

/-- What an answer sends on is answered alike, too. -/
theorem Steady.follow_eq (client : Client) (hops : Nat) :
    ∀ (history : List Request) (url : Url) (draft : Draft),
      client.follow network hops history url draft = client.follow network hops [] url draft := by
  induction hops with
  | zero =>
    intro history url draft
    unfold Client.follow
    rw [h.send_eq client history]
  | succ hops ih =>
    intro history url draft
    unfold Client.follow
    simp only [h.send_eq client history, ih (history ++ _), ih ([] ++ _)]

theorem Steady.exchange_eq (client : Client) (history : List Request) (draft : Draft) :
    exchange client network history draft = exchange client network [] draft := by
  unfold exchange
  simp only [h.follow_eq client redirectLimit history]

theorem Steady.fateOf_ne (url : String) (history : List Request) (request : Request) :
    fateOf url (network history request) ≠ .cancelling := by
  intro heq
  unfold fateOf at heq
  split at heq
  · -- an answer that cannot be read fails
    split at heq
    · cases heq
    · cases heq
  · cases heq
  · cases heq
  · next hcase => exact h.goesOn history request hcase

theorem Steady.fate_send_ne (client : Client) (history : List Request) (url : Url)
    (draft : Draft) : (client.send network history url draft).fate ≠ .cancelling := by
  unfold Client.send
  simp only
  split
  · exact h.fateOf_ne _ _ _
  split
  · intro heq
    cases heq
  split
  · exact h.fateOf_ne _ _ _
  -- the tunnel is opened, is refused, or comes to nothing
  split
  · split
    · exact h.fateOf_ne _ _ _
    · intro heq
      cases heq
  · exact h.fateOf_ne _ _ _

theorem Steady.fate_follow_ne (client : Client) (hops : Nat) :
    ∀ (history : List Request) (url : Url) (draft : Draft),
      (client.follow network hops history url draft).fate ≠ .cancelling := by
  induction hops with
  | zero =>
    intro history url draft
    unfold Client.follow
    simp only
    split
    · exact h.fate_send_ne _ _ _ _
    · intro heq
      cases heq
  | succ hops ih =>
    intro history url draft
    unfold Client.follow
    simp only
    split
    · exact h.fate_send_ne _ _ _ _
    · split
      · exact ih _ _ _
      · intro heq
        cases heq

theorem Steady.fate_exchange_ne (client : Client) (history : List Request) (draft : Draft) :
    (exchange client network history draft).fate ≠ .cancelling := by
  have hexchanged := exchanged_exchange client network history draft
  generalize exchange client network history draft = exchange at hexchanged ⊢
  cases hexchanged with
  | unusable error =>
    intro heq
    cases heq
  | followed url => exact h.fate_follow_ne _ _ _ _ _

end Http

namespace Ingest

open Telemetry (Identity Invocation Payloads)

/-! ## Section 2: The region of a key -/

/-- A character that is not ASCII starts with an octet that is none. -/
theorem exists_utf8EncodeChar_of_ge {c : Char} (h : 128 ≤ c.toNat) :
    ∃ first rest, String.utf8EncodeChar c = first :: rest ∧ 128 ≤ first.toNat := by
  have hencodes := Utf8.encodes_utf8EncodeChar c
  cases hoctets : String.utf8EncodeChar c with
  | nil =>
    rw [hoctets] at hencodes
    cases hencodes
  | cons first rest =>
    refine ⟨first, rest, rfl, Utf8.le_of_mem_utf8EncodeChar h ?_⟩
    rw [hoctets]
    exact List.mem_cons_self

/-- Characters whose first octet is ASCII start with the character of this octet. -/
theorem exists_of_flatMap_utf8EncodeChar {chars : List Char} {first : UInt8} {rest : Bytes}
    (h : chars.flatMap String.utf8EncodeChar = first :: rest) (hascii : first.toNat < 128) :
    ∃ more, chars = Char.ofNat first.toNat :: more ∧
      more.flatMap String.utf8EncodeChar = rest := by
  cases chars with
  | nil => cases h
  | cons c more =>
    rw [List.flatMap_cons] at h
    by_cases hc : c.toNat < 128
    · rw [Utf8.utf8EncodeChar_of_lt hc] at h
      obtain ⟨rfl, hrest⟩ := List.cons.inj h
      refine ⟨more, ?_, hrest⟩
      have hcode : (UInt8.ofNat c.toNat).toNat = c.toNat := by
        rw [UInt8.toNat_ofNat']
        omega
      rw [hcode, Char.ofNat_toNat]
    · obtain ⟨octet, octets, hoctets, hge⟩ :=
        exists_utf8EncodeChar_of_ge (Nat.not_lt.mp hc)
      rw [hoctets] at h
      obtain ⟨rfl, -⟩ := List.cons.inj h
      exact absurd hascii (Nat.not_lt.mpr hge)

/-- Only ASCII letters have another form in lower case. -/
theorem toLower_of_ge {c : Char} (h : 128 ≤ c.toNat) : c.toLower = c := by
  have hnot : ¬ (c.val ≥ 'A'.val ∧ c.val ≤ 'Z'.val) := by
    rintro ⟨-, hle⟩
    exact Nat.not_lt.mpr h (Nat.lt_of_le_of_lt (UInt32.le_iff_toNat_le.mp hle) (by decide))
  unfold Char.toLower
  rw [dif_neg hnot]

/-- What is a letter in lower case is this letter in either case, if this is so in ASCII. -/
theorem toLower_eq_iff {small large : Char} (hlarge : large.toNat < 128)
    (hascii : ∀ n < 128, (Char.ofNat n).toLower = small ↔
      Char.ofNat n = small ∨ Char.ofNat n = large) (c : Char) :
    c.toLower = small ↔ c = small ∨ c = large := by
  by_cases h : c.toNat < 128
  · have hc := hascii c.toNat h
    rwa [Char.ofNat_toNat] at hc
  · -- any other character is its own lower case, and never the large letter
    have hne : c ≠ large := fun heq => h (heq ▸ hlarge)
    rw [toLower_of_ge (Nat.not_lt.mp h)]
    exact ⟨.inl, fun hor => hor.resolve_right hne⟩

theorem toLower_eq_e (c : Char) : c.toLower = 'e' ↔ c = 'e' ∨ c = 'E' :=
  toLower_eq_iff (by decide) (by decide) c

theorem toLower_eq_u (c : Char) : c.toLower = 'u' ↔ c = 'u' ∨ c = 'U' :=
  toLower_eq_iff (by decide) (by decide) c

/-- Octets that start with `eu` in any letter case. -/
def StartsWithEu (octets : Bytes) : Prop :=
  ∃ e u rest, octets = e :: u :: rest ∧ (e = 'e'.toUInt8 ∨ e = 'E'.toUInt8) ∧
    (u = 'u'.toUInt8 ∨ u = 'U'.toUInt8)

/-- Keys of the European region, by their characters. -/
theorem ofCredential_eq_eu_iff (credential : String) :
    Region.ofCredential credential = .eu ↔
      ∃ e u rest, credential.toList = e :: u :: rest ∧ (e = 'e' ∨ e = 'E') ∧
        (u = 'u' ∨ u = 'U') := by
  unfold Region.ofCredential
  split
  · next e u rest hlist =>
    rw [hlist]
    constructor
    · intro h
      split at h
      · next hletters =>
        exact ⟨e, u, rest, rfl, (toLower_eq_e e).mp hletters.1, (toLower_eq_u u).mp hletters.2⟩
      · cases h
    · rintro ⟨e', u', rest', heq, he, hu⟩
      obtain ⟨rfl, htail⟩ := List.cons.inj heq
      obtain ⟨rfl, -⟩ := List.cons.inj htail
      rw [if_pos ⟨(toLower_eq_e e).mpr he, (toLower_eq_u u).mpr hu⟩]
  · next hshort =>
    constructor
    · nofun
    · rintro ⟨e, u, rest, heq, -, -⟩
      exact absurd heq (hshort e u rest)

/-- **Region**: a key belongs to the European region if its first two octets are `eu` in any
    letter case, and to the other one if not. -/
theorem ofCredential_eq_eu_iff_octets (credential : String) :
    Region.ofCredential credential = .eu ↔ StartsWithEu (Bytes.ofText credential) := by
  -- what the octet of a letter is, and what the letter of an octet is
  have hoctet {c small large : Char} (h : c = small ∨ c = large) :
      UInt8.ofNat c.toNat = small.toUInt8 ∨ UInt8.ofNat c.toNat = large.toUInt8 := by
    rcases h with rfl | rfl
    · exact .inl rfl
    · exact .inr rfl
  rw [ofCredential_eq_eu_iff, Bytes.ofText_eq_flatMap]
  constructor
  · rintro ⟨e, u, rest, hlist, he, hu⟩
    have hlt : e.toNat < 128 ∧ u.toNat < 128 := by
      rcases he with rfl | rfl <;> rcases hu with rfl | rfl <;> decide
    refine ⟨_, _, rest.flatMap String.utf8EncodeChar, ?_, hoctet he, hoctet hu⟩
    rw [hlist, List.flatMap_cons, List.flatMap_cons, Utf8.utf8EncodeChar_of_lt hlt.1,
      Utf8.utf8EncodeChar_of_lt hlt.2]
    rfl
  · rintro ⟨e, u, rest, hoctets, he, hu⟩
    have he' : e.toNat < 128 ∧ (Char.ofNat e.toNat = 'e' ∨ Char.ofNat e.toNat = 'E') := by
      rcases he with rfl | rfl <;> decide
    have hu' : u.toNat < 128 ∧ (Char.ofNat u.toNat = 'u' ∨ Char.ofNat u.toNat = 'U') := by
      rcases hu with rfl | rfl <;> decide
    obtain ⟨more, hlist, hmore⟩ := exists_of_flatMap_utf8EncodeChar hoctets he'.1
    obtain ⟨last, hmore', -⟩ := exists_of_flatMap_utf8EncodeChar hmore hu'.1
    exact ⟨_, _, last, by rw [hlist, hmore'], he'.2, hu'.2⟩

/-! ## Section 3: The address of a kind -/

/-- The setting for the address of a kind. -/
def Overrides.get (overrides : Overrides) : Signal → Option String
  | .logging => overrides.logging
  | .metrics => overrides.metrics
  | .events => overrides.events
  | .traces => overrides.traces

/-- Settings with another address for a kind. -/
def Overrides.set (overrides : Overrides) (url : String) : Signal → Overrides
  | .logging => { overrides with logging := some url }
  | .metrics => { overrides with metrics := some url }
  | .events => { overrides with events := some url }
  | .traces => { overrides with traces := some url }

theorem Overrides.get_set (overrides : Overrides) (url : String) (signal other : Signal) :
    (overrides.set url signal).get other
      = if other = signal then some url else overrides.get other := by
  cases signal <;> cases other <;> rfl

/-- The account that events can be filed under. -/
def namedAccount (account : Option String) : Option String := account.filter fun id => id != ""

/-- The standard address of a kind in a region. Events have one only with an account. -/
def Region.standard? (region : Region) (account : Option String) : Signal → Option String
  | .logging => some region.logAddress
  | .metrics => some region.metricAddress
  | .events => (namedAccount account).map region.eventAddress
  | .traces => some region.traceAddress

namespace Endpoints

variable (credential : String) (account : Option String) (overrides : Overrides)

/-- **Address**: the address of a kind is the one that is set for it, or else the standard
    one of the region of the key. -/
theorem url?_resolve (signal : Signal) :
    (resolve credential account overrides).url? signal =
      ((Region.ofCredential credential).standard? account signal).map fun standard =>
        (overrides.get signal).getD standard := by
  cases signal with
  | logging => rfl
  | metrics => rfl
  | events =>
    show (namedAccount account).map _ = ((namedAccount account).map _).map _
    rw [Option.map_map]
    rfl
  | traces => rfl

/-- Only the address of events depends on the account. -/
theorem url?_resolve_account (account' : Option String) {signal : Signal}
    (h : signal ≠ .events) :
    (resolve credential account' overrides).url? signal
      = (resolve credential account overrides).url? signal := by
  cases signal with
  | events => exact absurd rfl h
  | logging => rfl
  | metrics => rfl
  | traces => rfl

/-- A setting for one kind changes the address of no other. -/
theorem url?_resolve_set_of_ne (url : String) {signal other : Signal} (h : other ≠ signal) :
    (resolve credential account (overrides.set url signal)).url? other
      = (resolve credential account overrides).url? other := by
  rw [url?_resolve, url?_resolve, Overrides.get_set, if_neg h]

/-- A setting for a kind that has an address is its address. -/
theorem url?_resolve_set (url : String) (signal : Signal) :
    (resolve credential account (overrides.set url signal)).url? signal
      = ((resolve credential account overrides).url? signal).map fun _ => url := by
  rw [url?_resolve, url?_resolve, Overrides.get_set, if_pos rfl, Option.map_map]
  rfl

/-- Where an address is set it is this one, in whatever region, if there is one at all. -/
theorem url?_resolve_of_set {signal : Signal} {url : String}
    (h : overrides.get signal = some url) :
    (resolve credential account overrides).url? signal
      = if signal = .events ∧ namedAccount account = none then none else some url := by
  rw [url?_resolve, h]
  cases signal with
  | events =>
    show ((namedAccount account).map _).map _ = _
    cases hnamed : namedAccount account with
    | none => rfl
    | some id => rfl
  | logging => rfl
  | metrics => rfl
  | traces => rfl

/-- Where none is set, it is that of the region. -/
theorem url?_resolve_of_not_set {signal : Signal} (h : overrides.get signal = none) :
    (resolve credential account overrides).url? signal
      = (Region.ofCredential credential).standard? account signal := by
  rw [url?_resolve, h]
  exact Option.map_id'

end Endpoints

/-! ## Section 4: Sending parcels -/

section

variable {network : Http.Network} (h : Http.Steady network)
include h

/-- What becomes of a parcel depends on nothing that was sent before it. -/
theorem send_steady (courier : Courier) (history : List Http.Request)
    (cancellation : Cancellation) (credential : String) (parcel : Parcel) :
    courier.send network history cancellation credential parcel
      = courier.send network [] cancellation credential parcel := by
  unfold Courier.send
  rw [h.exchange_eq courier.client history]

/-- What becomes of a parcel does not end the work. -/
theorem cancels_send_steady (courier : Courier) (history : List Http.Request)
    (cancellation : Cancellation) (credential : String) (parcel : Parcel) :
    (courier.send network history cancellation credential parcel).cancels = false := by
  have hfate := h.fate_exchange_ne courier.client history (courier.draft credential parcel)
  unfold Courier.send
  split
  · rfl
  split
  · rfl
  simp only
  split
  · rfl
  · rfl
  · next hcancelling => exact absurd hcancelling hfate
  · split <;> rfl

/-- Every parcel is sent as if it was the only one. -/
theorem sendAll_steady (courier : Courier) (cancellation : Cancellation) (credential : String)
    (parcels : List Parcel) :
    ∀ history : List Http.Request,
      let sent := courier.send network [] cancellation credential
      courier.sendAll network credential history cancellation parcels
        = ⟨parcels.flatMap fun parcel => (sent parcel).made,
            parcels.map fun parcel => (parcel, (sent parcel).outcome), false⟩ := by
  intro history
  exact sendAll_of_send (fun earlier => send_steady h courier earlier cancellation credential)
    (cancels_send_steady h courier [] cancellation credential) parcels history

end

/-! ## Section 5: Dispatches with other addresses -/

/-- A dispatcher with other addresses. -/
def Dispatcher.withEndpoints (dispatcher : Dispatcher) (endpoints : Endpoints) : Dispatcher :=
  { dispatcher with endpoints := endpoints }

/-- **Sent by**: a cycle each of whose parcels was sent in this way. -/
structure Cycle.SentBy (cycle : Cycle) (sent : Parcel → Delivery) : Prop where
  made : cycle.made = cycle.parcels.flatMap fun parcel => (sent parcel).made
  failures : cycle.failures
    = cycle.parcels.filterMap fun parcel => failureOf (parcel, (sent parcel).outcome)

section

variable {dispatcher : Dispatcher} {context : Context} {identity : Identity}
  {harvested : List Invocation} {cycle : Cycle}

/-- In a steady network each parcel is sent in the way that belongs to it. -/
theorem Course.sentBy (hcourse : Course dispatcher context identity harvested cycle)
    (hsteady : Http.Steady context.network) {key : String}
    (hkey : context.keyring.obtain.1 = .ok key) :
    cycle.SentBy (dispatcher.courier.send context.network [] context.cancellation key) := by
  have huses := hcourse.uses hkey
  refine ⟨?_, ?_⟩
  · rw [huses.made, sendAll_steady hsteady]
  · rw [huses.settled, sendAll_steady hsteady, List.filterMap_map]
    rfl

/-- Without a key none is sent. -/
theorem Course.sentBy_of_keyless (hcourse : Course dispatcher context identity harvested cycle)
    {error : Credential.KeyError} (hkey : context.keyring.obtain.1 = .error error)
    (sent : Parcel → Delivery) : cycle.SentBy sent := by
  cases hcourse with
  | empty hempty => exact ⟨rfl, rfl⟩
  | unbuilt cause hsome hbuilt => exact ⟨rfl, rfl⟩
  | keyless payloads cause hsome hbuilt hkeyless => exact ⟨rfl, rfl⟩
  | unsplit payloads credential cause hsome hbuilt hgiven hplan =>
    rw [hkey] at hgiven
    cases hgiven
  | delivered payloads credential parcels hsome hbuilt hgiven hplan =>
    rw [hkey] at hgiven
    cases hgiven

/-- Where compressing never fails, ids are drawn for what is built, if there is a key. -/
theorem Course.drawn_eq (hcourse : Course dispatcher context identity harvested cycle)
    (hcodec : dispatcher.codec.Total) :
    cycle.drawn =
      match context.build identity harvested, context.keyring.obtain.1 with
      | .ok payloads, .ok _ => context.drawn + payloads.traces.length
      | _, _ => context.drawn := by
  cases hcourse with
  | empty hempty =>
    have hbuilt : context.build identity harvested = .ok .empty := by
      rw [Context.build, hempty]
      rfl
    rw [hbuilt]
    cases context.keyring.obtain.1 with
    | error error => rfl
    | ok credential => rfl
  | unbuilt error hsome hbuilt =>
    rw [hbuilt]
    rfl
  | keyless payloads error hsome hbuilt hkey =>
    rw [hbuilt, hkey]
    rfl
  | unsplit payloads credential error hsome hbuilt hkey hplan =>
    exact absurd hplan (Dispatcher.plan_ne_error hcodec identity payloads)
  | delivered payloads credential parcels hsome hbuilt hkey hplan =>
    rw [hbuilt, hkey]
    rfl

/-- The failures of one kind are those of the parcels of this kind. -/
theorem filter_failuresOf_signal (ending : Parcel → Ending) (signal : Signal)
    (parcels : List Parcel) :
    ((failuresOf ending parcels).filter fun failure => failure.signal = signal)
      = failuresOf ending (parcels.filter fun parcel => parcel.signal = signal) := by
  rw [failuresOf, failuresOf, List.filter_filterMap, List.filterMap_filter]
  apply List.filterMap_congr
  intro parcel _
  cases hfailure : (ending parcel).failure? parcel with
  | none => simp
  | some failure =>
    have hsignal : failure.signal = parcel.signal :=
      congrArg Prod.fst (Ending.key_of_failure? hfailure)
    simp [Option.filter, hsignal]

/-- Whatever the order of reports, a run reports the failures of the parcels of a kind. -/
theorem Tasks.Finishes.failures_of_signal {ending : Parcel → Ending} {parcels : List Parcel}
    {final : Tasks} (h : Tasks.Finishes ending parcels final) (signal : Signal) :
    (final.summary.failures.filter fun failure => failure.signal = signal).Perm
      (failuresOf ending (parcels.filter fun parcel => parcel.signal = signal)) := by
  have hfailures := h.spec.2.failures
  rw [settle_reports] at hfailures
  rw [← filter_failuresOf_signal]
  exact hfailures.filter _

end

/-- **Same but for addresses**: what two dispatches have in common that post to some
    addresses and to others. -/
structure SameButAddresses (network : Http.Network) (endpoints other : Endpoints)
    (cycle cycle' : Cycle) : Prop where
  keyring : cycle'.keyring = cycle.keyring
  drawn : cycle'.drawn = cycle.drawn
  /-- The errors before the posting are the same. -/
  early : ∀ error : HarvestError, error.IsEarly →
    (cycle'.result = .error error ↔ cycle.result = .error error)
  /-- A kind with the same address has the same parcels. -/
  parcels : ∀ signal, other.url? signal = endpoints.url? signal →
    (cycle'.parcels.filter fun parcel => parcel.signal = signal)
      = cycle.parcels.filter fun parcel => parcel.signal = signal
  /-- If each request is answered alike, each parcel is sent alike, with the same outcome. -/
  sent : Http.Steady network → ∃ sent, cycle.SentBy sent ∧ cycle'.SentBy sent
  /-- If each parcel ends alike, then in any order of reports the failures of a kind with the
      same address are the same. -/
  reported : ∀ signal, other.url? signal = endpoints.url? signal → ∀ ending final final',
    Tasks.Finishes ending cycle.parcels final → Tasks.Finishes ending cycle'.parcels final' →
    (final'.summary.failures.filter fun failure => failure.signal = signal).Perm
      (final.summary.failures.filter fun failure => failure.signal = signal)

section

variable (dispatcher : Dispatcher) (context : Context) (identity : Identity)
  (harvested : List Invocation) (endpoints other : Endpoints)

/-- The parcels of a kind depend on the address of this kind only. -/
theorem filter_parcels_withEndpoints (hcodec : dispatcher.codec.Total) {signal : Signal}
    (hurl : other.url? signal = endpoints.url? signal) :
    (((dispatcher.withEndpoints other).dispatch context identity harvested).parcels.filter
        fun parcel => parcel.signal = signal)
      = ((dispatcher.withEndpoints endpoints).dispatch context identity harvested).parcels.filter
        fun parcel => parcel.signal = signal := by
  have hcourse := dispatch_course (dispatcher.withEndpoints endpoints) context identity harvested
  have hcourse' := dispatch_course (dispatcher.withEndpoints other) context identity harvested
  rw [hcourse.parcels_eq hcodec, hcourse'.parcels_eq hcodec]
  cases context.build identity harvested with
  | error error => rfl
  | ok payloads =>
    cases context.keyring.obtain.1 with
    | error error => rfl
    | ok credential =>
      have hshare : (dispatcher.withEndpoints other).share identity payloads signal
          = (dispatcher.withEndpoints endpoints).share identity payloads signal :=
        Dispatcher.share_congr rfl rfl hurl rfl
      simp only [Dispatcher.filter_shares, hshare]

/-- **Apart**: addresses change nothing but what is posted of their kind. -/
theorem sameButAddresses (hcodec : dispatcher.codec.Total) :
    SameButAddresses context.network endpoints other
      ((dispatcher.withEndpoints endpoints).dispatch context identity harvested)
      ((dispatcher.withEndpoints other).dispatch context identity harvested) := by
  have hcourse := dispatch_course (dispatcher.withEndpoints endpoints) context identity harvested
  have hcourse' := dispatch_course (dispatcher.withEndpoints other) context identity harvested
  have hparcels {signal : Signal} (hurl : other.url? signal = endpoints.url? signal) :=
    filter_parcels_withEndpoints dispatcher context identity harvested endpoints other hcodec hurl
  refine ⟨?_, ?_, ?_, fun signal hurl => hparcels hurl, ?_, ?_⟩
  · by_cases h : Buildable harvested
    · rw [(hcourse.of_buildable h).1, (hcourse'.of_buildable h).1]
    · rw [keyring_of_not_buildable _ context identity h,
        keyring_of_not_buildable _ context identity h]
  · rw [hcourse.drawn_eq hcodec, hcourse'.drawn_eq hcodec]
  · intro error hearly
    rw [hcourse.early_iff hcodec hearly, hcourse'.early_iff hcodec hearly]
  · intro hsteady
    cases hkey : context.keyring.obtain.1 with
    | error error =>
      exact ⟨fun _ => ⟨[], .failed .cancelled, false⟩, hcourse.sentBy_of_keyless hkey _,
        hcourse'.sentBy_of_keyless hkey _⟩
    | ok key => exact ⟨_, hcourse.sentBy hsteady hkey, hcourse'.sentBy hsteady hkey⟩
  · intro signal hurl ending final final' hfinal hfinal'
    have hfailures' := hfinal'.failures_of_signal signal
    rw [hparcels hurl] at hfailures'
    exact hfailures'.trans (hfinal.failures_of_signal signal).symm

end

/-! ## Section 6: Another address for one kind -/

/-- A parcel that goes to another address if it is of a kind. -/
def Parcel.redirect (signal : Signal) (url : String) (parcel : Parcel) : Parcel :=
  if parcel.signal = signal then { parcel with url := url } else parcel

theorem map_redirect_parcelsOf (signal : Signal) (old url : String)
    (chunks : List Telemetry.Chunk) :
    (parcelsOf signal old chunks).map (Parcel.redirect signal url)
      = parcelsOf signal url chunks := by
  rw [parcelsOf, List.map_map, parcelsOf]
  apply List.map_congr_left
  intro numbered _
  simp [Parcel.redirect]

section

variable (dispatcher : Dispatcher) (identity : Identity) (payloads : Payloads)
  {endpoints other : Endpoints} {signal : Signal} {url : String}

/-- The share of a kind whose address is set goes there; other shares stay. -/
theorem share_redirect (hset : other.url? signal = (endpoints.url? signal).map fun _ => url)
    (hkept : ∀ kept, kept ≠ signal → other.url? kept = endpoints.url? kept) (kind : Signal) :
    (dispatcher.withEndpoints other).share identity payloads kind
      = ((dispatcher.withEndpoints endpoints).share identity payloads kind).map
          (Parcel.redirect signal url) := by
  -- the kind itself gets the address; of the others neither address nor parcels change
  by_cases hkind : kind = signal
  · subst hkind
    cases hurl : endpoints.url? kind with
    | none =>
      have hnone : (dispatcher.withEndpoints endpoints).endpoints.url? kind = none := hurl
      have hnone' : (dispatcher.withEndpoints other).endpoints.url? kind = none :=
        hset.trans (congrArg (Option.map fun _ => url) hurl)
      rw [Dispatcher.share_of_no_url hnone, Dispatcher.share_of_no_url hnone', List.map_nil]
    | some old =>
      have hnew : other.url? kind = some url :=
        hset.trans (congrArg (Option.map fun _ => url) hurl)
      simp only [Dispatcher.share_eq, Dispatcher.withEndpoints, hurl, hnew]
      cases (bodiesOf dispatcher.codec dispatcher.limit identity payloads kind).result with
      | error error => rfl
      | ok chunks => exact (map_redirect_parcelsOf kind old url chunks).symm
  · have hshare : (dispatcher.withEndpoints other).share identity payloads kind
        = (dispatcher.withEndpoints endpoints).share identity payloads kind :=
      Dispatcher.share_congr rfl rfl (hkept kind hkind) rfl
    have hstays (parcel : Parcel)
        (hmem : parcel ∈ (dispatcher.withEndpoints endpoints).share identity payloads kind) :
        parcel.redirect signal url = parcel := by
      have hsignal : parcel.signal ≠ signal :=
        fun heq => hkind ((Dispatcher.signal_of_mem_share hmem).symm.trans heq)
      exact if_neg hsignal
    rw [hshare, List.map_congr_left hstays, List.map_id']

end

section

variable (dispatcher : Dispatcher) (context : Context) (identity : Identity)
  (harvested : List Invocation) {endpoints other : Endpoints} {signal : Signal} {url : String}

/-- **Redirect**: another address for one kind redirects the parcels of this kind, and
    changes no others. -/
theorem parcels_redirect (hcodec : dispatcher.codec.Total)
    (hset : other.url? signal = (endpoints.url? signal).map fun _ => url)
    (hkept : ∀ kept, kept ≠ signal → other.url? kept = endpoints.url? kept) :
    ((dispatcher.withEndpoints other).dispatch context identity harvested).parcels
      = ((dispatcher.withEndpoints endpoints).dispatch context identity harvested).parcels.map
          (Parcel.redirect signal url) := by
  have hcourse := dispatch_course (dispatcher.withEndpoints endpoints) context identity harvested
  have hcourse' := dispatch_course (dispatcher.withEndpoints other) context identity harvested
  rw [hcourse.parcels_eq hcodec, hcourse'.parcels_eq hcodec]
  cases context.build identity harvested with
  | error error => rfl
  | ok payloads =>
    cases context.keyring.obtain.1 with
    | error error => rfl
    | ok credential =>
      have hshares : (dispatcher.withEndpoints other).share identity payloads
          = fun kind => ((dispatcher.withEndpoints endpoints).share identity payloads kind).map
              (Parcel.redirect signal url) :=
        funext (share_redirect dispatcher identity payloads hset hkept)
      simp only [hshares]
      exact List.map_flatMap.symm

end

/-! ## Section 7: Events and their account -/

section

variable {dispatcher : Dispatcher} {context : Context} {identity : Identity}
  {harvested : List Invocation} {cycle : Cycle}

/-- A kind has parcels if it has an address and items. -/
theorem share_ne_nil_iff (hcodec : dispatcher.codec.Total) (payloads : Payloads)
    (signal : Signal) :
    dispatcher.share identity payloads signal ≠ [] ↔
      (dispatcher.endpoints.url? signal).isSome = true ∧ itemValues payloads signal ≠ [] := by
  obtain ⟨parcels, hplan⟩ := Dispatcher.exists_plan hcodec identity payloads
  have hprepare := (Dispatcher.plan_eq_shares hplan).2 signal
  cases hurl : dispatcher.endpoints.url? signal with
  | none => simp [Dispatcher.share_of_no_url hurl]
  | some url =>
    obtain ⟨parts, hflatten, hpacked⟩ := Dispatcher.packed_share hurl hprepare
    constructor
    · intro hshare
      refine ⟨rfl, fun hitems => ?_⟩
      exact hshare (Dispatcher.share_of_no_items hitems hprepare)
    · -- parcels without any would hold no items
      rintro ⟨-, hitems⟩ hshare
      rw [hshare, List.forall₂_nil_left_iff] at hpacked
      rw [hpacked] at hflatten
      exact hitems hflatten.symm

/-- **Events**: they are posted where they have an address, the records are built and there
    is a key. -/
theorem Course.events_iff (hcourse : Course dispatcher context identity harvested cycle)
    (hcodec : dispatcher.codec.Total) :
    (∃ parcel ∈ cycle.parcels, parcel.signal = .events) ↔
      (dispatcher.endpoints.url? .events).isSome = true ∧ Buildable harvested ∧
        ∃ key, context.keyring.obtain.1 = .ok key := by
  have hposted : (∃ parcel ∈ cycle.parcels, parcel.signal = .events) ↔
      (cycle.parcels.filter fun parcel => parcel.signal = .events) ≠ [] := by
    simp [List.filter_eq_nil_iff]
  rw [hposted, hcourse.parcels_eq hcodec]
  cases hbuilt : context.build identity harvested with
  | error error =>
    have hnot : ¬ Buildable harvested := by
      intro h
      obtain ⟨payloads, hpayloads⟩ := h.exists_build context identity
      rw [hbuilt] at hpayloads
      cases hpayloads
    simp [hnot]
  | ok payloads =>
    -- every record makes one event, so there are events to post if there are records
    have hevents := Telemetry.length_events_buildFrom _ _ _ _ hbuilt
    have hitems : itemValues payloads .events ≠ [] ↔ Buildable harvested := by
      have hlength : (itemValues payloads .events).length = (flatten harvested).length :=
        (List.length_map _).trans hevents
      constructor
      · intro hsome
        refine buildable_of_build (fun hnone => hsome ?_) hbuilt
        rw [hnone] at hlength
        exact List.length_eq_zero_iff.mp hlength
      · intro h hnone
        rw [hnone] at hlength
        exact h.some (List.length_eq_zero_iff.mp hlength.symm)
    cases hkey : context.keyring.obtain.1 with
    | error error => simp
    | ok key =>
      simp only [Dispatcher.filter_shares]
      rw [share_ne_nil_iff hcodec, hitems]
      simp

end

/-- Events have an address with an account that has a name. -/
theorem isSome_events_resolve (credential : String) (account : Option String)
    (overrides : Overrides) :
    ((Endpoints.resolve credential account overrides).url? .events).isSome = true ↔
      ∃ id, account = some id ∧ id ≠ "" := by
  show ((namedAccount account).map _).isSome = true ↔ _
  cases account with
  | none => simp [namedAccount]
  | some id => simp [namedAccount, Option.filter_some, apply_ite Option.isSome]

/-! ## Section 8: Routing -/

/-- **Routing**: where compressing never fails, the account decides about events and nothing
    else. They are posted exactly if the account has a name, the records are built and there
    is a key, whatever addresses are set. With another account the other kinds have the same
    addresses and parcels, and each parcel ends in the same way if it is answered in the same
    way. An address that is set for one kind is used in whatever region, and redirects the
    parcels of this kind only. All other kinds go to one region, which is the European one if
    the first two octets of the key are `eu` in any letter case. -/
theorem routing_does_not_interfere (dispatcher : Dispatcher) (context : Context)
    (identity : Identity) (harvested : List Invocation) (credential : String)
    (account : Option String) (overrides : Overrides) (hcodec : dispatcher.codec.Total) :
    let endpoints := Endpoints.resolve credential account overrides
    let dispatchTo := fun endpoints =>
      (dispatcher.withEndpoints endpoints).dispatch context identity harvested
    (∀ account',
      let other := Endpoints.resolve credential account' overrides
      (∀ signal, signal ≠ .events → other.url? signal = endpoints.url? signal) ∧
      SameButAddresses context.network endpoints other (dispatchTo endpoints)
        (dispatchTo other)) ∧
    ((∃ parcel ∈ (dispatchTo endpoints).parcels, parcel.signal = .events) ↔
      (∃ id, account = some id ∧ id ≠ "") ∧ Buildable harvested ∧
        ∃ key, context.keyring.obtain.1 = .ok key) ∧
    (∀ signal url,
      let other := Endpoints.resolve credential account (overrides.set url signal)
      other.url? signal = ((endpoints.url? signal).map fun _ => url) ∧
      (∀ kept, kept ≠ signal → other.url? kept = endpoints.url? kept) ∧
      SameButAddresses context.network endpoints other (dispatchTo endpoints)
        (dispatchTo other) ∧
      (dispatchTo other).parcels
        = (dispatchTo endpoints).parcels.map (Parcel.redirect signal url)) ∧
    (∀ signal url, overrides.get signal = some url → endpoints.url? signal =
      if signal = .events ∧ namedAccount account = none then none else some url) ∧
    (∀ signal, overrides.get signal = none → endpoints.url? signal
      = (Region.ofCredential credential).standard? account signal) ∧
    (Region.ofCredential credential = .eu ↔ StartsWithEu (Bytes.ofText credential)) := by
  intro endpoints dispatchTo
  have hapart (other : Endpoints) : SameButAddresses context.network endpoints other
      (dispatchTo endpoints) (dispatchTo other) :=
    sameButAddresses dispatcher context identity harvested endpoints other hcodec
  refine ⟨fun account' => ?_, ?_, fun signal url => ?_, fun signal url => ?_, fun signal => ?_,
    ofCredential_eq_eu_iff_octets credential⟩
  · exact ⟨fun signal => Endpoints.url?_resolve_account credential account overrides account',
      hapart _⟩
  · have hcourse := dispatch_course (dispatcher.withEndpoints endpoints) context identity harvested
    have hevents := hcourse.events_iff hcodec
    rw [← isSome_events_resolve credential account overrides]
    exact hevents
  · have hset := Endpoints.url?_resolve_set credential account overrides url signal
    have hkept (kept : Signal) (hne : kept ≠ signal) :=
      Endpoints.url?_resolve_set_of_ne credential account overrides url hne
    exact ⟨hset, hkept, hapart _,
      parcels_redirect dispatcher context identity harvested hcodec hset hkept⟩
  · exact Endpoints.url?_resolve_of_set credential account overrides
  · exact Endpoints.url?_resolve_of_not_set credential account overrides

/-- Two records are posted as events to the account they are filed under. -/
theorem routing_twoRecords :
    narrowDispatcher.codec.Total ∧
      ∃ parcel ∈ ((narrowDispatcher.withEndpoints (.resolve "eu01" (some "42") .none)).dispatch
        openContext ⟨"f", "a"⟩ twoRecords).parcels, parcel.signal = .events := by
  have hcodec : narrowDispatcher.codec.Total := Codec.Total.codecOf (.gzip 0)
  have hbuildable : Buildable twoRecords :=
    buildable_of_build (by decide) build_twoRecords
  obtain ⟨-, hevents, -⟩ := routing_does_not_interfere narrowDispatcher openContext ⟨"f", "a"⟩
    twoRecords "eu01" (some "42") .none hcodec
  exact ⟨hcodec, hevents.mpr ⟨⟨"42", rfl, by decide⟩, hbuildable, "k", rfl⟩⟩

end Ingest

end TelemetryRelay
