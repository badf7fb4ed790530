import TelemetryRelay.Proofs.Dispatch.Tasks
import TelemetryRelay.Proofs.Http.Exchanges

/-! # Which key a dispatch posts with

    Dispatches that follow each other share a keyring. This module says what they make of
    it:

    - whatever a dispatch posts carries the key that its keyring gives, and either all of
      its parcels are refused for this key, or none is,
    - a dispatch asks for a key if it has built something, and leaves the keyring as it was
      otherwise,
    - so a key that has to be looked up is looked up once for each dispatch that needs it,
      until it is found for the first time; that one is used from then on.
-/

namespace TelemetryRelay

/-! ## Section 1: Posting with a key -/

namespace Credential

/-- A keyring that gives a key, without looking it up. -/
def Keyring.Holds (keyring : Keyring) (key : String) : Prop :=
  keyring.obtain = (.ok key, keyring)

end Credential

namespace Ingest

open Credential (KeyError Keyring)
open Telemetry (Fails Identity Invocation)

/-- **Posts**: a request that posts a body with a key, or opens a tunnel for that. It may
    have been sent on. -/
def Courier.Posts (courier : Courier) (credential : String) (request : Http.Request) : Prop :=
  courier.client.Opens request ∨
    ∃ parcel, courier.client.Stems (courier.draft credential parcel) request

/-- **Posts unmoved**: a request that posts a body with a key and was not sent on, or opens a
    tunnel for that. -/
def Courier.PostsUnmoved (courier : Courier) (credential : String) (request : Http.Request) :
    Prop :=
  courier.client.Opens request ∨
    ∃ parcel, courier.client.Carries (courier.draft credential parcel) request

/-- The failure of a parcel whose key is not a header value. -/
def Parcel.refusal (parcel : Parcel) : Failure :=
  ⟨parcel.signal, parcel.chunk, .invalidCredential⟩

/-- **All or none**: either all parcels fail because of their key, or none does. -/
structure AllOrNone (key : String) (parcels : List Parcel) (failures : List Failure) : Prop where
  all : isUsableCredential key = false → failures.Perm (parcels.map Parcel.refusal)
  none : isUsableCredential key = true →
    ∀ failure ∈ failures, failure.error ≠ .invalidCredential

section

variable {courier : Courier} {network : Http.Network} {history : List Http.Request}
  {cancellation : Cancellation} {credential : String}

/-- Posting one body asks for what an exchange of its draft asks for, if for anything. -/
theorem mem_exchange_of_send {parcel : Parcel} {request : Http.Request}
    (hmem : request ∈ (courier.send network history cancellation credential parcel).made) :
    request ∈ (Http.exchange courier.client network history
      (courier.draft credential parcel)).made := by
  unfold Courier.send at hmem
  split at hmem
  · cases hmem
  split at hmem
  · cases hmem
  simp only at hmem
  -- whatever the exchange comes to, its requests are those of the delivery
  split at hmem
  · exact hmem
  · exact hmem
  · exact hmem
  · split at hmem
    · exact hmem
    · exact hmem

/-- Posting several bodies asks for what exchanges of their drafts ask for. -/
theorem exists_exchange_of_sendAll {request : Http.Request} :
    ∀ {parcels : List Parcel} {history : List Http.Request} {cancellation : Cancellation},
      request ∈ (courier.sendAll network credential history cancellation parcels).made →
      ∃ parcel earlier, request ∈ (Http.exchange courier.client network earlier
        (courier.draft credential parcel)).made
  | [], _, _ => nofun
  | parcel :: rest, history, cancellation => by
    intro hmem
    rw [Courier.sendAll] at hmem
    rcases List.mem_append.mp hmem with hmem | hmem
    · exact ⟨parcel, history, mem_exchange_of_send hmem⟩
    · exact exists_exchange_of_sendAll hmem

/-- Posting bodies asks for nothing else. -/
theorem posts_of_sendAll {parcels : List Parcel} :
    ∀ request ∈ (courier.sendAll network credential history cancellation parcels).made,
      courier.Posts credential request := by
  intro request hmem
  obtain ⟨parcel, earlier, hmade⟩ := exists_exchange_of_sendAll hmem
  exact (Http.opens_or_stems hmade).imp_right fun hstems => ⟨parcel, hstems⟩

/-- Where no answer sends on, each request is as it was posted. -/
theorem postsUnmoved_of_sendAll {parcels : List Parcel}
    (hstays : ∀ history request, ¬ Http.SendsOn network history request) :
    ∀ request ∈ (courier.sendAll network credential history cancellation parcels).made,
      courier.PostsUnmoved credential request := by
  intro request hmem
  obtain ⟨parcel, earlier, hmade⟩ := exists_exchange_of_sendAll hmem
  exact (Http.opens_or_carries hstays hmade).imp_right fun hcarries => ⟨parcel, hcarries⟩

/-- If what becomes of each parcel does not depend on what was sent before it, and none ends
    the work, then several parcels come to what each of them comes to. -/
theorem sendAll_of_send {sent : Parcel → Delivery}
    (hsent : ∀ history parcel,
      courier.send network history cancellation credential parcel = sent parcel)
    (hgoes : ∀ parcel, (sent parcel).cancels = false) (parcels : List Parcel) :
    ∀ history : List Http.Request,
      courier.sendAll network credential history cancellation parcels
        = ⟨parcels.flatMap fun parcel => (sent parcel).made,
            parcels.map fun parcel => (parcel, (sent parcel).outcome), false⟩ := by
  induction parcels with
  | nil => exact fun _ => rfl
  | cons parcel rest ih =>
    intro history
    simp only [Courier.sendAll, hsent, hgoes, Bool.false_eq_true, if_false, Bool.false_or, ih,
      List.flatMap_cons, List.map_cons]

/-- If all parcels come to one outcome without a request, there is none. -/
theorem sendAll_unsent {outcome : Outcome}
    (hsent : ∀ history parcel,
      courier.send network history cancellation credential parcel = ⟨[], outcome, false⟩)
    (parcels : List Parcel) :
    courier.sendAll network credential history cancellation parcels
      = ⟨[], parcels.map fun parcel => (parcel, outcome), false⟩ := by
  have hmade : (parcels.flatMap fun _ => ([] : List Http.Request)) = [] :=
    List.flatMap_eq_nil_iff.mpr fun _ _ => rfl
  have hall := sendAll_of_send hsent (fun _ => rfl) parcels history
  rw [hall, hmade]

/-- A key that is not a header value is never sent. -/
theorem send_unusable (h : isUsableCredential credential = false) (parcel : Parcel) :
    courier.send network history cancellation credential parcel
      = ⟨[], .failed .invalidCredential, false⟩ := by
  simp [Courier.send, h]

theorem sendAll_unusable (h : isUsableCredential credential = false) (parcels : List Parcel) :
    courier.sendAll network credential history cancellation parcels
      = ⟨[], parcels.map fun parcel => (parcel, .failed .invalidCredential), false⟩ := by
  apply sendAll_unsent
  intro earlier parcel
  exact send_unusable h parcel

/-- A key that is one is nothing a parcel fails for. -/
theorem outcome_send_usable (h : isUsableCredential credential = true) (parcel : Parcel) :
    (courier.send network history cancellation credential parcel).outcome
      ≠ .failed .invalidCredential := by
  have hanswered (response : Http.Response) :
      outcomeOf response ≠ .failed .invalidCredential := by
    unfold outcomeOf
    split <;> nofun
  -- the error stands in front of all others, so the branches left can only fail otherwise
  unfold Courier.send
  rw [h]
  simp only [Bool.not_true, Bool.false_eq_true, if_false]
  split
  · nofun
  split
  · exact hanswered _
  · nofun
  · nofun
  · split
    · simp only
      split <;> nofun
    · nofun

end

/-- Outcomes that come of posting with one key, in any order, fail for it all or none. -/
theorem allOrNone_of_outcomes (courier : Courier) (network : Http.Network) {key : String}
    {outcomes : List (Parcel × Outcome)} {parcels : List Parcel}
    (hparcels : (outcomes.map Prod.fst).Perm parcels)
    (hsent : ∀ reported ∈ outcomes, ∃ history cancellation,
      reported.2 = (courier.send network history cancellation key reported.1).outcome) :
    AllOrNone key parcels (outcomes.filterMap failureOf) := by
  refine ⟨fun hkey => ?_, fun hkey failure hmem => ?_⟩
  · -- each parcel is refused, so the failures are the parcels in the order of their outcomes
    have hrefused : outcomes.filterMap failureOf
        = (outcomes.map Prod.fst).map Parcel.refusal := by
      rw [List.map_map, ← List.filterMap_eq_map]
      apply List.filterMap_congr
      intro reported hmem
      obtain ⟨history, cancellation, houtcome⟩ := hsent reported hmem
      rw [send_unusable hkey] at houtcome
      simp only [failureOf, houtcome]
      rfl
    rw [hrefused]
    exact hparcels.map Parcel.refusal
  · obtain ⟨reported, hreported, hfailure⟩ := List.mem_filterMap.mp hmem
    obtain ⟨history, cancellation, houtcome⟩ := hsent reported hreported
    rintro hinvalid
    refine outcome_send_usable hkey reported.1 (houtcome.symm.trans ?_)
    unfold failureOf at hfailure
    split at hfailure
    · cases hfailure
    · next error herror =>
      cases hfailure
      exact herror.trans (congrArg Outcome.failed hinvalid)

/-! ## Section 2: A dispatch and its key -/

/-- The failures a cycle ends with. -/
def Cycle.failures (cycle : Cycle) : List Failure :=
  match cycle.result with
  | .ok summary => summary.failures
  | .error (.delivery summary) => summary.failures
  | .error _ => []

theorem failures_of_conclude {cycle : Cycle} {summary : Summary}
    (h : cycle.result = conclude summary) : cycle.failures = summary.failures := by
  unfold Cycle.failures
  rw [h]
  unfold conclude
  by_cases hfailed : 0 < summary.failed
  · rw [if_pos hfailed]
  · rw [if_neg hfailed]

/-- **Uses**: a cycle whose parcels are posted with a key. -/
structure Cycle.Uses (cycle : Cycle) (dispatcher : Dispatcher) (context : Context)
    (key : String) : Prop where
  /-- The parcels are posted with this key. -/
  made : cycle.made = (dispatcher.courier.sendAll context.network key context.history
    context.cancellation cycle.parcels).made
  /-- The failures are those of this posting. -/
  settled : cycle.failures = (dispatcher.courier.sendAll context.network key context.history
    context.cancellation cycle.parcels).outcomes.filterMap failureOf
  /-- All requests carry the key. -/
  posts : ∀ request ∈ cycle.made, dispatcher.courier.Posts key request
  /-- Where no answer sends on, they are as they were posted. -/
  unmoved : (∀ history request, ¬ Http.SendsOn context.network history request) →
    ∀ request ∈ cycle.made, dispatcher.courier.PostsUnmoved key request
  /-- There is no error about a key that is missing. -/
  obtained : ∀ error, cycle.result ≠ .error (.credential error)
  /-- Nothing is sent with a key that is not a header value. -/
  silent : isUsableCredential key = false → cycle.made = []
  /-- Either all parcels fail for the key, or none does. -/
  failures : AllOrNone key cycle.parcels cycle.failures
  /-- All fail or none if they are posted side by side, too, in any order. -/
  anyOrder : ∀ ending final, Tasks.Finishes ending cycle.parcels final →
    (∀ parcel ∈ cycle.parcels, ∃ history cancellation,
      (ending parcel).outcome parcel
        = (dispatcher.courier.send context.network history cancellation key parcel).outcome) →
    AllOrNone key cycle.parcels final.summary.failures

section

variable {dispatcher : Dispatcher} {context : Context} {identity : Identity}
  {harvested : List Invocation} {cycle : Cycle} {key : String}

/-- Parcels of tasks that have finished fail for their key all or none. -/
theorem Tasks.Finishes.allOrNone {courier : Courier} {network : Http.Network}
    {ending : Parcel → Ending} {parcels : List Parcel} {final : Tasks}
    (h : Tasks.Finishes ending parcels final)
    (hsent : ∀ parcel ∈ parcels, ∃ history cancellation, (ending parcel).outcome parcel
      = (courier.send network history cancellation key parcel).outcome) :
    AllOrNone key parcels final.summary.failures := by
  obtain ⟨reported, hall, -, hsettled⟩ := h.run.accounted
  rw [h.finished.waiting, h.finished.posted, List.nil_append, List.nil_append] at hall
  rw [hsettled, settle_eq]
  have hfst : (reports ending reported).map Prod.fst = reported := by
    simp [reports, Function.comp_def]
  refine allOrNone_of_outcomes courier network (hfst.symm ▸ hall) fun outcome hmem => ?_
  obtain ⟨parcel, hparcel, rfl⟩ := List.mem_map.mp hmem
  exact hsent parcel (hall.mem_iff.mp hparcel)

/-- A cycle without parcels uses any key. -/
theorem Cycle.Unsent.uses (h : cycle.Unsent)
    (hresult : ∀ error, cycle.result ≠ .error (.credential error))
    (hfailures : cycle.failures = []) : cycle.Uses dispatcher context key := by
  refine ⟨?_, ?_, ?_, ?_, hresult, fun _ => h.made, ?_,
    fun ending final hfinal => hfinal.allOrNone⟩
  · rw [h.made, h.parcels]
    rfl
  · rw [hfailures, h.parcels]
    rfl
  · rw [h.made]
    nofun
  · rw [h.made]
    exact fun _ => nofun
  · rw [h.parcels, hfailures]
    exact ⟨fun _ => .nil, fun _ => nofun⟩

/-- Where nothing can be built, nothing is posted. -/
theorem Course.unsent_of_not_buildable
    (hcourse : Course dispatcher context identity harvested cycle) (h : ¬ Buildable harvested) :
    cycle.Unsent := by
  cases hcourse with
  | empty hempty => exact ⟨rfl, rfl⟩
  | unbuilt error hsome hbuilt => exact ⟨rfl, rfl⟩
  | keyless payloads error hsome hbuilt hkey => exact ⟨rfl, rfl⟩
  | unsplit payloads credential error hsome hbuilt hkey hplan => exact ⟨rfl, rfl⟩
  | delivered payloads credential parcels hsome hbuilt hkey hplan =>
    exact absurd (buildable_of_build hsome hbuilt) h

/-- **Key**: where there is a key, the parcels are posted with it. -/
theorem Course.uses (hcourse : Course dispatcher context identity harvested cycle)
    (hkey : context.keyring.obtain.1 = .ok key) : cycle.Uses dispatcher context key := by
  cases hcourse with
  | empty hempty => exact Cycle.Unsent.uses ⟨rfl, rfl⟩ nofun rfl
  | unbuilt error hsome hbuilt => exact Cycle.Unsent.uses ⟨rfl, rfl⟩ nofun rfl
  | keyless payloads error hsome hbuilt hkeyless =>
    rw [hkey] at hkeyless
    cases hkeyless
  | unsplit payloads credential error hsome hbuilt hgiven hplan =>
    obtain ⟨signal, cause, rfl⟩ := split_of_plan_error hplan
    exact Cycle.Unsent.uses ⟨rfl, rfl⟩ nofun rfl
  | delivered payloads credential parcels hsome hbuilt hgiven hplan =>
    obtain rfl : key = credential := Except.ok.inj (hkey.symm.trans hgiven)
    let cycle := dispatcher.deliver context.asked key (flatten harvested).length
      (context.drawn + payloads.traces.length)
      (context.reports identity harvested ++ (dispatcher.plan identity payloads).notices) parcels
    let round := dispatcher.courier.sendAll context.network key context.history
      context.cancellation parcels
    have hfailures : cycle.failures = round.outcomes.filterMap failureOf := by
      have hresult : cycle.result = conclude (settle round.outcomes) := rfl
      rw [failures_of_conclude hresult, settle_eq]
    refine ⟨rfl, hfailures, posts_of_sendAll, postsUnmoved_of_sendAll, ?_, ?_, ?_,
      fun ending final hfinal => hfinal.allOrNone⟩
    · exact fun error hresult => not_isEarly_of_conclude hresult trivial
    · intro hunusable
      exact congrArg Round.made (sendAll_unusable hunusable parcels)
    · show AllOrNone key parcels cycle.failures
      rw [hfailures]
      refine allOrNone_of_outcomes dispatcher.courier context.network ?_
        fun reported hmem => outcome_of_mem_sendAll hmem
      rw [map_fst_sendAll]

end

/-- **Dispatch**: what is posted carries the key that the keyring holds, which stays as it
    is. -/
theorem posts_of_dispatch (dispatcher : Dispatcher) (context : Context) (identity : Identity)
    (harvested : List Invocation) {key : String} (hkey : context.keyring.Holds key) :
    (dispatcher.dispatch context identity harvested).keyring = context.keyring ∧
      ∀ request ∈ (dispatcher.dispatch context identity harvested).made,
        dispatcher.courier.Posts key request := by
  have hcourse := dispatch_course dispatcher context identity harvested
  have hasked : context.keyring.obtain.2 = context.keyring := congrArg Prod.snd hkey
  refine ⟨?_, (hcourse.uses (congrArg Prod.fst hkey)).posts⟩
  by_cases h : Buildable harvested
  · rw [(hcourse.of_buildable h).1, hasked]
  · exact keyring_of_not_buildable dispatcher context identity h

/-! ## Section 3: Dispatches one after the other -/

/-- A dispatch, but for the keyring it starts with. -/
structure Attempt where
  dispatcher : Dispatcher
  context : Context
  identity : Identity
  harvested : List Invocation

namespace Attempt

/-- What it starts from with a keyring. -/
def contextWith (attempt : Attempt) (keyring : Keyring) : Context :=
  { attempt.context with keyring := keyring }

/-- What it leads to. -/
def cycle (attempt : Attempt) (keyring : Keyring) : Cycle :=
  attempt.dispatcher.dispatch (attempt.contextWith keyring) attempt.identity attempt.harvested

/-- Whether there are records and they are built. -/
def needsKey (attempt : Attempt) : Bool :=
  !(flatten attempt.harvested).isEmpty
    && (attempt.context.build attempt.identity attempt.harvested).isOk

theorem needsKey_iff (attempt : Attempt) :
    attempt.needsKey = true ↔ Buildable attempt.harvested := by
  have hsome : (!(flatten attempt.harvested).isEmpty) = true ↔ flatten attempt.harvested ≠ [] := by
    simp
  rw [needsKey, Bool.and_eq_true, hsome]
  constructor
  · rintro ⟨hrecords, hok⟩
    cases hbuilt : attempt.context.build attempt.identity attempt.harvested with
    | error error =>
      rw [hbuilt] at hok
      cases hok
    | ok payloads => exact buildable_of_build hrecords hbuilt
  · intro h
    obtain ⟨payloads, hbuilt⟩ := h.exists_build attempt.context attempt.identity
    exact ⟨h.some, by rw [hbuilt]; rfl⟩

/-- Its course with a keyring. -/
theorem course (attempt : Attempt) (keyring : Keyring) :
    Course attempt.dispatcher (attempt.contextWith keyring) attempt.identity attempt.harvested
      (attempt.cycle keyring) :=
  dispatch_course _ _ _ _

/-- A dispatch that needs a key asks for it. -/
theorem keyring_of_needsKey {attempt : Attempt} (h : attempt.needsKey = true)
    (keyring : Keyring) : (attempt.cycle keyring).keyring = keyring.obtain.2 :=
  ((attempt.course keyring).of_buildable (attempt.needsKey_iff.mp h)).1

/-- One that needs none does the same with any keyring, and leaves it as it is. -/
theorem cycle_of_not_needsKey {attempt : Attempt} (h : attempt.needsKey = false)
    (keyring other : Keyring) :
    attempt.cycle other = { attempt.cycle keyring with keyring := other } := by
  have hbuildable : ¬ Buildable attempt.harvested := by
    rw [← needsKey_iff, h]
    nofun
  exact dispatch_of_not_buildable attempt.dispatcher (attempt.contextWith keyring)
    attempt.identity hbuildable other

end Attempt

/-- The keyring after dispatches that followed each other. -/
def keyringAfter (keyring : Keyring) (attempts : List Attempt) : Keyring :=
  attempts.foldl (fun keyring attempt => (attempt.cycle keyring).keyring) keyring

/-! ## Section 4: Looking a key up -/

/-- **First found**: the first lookup that finds a key, and the key it finds. -/
structure FirstFound (outcome : Nat → Except KeyError String) (turn : Nat) (key : String) :
    Prop where
  found : outcome turn = .ok key
  earlier : ∀ i < turn, Fails (outcome i)

/-- **Progress**: what a keyring can be after so many needs of a key that is looked up. -/
inductive Progress (outcome : Nat → Except KeyError String) (needs : Nat) : Keyring → Prop
  /-- Each need was a lookup that failed. -/
  | searching : (∀ i < needs, Fails (outcome i)) →
      Progress outcome needs ⟨.lookup outcome, none, needs⟩
  /-- One of the lookups found the key first, and was the last. -/
  | settled (turn : Nat) (key : String) : FirstFound outcome turn key → turn < needs →
      Progress outcome needs ⟨.lookup outcome, some key, turn + 1⟩

variable {outcome : Nat → Except KeyError String} {needs turn : Nat} {keyring : Keyring}
  {key : String}

/-- There is one first lookup that finds a key. -/
theorem FirstFound.unique (h : FirstFound outcome turn key) {turn' : Nat} {key' : String}
    (h' : FirstFound outcome turn' key') : turn' = turn ∧ key' = key := by
  have hnot {i : Nat} {found : String} (hfound : outcome i = .ok found) : ¬ Fails (outcome i) :=
    hfound ▸ Telemetry.not_fails_ok found
  have hturn : turn' = turn := by
    rcases Nat.lt_trichotomy turn' turn with hlt | heq | hgt
    · exact absurd (h.earlier turn' hlt) (hnot h'.found)
    · exact heq
    · exact absurd (h'.earlier turn hgt) (hnot h.found)
  subst hturn
  exact ⟨rfl, Except.ok.inj (h'.found.symm.trans h.found)⟩

namespace Progress

/-- **Need**: one more need is one more lookup, or none once the key is found. -/
theorem obtain (h : Progress outcome needs keyring) :
    Progress outcome (needs + 1) keyring.obtain.2 := by
  cases h with
  | settled turn key hfirst hlt => exact .settled turn key hfirst (Nat.lt_succ_of_lt hlt)
  | searching hfailed =>
    -- the next lookup is the one that decides whether the search goes on
    simp only [Keyring.obtain]
    cases hnext : outcome needs with
    | error error =>
      refine .searching fun i hi => ?_
      rcases Nat.lt_succ_iff_lt_or_eq.mp hi with hlt | rfl
      · exact hfailed i hlt
      · exact ⟨error, hnext⟩
    | ok key => exact .settled needs key ⟨hnext, hfailed⟩ (Nat.lt_succ_self needs)

/-- **Step**: a dispatch is one more need if it needs a key, and none otherwise. -/
theorem attempt (h : Progress outcome needs keyring) (attempt : Attempt) :
    Progress outcome (needs + attempt.needsKey.toNat) (attempt.cycle keyring).keyring := by
  cases hneeds : attempt.needsKey with
  | true =>
    rw [Attempt.keyring_of_needsKey hneeds]
    exact h.obtain
  | false =>
    rw [Attempt.cycle_of_not_needsKey hneeds keyring keyring]
    exact h

/-- **Run**: so the needs of several dispatches add up. -/
theorem keyringAfter (attempts : List Attempt) :
    ∀ {needs : Nat} {keyring : Keyring}, Progress outcome needs keyring →
      Progress outcome (needs + attempts.countP Attempt.needsKey)
        (keyringAfter keyring attempts) := by
  induction attempts with
  | nil => exact fun h => h
  | cons attempt rest ih =>
    -- the needs grow with each dispatch, so the induction is for any number of them
    intro needs keyring h
    have hrest := ih (h.attempt attempt)
    have hcount : needs + (attempt :: rest).countP Attempt.needsKey
        = needs + attempt.needsKey.toNat + rest.countP Attempt.needsKey := by
      rw [List.countP_cons]
      cases attempt.needsKey with
      | true => simp only [if_true, Bool.toNat_true]; omega
      | false => rfl
    rw [hcount]
    exact hrest

/-- Before the first success every need was a lookup. -/
theorem asked_of_failed (h : Progress outcome needs keyring)
    (hfailed : ∀ i < needs, Fails (outcome i)) :
    keyring.asked = needs ∧ keyring.obtain.1 = outcome needs := by
  cases h with
  | searching _ => exact ⟨rfl, rfl⟩
  | settled turn key hfirst hlt =>
    exact absurd (hfailed turn hlt) (hfirst.found ▸ Telemetry.not_fails_ok key)

/-- After it there was no other. -/
theorem asked_of_found (h : Progress outcome needs keyring)
    (hfirst : FirstFound outcome turn key) (hlt : turn < needs) :
    keyring.asked = turn + 1 ∧ keyring.Holds key := by
  cases h with
  | searching hfailed =>
    exact absurd (hfailed turn hlt) (hfirst.found ▸ Telemetry.not_fails_ok key)
  | settled turn' key' hfirst' _ =>
    obtain ⟨rfl, rfl⟩ := hfirst.unique hfirst'
    exact ⟨rfl, rfl⟩

end Progress

/-- **One lookup for each need, until a key is found**: dispatches that follow each other
    share a key that has to be looked up. Until a lookup succeeds, there is one for each
    dispatch whose records are there and are built; such a dispatch ends with the error of
    its own lookup and posts nothing. From the first success on there is no lookup, and
    everything is posted with the key that was found. A dispatch without records, or whose
    records are not built, posts nothing, does not look the key up, and leaves the keyring
    as it is. Whatever the key, either all parcels of a dispatch are refused for it and
    nothing is sent, or none is. -/
theorem key_is_looked_up_until_found (outcome : Nat → Except KeyError String)
    (before : List Attempt) (attempt : Attempt) :
    let keyring := keyringAfter (.ofLookup outcome) before
    let needs := before.countP Attempt.needsKey
    let cycle := attempt.cycle keyring
    (attempt.needsKey = true ↔ Buildable attempt.harvested) ∧
    ((∀ i < needs, Fails (outcome i)) → keyring.asked = needs) ∧
    (∀ turn key, FirstFound outcome turn key → turn < needs → keyring.asked = turn + 1) ∧
    (attempt.needsKey = false →
      cycle.Unsent ∧ cycle.keyring = keyring ∧
        ∀ other, attempt.cycle other = { cycle with keyring := other }) ∧
    (attempt.needsKey = true →
      (∀ error, (∀ i < needs, Fails (outcome i)) → outcome needs = .error error →
        cycle.result = .error (.credential error) ∧ cycle.Unsent ∧
          cycle.keyring.asked = needs + 1) ∧
      ∀ turn key, FirstFound outcome turn key → turn ≤ needs →
        cycle.Uses attempt.dispatcher (attempt.contextWith keyring) key ∧
          cycle.keyring.asked = turn + 1) ∧
    ∀ other key, other.obtain.1 = .ok key →
      (attempt.cycle other).Uses attempt.dispatcher (attempt.contextWith other) key := by
  intro keyring needs cycle
  have hprogress : Progress outcome needs keyring := by
    have hstart : Progress outcome 0 (.ofLookup outcome) := .searching nofun
    exact Nat.zero_add needs ▸ hstart.keyringAfter before
  have hcourse := attempt.course keyring
  refine ⟨attempt.needsKey_iff, ?_, ?_, ?_, ?_, ?_⟩
  · exact fun hfailed => (hprogress.asked_of_failed hfailed).1
  · exact fun turn key hfirst hlt => (hprogress.asked_of_found hfirst hlt).1
  · intro hneeds
    have hsame := Attempt.cycle_of_not_needsKey hneeds keyring
    have hbuildable : ¬ Buildable attempt.harvested := by
      rw [← attempt.needsKey_iff, hneeds]
      nofun
    exact ⟨hcourse.unsent_of_not_buildable hbuildable, congrArg Cycle.keyring (hsame keyring),
      hsame⟩
  · intro hneeds
    have hkeyring : cycle.keyring = keyring.obtain.2 := Attempt.keyring_of_needsKey hneeds keyring
    have hbuildable := attempt.needsKey_iff.mp hneeds
    have hnext : Progress outcome (needs + 1) cycle.keyring := hkeyring ▸ hprogress.obtain
    refine ⟨fun error hfailed herror => ?_, fun turn key hfirst hle => ?_⟩
    · have hlookup : keyring.obtain.1 = .error error :=
        (hprogress.asked_of_failed hfailed).2.trans herror
      have hresult : cycle.result = .error (.credential error) :=
        ((hcourse.of_buildable hbuildable).2 error).mpr hlookup
      refine ⟨hresult, hcourse.unsent hresult trivial, (hnext.asked_of_failed fun i hi => ?_).1⟩
      rcases Nat.lt_succ_iff_lt_or_eq.mp hi with hlt | rfl
      · exact hfailed i hlt
      · exact ⟨error, herror⟩
    · refine ⟨hcourse.uses ?_, (hnext.asked_of_found hfirst (Nat.lt_succ_of_le hle)).1⟩
      -- the key was found before, or is found now
      rcases Nat.lt_or_eq_of_le hle with hlt | rfl
      · exact congrArg Prod.fst (hprogress.asked_of_found hfirst hlt).2
      · exact (hprogress.asked_of_failed hfirst.earlier).2.trans hfirst.found
  · exact fun other key hkey => (attempt.course other).uses hkey

end Ingest

end TelemetryRelay
