import TelemetryRelay.Proofs.Dispatch.Keys

/-! # Dispatches that are cancelled before they start

    Work can be cancelled before a dispatch is asked for. Such a dispatch goes as far as
    any other: it builds the records, asks for the key and plans the parcels. This module
    says what it has done at its end, beside a dispatch of the same harvest that goes on:

    - it makes no request, and every parcel is reported as a failure of its own,
    - the key is looked at before the cancelling, so it decides what all of them fail for,
    - up to the posting both dispatches are the same, so they stop early in the same cases,
      and attempt the same number of parcels otherwise.
-/

namespace TelemetryRelay

namespace Ingest

open Telemetry (Identity Invocation)

/-! ## Section 1: Posting after the end -/

/-- What parcels fail for once the work is cancelled: a key that is not a header value is
    found out first. -/
def causeOfGivingUp (key : String) : DeliveryError :=
  if isUsableCredential key then .cancelled else .invalidCredential

/-- **Given up**: a summary in which each of some parcels failed once, and all for the same
    cause. -/
structure Summary.GivesUp (summary : Summary) (key : String) (parcels : List Parcel) :
    Prop where
  attempted : summary.attempted = parcels.length
  succeeded : summary.succeeded = 0
  /-- The failures are about the parcels, each of which has one. -/
  once : (summary.failures.map Failure.key).Perm (parcels.map Parcel.key)
  cancelled : isUsableCredential key = true →
    ∀ failure ∈ summary.failures, failure.error = .cancelled
  unusable : isUsableCredential key = false →
    ∀ failure ∈ summary.failures, failure.error = .invalidCredential

section

variable (courier : Courier) (network : Http.Network) (key : String)

/-- Once the work is cancelled, posting a parcel makes no request and fails. -/
theorem send_already (history : List Http.Request) (parcel : Parcel) :
    courier.send network history .already key parcel
      = ⟨[], .failed (causeOfGivingUp key), false⟩ := by
  unfold Courier.send causeOfGivingUp
  cases isUsableCredential key with
  | true => rfl
  | false => rfl

/-- Once the work is cancelled, posting parcels makes no request, and all of them fail. -/
theorem sendAll_already (parcels : List Parcel) :
    ∀ history : List Http.Request,
      courier.sendAll network key history .already parcels
        = ⟨[], parcels.map fun parcel => (parcel, .failed (causeOfGivingUp key)), false⟩ := by
  intro history
  exact sendAll_unsent (send_already courier network key) parcels

end

variable {key : String} {parcels : List Parcel}

/-- The summary of parcels that all fail for the cause of giving up. -/
theorem settle_givesUp (key : String) (parcels : List Parcel) :
    (settle (parcels.map fun parcel => (parcel, .failed (causeOfGivingUp key)))).GivesUp key
      parcels := by
  have hfailures : (parcels.map fun parcel =>
        ((parcel, .failed (causeOfGivingUp key)) : Parcel × Outcome)).filterMap failureOf
      = parcels.map fun parcel => ⟨parcel.signal, parcel.chunk, causeOfGivingUp key⟩ := by
    rw [List.filterMap_map, ← List.filterMap_eq_map]
    rfl
  rw [settle_eq, hfailures]
  refine ⟨List.length_map _, ?_, ?_, ?_, ?_⟩
  · rw [List.countP_map, List.countP_eq_zero]
    intro parcel _ hdelivered
    cases hdelivered
  · rw [List.map_map]
    exact .refl _
  · intro hkey failure hmem
    obtain ⟨parcel, -, rfl⟩ := List.mem_map.mp hmem
    exact if_pos hkey
  · intro hkey failure hmem
    obtain ⟨parcel, -, rfl⟩ := List.mem_map.mp hmem
    exact if_neg (by rw [hkey]; nofun)

/-- In which order the failures are reported does not matter. -/
theorem Summary.GivesUp.of_alike {summary other : Summary} (h : summary.GivesUp key parcels)
    (halike : other.Alike summary) : other.GivesUp key parcels := by
  have hmem {failure : Failure} (hin : failure ∈ other.failures) :
      failure ∈ summary.failures := halike.failures.mem_iff.mp hin
  refine ⟨halike.attempted.trans h.attempted, halike.succeeded.trans h.succeeded,
    (halike.failures.map Failure.key).trans h.once, ?_, ?_⟩
  · intro hkey failure hin
    exact h.cancelled hkey failure (hmem hin)
  · intro hkey failure hin
    exact h.unusable hkey failure (hmem hin)

/-- Giving up is an error, unless there was no parcel. -/
theorem Summary.GivesUp.conclude_eq {summary : Summary} (h : summary.GivesUp key parcels) :
    conclude summary = if parcels = [] then .ok summary else .error (.delivery summary) := by
  have hfailed : summary.failed = parcels.length := by
    rw [Summary.failed, h.attempted, h.succeeded]
    omega
  unfold conclude
  by_cases hnone : parcels = []
  · rw [hnone, List.length_nil] at hfailed
    rw [if_pos hnone, if_neg (by omega)]
  · have hpos := List.length_pos_of_ne_nil hnone
    rw [if_neg hnone, if_pos (by omega)]

/-- **Any order**: parcels that are posted side by side are given up too, in whatever order
    their tasks report. -/
theorem Tasks.Finishes.givesUp {courier : Courier} {network : Http.Network}
    {ending : Parcel → Ending} {final : Tasks} (h : Tasks.Finishes ending parcels final)
    (hsent : ∀ parcel ∈ parcels, ∃ history, (ending parcel).outcome parcel
      = (courier.send network history .already key parcel).outcome) :
    final.summary.GivesUp key parcels := by
  have hreports : reports ending parcels
      = parcels.map fun parcel => (parcel, .failed (causeOfGivingUp key)) := by
    apply List.map_congr_left
    intro parcel hmem
    obtain ⟨history, houtcome⟩ := hsent parcel hmem
    rw [houtcome, send_already]
  have halike := h.spec.2
  rw [hreports] at halike
  exact (settle_givesUp key parcels).of_alike halike

/-! ## Section 2: Beside a dispatch that goes on -/

/-- The same context, with the work cancelled before anything is done. -/
def Context.cancelled (context : Context) : Context :=
  { context with cancellation := .already }

/-- The summary of a cycle that came to the posting, or had nothing to post. -/
def Cycle.summary? (cycle : Cycle) : Option Summary :=
  match cycle.result with
  | .ok summary => some summary
  | .error (.delivery summary) => some summary
  | .error _ => none

theorem summary?_of_conclude {cycle : Cycle} {summary : Summary}
    (h : cycle.result = conclude summary) : cycle.summary? = some summary := by
  unfold Cycle.summary?
  rw [h]
  unfold conclude
  by_cases hfailed : 0 < summary.failed
  · rw [if_pos hfailed]
  · rw [if_neg hfailed]

/-- **Beside**: how a cycle that was cancelled before it started compares with one of the
    same harvest that was not. -/
inductive Beside (context : Context) (harvested : List Invocation) (cycle running : Cycle) :
    Prop
  /-- There is nothing to do for either. -/
  | empty : flatten harvested = [] → cycle.Unsent → running.Unsent →
      cycle.result = .ok .empty → running.result = .ok .empty →
      Beside context harvested cycle running
  /-- Both stop before the posting, with the same error. -/
  | early (error : HarvestError) : flatten harvested ≠ [] → error.IsEarly →
      cycle.Unsent → running.Unsent →
      cycle.result = .error error → running.result = .error error →
      Beside context harvested cycle running
  /-- Both come to the posting, where the one gives up what the other attempts. -/
  | posted (key : String) (summary total : Summary) : flatten harvested ≠ [] →
      context.keyring.obtain.1 = .ok key → cycle.made = [] →
      cycle.parcels = running.parcels → total.attempted = cycle.parcels.length →
      summary.GivesUp key cycle.parcels →
      cycle.result = conclude summary → running.result = conclude total →
      Beside context harvested cycle running

section

variable (dispatcher : Dispatcher) (context : Context) (identity : Identity)
  (harvested : List Invocation)

/-- Posting sums up one outcome for each parcel. -/
theorem attempted_sendAll (courier : Courier) (network : Http.Network) (key : String)
    (history : List Http.Request) (cancellation : Cancellation) (parcels : List Parcel) :
    (settle (courier.sendAll network key history cancellation parcels).outcomes).attempted
      = parcels.length := by
  have hfst := map_fst_sendAll courier network key history cancellation parcels
  rw [settle_eq]
  show List.length _ = _
  rw [← congrArg List.length hfst, List.length_map]

/-- **Comparison**: a dispatch that is cancelled before it starts goes the way of the one
    that is not, up to the posting. -/
theorem beside_dispatch :
    Beside context harvested (dispatcher.dispatch context.cancelled identity harvested)
      (dispatcher.dispatch context identity harvested) := by
  by_cases hempty : flatten harvested = []
  · rw [dispatch_empty dispatcher context identity harvested hempty,
      dispatch_empty dispatcher context.cancelled identity harvested hempty]
    exact .empty hempty ⟨rfl, rfl⟩ ⟨rfl, rfl⟩ rfl rfl
  · rw [dispatch_of_records dispatcher context identity harvested hempty,
      dispatch_of_records dispatcher context.cancelled identity harvested hempty]
    -- what is built, the key and the plan do not depend on whether the work is cancelled
    have hbuild : context.cancelled.build identity harvested
        = context.build identity harvested := rfl
    have hkeys : context.cancelled.keyring = context.keyring := rfl
    rw [hbuild, hkeys]
    cases hbuilt : context.build identity harvested with
    | error error =>
      exact .early (.build error) hempty trivial ⟨rfl, rfl⟩ ⟨rfl, rfl⟩ rfl rfl
    | ok payloads =>
      cases hkey : context.keyring.obtain.1 with
      | error error =>
        exact .early (.credential error) hempty trivial ⟨rfl, rfl⟩ ⟨rfl, rfl⟩ rfl rfl
      | ok key =>
        cases hplan : (dispatcher.plan identity payloads).result with
        | error error =>
          obtain ⟨signal, cause, rfl⟩ := split_of_plan_error hplan
          simp only [hplan]
          exact .early (.split signal cause) hempty trivial ⟨rfl, rfl⟩ ⟨rfl, rfl⟩ rfl rfl
        | ok parcels =>
          simp only [hplan]
          have hround := sendAll_already dispatcher.courier context.network key parcels
            context.history
          have hattempted := attempted_sendAll dispatcher.courier context.network key
            context.history context.cancellation parcels
          refine .posted key _ _ hempty hkey (congrArg Round.made hround) rfl hattempted ?_
            (congrArg (fun round : Round => conclude (settle round.outcomes)) hround) rfl
          exact settle_givesUp key parcels

variable {context harvested} {cycle running : Cycle}

/-- An early error of the one is an early error of the other. -/
theorem Beside.early_iff (h : Beside context harvested cycle running) {error : HarvestError}
    (hearly : error.IsEarly) : cycle.result = .error error ↔ running.result = .error error := by
  cases h with
  | empty _ _ _ hcycle hrunning => rw [hcycle, hrunning]
  | early _ _ _ _ _ hcycle hrunning => rw [hcycle, hrunning]
  | posted key summary total _ _ _ _ _ _ hcycle hrunning =>
    rw [hcycle, hrunning]
    constructor
    · intro hresult
      exact absurd hearly (not_isEarly_of_conclude hresult)
    · intro hresult
      exact absurd hearly (not_isEarly_of_conclude hresult)

/-- A cycle that is cancelled before it starts makes no request, for the parcels of the one
    that is not. -/
theorem Beside.made (h : Beside context harvested cycle running) :
    cycle.made = [] ∧ cycle.parcels = running.parcels := by
  cases h with
  | empty _ hunsent hunsent' _ _ =>
    exact ⟨hunsent.made, hunsent.parcels.trans hunsent'.parcels.symm⟩
  | early _ _ _ hunsent hunsent' _ _ =>
    exact ⟨hunsent.made, hunsent.parcels.trans hunsent'.parcels.symm⟩
  | posted _ _ _ _ _ hmade hparcels _ _ _ _ => exact ⟨hmade, hparcels⟩

/-- It succeeds only if there was nothing to post. -/
theorem Beside.parcels_of_ok (h : Beside context harvested cycle running) {summary : Summary}
    (hok : cycle.result = .ok summary) : cycle.parcels = [] := by
  cases h with
  | empty _ hunsent _ _ _ => exact hunsent.parcels
  | early _ _ _ hunsent _ _ _ => exact hunsent.parcels
  | posted key given total _ _ _ _ _ hgiven hcycle _ =>
    rw [hcycle, hgiven.conclude_eq] at hok
    by_contra hsome
    rw [if_neg hsome] at hok
    cases hok

end

/-- **Cancelled before the start**: a dispatch whose work is already cancelled makes no
    request. It has nothing to do in the same cases as one that goes on, and stops early in
    the same cases, with the same error. Otherwise it attempts as many parcels as the other
    one, of which none succeeds and each fails once: because of the cancelling if the key is
    a header value, and because of the key if it is not. That is so in whatever order the
    parcels are posted and reported. The result is an error unless there is no parcel. -/
theorem cancelled_dispatch_gives_everything_up (dispatcher : Dispatcher) (context : Context)
    (identity : Identity) (harvested : List Invocation) :
    let running := dispatcher.dispatch context identity harvested
    let cycle := dispatcher.dispatch context.cancelled identity harvested
    cycle.made = [] ∧
    cycle.parcels = running.parcels ∧
    (cycle.parcels.map Parcel.key).Nodup ∧
    (flatten harvested = [] → running.result = .ok .empty ∧ cycle.result = .ok .empty) ∧
    (∀ error : HarvestError, error.IsEarly →
      (cycle.result = .error error ↔ running.result = .error error)) ∧
    (flatten harvested ≠ [] → (∀ error, error.IsEarly → running.result ≠ .error error) →
      ∃ key summary total, context.keyring.obtain.1 = .ok key ∧
        running.summary? = some total ∧ summary.attempted = total.attempted ∧
        summary.GivesUp key cycle.parcels ∧
        (cycle.result =
          if cycle.parcels = [] then .ok summary else .error (.delivery summary)) ∧
        (∀ history parcel,
          (dispatcher.courier.send context.network history .already key parcel).made = []) ∧
        ∀ ending final, Tasks.Finishes ending cycle.parcels final →
          (∀ parcel ∈ cycle.parcels, ∃ history, (ending parcel).outcome parcel
            = (dispatcher.courier.send context.network history .already key parcel).outcome) →
          final.summary.GivesUp key cycle.parcels ∧
            conclude final.summary =
              if cycle.parcels = [] then .ok final.summary
              else .error (.delivery final.summary)) ∧
    ∀ summary, cycle.result = .ok summary → cycle.parcels = [] := by
  intro running cycle
  have hbeside : Beside context harvested cycle running :=
    beside_dispatch dispatcher context identity harvested
  obtain ⟨hmade, hparcels⟩ := hbeside.made
  have hcourse : Course dispatcher context.cancelled identity harvested cycle :=
    dispatch_course dispatcher context.cancelled identity harvested
  refine ⟨hmade, hparcels, hcourse.nodup_keys, ?_, ?_, ?_, ?_⟩
  · intro hempty
    cases hbeside with
    | empty _ _ _ hcycle hrunning => exact ⟨hrunning, hcycle⟩
    | early _ hsome _ _ _ _ _ => exact absurd hempty hsome
    | posted _ _ _ hsome _ _ _ _ _ _ _ => exact absurd hempty hsome
  · intro error hearly
    exact hbeside.early_iff hearly
  · intro hsome hlate
    cases hbeside with
    | empty hempty _ _ _ _ => exact absurd hempty hsome
    | early error _ hearly _ _ _ hrunning => exact absurd hrunning (hlate error hearly)
    | posted key summary total _ hkey _ _ hattempted hgiven hcycle hrunning =>
      refine ⟨key, summary, total, hkey, summary?_of_conclude hrunning, ?_, hgiven, ?_, ?_, ?_⟩
      · rw [hgiven.attempted, hattempted]
      · rw [hcycle]
        exact hgiven.conclude_eq
      · intro history parcel
        exact made_send_already dispatcher.courier context.network history key parcel
      · intro ending final hfinal hsent
        have hfinalGiven := hfinal.givesUp hsent
        exact ⟨hfinalGiven, hfinalGiven.conclude_eq⟩
  · intro summary hok
    exact hbeside.parcels_of_ok hok

end Ingest

end TelemetryRelay
