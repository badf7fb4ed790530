import Mathlib.Data.List.Perm.Basic
import Mathlib.Data.List.Nodup
import TelemetryRelay.Ingest.Dispatch
import TelemetryRelay.Proofs.Dispatch.Plan

/-! # What a summary counts

    A summary is made of outcomes, one after the other. This module says what it
    holds in terms of what the posting of each parcel ended with:

    - every outcome is one delivery or one failure, so a summary balances,
    - what is counted and which failures there are does not depend on the order,
    - the ending of one parcel decides about one delivery or failure, and about no
      other.
-/

namespace TelemetryRelay

namespace Ingest

/-! ## Section 1: Outcomes -/

/-- The failure an outcome is reported as, if it is one. -/
def failureOf (reported : Parcel × Outcome) : Option Failure :=
  match reported.2 with
  | .delivered _ => none
  | .failed error => some ⟨reported.1.signal, reported.1.chunk, error⟩

/-- Outcomes that are taken into a summary add to each of its parts. -/
theorem foldl_add (outcomes : List (Parcel × Outcome)) :
    ∀ summary : Summary,
      outcomes.foldl (fun summary p => summary.add p.1 p.2) summary =
        ⟨summary.attempted + outcomes.length,
          summary.succeeded + outcomes.countP fun p => p.2.isDelivered,
          summary.failures ++ outcomes.filterMap failureOf⟩ := by
  induction outcomes with
  | nil =>
    intro summary
    simp
  | cons head rest ih =>
    intro summary
    obtain ⟨parcel, outcome⟩ := head
    rw [List.foldl_cons, ih]
    cases outcome with
    | delivered status =>
      have hnone : failureOf (parcel, .delivered status) = none := rfl
      rw [List.filterMap_cons_none hnone]
      simp [Summary.add, Outcome.isDelivered, Nat.add_assoc, Nat.add_comm 1]
    | failed error =>
      have hsome : failureOf (parcel, .failed error)
          = some ⟨parcel.signal, parcel.chunk, error⟩ := rfl
      rw [List.filterMap_cons_some hsome]
      simp [Summary.add, Outcome.isDelivered, Nat.add_assoc, Nat.add_comm 1]

/-- **Contents of a summary**: all outcomes, those that are deliveries, and the
    failures in the order in which they came. -/
theorem settle_eq (outcomes : List (Parcel × Outcome)) :
    settle outcomes =
      ⟨outcomes.length, outcomes.countP fun p => p.2.isDelivered,
        outcomes.filterMap failureOf⟩ := by
  rw [settle, foldl_add]
  simp [Summary.empty]

/-- One more outcome is taken in last. -/
theorem settle_concat (outcomes : List (Parcel × Outcome)) (parcel : Parcel)
    (outcome : Outcome) :
    settle (outcomes ++ [(parcel, outcome)]) = (settle outcomes).add parcel outcome := by
  rw [settle, List.foldl_append]
  rfl

/-- Every attempt is a success or a failure. -/
theorem settle_balanced (outcomes : List (Parcel × Outcome)) :
    (settle outcomes).attempted
      = (settle outcomes).succeeded + (settle outcomes).failures.length := by
  rw [settle_eq]
  show outcomes.length = _ + (outcomes.filterMap failureOf).length
  rw [List.length_filterMap_eq_countP,
    List.length_eq_countP_add_countP fun p : Parcel × Outcome => p.2.isDelivered]
  congr 1
  apply List.countP_congr
  rintro ⟨parcel, outcome⟩ -
  cases outcome <;> simp [failureOf, Outcome.isDelivered]

/-- Where every attempt is a success or a failure, a summary without failures is the
    result, and one with failures is the error. -/
theorem conclude_of_balanced {summary : Summary}
    (h : summary.attempted = summary.succeeded + summary.failures.length) :
    conclude summary =
      if summary.failures = [] then .ok summary else .error (.delivery summary) := by
  unfold conclude Summary.failed
  by_cases hnone : summary.failures = []
  · rw [hnone, List.length_nil] at h
    rw [if_pos hnone, if_neg (by omega)]
  · have hpos := List.length_pos_of_ne_nil hnone
    rw [if_neg hnone, if_pos (by omega)]

/-! ## Section 2: Endings -/

/-- What the posting of a parcel can end with. -/
inductive Ending where
  /-- The ingest answered. -/
  | answered (response : Http.Response)
  /-- There was no answer. -/
  | broken (error : Http.TransportError)
  /-- The work was cancelled before there was an answer. -/
  | cancelled
  /-- The license key is not a header value. -/
  | unusable

namespace Ending

/-- The outcome of a parcel. -/
def outcome (parcel : Parcel) : Ending → Outcome
  | .answered response => outcomeOf response
  | .broken error => .failed (.transport parcel.url error)
  | .cancelled => .failed .cancelled
  | .unusable => .failed .invalidCredential

/-- Whether the ingest answered with a status below 300. -/
def isSuccess : Ending → Bool
  | .answered response => response.status < 300
  | _ => false

/-- Why a parcel was not delivered, if it was not. -/
def error? (parcel : Parcel) : Ending → Option DeliveryError
  | .answered response =>
    if response.status < 300 then none else some (.status response.status response.text)
  | .broken error => some (.transport parcel.url error)
  | .cancelled => some .cancelled
  | .unusable => some .invalidCredential

/-- What a parcel contributes to the failures: nothing, or its own kind and number
    with its own error. -/
def failure? (parcel : Parcel) (ending : Ending) : Option Failure :=
  (ending.error? parcel).map fun error => ⟨parcel.signal, parcel.chunk, error⟩

theorem isDelivered_outcome (parcel : Parcel) (ending : Ending) :
    (ending.outcome parcel).isDelivered = ending.isSuccess := by
  cases ending with
  | answered response =>
    by_cases hstatus : response.status < 300
    · simp [outcome, outcomeOf, isSuccess, Outcome.isDelivered, hstatus]
    · simp [outcome, outcomeOf, isSuccess, Outcome.isDelivered, hstatus]
  | broken error => rfl
  | cancelled => rfl
  | unusable => rfl

theorem failureOf_outcome (parcel : Parcel) (ending : Ending) :
    failureOf (parcel, ending.outcome parcel) = ending.failure? parcel := by
  cases ending with
  | answered response =>
    by_cases hstatus : response.status < 300
    · simp [outcome, outcomeOf, failure?, error?, failureOf, hstatus]
    · simp [outcome, outcomeOf, failure?, error?, failureOf, hstatus]
  | broken error => rfl
  | cancelled => rfl
  | unusable => rfl

/-- A failure has the kind and number of the parcel it is about. -/
theorem key_of_failure? {parcel : Parcel} {ending : Ending} {failure : Failure}
    (h : ending.failure? parcel = some failure) :
    (failure.signal, failure.chunk) = parcel.key := by
  obtain ⟨error, -, rfl⟩ := Option.map_eq_some_iff.mp h
  rfl

end Ending

/-- Whatever becomes of a parcel is one of the endings. -/
theorem exists_ending (courier : Courier) (network : Http.Network)
    (history : List Http.Request) (cancellation : Cancellation) (credential : String)
    (parcel : Parcel) :
    ∃ ending : Ending,
      (courier.send network history cancellation credential parcel).outcome
        = ending.outcome parcel := by
  unfold Courier.send
  split
  · exact ⟨.unusable, rfl⟩
  split
  · exact ⟨.cancelled, rfl⟩
  simp only
  split
  · next response _ => exact ⟨.answered response, rfl⟩
  · next error _ => exact ⟨.broken error, rfl⟩
  · exact ⟨.cancelled, rfl⟩
  · next url _ =>
    -- an answer that never comes is waited for until the first of two times
    cases cancellation with
    | never => exact ⟨.broken (.broken url), rfl⟩
    | already => exact ⟨.broken (.broken url), rfl⟩
    | after millis =>
      show ∃ ending : Ending, ite _ _ _ = _
      by_cases hearly : millis < courier.timeout
      · exact ⟨.cancelled, if_pos hearly⟩
      · exact ⟨.broken (.broken url), if_neg hearly⟩

/-! ## Section 3: Summaries of endings -/

/-- The outcomes of parcels, in the order in which they are reported. -/
def reports (ending : Parcel → Ending) (parcels : List Parcel) : List (Parcel × Outcome) :=
  parcels.map fun parcel => (parcel, (ending parcel).outcome parcel)

/-- The failures of parcels, in the order in which they are reported. -/
def failuresOf (ending : Parcel → Ending) (parcels : List Parcel) : List Failure :=
  parcels.filterMap fun parcel => (ending parcel).failure? parcel

/-- What tells a failure from the others: the kind and number of its parcel. -/
def Failure.key (failure : Failure) : Signal × Nat := (failure.signal, failure.chunk)

/-- The failures in a summary that are about a parcel. -/
def Summary.about (summary : Summary) (parcel : Parcel) : List Failure :=
  summary.failures.filter fun failure => failure.key = parcel.key

/-- Summaries that differ in the order of their failures only. -/
structure Summary.Alike (summary other : Summary) : Prop where
  attempted : summary.attempted = other.attempted
  succeeded : summary.succeeded = other.succeeded
  failures : summary.failures.Perm other.failures

theorem Summary.Alike.symm {summary other : Summary} (h : summary.Alike other) :
    other.Alike summary :=
  ⟨h.attempted.symm, h.succeeded.symm, h.failures.symm⟩

theorem Summary.Alike.trans {summary other third : Summary} (h : summary.Alike other)
    (h' : other.Alike third) : summary.Alike third :=
  ⟨h.attempted.trans h'.attempted, h.succeeded.trans h'.succeeded,
    h.failures.trans h'.failures⟩

variable {ending : Parcel → Ending} {parcels : List Parcel}

/-- The summary of endings: all parcels, those that were successes, and the
    failures of the others. -/
theorem settle_reports :
    settle (reports ending parcels) =
      ⟨parcels.length, parcels.countP fun parcel => (ending parcel).isSuccess,
        failuresOf ending parcels⟩ := by
  rw [settle_eq, reports, List.length_map, List.countP_map, List.filterMap_map]
  simp only [Function.comp_def, Ending.isDelivered_outcome, Ending.failureOf_outcome]
  rfl

/-- **Order of reports**: in which order parcels are reported does not matter. -/
theorem settle_reports_perm {order : List Parcel} (h : order.Perm parcels) :
    (settle (reports ending order)).Alike (settle (reports ending parcels)) := by
  rw [settle_reports, settle_reports]
  exact ⟨h.length_eq, h.countP_eq _, h.filterMap _⟩

/-- The failures are about those parcels that were no successes, each once. -/
theorem map_key_failuresOf :
    (failuresOf ending parcels).map Failure.key
      = (parcels.filter fun parcel => !(ending parcel).isSuccess).map Parcel.key := by
  rw [failuresOf, List.map_filterMap, ← List.filterMap_eq_map, List.filterMap_filter]
  congr 1
  funext parcel
  show Option.map Failure.key ((ending parcel).failure? parcel) = _
  cases ending parcel with
  | answered response =>
    by_cases hstatus : response.status < 300
    · simp [Ending.failure?, Ending.error?, Ending.isSuccess, hstatus]
    · simp [Ending.failure?, Ending.error?, Ending.isSuccess, hstatus]
      rfl
  | broken error => rfl
  | cancelled => rfl
  | unusable => rfl

/-- Failures are told apart as the parcels are. -/
theorem nodup_keys_failuresOf (h : (parcels.map Parcel.key).Nodup) :
    ((failuresOf ending parcels).map Failure.key).Nodup := by
  rw [map_key_failuresOf]
  exact h.sublist (List.filter_sublist.map Parcel.key)

/-- No failure is about a parcel that is not there. -/
theorem filter_failuresOf_of_not_mem {key : Signal × Nat}
    (h : key ∉ parcels.map Parcel.key) :
    ((failuresOf ending parcels).filter fun failure => failure.key = key) = [] := by
  rw [List.filter_eq_nil_iff]
  intro failure hmem hkey
  obtain ⟨parcel, hparcel, hfailure⟩ := List.mem_filterMap.mp hmem
  apply h
  have hsame : failure.key = parcel.key := Ending.key_of_failure? hfailure
  rw [← of_decide_eq_true hkey, hsame]
  exact List.mem_map_of_mem hparcel

/-- **Isolation**: the failures about a parcel are decided by its own ending. -/
theorem filter_failuresOf (h : (parcels.map Parcel.key).Nodup) {parcel : Parcel}
    (hmem : parcel ∈ parcels) :
    ((failuresOf ending parcels).filter fun failure => failure.key = parcel.key)
      = ((ending parcel).failure? parcel).toList := by
  -- the parcel stands between others, of which none has its key
  obtain ⟨before, after, rfl⟩ := List.append_of_mem hmem
  rw [List.map_append, List.map_cons, List.nodup_append, List.nodup_cons] at h
  obtain ⟨-, ⟨hafter, -⟩, hdisjoint⟩ := h
  have hbefore : parcel.key ∉ before.map Parcel.key := by
    intro hin
    exact hdisjoint parcel.key hin parcel.key List.mem_cons_self rfl
  have hparts : failuresOf ending (before ++ parcel :: after)
      = failuresOf ending before
        ++ (((ending parcel).failure? parcel).toList ++ failuresOf ending after) := by
    rw [failuresOf, List.filterMap_append, List.filterMap_cons]
    cases (ending parcel).failure? parcel <;> rfl
  rw [hparts, List.filter_append, List.filter_append, filter_failuresOf_of_not_mem hbefore,
    filter_failuresOf_of_not_mem hafter, List.nil_append, List.append_nil,
    List.filter_eq_self]
  intro failure hfailure
  exact decide_eq_true (Ending.key_of_failure? (Option.mem_toList.mp hfailure))

/-- One ending counts as one success at most, and as no other. -/
theorem countP_update (h : (parcels.map Parcel.key).Nodup) {parcel : Parcel}
    (hmem : parcel ∈ parcels) (other : Ending) :
    (parcels.countP fun p => (Function.update ending parcel other p).isSuccess)
        + (ending parcel).isSuccess.toNat
      = (parcels.countP fun p => (ending p).isSuccess) + other.isSuccess.toNat := by
  have hnodup : parcels.Nodup := .of_map Parcel.key h
  obtain ⟨before, after, rfl⟩ := List.append_of_mem hmem
  rw [List.nodup_append, List.nodup_cons] at hnodup
  obtain ⟨-, ⟨hafter, -⟩, hdisjoint⟩ := hnodup
  -- on the parcels before and after it nothing changes
  have hsame (part : List Parcel) (hout : parcel ∉ part) :
      (part.countP fun p => (Function.update ending parcel other p).isSuccess)
        = part.countP fun p => (ending p).isSuccess := by
    apply List.countP_congr
    intro p hp
    have hne : p ≠ parcel := fun heq => hout (heq ▸ hp)
    rw [Function.update_of_ne hne]
  have hbefore : parcel ∉ before := fun hin => hdisjoint parcel hin parcel List.mem_cons_self rfl
  rw [List.countP_append, List.countP_append, List.countP_cons, List.countP_cons,
    hsame before hbefore, hsame after hafter, Function.update_self]
  cases (ending parcel).isSuccess <;> cases other.isSuccess <;> simp <;> omega

end Ingest

end TelemetryRelay
