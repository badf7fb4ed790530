import Mathlib.Logic.Relation
import TelemetryRelay.Proofs.Dispatch.Accounting
import TelemetryRelay.Proofs.Dispatch.Stages

/-! # Parcels posted side by side

    Every parcel of a dispatch has a task of its own. Tasks start, and report what
    their posting ended with, in any order. This module has all these orders as
    runs of one step relation, and shows

    - what every step keeps: each parcel waits to start, is under way, or has
      reported, and the summary is that of the parcels that have reported,
    - that every order of reports is one of the runs, and that no run gets stuck,
    - what every run that is finished has posted and counted.
-/

namespace TelemetryRelay

namespace Ingest

open Telemetry (Identity Invocation)

/-! ## Section 1: State and steps -/

/-- The tasks of a dispatch. -/
structure Tasks where
  /-- The parcels whose tasks have not started. -/
  waiting : List Parcel
  /-- The parcels that were handed to the courier and have not been reported. -/
  posted : List Parcel
  /-- All parcels handed to the courier so far, in order. -/
  handed : List Parcel
  /-- The summary of what was reported. -/
  summary : Summary

namespace Tasks

/-- The tasks before any of them has started. -/
def start (parcels : List Parcel) : Tasks := ⟨parcels, [], [], .empty⟩

/-- All tasks have reported. -/
structure Finished (tasks : Tasks) : Prop where
  waiting : tasks.waiting = []
  posted : tasks.posted = []

/-- What one task does next. -/
inductive Step (ending : Parcel → Ending) : Tasks → Tasks → Prop
  /-- It starts, and hands its parcel to the courier. -/
  | hand (before after posted handed : List Parcel) (parcel : Parcel) (summary : Summary) :
      Step ending ⟨before ++ parcel :: after, posted, handed, summary⟩
        ⟨before ++ after, posted ++ [parcel], handed ++ [parcel], summary⟩
  /-- It reports what the posting ended with. -/
  | report (waiting before after handed : List Parcel) (parcel : Parcel)
      (summary : Summary) :
      Step ending ⟨waiting, before ++ parcel :: after, handed, summary⟩
        ⟨waiting, before ++ after, handed,
          summary.add parcel ((ending parcel).outcome parcel)⟩

/-- Any number of steps. -/
def Run (ending : Parcel → Ending) : Tasks → Tasks → Prop :=
  Relation.ReflTransGen (Step ending)

/-! ## Section 2: What every step keeps -/

/-- Where the parcels are when some of them have been reported, in this order. -/
structure Accounted (ending : Parcel → Ending) (parcels : List Parcel) (tasks : Tasks)
    (reported : List Parcel) : Prop where
  all : (tasks.waiting ++ (tasks.posted ++ reported)).Perm parcels
  handed : tasks.handed.Perm (tasks.posted ++ reported)
  settled : tasks.summary = settle (reports ending reported)

variable {ending : Parcel → Ending} {parcels reported : List Parcel} {tasks next : Tasks}

/-- At the start nothing has been reported. -/
theorem accounted_start : Accounted ending parcels (start parcels) [] where
  all := by simp [start]
  handed := .nil
  settled := rfl

/-- Outcomes that are reported one after the other. -/
theorem settle_reports_concat (parcel : Parcel) :
    settle (reports ending (reported ++ [parcel]))
      = (settle (reports ending reported)).add parcel ((ending parcel).outcome parcel) := by
  rw [reports, List.map_append]
  exact settle_concat _ parcel _

/-- **Step**: a parcel that is handed over is under way, and one that is reported is
    counted. -/
theorem Accounted.step (h : Accounted ending parcels tasks reported)
    (hstep : Step ending tasks next) :
    ∃ reported', Accounted ending parcels next reported' := by
  obtain ⟨hall, hhanded, hsettled⟩ := h
  -- how often each parcel is where: a step moves one occurrence of one parcel
  rw [List.perm_iff_count] at hall hhanded
  cases hstep with
  | hand before after posted handed parcel summary =>
    refine ⟨reported, ?_, ?_, hsettled⟩
    · rw [List.perm_iff_count]
      intro p
      have hp := hall p
      simp only [List.count_append, List.count_cons, List.count_nil] at hp ⊢
      omega
    · rw [List.perm_iff_count]
      intro p
      have hp := hhanded p
      simp only [List.count_append, List.count_cons, List.count_nil] at hp ⊢
      omega
  | report waiting before after handed parcel summary =>
    refine ⟨reported ++ [parcel], ?_, ?_, ?_⟩
    · rw [List.perm_iff_count]
      intro p
      have hp := hall p
      simp only [List.count_append, List.count_cons, List.count_nil] at hp ⊢
      omega
    · rw [List.perm_iff_count]
      intro p
      have hp := hhanded p
      simp only [List.count_append, List.count_cons, List.count_nil] at hp ⊢
      omega
    · rw [settle_reports_concat, ← hsettled]

/-- **Run**: whatever the order of steps, every parcel is accounted for. -/
theorem Run.accounted (hrun : Run ending (start parcels) tasks) :
    ∃ reported, Accounted ending parcels tasks reported := by
  induction hrun with
  | refl => exact ⟨[], accounted_start⟩
  | tail _ hstep ih =>
    obtain ⟨reported, hreported⟩ := ih
    exact hreported.step hstep

/-! ## Section 3: Every order is a run -/

variable (ending)

/-- Tasks that wait can start one after the other. -/
theorem run_hand (waiting posted handed : List Parcel) (summary : Summary) :
    Run ending ⟨waiting, posted, handed, summary⟩
      ⟨[], posted ++ waiting, handed ++ waiting, summary⟩ := by
  induction waiting generalizing posted handed with
  | nil =>
    rw [List.append_nil, List.append_nil]
    exact .refl
  | cons parcel rest ih =>
    have hrest := ih (posted ++ [parcel]) (handed ++ [parcel])
    rw [List.append_assoc, List.append_assoc] at hrest
    exact .head (.hand [] rest posted handed parcel summary) hrest

/-- Tasks that are under way can report in any order. -/
theorem run_report (order : List Parcel) :
    ∀ (posted handed : List Parcel) (summary : Summary), order.Perm posted →
      Run ending ⟨[], posted, handed, summary⟩
        ⟨[], [], handed,
          (reports ending order).foldl (fun summary p => summary.add p.1 p.2) summary⟩ := by
  induction order with
  | nil =>
    intro posted handed summary hperm
    obtain rfl := hperm.nil_eq
    exact .refl
  | cons parcel rest ih =>
    intro posted handed summary hperm
    obtain ⟨before, after, rfl⟩ := List.append_of_mem (hperm.mem_iff.mp List.mem_cons_self)
    -- the first to report may stand anywhere among those that are under way
    have hrest : rest.Perm (before ++ after) :=
      (hperm.trans List.perm_middle).cons_inv
    exact .head (.report [] before after handed parcel summary)
      (ih (before ++ after) handed _ hrest)

/-- **Every order**: in whatever order the parcels report, there is a run for it. -/
theorem exists_run {order : List Parcel} (h : order.Perm parcels) :
    ∃ final, Run ending (start parcels) final ∧ final.Finished ∧
      final.summary = settle (reports ending order) := by
  have hhand := run_hand ending parcels [] [] .empty
  have hreport := run_report ending order parcels parcels .empty h
  exact ⟨_, hhand.trans hreport, ⟨rfl, rfl⟩, rfl⟩

/-- **No run is stuck**: from wherever tasks are, all can report. -/
theorem exists_finish (tasks : Tasks) :
    ∃ final, Run ending tasks final ∧ final.Finished := by
  obtain ⟨waiting, posted, handed, summary⟩ := tasks
  have hhand := run_hand ending waiting posted handed summary
  have hreport := run_report ending (posted ++ waiting) (posted ++ waiting)
    (handed ++ waiting) summary (.refl _)
  exact ⟨_, hhand.trans hreport, ⟨rfl, rfl⟩⟩

/-! ## Section 4: What finished runs have in common -/

/-- A run in which all parcels were posted and reported. -/
structure Finishes (ending : Parcel → Ending) (parcels : List Parcel) (final : Tasks) :
    Prop where
  run : Run ending (start parcels) final
  finished : final.Finished

variable {ending} {final : Tasks}

/-- All parcels were handed over once, and the summary is that of all parcels. -/
theorem Finishes.spec (h : Finishes ending parcels final) :
    final.handed.Perm parcels ∧ final.summary.Alike (settle (reports ending parcels)) := by
  obtain ⟨reported, hall, hhanded, hsettled⟩ := h.run.accounted
  rw [h.finished.waiting, h.finished.posted, List.nil_append, List.nil_append] at hall
  rw [h.finished.posted, List.nil_append] at hhanded
  rw [hsettled]
  exact ⟨hhanded.trans hall, settle_reports_perm hall⟩

/-- Each parcel has its own failure, or none, whatever the others end with. -/
theorem Finishes.about (h : Finishes ending parcels final)
    (hkeys : (parcels.map Parcel.key).Nodup) {parcel : Parcel} (hmem : parcel ∈ parcels) :
    final.summary.about parcel = ((ending parcel).failure? parcel).toList := by
  have hfailures := h.spec.2.failures
  rw [settle_reports] at hfailures
  have habout := hfailures.filter fun failure => failure.key = parcel.key
  rw [filter_failuresOf hkeys hmem] at habout
  -- a list of at most one element is the only permutation of itself
  cases hfailure : (ending parcel).failure? parcel with
  | none =>
    rw [hfailure] at habout
    exact habout.eq_nil
  | some failure =>
    rw [hfailure] at habout
    exact List.perm_singleton.mp habout

/-- Every attempt of a finished run is a success or a failure. -/
theorem Finishes.balanced (h : Finishes ending parcels final) :
    final.summary.attempted = final.summary.succeeded + final.summary.failures.length := by
  have halike := h.spec.2
  rw [halike.attempted, halike.succeeded, halike.failures.length_eq]
  exact settle_balanced _

end Tasks

/-! ## Section 5: The tasks of a dispatch -/

/-- Every outcome of several parcels is what posting one of them came to. -/
theorem outcome_of_mem_sendAll {courier : Courier} {network : Http.Network}
    {credential : String} {parcels : List Parcel} :
    ∀ {history : List Http.Request} {cancellation : Cancellation}
      {reported : Parcel × Outcome},
      reported ∈ (courier.sendAll network credential history cancellation parcels).outcomes →
      ∃ history cancellation,
        reported.2
          = (courier.send network history cancellation credential reported.1).outcome := by
  induction parcels with
  | nil =>
    intro history cancellation reported hmem
    cases hmem
  | cons parcel rest ih =>
    intro history cancellation reported hmem
    rcases List.mem_cons.mp hmem with rfl | hmem
    · exact ⟨history, cancellation, rfl⟩
    · exact ih hmem

/-- Outcomes of distinct parcels, each with an ending of its own, are the reports of
    endings. -/
theorem exists_ending_of_outcomes {P : Parcel → Ending → Prop} :
    ∀ outcomes : List (Parcel × Outcome), (outcomes.map Prod.fst).Nodup →
      (∀ reported ∈ outcomes, ∃ ending : Ending,
        reported.2 = ending.outcome reported.1 ∧ P reported.1 ending) →
      ∃ ending : Parcel → Ending, outcomes = reports ending (outcomes.map Prod.fst) ∧
        ∀ parcel ∈ outcomes.map Prod.fst, P parcel (ending parcel)
  | [], _, _ => ⟨fun _ => .cancelled, rfl, by simp⟩
  | (parcel, outcome) :: rest, hnodup, hall => by
    rw [List.map_cons, List.nodup_cons] at hnodup
    obtain ⟨hout, hrest⟩ := hnodup
    obtain ⟨first, houtcome, hfirst⟩ := hall (parcel, outcome) List.mem_cons_self
    replace houtcome : outcome = first.outcome parcel := houtcome
    obtain ⟨ending, hreports, hending⟩ :=
      exists_ending_of_outcomes rest hrest fun p hp => hall p (List.mem_cons_of_mem _ hp)
    -- the others are other parcels, so their endings stay
    have hsame (p : Parcel) (hp : p ∈ rest.map Prod.fst) :
        Function.update ending parcel first p = ending p :=
      Function.update_of_ne (fun heq : p = parcel => hout (heq ▸ hp)) first ending
    refine ⟨Function.update ending parcel first, ?_, ?_⟩
    · have hkept : reports (Function.update ending parcel first) (rest.map Prod.fst)
          = reports ending (rest.map Prod.fst) := by
        apply List.map_congr_left
        intro p hp
        rw [hsame p hp]
      rw [List.map_cons, reports, List.map_cons, Function.update_self, ← houtcome]
      exact congrArg _ (hreports.trans hkept.symm)
    · intro p hp
      rcases List.mem_cons.mp hp with rfl | hp
      · rw [Function.update_self]
        exact hfirst
      · rw [hsame p hp]
        exact hending p hp

/-- The parcels of a dispatch are told apart by kind and number. -/
theorem Course.nodup_keys {dispatcher : Dispatcher} {context : Context}
    {identity : Identity} {harvested : List Invocation} {cycle : Cycle}
    (hcourse : Course dispatcher context identity harvested cycle) :
    (cycle.parcels.map Parcel.key).Nodup := by
  cases hcourse with
  | empty hempty => exact .nil
  | unbuilt error hsome hbuilt => exact .nil
  | keyless payloads error hsome hbuilt hkey => exact .nil
  | unsplit payloads credential error hsome hbuilt hkey hplan => exact .nil
  | delivered payloads credential parcels hsome hbuilt hkey hplan =>
    exact Dispatcher.nodup_keys_plan hplan

/-- What a dispatch comes to unless it stops early is what one of the runs of its
    tasks comes to, in which every parcel ends as its posting ended. -/
theorem Course.exists_run {dispatcher : Dispatcher} {context : Context}
    {identity : Identity} {harvested : List Invocation} {cycle : Cycle}
    (hcourse : Course dispatcher context identity harvested cycle) :
    (∃ error, cycle.result = .error error ∧ error.IsEarly) ∨
      ∃ ending final, Tasks.Finishes ending cycle.parcels final ∧
        cycle.result = conclude final.summary ∧
        ∀ parcel ∈ cycle.parcels, ∃ history cancellation credential,
          (dispatcher.courier.send context.network history cancellation credential
            parcel).outcome = (ending parcel).outcome parcel := by
  cases hcourse with
  | empty hempty =>
    obtain ⟨final, hrun, hfinished, hsummary⟩ :=
      Tasks.exists_run (fun _ => .cancelled) (List.Perm.refl ([] : List Parcel))
    refine .inr ⟨fun _ => .cancelled, final, ⟨hrun, hfinished⟩, ?_, by simp [Context.stop]⟩
    rw [hsummary]
    rfl
  | unbuilt error hsome hbuilt => exact .inl ⟨_, rfl, trivial⟩
  | keyless payloads error hsome hbuilt hkey => exact .inl ⟨_, rfl, trivial⟩
  | unsplit payloads credential error hsome hbuilt hkey hplan =>
    obtain ⟨signal, cause, rfl⟩ := split_of_plan_error hplan
    exact .inl ⟨_, rfl, trivial⟩
  | delivered payloads credential parcels hsome hbuilt hkey hplan =>
    right
    have hfst : (dispatcher.courier.sendAll context.network credential context.history
        context.cancellation parcels).outcomes.map Prod.fst = parcels :=
      map_fst_sendAll dispatcher.courier context.network credential context.history
        context.cancellation parcels
    have hnodup : parcels.Nodup :=
      .of_map Parcel.key (Dispatcher.nodup_keys_plan hplan)
    obtain ⟨ending, hreports, hending⟩ :=
      exists_ending_of_outcomes
        (P := fun parcel ending => ∃ history cancellation credential,
          (dispatcher.courier.send context.network history cancellation credential
            parcel).outcome = ending.outcome parcel)
        _ (hfst ▸ hnodup) fun reported hmem => by
          obtain ⟨history, cancellation, houtcome⟩ := outcome_of_mem_sendAll hmem
          obtain ⟨ending, hending⟩ := exists_ending dispatcher.courier context.network
            history cancellation credential reported.1
          exact ⟨ending, houtcome.trans hending,
            history, cancellation, credential, hending⟩
    rw [hfst] at hreports hending
    -- the dispatch settles the outcomes in the order of the parcels
    obtain ⟨final, hrun, hfinished, hsummary⟩ :=
      Tasks.exists_run ending (List.Perm.refl parcels)
    refine ⟨ending, final, ⟨hrun, hfinished⟩, ?_, hending⟩
    rw [hsummary, ← hreports]
    rfl

/-- **Accounting, isolation and order**: the parcels of a dispatch are told apart by
    kind and number, and what it comes to is what one of the runs of their tasks
    comes to. Whatever the parcels end with and in whatever order they report, a
    run hands over each of them once and counts it once, as a success if it was
    answered with a status below 300 and as a failure of its own otherwise. Other
    orders give the same up to the order of the failures, and another ending of one
    parcel changes what that parcel contributes only. -/
theorem every_order_settles_alike (dispatcher : Dispatcher) (context : Context)
    (identity : Identity) (harvested : List Invocation) :
    let cycle := dispatcher.dispatch context identity harvested
    let parcels := cycle.parcels
    (parcels.map Parcel.key).Nodup ∧
    ((∃ error, cycle.result = .error error ∧ error.IsEarly) ∨
      ∃ ending final, Tasks.Finishes ending parcels final ∧
        cycle.result = conclude final.summary ∧
        ∀ parcel ∈ parcels, ∃ history cancellation credential,
          (dispatcher.courier.send context.network history cancellation credential
            parcel).outcome = (ending parcel).outcome parcel) ∧
    ∀ ending : Parcel → Ending,
      (∀ order, order.Perm parcels → ∃ final, Tasks.Finishes ending parcels final ∧
        final.summary = settle (reports ending order)) ∧
      (∀ tasks, Tasks.Run ending (.start parcels) tasks → ∃ final,
        Tasks.Run ending tasks final ∧ Tasks.Finishes ending parcels final) ∧
      ∀ final, Tasks.Finishes ending parcels final →
        final.handed.Perm parcels ∧
        final.summary.attempted = parcels.length ∧
        final.summary.succeeded = (parcels.countP fun parcel => (ending parcel).isSuccess) ∧
        (∀ parcel ∈ parcels,
          final.summary.about parcel = ((ending parcel).failure? parcel).toList) ∧
        final.summary.failures.Perm (failuresOf ending parcels) ∧
        (final.summary.failures.map Failure.key).Nodup ∧
        final.summary.attempted
          = final.summary.succeeded + final.summary.failures.length ∧
        (conclude final.summary =
          if final.summary.failures = [] then .ok final.summary
          else .error (.delivery final.summary)) ∧
        (∀ other, Tasks.Finishes ending parcels other →
          other.summary.Alike final.summary) ∧
        ∀ parcel ∈ parcels, ∀ changed other,
          Tasks.Finishes (Function.update ending parcel changed) parcels other →
          other.summary.attempted = final.summary.attempted ∧
          other.summary.succeeded + (ending parcel).isSuccess.toNat
            = final.summary.succeeded + changed.isSuccess.toNat ∧
          ∀ p ∈ parcels, p ≠ parcel → other.summary.about p = final.summary.about p := by
  intro cycle parcels
  have hcourse : Course dispatcher context identity harvested cycle :=
    dispatch_course dispatcher context identity harvested
  have hkeys : (parcels.map Parcel.key).Nodup := hcourse.nodup_keys
  refine ⟨hkeys, hcourse.exists_run, fun ending => ⟨?_, ?_, ?_⟩⟩
  · intro order hperm
    obtain ⟨final, hrun, hfinished, hsummary⟩ := Tasks.exists_run ending hperm
    exact ⟨final, ⟨hrun, hfinished⟩, hsummary⟩
  · intro tasks hrun
    obtain ⟨final, hmore, hfinished⟩ := Tasks.exists_finish ending tasks
    exact ⟨final, hmore, hrun.trans hmore, hfinished⟩
  · intro final hfinal
    obtain ⟨hhanded, halike⟩ := hfinal.spec
    refine ⟨hhanded, ?_, ?_, fun parcel hmem => hfinal.about hkeys hmem, ?_, ?_,
      hfinal.balanced, ?_, ?_, ?_⟩
    · rw [halike.attempted, settle_reports]
    · rw [halike.succeeded, settle_reports]
    · have hfailures := halike.failures
      rwa [settle_reports] at hfailures
    · have hfailures := halike.failures
      rw [settle_reports] at hfailures
      exact (hfailures.map Failure.key).nodup_iff.mpr (nodup_keys_failuresOf hkeys)
    · exact conclude_of_balanced hfinal.balanced
    · intro other hother
      exact hother.spec.2.trans halike.symm
    · intro parcel hmem changed other hother
      have hother_alike := hother.spec.2
      refine ⟨?_, ?_, ?_⟩
      · rw [hother_alike.attempted, halike.attempted, settle_reports, settle_reports]
      · rw [hother_alike.succeeded, halike.succeeded, settle_reports, settle_reports]
        exact countP_update hkeys hmem changed
      · intro p hp hne
        rw [hother.about hkeys hp, hfinal.about hkeys hp, Function.update_of_ne hne]

end Ingest

end TelemetryRelay
