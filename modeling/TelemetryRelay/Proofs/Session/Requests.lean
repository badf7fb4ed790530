import TelemetryRelay.Proofs.Dispatch.Keys
import TelemetryRelay.Proofs.Session.Accounting

/-! # What a life asks of the network

    A life makes two kinds of requests: it polls the host for events, and it posts bodies
    to the ingest. This module shows that it makes no others, and that everything it posts
    carries one and the same key:

    - whatever is posted of a harvest carries the key that the keyring gives,
    - a keyring that has given a key gives it again, and stays as it is,
    - hence every request of a run is a poll, or is posted with the key it started with.
-/

namespace TelemetryRelay

/-! ## Section 1: Requests of a harvest -/

namespace Ingest

open Telemetry (Identity Invocation Reading)

/-- What the dispatch of a harvest posts carries the key that the keyring holds, which stays
    as it is. -/
theorem posts_of_harvest (harvester : Harvester) {state : HarvestState} (reading : Reading)
    (network : Http.Network) (history : List Http.Request) (cancellation : Cancellation)
    (ids : Nat → String) (identity : Identity) (force : Bool) {key : String}
    (hkey : state.keyring.Holds key) :
    let run := harvester.dispatch state reading network history cancellation ids identity force
    run.state.keyring = state.keyring ∧
      ∀ request ∈ run.cycle.made, harvester.dispatcher.courier.Posts key request := by
  intro run
  have hdispatch := posts_of_dispatch harvester.dispatcher
    ⟨network, history, cancellation, state.keyring, ids, state.drawn⟩ identity
    (state.batch.harvest harvester.thresholds reading force).taken hkey
  simp only [run, Harvester.dispatch]
  split
  · exact ⟨rfl, nofun⟩
  · exact hdispatch

end Ingest

/-! ## Section 2: What asks for nothing -/

namespace Session

open Host (Event)
open Ingest (Cancellation)
open Telemetry (Reading)

/-- Requests that are made are the requests of these deeds. -/
theorem filterMap_request?_made (requests : List Http.Request) :
    (requests.map Deed.made).filterMap Deed.request? = requests := by
  simp [List.filterMap_map, Function.comp_def, Deed.request?]

/-- The requests of a poll are the requests of its deeds. -/
theorem filterMap_request?_ofPoll (requests : List Http.Request) :
    (Deed.ofPoll requests).filterMap Deed.request? = requests := by
  cases requests with
  | nil => rfl
  | cons request rest => simp [Deed.ofPoll, List.filterMap_map, Function.comp_def, Deed.request?]

namespace State

@[simp] theorem history_perform (state : State) (deeds : List Deed) :
    (state.perform deeds).history = state.history ++ deeds.filterMap Deed.request? :=
  List.filterMap_append

/-- **Idle**: a state that was reached without a request, and with the same keyring. -/
structure Idle (state next : State) : Prop where
  history : next.history = state.history
  keyring : next.harvest.keyring = state.harvest.keyring

variable {state next last : State}

theorem Idle.trans (h : state.Idle next) (h' : next.Idle last) : state.Idle last :=
  ⟨h'.history.trans h.history, h'.keyring.trans h.keyring⟩

theorem idle_tell (state : State) (notices : List Log.Notice) : state.Idle (state.tell notices) :=
  ⟨state.history_tell notices, rfl⟩

/-- Deeds that are no requests are idle. -/
theorem idle_perform (state : State) {deeds : List Deed}
    (h : deeds.filterMap Deed.request? = []) : state.Idle (state.perform deeds) := by
  refine ⟨?_, rfl⟩
  rw [history_perform, h, List.append_nil]

end State

namespace Lifecycle

variable {life : Lifecycle} {state : State} {key : String}

theorem idle_collect (life : Lifecycle) (reading : Reading) (state : State) :
    state.Idle (life.collect reading state) := by
  unfold Lifecycle.collect
  cases state.listener.take? with
  | none => exact ⟨rfl, rfl⟩
  | some taken =>
    refine State.Idle.trans ⟨?_, ?_⟩ (State.idle_tell _ _)
    · exact (State.history_perform _ _).trans (List.append_nil _)
    · rfl

/-- Whatever happens around a life asks for nothing. -/
theorem idle_undergo (life : Lifecycle) (reading : Reading) (state : State)
    (happening : Happening) : state.Idle (life.undergo reading state happening) := by
  cases happening with
  | pushed push =>
    refine State.Idle.trans ⟨?_, ?_⟩ (State.idle_tell _ _)
    · exact (State.history_perform _ _).trans (List.append_nil _)
    · rfl
  | collected => exact life.idle_collect reading state
  | signalled termination => exact ⟨State.history_tell _ _, rfl⟩

theorem idle_undergoAll (life : Lifecycle) (reading : Reading) (happenings : List Happening) :
    ∀ state : State, state.Idle (life.undergoAll reading state happenings) := by
  induction happenings with
  | nil => exact fun _ => ⟨rfl, rfl⟩
  | cons happening rest ih =>
    exact fun state => (life.idle_undergo reading state happening).trans (ih _)

theorem idle_drain (life : Lifecycle) (reading : Reading) (state : State) :
    state.Idle (life.drain reading state) := by
  have hcollected : (state.listener.pending.map Deed.collected).filterMap Deed.request? = [] := by
    simp [Deed.request?]
  unfold Lifecycle.drain
  refine State.Idle.trans (State.Idle.trans ⟨?_, ?_⟩ (State.idle_tell _ _))
    (State.idle_perform _ rfl)
  · rw [State.history_perform, hcollected, List.append_nil]
    rfl
  · rfl

theorem idle_register (reading : Reading) (requestId arn : String) (state : State) :
    state.Idle (register reading requestId arn state) := by
  refine ⟨?_, rfl⟩
  exact (State.history_perform _ _).trans (List.append_nil _)

/-! ## Section 3: What a life asks for -/

/-- **Asks**: a request that polls for the next event, or posts a body with a key. It may
    have been sent on, or open a tunnel for that. -/
def Asks (life : Lifecycle) (key : String) (request : Http.Request) : Prop :=
  life.link.client.Opens request ∨
    life.link.client.Stems (life.link.pollDraft life.identifier) request ∨
    life.harvester.dispatcher.courier.Posts key request

/-- **Keeps**: a state whose keyring holds a key, and all of whose requests since the first
    ones were those of a life with this key. -/
structure Keeps (life : Lifecycle) (key : String) (first : List Http.Request) (state : State) :
    Prop where
  keyring : state.harvest.keyring.Holds key
  asks : ∃ since, state.history = first ++ since ∧ ∀ request ∈ since, life.Asks key request

variable {first : List Http.Request} {next : State}

/-- More requests of the life change nothing, if the keyring stays as it is. -/
theorem Keeps.add (h : life.Keeps key first state) {more : List Http.Request}
    (hkeyring : next.harvest.keyring = state.harvest.keyring)
    (hhistory : next.history = state.history ++ more)
    (hmore : ∀ request ∈ more, life.Asks key request) : life.Keeps key first next := by
  obtain ⟨since, hsince, hasks⟩ := h.asks
  refine ⟨hkeyring ▸ h.keyring, since ++ more, ?_, ?_⟩
  · rw [hhistory, hsince, List.append_assoc]
  · intro request hmem
    rcases List.mem_append.mp hmem with hmem | hmem
    · exact hasks request hmem
    · exact hmore request hmem

theorem Keeps.idle (h : life.Keeps key first state) (hidle : state.Idle next) :
    life.Keeps key first next :=
  h.add hidle.keyring (hidle.history.trans (List.append_nil _).symm) nofun

/-- A poll asks for the next event, and for nothing else. -/
theorem asks_poll (life : Lifecycle) (key : String) (state : State) :
    ∀ request ∈ (life.poll state).made, life.Asks key request := by
  intro request hmem
  rcases Http.opens_or_stems hmem with hopens | hstems
  · exact .inl hopens
  · exact .inr (.inl hstems)

/-- Waiting for the answer to a poll asks for nothing but this. -/
theorem Keeps.awaited (h : life.Keeps key first state) (round : Round) :
    life.Keeps key first (life.awaited round state) := by
  refine Keeps.idle ?_ (life.idle_undergoAll round.reading round.happenings _)
  refine h.add rfl ?_ (life.asks_poll key state)
  rw [State.history_perform, State.history_tell, filterMap_request?_ofPoll]

/-- **Dispatch**: what is posted carries the key. -/
theorem Keeps.dispatch (h : life.Keeps key first state) (reading : Reading)
    (cancellation : Cancellation) (force : Bool) :
    life.Keeps key first (life.dispatch reading cancellation force state) := by
  have hposts := Ingest.posts_of_harvest life.harvester reading life.network state.history
    cancellation life.ids ⟨life.functionName, state.arn⟩ force h.keyring
  unfold Lifecycle.dispatch
  simp only at hposts ⊢
  generalize life.harvester.dispatch state.harvest reading life.network state.history
    cancellation life.ids ⟨life.functionName, state.arn⟩ force = run at hposts ⊢
  obtain ⟨hkeyring, hmade⟩ := hposts
  refine Keeps.idle (h.add hkeyring ?_ fun request hmem => .inr (.inr (hmade request hmem)))
    (State.idle_tell _ _)
  rw [State.history_perform, List.filterMap_cons_none rfl, filterMap_request?_made]
  rfl

theorem Keeps.invoke (h : life.Keeps key first state) (round : Round) (requestId arn : String) :
    life.Keeps key first (life.invoke round requestId arn state) :=
  ((h.idle (idle_register round.reading requestId arn state)).idle
    (life.idle_undergoAll round.reading round.meanwhile _)).dispatch _ _ _

theorem Keeps.shutDown (h : life.Keeps key first state) (round : Round) (reason : String)
    (deadline : Int) : life.Keeps key first (life.shutDown round reason deadline state) := by
  have hwarned : life.Keeps key first (life.warned round reason state) :=
    (h.idle (State.idle_tell _ _)).idle (life.idle_undergoAll _ _ _)
  rw [shutDown_eq]
  refine Keeps.idle ?_ (State.idle_tell _ _)
  split
  · exact (hwarned.idle (State.idle_tell _ _)).dispatch _ _ _
  · exact (hwarned.idle (life.idle_drain _ _)).dispatch _ _ _

theorem Keeps.leave (h : life.Keeps key first state) (reading : Reading) :
    life.Keeps key first (life.leave reading state).1 :=
  (h.idle (State.idle_tell _ _)).idle (life.idle_drain _ _)

theorem Keeps.handle (h : life.Keeps key first state) (round : Round) (event : Event) :
    life.Keeps key first (life.handle round state event).1 := by
  have htold := h.idle (state.idle_tell [.received event.describe])
  cases event with
  | invoke deadline requestId arn => exact htold.invoke round requestId arn
  | shutdown reason deadline => exact htold.shutDown round reason deadline

/-- **Step**: a round asks for nothing but the next event and what is posted with the key. -/
theorem Keeps.turn (h : life.Keeps key first state) (round : Round) :
    life.Keeps key first (life.turn state round).1 := by
  have hawaited := h.awaited round
  have hturn := turn_turn life round state
  generalize life.turn state round = result at hturn
  cases hturn with
  | skips hcancelled => exact (h.idle (State.idle_tell _ _)).leave round.reading
  | breaks hbreaks =>
    have hcancelled : life.Keeps key first { life.awaited round state with cancelled := true } :=
      hawaited.idle ⟨rfl, rfl⟩
    exact hcancelled.leave round.reading
  | waits url hsilent => exact hawaited
  | fails error hcancelled herror => exact hawaited
  | hears event hcancelled hevent => exact hawaited.handle round event

/-- **Run**: nor does a run of rounds. -/
theorem Keeps.run (h : life.Keeps key first state) (rounds : List Round) :
    life.Keeps key first (life.run state rounds).1 := by
  refine life.run_induct (life.Keeps key first) (fun ended _ => life.Keeps key first ended)
    (fun _ hkeeps => hkeeps) ?_ rounds state h
  intro state round hkeeps
  have hturn := hkeeps.turn round
  generalize life.turn state round = result at hturn ⊢
  obtain ⟨next, ending⟩ := result
  cases ending with
  | none => exact hturn
  | some ending => exact hturn

end Lifecycle

end Session

end TelemetryRelay
