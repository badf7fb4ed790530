import TelemetryRelay.Proofs.Dispatch.Stages
import TelemetryRelay.Proofs.Session.Pipeline

/-! # A life that collects nothing

    Where collecting is switched off, pushes are still received and taken out of the queue,
    and invocations are still registered and harvested. This module shows that no telemetry
    gets any further:

    - a batch without telemetry stays one, and what is harvested of it is dispatched
      without a key and without a request,
    - a run is made of single acts, and every act keeps the batch without telemetry,
      whatever is pushed and in whatever order the acts come,
    - what is left of a run when everything about pushes is taken out of it is the run of a
      life that collects and to which nothing is pushed.
-/

namespace TelemetryRelay

/-! ## Section 1: Batches without telemetry -/

namespace Telemetry.Batch

/-- **Bare**: a batch that holds no telemetry. -/
structure Bare (batch : Batch) : Prop where
  octets : batch.octets = 0
  chunks : ∀ invocation ∈ batch.invocations, invocation.chunks = []

variable {batch : Batch}

theorem bare_fresh (ticks : Nat) : (fresh ticks).Bare := ⟨rfl, nofun⟩

/-- Registering an invocation brings none. -/
theorem Bare.addInvocation (h : batch.Bare) (requestId : String) (start : Timestamp.Instant) :
    (batch.addInvocation requestId start).Bare := by
  unfold Batch.addInvocation slot
  cases batch.place? requestId with
  | some place => exact ⟨h.octets, h.chunks⟩
  | none =>
    refine ⟨h.octets, fun invocation hmem => ?_⟩
    rcases List.mem_append.mp hmem with hmem | hmem
    · exact h.chunks invocation hmem
    · rw [List.mem_singleton.mp hmem]

/-- A harvest takes none. -/
theorem Bare.harvest (h : batch.Bare) (thresholds : Thresholds) (reading : Reading)
    (force : Bool) :
    (batch.harvest thresholds reading force).batch.Bare ∧
      ∀ invocation ∈ (batch.harvest thresholds reading force).taken, invocation.chunks = [] := by
  unfold Batch.harvest
  split
  · exact ⟨⟨rfl, nofun⟩, h.chunks⟩
  · exact ⟨h, nofun⟩

end Telemetry.Batch

namespace Ingest

open Telemetry (Batch Identity Invocation Reading)

/-- Invocations without telemetry have no chunks to decode. -/
theorem filedChunks_bare {harvested : List Invocation}
    (h : ∀ invocation ∈ harvested, invocation.chunks = []) : filedChunks harvested = [] := by
  rw [filedChunks, List.flatMap_eq_nil_iff]
  intro invocation hmem
  rw [h invocation hmem]
  rfl

/-- The notices about a harvest that is dispatched without telemetry. -/
def announced (harvest : Batch.Outcome) (force : Bool) : List Log.Notice :=
  harvest.notices ++
    if harvest.taken.isEmpty then [] else [.dispatching harvest.taken.length force]

/-- What a dispatch comes to for which there is no telemetry. -/
def HarvestState.idleCycle (state : HarvestState) (notices : List Log.Notice) : Cycle :=
  ⟨[], [], state.keyring, state.drawn, false, notices, .ok .empty⟩

namespace Harvester

variable (harvester : Harvester)

/-- **Dispatch**: what is harvested of a batch without telemetry is dispatched without a key
    and without a request. -/
theorem dispatch_bare {state : HarvestState} (h : state.batch.Bare) (reading : Reading)
    (network : Http.Network) (history : List Http.Request) (cancellation : Cancellation)
    (ids : Nat → String) (identity : Identity) (force : Bool) :
    harvester.dispatch state reading network history cancellation ids identity force
      = ⟨{ state with batch := (state.batch.harvest harvester.thresholds reading force).batch },
          (state.batch.harvest harvester.thresholds reading force).taken,
          state.idleCycle
            (announced (state.batch.harvest harvester.thresholds reading force) force)⟩ := by
  have htaken := (h.harvest harvester.thresholds reading force).2
  simp only [Harvester.dispatch]
  generalize state.batch.harvest harvester.thresholds reading force = harvest at htaken ⊢
  -- without chunks there are no records, so the dispatch ends before it builds anything
  have hfiled : filedChunks harvest.taken = [] := filedChunks_bare htaken
  have hrecords : flatten harvest.taken = [] := by
    rw [flatten, hfiled]
    rfl
  have hmalformed : malformedNotices harvest.taken = [] := by
    rw [malformedNotices, hfiled]
    rfl
  cases hempty : harvest.taken.isEmpty with
  | true => simp [HarvestState.idleCycle, announced, Context.stop, hempty]
  | false =>
    rw [dispatch_empty _ _ _ _ hrecords, hmalformed]
    simp [HarvestState.idleCycle, announced, Context.stop, hempty]

variable {harvester}

/-- Where collecting is switched off, chunks leave the batch as it was. -/
theorem collectAll_off (h : harvester.collects = false) (reading : Reading) (batch : Batch) :
    ∀ chunks : List Bytes, harvester.collectAll reading batch chunks
      = (batch, chunks.map fun chunk => .chunkDropped chunk.length)
  | [] => rfl
  | chunk :: rest => by
    have hchunk : harvester.collect batch reading chunk
        = (batch, [.chunkDropped chunk.length]) := by
      simp [Harvester.collect, h]
    simp only [Harvester.collectAll, hchunk, collectAll_off h reading batch rest]
    rfl

end Harvester

end Ingest

namespace Session

open Host (Event)
open Ingest (Cancellation HarvestState)
open Telemetry (Invocation Reading)

/-! ## Section 2: Single acts -/

/-- Whether a life collects telemetry is all that this changes of it. -/
def Lifecycle.collecting (life : Lifecycle) (collects : Bool) : Lifecycle :=
  { life with harvester := { life.harvester with collects := collects } }

/-- **Act**: a single act of a life. -/
inductive Lifecycle.Act (life : Lifecycle) (state : State) : State → Prop
  /-- It reports something. -/
  | tells (notices : List Log.Notice) : Act life state (state.tell notices)
  /-- It polls. -/
  | polls (requests : List Http.Request) :
      Act life state (state.perform (Deed.ofPoll requests))
  /-- Something happens around it: a push arrives, a body is taken out of the queue, or the
      process is asked to end. -/
  | undergoes (reading : Reading) (happening : Happening) :
      Act life state (life.undergo reading state happening)
  /-- It is cancelled. -/
  | breaks : Act life state { state with cancelled := true }
  /-- It registers an invocation. -/
  | registers (reading : Reading) (requestId arn : String) :
      Act life state (Lifecycle.register reading requestId arn state)
  /-- It harvests, and dispatches what was taken. -/
  | dispatches (reading : Reading) (cancellation : Cancellation) (force : Bool) :
      Act life state (life.dispatch reading cancellation force state)
  /-- It empties the queue. -/
  | drains (reading : Reading) : Act life state (life.drain reading state)

/-- Any number of acts, one after the other. -/
def Lifecycle.Acts (life : Lifecycle) : State → State → Prop := Relation.ReflTransGen life.Act

namespace Lifecycle

variable {life : Lifecycle} {state next : State}

theorem Acts.undergoAll (life : Lifecycle) (reading : Reading) (happenings : List Happening) :
    ∀ state, life.Acts state (life.undergoAll reading state happenings) := by
  induction happenings with
  | nil => exact fun _ => .refl
  | cons happening rest ih => exact fun state => .head (.undergoes reading happening) (ih _)

theorem Acts.leave (life : Lifecycle) (reading : Reading) (state : State) :
    life.Acts state (life.leave reading state).1 :=
  .tail (.single (.tells [.cancelled])) (.drains reading)

theorem Acts.awaited (life : Lifecycle) (round : Round) (state : State) :
    life.Acts state (life.awaited round state) :=
  .head (.tells [.waiting]) (.head (.polls (life.poll state).made)
    (Acts.undergoAll life round.reading round.happenings _))

theorem Acts.waited (life : Lifecycle) (round : Round) (requestId arn : String)
    (state : State) :
    life.Acts state (life.undergoAll round.reading
      (Lifecycle.register round.reading requestId arn state) round.meanwhile) :=
  .head (.registers round.reading requestId arn)
    (Acts.undergoAll life round.reading round.meanwhile _)

theorem Acts.warned (life : Lifecycle) (round : Round) (reason : String) (state : State) :
    life.Acts state (life.warned round reason state) :=
  .head (.tells [.shuttingDown reason])
    (Acts.undergoAll life round.reading round.meanwhile _)

theorem Acts.shutDown (life : Lifecycle) (round : Round) (reason : String) (deadline : Int)
    (state : State) : life.Acts state (life.shutDown round reason deadline state) := by
  have hwarned := Acts.warned life round reason state
  rw [shutDown_eq]
  refine .tail ?_ (.tells [.shutDown])
  split
  · exact (hwarned.tail (.tells [.drainTimedOut])).tail (.dispatches _ _ _)
  · exact (hwarned.tail (.drains _)).tail (.dispatches _ _ _)

theorem Acts.handle (life : Lifecycle) (round : Round) (state : State) (event : Event) :
    life.Acts state (life.handle round state event).1 := by
  refine .head (.tells [.received event.describe]) ?_
  cases event with
  | invoke deadline requestId arn =>
    exact (Acts.waited life round requestId arn _).tail (.dispatches _ _ _)
  | shutdown reason deadline => exact Acts.shutDown life round reason deadline _

/-- **Step**: a round is made of acts. -/
theorem Acts.turn (life : Lifecycle) (round : Round) (state : State) :
    life.Acts state (life.turn state round).1 := by
  have hawaited := Acts.awaited life round state
  have hturn := turn_turn life round state
  generalize life.turn state round = result at hturn
  cases hturn with
  | skips hcancelled => exact .head (.tells [.waiting]) (Acts.leave life round.reading _)
  | breaks hbreaks => exact (hawaited.tail .breaks).trans (Acts.leave life round.reading _)
  | waits url hsilent => exact hawaited
  | fails error hcancelled herror => exact hawaited
  | hears event hcancelled hevent => exact hawaited.trans (Acts.handle life round _ event)

/-- **Run**: so is a run of rounds. -/
theorem Acts.run (life : Lifecycle) (rounds : List Round) (state : State) :
    life.Acts state (life.run state rounds).1 := by
  -- the same holds of a run that goes on and of one that has ended
  refine life.run_induct (fun next => life.Acts state next) (fun ended _ => life.Acts state ended)
    (fun _ hacts => hacts) ?_ rounds state .refl
  intro current round hacts
  have hturn := hacts.trans (Acts.turn life round current)
  generalize life.turn current round = result at hturn ⊢
  obtain ⟨next, ending⟩ := result
  cases ending with
  | none => exact hturn
  | some ending => exact hturn

end Lifecycle

/-! ## Section 3: What acts keep -/

/-- What a deed is that neither posts anything nor takes telemetry. -/
def Deed.Inert : Deed → Prop
  | .made _ => False
  | .harvested _ _ taken => ∀ invocation ∈ taken, invocation.chunks = []
  | _ => True

/-- **Inert**: a state that was reached from some deeds without a request to the ingest,
    without telemetry and without asking for a key. -/
structure State.Inert (first : HarvestState) (base : List Deed) (state : State) : Prop where
  bare : state.harvest.batch.Bare
  keyring : state.harvest.keyring = first.keyring
  drawn : state.harvest.drawn = first.drawn
  deeds : ∃ since, state.deeds = base ++ since ∧ ∀ deed ∈ since, deed.Inert

section

variable {life : Lifecycle} {first : HarvestState} {base : List Deed} {state next : State}

theorem State.inert_start (keyring : Credential.Keyring) (ticks : Nat) (base : List Deed) :
    (State.start (.start keyring ticks) base).Inert (.start keyring ticks) base :=
  ⟨Telemetry.Batch.bare_fresh ticks, rfl, rfl, [], (List.append_nil base).symm, nofun⟩

/-- Neither listener nor signals matter. -/
theorem State.Inert.congr (h : state.Inert first base) (hharvest : next.harvest = state.harvest)
    (hdeeds : next.deeds = state.deeds) : next.Inert first base := by
  refine ⟨?_, ?_, ?_, ?_⟩
  · rw [hharvest]
    exact h.bare
  · rw [hharvest]
    exact h.keyring
  · rw [hharvest]
    exact h.drawn
  · rw [hdeeds]
    exact h.deeds

theorem State.Inert.perform (h : state.Inert first base) {deeds : List Deed}
    (hdeeds : ∀ deed ∈ deeds, deed.Inert) : (state.perform deeds).Inert first base := by
  obtain ⟨since, hsince, hinert⟩ := h.deeds
  refine ⟨h.bare, h.keyring, h.drawn, since ++ deeds, ?_, ?_⟩
  · rw [State.perform, hsince, List.append_assoc]
  · intro deed hmem
    rcases List.mem_append.mp hmem with hmem | hmem
    · exact hinert deed hmem
    · exact hdeeds deed hmem

theorem State.Inert.tell (h : state.Inert first base) (notices : List Log.Notice) :
    (state.tell notices).Inert first base :=
  h.perform (by simp [Deed.Inert])

/-- **Discard**: a body that is taken out of the queue is dropped with a notice, and changes
    nothing else. -/
theorem Lifecycle.collect_off (life : Lifecycle) (reading : Reading) (state : State) :
    (life.collecting false).collect reading state =
      match state.listener.take? with
      | none => state
      | some (body, listener) =>
        (State.perform { state with listener := listener } [.collected body]).tell
          [.chunkDropped body.length] := by
  unfold Lifecycle.collect
  cases state.listener.take? with
  | none => rfl
  | some taken => rfl

/-- **Discard**: all bodies that wait when the queue is emptied are dropped, each with a
    notice. -/
theorem Lifecycle.drain_off (life : Lifecycle) (reading : Reading) (state : State) :
    (life.collecting false).drain reading state =
      ((State.perform { state with listener := ⟨[], [], false⟩ }
        (state.listener.pending.map .collected)).tell
          ([.listenerStopped]
            ++ (state.listener.pending.map fun body => .chunkDropped body.length)
            ++ [.collectorDone])).perform [.drained] := by
  have hoff : (life.collecting false).harvester.collects = false := rfl
  unfold Lifecycle.drain
  simp only [Ingest.Harvester.collectAll_off hoff]

/-- What a life does with a harvest without telemetry. -/
theorem Lifecycle.dispatch_bare (life : Lifecycle) (h : state.harvest.batch.Bare)
    (reading : Reading) (cancellation : Cancellation) (force : Bool) :
    let harvest := state.harvest.batch.harvest life.harvester.thresholds reading force
    life.dispatch reading cancellation force state =
      (State.perform
        { state with harvest := { state.harvest with batch := harvest.batch } }
        [.harvested force ⟨life.functionName, state.arn⟩ harvest.taken]).tell
          (Ingest.announced harvest force) := by
  intro harvest
  have hcancelled : (state.cancelled || false) = state.cancelled := Bool.or_false _
  unfold Lifecycle.dispatch
  simp only [life.harvester.dispatch_bare h, Ingest.HarvestState.idleCycle, hcancelled,
    Lifecycle.report, Ingest.Summary.empty, Nat.lt_irrefl, if_false, List.append_nil,
    List.map_nil]
  rfl

/-- **Step**: no act of a life that collects nothing posts anything, takes telemetry or asks
    for a key. -/
theorem State.Inert.act (h : state.Inert first base)
    (hact : (life.collecting false).Act state next) : next.Inert first base := by
  cases hact with
  | tells notices => exact h.tell notices
  | polls requests =>
    refine h.perform fun deed hmem => ?_
    obtain ⟨request, rfl | rfl⟩ := mem_ofPoll hmem
    · trivial
    · trivial
  | undergoes reading happening =>
    cases happening with
    | pushed push =>
      show (State.tell (State.perform { state with listener := _ } _) _).Inert first base
      refine State.Inert.tell (State.Inert.perform ?_ ?_) _
      · exact h.congr rfl rfl
      · simp [Deed.Inert]
    | collected =>
      show ((life.collecting false).collect reading state).Inert first base
      rw [life.collect_off]
      cases state.listener.take? with
      | none => exact h
      | some taken =>
        refine State.Inert.tell ?_ _
        refine State.Inert.perform ?_ ?_
        · exact h.congr rfl rfl
        · simp [Deed.Inert]
    | signalled termination =>
      show (State.tell { state with cancelled := true } _).Inert first base
      refine State.Inert.tell ?_ _
      exact h.congr rfl rfl
  | breaks => exact h.congr rfl rfl
  | registers reading requestId arn =>
    refine State.Inert.perform ?_ ?_
    · exact ⟨h.bare.addInvocation requestId reading.now, h.keyring, h.drawn, h.deeds⟩
    · simp [Deed.Inert]
  | dispatches reading cancellation force =>
    have hharvest := h.bare.harvest life.harvester.thresholds reading force
    rw [(life.collecting false).dispatch_bare h.bare]
    refine State.Inert.tell (State.Inert.perform ?_ ?_) _
    · exact ⟨hharvest.1, h.keyring, h.drawn, h.deeds⟩
    · intro deed hmem
      rw [List.mem_singleton.mp hmem]
      exact hharvest.2
  | drains reading =>
    rw [life.drain_off]
    refine State.Inert.perform (State.Inert.tell (State.Inert.perform ?_ ?_) _) ?_
    · exact h.congr rfl rfl
    · simp [Deed.Inert]
    · simp [Deed.Inert]

/-- **Run**: nor do all of them together. -/
theorem State.Inert.acts (h : state.Inert first base)
    (hacts : (life.collecting false).Acts state next) : next.Inert first base := by
  induction hacts with
  | refl => exact h
  | tail _ hact ih => exact ih.act hact

end

/-! ## Section 4: Without what is pushed -/

/-- Notices about what is pushed. -/
def isPushNotice : Log.Notice → Bool
  | .chunkDropped _ | .connectionFailed _ | .queueClosed _ => true
  | _ => false

/-- Deeds about what is pushed. -/
def Deed.isAboutPush : Deed → Bool
  | .received _ _ | .collected _ => true
  | .told notice => isPushNotice notice
  | _ => false

/-- Deeds without those about what is pushed. -/
def hushedDeeds (deeds : List Deed) : List Deed := deeds.filter fun deed => !deed.isAboutPush

/-- A state without what is pushed. -/
def State.hushed (state : State) : State :=
  { state with
    listener := ⟨[], [], state.listener.isOpen⟩
    deeds := hushedDeeds state.deeds }

/-- Happenings without pushes. -/
def hushedHappenings (happenings : List Happening) : List Happening :=
  happenings.filter fun happening => match happening with
    | .pushed _ => false
    | _ => true

/-- A round in which nothing is pushed. -/
def Round.hushed (round : Round) : Round :=
  { round with
    happenings := hushedHappenings round.happenings
    meanwhile := hushedHappenings round.meanwhile }

/-- Deeds none of which is about what is pushed stay. -/
theorem hushedDeeds_eq_self {deeds : List Deed}
    (h : ∀ deed ∈ deeds, deed.isAboutPush = false) : hushedDeeds deeds = deeds := by
  rw [hushedDeeds, List.filter_eq_self]
  intro deed hmem
  simp [h deed hmem]

namespace State

variable (state : State)

/-- No request is about what is pushed. -/
theorem history_hushed : state.hushed.history = state.history := by
  -- what is left out made no request, so the network sees the same history
  unfold history hushed hushedDeeds
  rw [List.filterMap_filter]
  apply List.filterMap_congr
  intro deed _
  cases deed <;> simp [Deed.isAboutPush, Deed.request?]

theorem hushed_perform (deeds : List Deed) :
    (state.perform deeds).hushed = state.hushed.perform (hushedDeeds deeds) := by
  simp [perform, hushed, hushedDeeds]

/-- Deeds about what is pushed leave nothing behind. -/
theorem hushed_perform_of_push {deeds : List Deed}
    (h : ∀ deed ∈ deeds, deed.isAboutPush = true) :
    (state.perform deeds).hushed = state.hushed := by
  have hnone : hushedDeeds deeds = [] := by
    rw [hushedDeeds, List.filter_eq_nil_iff]
    intro deed hmem
    simp [h deed hmem]
  rw [hushed_perform, hnone, perform, List.append_nil]

theorem hushed_tell (notices : List Log.Notice) :
    (state.tell notices).hushed
      = state.hushed.tell (notices.filter fun notice => !isPushNotice notice) := by
  rw [tell, hushed_perform, hushedDeeds, List.filter_map]
  rfl

/-- Notices none of which is about what is pushed stay. -/
theorem hushed_tell_self {notices : List Log.Notice}
    (h : ∀ notice ∈ notices, isPushNotice notice = false) :
    (state.tell notices).hushed = state.hushed.tell notices := by
  have hall : (notices.filter fun notice => !isPushNotice notice) = notices := by
    rw [List.filter_eq_self]
    intro notice hmem
    simp [h notice hmem]
  rw [hushed_tell, hall]

/-- Notices about it leave nothing behind. -/
theorem hushed_tell_of_push {notices : List Log.Notice}
    (h : ∀ notice ∈ notices, isPushNotice notice = true) :
    (state.tell notices).hushed = state.hushed := by
  refine state.hushed_perform_of_push fun deed hmem => ?_
  obtain ⟨notice, hnotice, rfl⟩ := List.mem_map.mp hmem
  exact h notice hnotice

end State

/-- All that the listener reports of a push is about what is pushed. -/
theorem Listener.notices_receive (listener : Listener) (push : Push) :
    (listener.receive push).listener.isOpen = listener.isOpen ∧
      ∀ notice ∈ (listener.receive push).notices, isPushNotice notice = true := by
  have henqueue (body : Bytes) :
      (listener.enqueue body).listener.isOpen = listener.isOpen ∧
        ∀ notice ∈ (listener.enqueue body).notices, isPushNotice notice = true := by
    unfold Listener.enqueue
    split
    · exact ⟨rfl, by simp [isPushNotice]⟩
    · split
      · exact ⟨rfl, nofun⟩
      · exact ⟨rfl, nofun⟩
  unfold Listener.receive Listener.accept
  split
  · exact ⟨rfl, by simp [isPushNotice]⟩
  split
  · exact ⟨rfl, nofun⟩
  split
  · exact ⟨rfl, nofun⟩
  split
  · exact ⟨rfl, nofun⟩
  · exact henqueue _

/-! ## Section 5: Lives to which nothing is pushed -/

namespace Lifecycle

variable (life : Lifecycle) {state : State}

/-- A push leaves nothing behind. -/
theorem hushed_pushed (reading : Reading) (push : Push) (state : State) :
    ((life.collecting false).undergo reading state (.pushed push)).hushed = state.hushed := by
  obtain ⟨hopen, hnotices⟩ := state.listener.notices_receive push
  show (State.tell (State.perform
    { state with listener := (state.listener.receive push).listener } _) _).hushed = _
  rw [State.hushed_tell_of_push _ hnotices, State.hushed_perform_of_push]
  · simp only [State.hushed, hopen]
  · simp [Deed.isAboutPush]

/-- A body that is taken out of the queue leaves nothing behind. -/
theorem hushed_collect (reading : Reading) (state : State) :
    ((life.collecting false).collect reading state).hushed = state.hushed := by
  rw [life.collect_off]
  cases htake : state.listener.take? with
  | none => rfl
  | some taken =>
    have hopen : taken.2.isOpen = state.listener.isOpen := by
      unfold Listener.take? at htake
      split at htake
      · cases htake
      · cases htake
        rfl
    simp only
    rw [State.hushed_tell_of_push, State.hushed_perform_of_push]
    · simp only [State.hushed, hopen]
    · simp [Deed.isAboutPush]
    · simp [isPushNotice]

/-- An empty queue has nothing to collect. -/
theorem collect_hushed (reading : Reading) (state : State) :
    (life.collecting true).collect reading state.hushed = state.hushed := rfl

theorem hushed_undergoAll (reading : Reading) (happenings : List Happening) :
    ∀ state : State,
      ((life.collecting false).undergoAll reading state happenings).hushed
        = (life.collecting true).undergoAll reading state.hushed
            (hushedHappenings happenings) := by
  induction happenings with
  | nil => exact fun _ => rfl
  | cons happening rest ih =>
    intro state
    refine (ih _).trans ?_
    cases happening with
    | pushed push =>
      rw [life.hushed_pushed]
      rfl
    | collected =>
      show _ = (life.collecting true).undergoAll reading
        ((life.collecting true).collect reading state.hushed) (hushedHappenings rest)
      rw [life.collect_hushed]
      exact congrArg (fun state => (life.collecting true).undergoAll reading state
        (hushedHappenings rest)) (life.hushed_collect reading state)
    | signalled termination =>
      -- the notice of a signal is kept in both
      have hsignalled : ((life.collecting false).undergo reading state
            (.signalled termination)).hushed
          = (life.collecting true).undergo reading state.hushed (.signalled termination) :=
        State.hushed_tell_self _ (by simp [isPushNotice])
      rw [hsignalled]
      rfl

/-- What is reported of a harvest is not about pushes. -/
theorem isPushNotice_announced (thresholds : Telemetry.Thresholds) (batch : Telemetry.Batch)
    (reading : Reading) (force : Bool) :
    ∀ notice ∈ Ingest.announced (batch.harvest thresholds reading force) force,
      isPushNotice notice = false := by
  intro notice hmem
  rcases List.mem_append.mp hmem with hmem | hmem
  · unfold Telemetry.Batch.harvest at hmem
    split at hmem
    · obtain ⟨oldest, -, rfl⟩ := Option.map_eq_some_iff.mp (Option.mem_toList.mp hmem)
      rfl
    · cases hmem
  · split at hmem
    · cases hmem
    · rw [List.mem_singleton.mp hmem]
      rfl

/-- **Dispatch**: a harvest without telemetry is dispatched alike. -/
theorem hushed_dispatch (h : state.harvest.batch.Bare) (reading : Reading)
    (cancellation : Cancellation) (force : Bool) :
    ((life.collecting false).dispatch reading cancellation force state).hushed
      = (life.collecting true).dispatch reading cancellation force state.hushed := by
  have hhushed : state.hushed.harvest.batch.Bare := h
  rw [(life.collecting false).dispatch_bare h, (life.collecting true).dispatch_bare hhushed,
    State.hushed_tell_self _ (isPushNotice_announced _ _ _ _), State.hushed_perform,
    hushedDeeds_eq_self]
  · rfl
  · simp [Deed.isAboutPush]

/-- Emptying the queue leaves an empty queue behind. -/
theorem hushed_drain (reading : Reading) (state : State) :
    ((life.collecting false).drain reading state).hushed
      = (life.collecting true).drain reading state.hushed := by
  have hhushed : (life.collecting true).drain reading state.hushed
      = (State.tell { state.hushed with listener := ⟨[], [], false⟩ }
          [.listenerStopped, .collectorDone]).perform [.drained] := by
    unfold Lifecycle.drain
    simp [State.hushed, State.perform, State.tell, Listener.pending,
      Ingest.Harvester.collectAll]
  have hnotices : ([Log.Notice.listenerStopped]
        ++ (state.listener.pending.map fun body => Log.Notice.chunkDropped body.length)
        ++ [Log.Notice.collectorDone]).filter (fun notice => !isPushNotice notice)
      = [.listenerStopped, .collectorDone] := by
    simp [isPushNotice]
  rw [hhushed, life.drain_off, State.hushed_perform, State.hushed_tell, hnotices,
    State.hushed_perform_of_push]
  · rfl
  · simp [Deed.isAboutPush]

/-! ## Section 6: The same run -/

theorem hushed_register (reading : Reading) (requestId arn : String) (state : State) :
    (register reading requestId arn state).hushed = register reading requestId arn state.hushed := by
  unfold Lifecycle.register
  rw [State.hushed_perform, hushedDeeds_eq_self]
  · rfl
  · simp [Deed.isAboutPush]

/-- A poll is the same without what is pushed. -/
theorem poll_hushed (state : State) :
    (life.collecting true).poll state.hushed = (life.collecting false).poll state := by
  unfold Lifecycle.poll
  rw [state.history_hushed]
  rfl

theorem hushed_awaited (round : Round) (state : State) :
    ((life.collecting false).awaited round state).hushed
      = (life.collecting true).awaited round.hushed state.hushed := by
  have hpolled : ((state.tell [.waiting]).perform
        (Deed.ofPoll ((life.collecting false).poll state).made)).hushed
      = (state.hushed.tell [.waiting]).perform
        (Deed.ofPoll ((life.collecting true).poll state.hushed).made) := by
    rw [State.hushed_perform, hushedDeeds_eq_self, State.hushed_tell_self, life.poll_hushed]
    · simp [isPushNotice]
    · intro deed hmem
      obtain ⟨request, rfl | rfl⟩ := mem_ofPoll hmem
      · rfl
      · rfl
  unfold Lifecycle.awaited
  rw [life.hushed_undergoAll, hpolled]
  rfl

theorem hushed_leave (reading : Reading) (state : State) :
    ((life.collecting false).leave reading state).1.hushed
      = ((life.collecting true).leave reading state.hushed).1 := by
  unfold Lifecycle.leave
  rw [life.hushed_drain, State.hushed_tell_self _ (by simp [isPushNotice])]

/-- Acts of a life that collects nothing bring no telemetry. -/
theorem Acts.bare {next : State} (h : state.harvest.batch.Bare)
    (hacts : (life.collecting false).Acts state next) : next.harvest.batch.Bare := by
  have hstart : state.Inert state.harvest state.deeds :=
    ⟨h, rfl, rfl, [], (List.append_nil _).symm, nofun⟩
  exact (hstart.acts hacts).bare

theorem hushed_invoke (h : state.harvest.batch.Bare) (round : Round) (requestId arn : String) :
    ((life.collecting false).invoke round requestId arn state).hushed
      = (life.collecting true).invoke round.hushed requestId arn state.hushed := by
  have hwaited := Acts.bare life h
    (Acts.waited (life.collecting false) round requestId arn state)
  have hhushed := life.hushed_undergoAll round.reading round.meanwhile
    (register round.reading requestId arn state)
  rw [hushed_register] at hhushed
  have hinvoke (waited : State) (hsame : waited = (life.collecting true).undergoAll
      round.reading (register round.reading requestId arn state.hushed)
      (hushedHappenings round.meanwhile)) :
      (life.collecting true).invoke round.hushed requestId arn state.hushed
        = (life.collecting true).dispatch round.reading
            (if waited.cancelled then .already else .never) false waited := by
    subst hsame
    rfl
  rw [hinvoke _ hhushed]
  exact life.hushed_dispatch hwaited _ _ _

theorem hushed_warned (round : Round) (reason : String) (state : State) :
    ((life.collecting false).warned round reason state).hushed
      = (life.collecting true).warned round.hushed reason state.hushed := by
  unfold Lifecycle.warned
  rw [life.hushed_undergoAll, State.hushed_tell_self _ (by simp [isPushNotice])]
  rfl

theorem hushed_shutDown (h : state.harvest.batch.Bare) (round : Round) (reason : String)
    (deadline : Int) :
    ((life.collecting false).shutDown round reason deadline state).hushed
      = (life.collecting true).shutDown round.hushed reason deadline state.hushed := by
  have hacts := Acts.warned (life.collecting false) round reason state
  have hwarned := life.hushed_warned round reason state
  rw [shutDown_eq, shutDown_eq, State.hushed_tell_self _ (by simp [isPushNotice]), ← hwarned]
  generalize (life.collecting false).warned round reason state = warned at hacts ⊢
  have hbare := Acts.bare life h hacts
  -- both are out of time or neither is
  change State.tell (State.hushed (if warned.cancelled
    || shutdownBudget deadline round.reading.now < round.stopping then _ else _)) _
    = State.tell (if warned.cancelled
      || shutdownBudget deadline round.reading.now < round.stopping then _ else _) _
  by_cases hlate : (warned.cancelled
      || shutdownBudget deadline round.reading.now < round.stopping) = true
  · have htold : (warned.tell [.drainTimedOut]).harvest.batch.Bare := hbare
    rw [if_pos hlate, if_pos hlate, life.hushed_dispatch htold,
      State.hushed_tell_self _ (by simp [isPushNotice])]
    rfl
  · have hdrained : ((life.collecting false).drain round.reading warned).harvest.batch.Bare :=
      Acts.bare life hbare (.single (.drains round.reading))
    rw [if_neg hlate, if_neg hlate, life.hushed_dispatch hdrained, life.hushed_drain]
    rfl

theorem hushed_handle (h : state.harvest.batch.Bare) (round : Round) (event : Event) :
    (life.collecting true).handle round.hushed state.hushed event
      = (((life.collecting false).handle round state event).1.hushed,
          ((life.collecting false).handle round state event).2) := by
  have htold : (state.tell [.received event.describe]).hushed
      = state.hushed.tell [.received event.describe] :=
    State.hushed_tell_self _ (by simp [isPushNotice])
  have hbare : (state.tell [.received event.describe]).harvest.batch.Bare := h
  unfold Lifecycle.handle
  simp only [← htold]
  cases event with
  | invoke deadline requestId arn => simp only [life.hushed_invoke hbare]
  | shutdown reason deadline => simp only [life.hushed_shutDown hbare]

/-- **Step**: a round without what is pushed is the round of a life that collects and to
    which nothing is pushed. -/
theorem hushed_turn (h : state.harvest.batch.Bare) (round : Round) :
    (life.collecting true).turn state.hushed round.hushed
      = (((life.collecting false).turn state round).1.hushed,
          ((life.collecting false).turn state round).2) := by
  have hawaited := life.hushed_awaited round state
  have hbare := Acts.bare life h (Acts.awaited (life.collecting false) round state)
  rw [turn_eq, turn_eq, ← hawaited, life.poll_hushed]
  generalize (life.collecting false).awaited round state = awaited at hbare ⊢
  generalize (life.collecting false).poll state = poll
  have hleave (state : State) : (life.collecting true).leave round.reading state.hushed
      = (((life.collecting false).leave round.reading state).1.hushed,
          ((life.collecting false).leave round.reading state).2) :=
    Prod.ext (life.hushed_leave round.reading state).symm rfl
  by_cases hbefore : state.cancelled = true
  · have hhushed : state.hushed.cancelled = true := hbefore
    have htold : (state.tell [.waiting]).hushed = state.hushed.tell [.waiting] :=
      State.hushed_tell_self _ (by simp [isPushNotice])
    rw [if_pos hbefore, if_pos hhushed, ← hleave, htold]
    rfl
  · have hhushed : ¬ state.hushed.cancelled = true := hbefore
    rw [if_neg hbefore, if_neg hhushed]
    by_cases hbreaks : (awaited.cancelled || poll.fate == .cancelling) = true
    · have hbreaks' : (awaited.hushed.cancelled || poll.fate == .cancelling) = true := hbreaks
      rw [if_pos hbreaks, if_pos hbreaks', ← hleave]
      rfl
    · have hbreaks' : ¬ (awaited.hushed.cancelled || poll.fate == .cancelling) = true := hbreaks
      rw [if_neg hbreaks, if_neg hbreaks']
      have hlink : (life.collecting true).link = (life.collecting false).link := rfl
      rw [hlink]
      split
      · rfl
      · split
        · rfl
        · exact life.hushed_handle hbare round _

/-- **Run**: so it is with a run of rounds. -/
theorem hushed_run (rounds : List Round) :
    ∀ {state : State}, state.harvest.batch.Bare →
      (life.collecting true).run state.hushed (rounds.map Round.hushed)
        = (((life.collecting false).run state rounds).1.hushed,
            ((life.collecting false).run state rounds).2) := by
  induction rounds with
  | nil => exact fun _ => rfl
  | cons round rest ih =>
    intro state h
    have hturn := life.hushed_turn h round
    -- what makes the next round comparable is that this one brought no telemetry
    have hbare := Acts.bare life h (Acts.turn (life.collecting false) round state)
    rw [List.map_cons, Lifecycle.run, Lifecycle.run, hturn]
    generalize (life.collecting false).turn state round = result at hbare ⊢
    obtain ⟨next, ending⟩ := result
    cases ending with
    | none => exact ih hbare
    | some ending => rfl

end Lifecycle

/-! ## Section 7: Any number of connections -/

namespace Pipeline

variable {harvester : Ingest.Harvester} {pipeline next : Pipeline}

/-- A pipeline that holds no telemetry, and of which none was taken. -/
structure Inert (pipeline : Pipeline) : Prop where
  bare : pipeline.batch.Bare
  deeds : ∀ deed ∈ pipeline.deeds, deed.Inert

/-- One more deed that takes no telemetry. -/
theorem inert_concat {deeds : List Deed} {deed : Deed} (h : ∀ deed ∈ deeds, deed.Inert)
    (hdeed : deed.Inert) : ∀ other ∈ deeds ++ [deed], other.Inert := by
  intro other hmem
  rcases List.mem_append.mp hmem with hmem | hmem
  · exact h other hmem
  · rw [List.mem_singleton.mp hmem]
    exact hdeed

/-- **Step**: where collecting is switched off, none gets into the batch. -/
theorem Inert.step (h : pipeline.Inert) (hoff : harvester.collects = false)
    (hstep : Step harvester pipeline next) : next.Inert := by
  cases hstep with
  | connect hserving => exact ⟨h.bare, h.deeds⟩
  | act before after connection next' hplace hact => exact ⟨h.bare, h.deeds⟩
  | put before after connection next' push body hplace hput hroom =>
    exact ⟨h.bare, inert_concat h.deeds trivial⟩
  | fetch body rest htaken hhand hqueue => exact ⟨h.bare, h.deeds⟩
  | file reading body hhand =>
    refine ⟨?_, inert_concat h.deeds trivial⟩
    rw [harvester.collect_off _ _ _ hoff]
    exact h.bare
  | register requestId start =>
    exact ⟨h.bare.addInvocation requestId start, inert_concat h.deeds trivial⟩
  | harvest reading force identity =>
    have hharvest := h.bare.harvest harvester.thresholds reading force
    exact ⟨hharvest.1, inert_concat h.deeds hharvest.2⟩
  | stop hserving => exact ⟨h.bare, h.deeds⟩
  | fail hserving => exact ⟨h.bare, h.deeds⟩
  | stopped hstopping hclosed => exact ⟨h.bare, h.deeds⟩
  | finish hstopped hclosed hpending => exact ⟨h.bare, h.deeds⟩

/-- **Run**: so it is in every schedule. -/
theorem Inert.run (h : pipeline.Inert) (hoff : harvester.collects = false)
    (hrun : Run harvester pipeline next) : next.Inert := by
  induction hrun with
  | refl => exact h
  | tail _ hstep ih => exact ih.step hoff hstep

end Pipeline

/-- **Switched off**: a life that collects nothing can act in any order, with anything pushed
    to it. Whatever it did, its batch holds no telemetry, what it harvested had none, it has
    posted nothing and has not asked for a key. A body that is taken out of the queue, one by
    one or when the queue is emptied, is dropped with a notice and changes nothing else.
    Whatever is dispatched then gives the empty result without a request and without asking
    for a key. Every run of rounds is made of such acts. Without what is pushed, it is the
    run of a life that collects and to which nothing is pushed: it ends in the same way, with
    the same batch and the same deeds. Nor does telemetry get into the batch if pushes come
    on any number of connections at once. -/
theorem Lifecycle.switched_off_is_inert (life : Lifecycle) (keyring : Credential.Keyring)
    (ticks : Nat) (base : List Deed) :
    let off := life.collecting false
    let start := State.start (.start keyring ticks) base
    (∀ state, off.Acts start state →
      state.Inert (.start keyring ticks) base ∧
      (∀ reading,
        off.collect reading state =
          match state.listener.take? with
          | none => state
          | some (body, listener) =>
            (State.perform { state with listener := listener } [.collected body]).tell
              [.chunkDropped body.length]) ∧
      (∀ reading,
        off.drain reading state =
          ((State.perform { state with listener := ⟨[], [], false⟩ }
            (state.listener.pending.map .collected)).tell
              ([.listenerStopped]
                ++ (state.listener.pending.map fun body => .chunkDropped body.length)
                ++ [.collectorDone])).perform [.drained]) ∧
      ∀ reading network history cancellation ids identity force,
        let run := off.harvester.dispatch state.harvest reading network history cancellation ids
          identity force
        run.cycle.result = .ok .empty ∧ run.cycle.Unsent ∧ run.cycle.keyring = keyring ∧
          run.state.keyring = keyring ∧ ∀ invocation ∈ run.taken, invocation.chunks = []) ∧
    (∀ rounds, off.Acts start (off.run start rounds).1) ∧
    ((∀ deed ∈ base, deed.isAboutPush = false) → ∀ rounds,
      (life.collecting true).run start (rounds.map Round.hushed)
        = ((off.run start rounds).1.hushed, (off.run start rounds).2)) ∧
    ∀ pipeline, Pipeline.Run off.harvester (.start ticks) pipeline →
      pipeline.batch.Bare ∧ ∀ deed ∈ pipeline.deeds, deed.Inert := by
  intro off start
  have hstart : start.Inert (.start keyring ticks) base := State.inert_start keyring ticks base
  refine ⟨fun state hacts => ?_, fun rounds => Acts.run off rounds start, fun hbase rounds => ?_,
    fun pipeline hrun => ?_⟩
  · have hinert := hstart.acts hacts
    refine ⟨hinert, fun reading => life.collect_off reading state,
      fun reading => life.drain_off reading state, ?_⟩
    intro reading network history cancellation ids identity force run
    have hrun : run = _ := off.harvester.dispatch_bare hinert.bare reading network history
      cancellation ids identity force
    rw [hrun]
    exact ⟨rfl, ⟨rfl, rfl⟩, hinert.keyring, hinert.keyring,
      (hinert.bare.harvest off.harvester.thresholds reading force).2⟩
  · have hhushed : start.hushed = start := by
      simp only [State.hushed, start, State.start, hushedDeeds_eq_self hbase]
      rfl
    have hrun := life.hushed_run rounds hstart.bare
    rwa [hhushed] at hrun
  · have hfresh : (Pipeline.start ticks).Inert := ⟨Telemetry.Batch.bare_fresh ticks, nofun⟩
    have hinert := hfresh.run rfl hrun
    exact ⟨hinert.bare, hinert.deeds⟩

end Session

end TelemetryRelay
