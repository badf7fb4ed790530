import TelemetryRelay.Proofs.Session.Pipeline
import TelemetryRelay.Proofs.Session.Rounds

/-! # Every schedule delivers once

    A schedule is a run of the pipeline: any number of connections with any requests,
    handled in any order, while bodies are collected and invocations are registered and
    harvested. This module shows

    - that whatever happens around a life, and whatever it does with its queue and its
      batch, is one of the schedules, so that the pipeline is the one of the relay,
    - what holds after every schedule: which requests were answered how, what was put in
      the queue, and what has become of it.
-/

namespace TelemetryRelay

namespace Session

open Ingest (Cancellation Harvester)
open Telemetry (Batch Invocation Reading)
open Telemetry.Batch (chunksUnder chunksUnder_append filedUnder filings)

/-! ## Section 1: What a life does with its pipeline -/

namespace Connection

/-- The body that waits for room on a connection. -/
def held (connection : Connection) : List Bytes :=
  match connection.current with
  | some (_, .sending body) => [body]
  | _ => []

/-- A connection with one push that has come to a verdict. -/
inductive Shows (push : Push) : Connection → Verdict → Prop
  | answered (moments : List Moment) (status : Nat) :
      Shows push ⟨[⟨push, moments ++ [.answered status]⟩], none, true⟩ (.answered status)
  | held (body : Bytes) :
      Shows push ⟨[], some (⟨push, []⟩, .sending body), true⟩ .held
  | broken : Shows push ⟨[⟨push, []⟩], none, false⟩ .broken

/-- A connection in order that holds a body is open and waits for room for it. -/
theorem Orderly.eq_of_held {connection : Connection} (h : connection.Orderly) {body : Bytes}
    {rest : List Bytes} (hheld : connection.held = body :: rest) :
    rest = [] ∧ ∃ past push moments,
      connection = ⟨past, some (⟨push, moments⟩, .sending body), true⟩ := by
  obtain ⟨past, current, isOpen⟩ := connection
  -- a closed connection handles no request
  have hopen : isOpen = true := by
    cases isOpen with
    | true => rfl
    | false =>
      have hnone : current = none := h.closed rfl
      rw [hnone] at hheld
      cases hheld
  subst hopen
  unfold held at hheld
  split at hheld
  · next request waiting hcurrent =>
    have hsome : current = some (request, .sending waiting) := hcurrent
    cases hheld
    rw [hsome]
    exact ⟨rfl, past, request.push, request.moments, rfl⟩
  · cases hheld

end Connection

namespace Pipeline

/-- All bodies that wait for room. -/
def held (pipeline : Pipeline) : List Bytes := pipeline.connections.flatMap Connection.held

/-- **Mirrors**: a pipeline that serves has the queue, the held bodies and the batch of a
    state. -/
structure Mirrors (pipeline : Pipeline) (state : State) : Prop where
  serving : pipeline.stage = .serving
  isTaken : pipeline.isTaken = true
  /-- A body that was taken out of the queue is in the batch. -/
  hand : pipeline.hand = none
  queue : pipeline.queue = state.listener.queue
  held : pipeline.held = state.listener.held
  isOpen : state.listener.isOpen = true
  batch : pipeline.batch = state.harvest.batch

theorem mirrors_start (keyring : Credential.Keyring) (ticks : Nat) (base : List Deed) :
    (start ticks).Mirrors (.start (.start keyring ticks) base) :=
  ⟨rfl, rfl, rfl, rfl, rfl, rfl, rfl⟩

variable {harvester : Harvester} {pipeline : Pipeline} {state : State} {life : Lifecycle}

/-- What a life does besides leaves its mirror as it is. -/
theorem Mirrors.congr (h : pipeline.Mirrors state) {next : State}
    (hlistener : next.listener = state.listener)
    (hbatch : next.harvest.batch = state.harvest.batch) : pipeline.Mirrors next where
  serving := h.serving
  isTaken := h.isTaken
  hand := h.hand
  queue := by rw [hlistener]; exact h.queue
  held := by rw [hlistener]; exact h.held
  isOpen := by rw [hlistener]; exact h.isOpen
  batch := by rw [hbatch]; exact h.batch

/-- A pipeline with one more connection. -/
def withConnection (pipeline : Pipeline) (connection : Connection) : Pipeline :=
  { pipeline with connections := pipeline.connections ++ [connection] }

/-- The last connection can do something. -/
theorem run_last (harvester : Harvester) (pipeline : Pipeline) {connection next : Connection}
    (hstep : Connection.Step pipeline.isTaken connection none next) :
    Run harvester (pipeline.withConnection connection) (pipeline.withConnection next) :=
  .single (.act (pipeline.withConnection connection) pipeline.connections [] connection next rfl
    hstep)

/-- A push can arrive on a connection of its own. -/
theorem run_arrive (harvester : Harvester) (pipeline : Pipeline)
    (hserving : pipeline.stage = .serving) (push : Push) :
    Run harvester pipeline
      (pipeline.withConnection ⟨[], some (⟨push, []⟩, .arrived), true⟩) :=
  .head (.connect pipeline hserving) (run_last harvester pipeline (.arrive [] push))

/-- A connection that holds nothing adds nothing to what is held. -/
theorem held_withConnection (pipeline : Pipeline) (connection : Connection) :
    (pipeline.withConnection connection).held = pipeline.held ++ connection.held := by
  simp [held, withConnection]

/-- **Receiving** a push is a schedule: the push comes to its verdict on a connection of
    its own. -/
theorem Mirrors.exists_receive (h : pipeline.Mirrors state) (harvester : Harvester)
    (push : Push) :
    let reception := state.listener.receive push
    ∃ next connection, Run harvester pipeline next ∧
      next.Mirrors { state with listener := reception.listener } ∧
      next.connections = pipeline.connections ++ [connection] ∧
      connection.Shows push reception.verdict := by
  intro reception
  have herrand := state.listener.receive_errand push
  have harrive := run_arrive harvester pipeline h.serving push
  have hheld := h.held
  cases hcase : push.errand with
  | answer status =>
    rw [hcase] at herrand
    -- the push is answered at once
    have hsettle := run_last harvester pipeline (.settle [] push [] status hcase)
    have hanswer := run_last harvester pipeline (.answer [] push [] status)
    refine ⟨_, _, (harrive.trans hsettle).trans hanswer, ?_, rfl, ?_⟩
    · rw [show reception.listener = state.listener from herrand.1]
      refine ⟨h.serving, h.isTaken, h.hand, h.queue, ?_, h.isOpen, h.batch⟩
      rw [held_withConnection, hheld]
      exact List.append_nil _
    · show Connection.Shows push _ (state.listener.receive push).verdict
      rw [herrand.2]
      exact .answered [] status
  | lose =>
    rw [hcase] at herrand
    have hlose := run_last harvester pipeline (.lose [] push [] hcase)
    refine ⟨_, _, harrive.trans hlose, ?_, rfl, ?_⟩
    · rw [show reception.listener = state.listener from herrand.1]
      refine ⟨h.serving, h.isTaken, h.hand, h.queue, ?_, h.isOpen, h.batch⟩
      rw [held_withConnection, hheld]
      exact List.append_nil _
    · show Connection.Shows push _ (state.listener.receive push).verdict
      rw [herrand.2]
      exact .broken
  | deliver body =>
    rw [hcase] at herrand
    have hread := run_last harvester pipeline (.read [] push [] body hcase)
    have hreception : reception = state.listener.enqueue body := herrand
    have hopen := h.isOpen
    rw [hreception]
    unfold Listener.enqueue
    by_cases hroom : state.listener.queue.length < Listener.capacity
    · -- there is room: the body is put in the queue, and then the push is answered
      let sent : Connection := ⟨[], some (⟨push, [.queued body]⟩, .answering 200), true⟩
      let queued : Pipeline :=
        { pipeline with
          queue := pipeline.queue ++ [body]
          deeds := pipeline.deeds ++ [.received push (.answered 200)] }
      have hsend : Run harvester
          (pipeline.withConnection ⟨[], some (⟨push, []⟩, .sending body), true⟩)
          (queued.withConnection sent) :=
        .single (.put _ pipeline.connections [] _ sent push body rfl
          (.send [] push [] body h.isTaken) (by rw [← h.queue] at hroom; exact hroom))
      have hanswer := run_last harvester queued (.answer [] push [.queued body] 200)
      refine ⟨_, _, ((harrive.trans hread).trans hsend).trans hanswer, ?_, rfl, ?_⟩
      · simp only [hopen, Bool.not_true, Bool.false_eq_true, if_false, if_pos hroom]
        refine ⟨h.serving, h.isTaken, h.hand, ?_, ?_, rfl, h.batch⟩
        · exact congrArg (· ++ [body]) h.queue
        · rw [held_withConnection]
          exact (List.append_nil _).trans hheld
      · simp only [hopen, Bool.not_true, Bool.false_eq_true, if_false, if_pos hroom]
        exact .answered [.queued body] 200
    · -- there is none: the push is held
      refine ⟨_, _, harrive.trans hread, ?_, rfl, ?_⟩
      · simp only [hopen, Bool.not_true, Bool.false_eq_true, if_false, if_neg hroom]
        refine ⟨h.serving, h.isTaken, h.hand, h.queue, ?_, rfl, h.batch⟩
        rw [held_withConnection, hheld]
        rfl
      · simp only [hopen, Bool.not_true, Bool.false_eq_true, if_false, if_neg hroom]
        exact .held body

/-- The first of the held bodies waits on some connection. -/
theorem exists_held {body : Bytes} {rest : List Bytes} :
    ∀ connections : List Connection, (∀ connection ∈ connections, connection.Orderly) →
      connections.flatMap Connection.held = body :: rest →
      ∃ before past push moments after,
        connections = before ++ ⟨past, some (⟨push, moments⟩, .sending body), true⟩ :: after ∧
        before.flatMap Connection.held = [] ∧ after.flatMap Connection.held = rest
  | [], _, hheld => by cases hheld
  | connection :: connections, horderly, hheld => by
    rw [List.flatMap_cons] at hheld
    cases hfirst : connection.held with
    | nil =>
      -- it waits on a later connection
      rw [hfirst, List.nil_append] at hheld
      obtain ⟨before, past, push, moments, after, hplace, hbefore, hafter⟩ :=
        exists_held connections (fun other hmem => horderly other (List.mem_cons_of_mem _ hmem))
          hheld
      refine ⟨connection :: before, past, push, moments, after, ?_, ?_, hafter⟩
      · rw [hplace]
        rfl
      · rw [List.flatMap_cons, hfirst, hbefore]
        rfl
    | cons first more =>
      obtain ⟨hmore, past, push, moments, hconnection⟩ :=
        (horderly connection List.mem_cons_self).eq_of_held hfirst
      rw [hfirst, hmore] at hheld
      cases hheld
      exact ⟨[], past, push, moments, connections, by rw [hconnection]; rfl, rfl, rfl⟩

/-- The first of the held bodies can be put in the queue where there is room. -/
theorem Sound.exists_put (h : pipeline.Sound harvester) (htaken : pipeline.isTaken = true)
    (hroom : pipeline.queue.length < Listener.capacity) {body : Bytes} {rest : List Bytes}
    (hheld : pipeline.held = body :: rest) :
    ∃ next, Run harvester pipeline next ∧ next.stage = pipeline.stage ∧ next.isTaken = true ∧
      next.hand = pipeline.hand ∧ next.queue = pipeline.queue ++ [body] ∧ next.held = rest ∧
      next.batch = pipeline.batch := by
  obtain ⟨before, past, push, moments, after, hplace, hbefore, hafter⟩ :=
    exists_held pipeline.connections h.orderly hheld
  have hstep : Step harvester pipeline _ :=
    .put pipeline before after _ _ push body hplace (.send past push moments body htaken) hroom
  refine ⟨_, .single hstep, rfl, htaken, rfl, rfl, ?_, rfl⟩
  show (before ++ _ :: after).flatMap Connection.held = rest
  rw [List.flatMap_append, List.flatMap_cons, hbefore, hafter]
  rfl

/-- **Happenings** are schedules. -/
theorem Mirrors.exists_undergo (h : pipeline.Mirrors state)
    (hsound : pipeline.Sound life.harvester) (reading : Reading) (happening : Happening) :
    ∃ next, Run life.harvester pipeline next ∧
      next.Mirrors (life.undergo reading state happening) := by
  cases happening with
  | pushed push =>
    obtain ⟨next, connection, hrun, hmirrors, -, -⟩ := h.exists_receive life.harvester push
    exact ⟨next, hrun, hmirrors.congr rfl rfl⟩
  | signalled termination => exact ⟨pipeline, .refl, h.congr rfl rfl⟩
  | collected =>
    have hroom := hsound.room
    have hopen := h.isOpen
    have hqueue := h.queue
    have hheld := h.held
    show ∃ next, Run life.harvester pipeline next ∧ next.Mirrors (life.collect reading state)
    unfold Lifecycle.collect Listener.take?
    cases hcase : state.listener.queue with
    | nil => exact ⟨pipeline, .refl, h⟩
    | cons body rest =>
      rw [hcase] at hqueue
      rw [hqueue] at hroom
      have hcollect := run_collect life.harvester pipeline reading h.isTaken h.hand hqueue
      have hbatch := congrArg (fun batch => (life.harvester.collect batch reading body).1) h.batch
      cases hwaiting : state.listener.held with
      | nil =>
        rw [hwaiting] at hheld
        refine ⟨_, hcollect, ⟨h.serving, h.isTaken, h.hand, ?_, hheld, hopen, hbatch⟩⟩
        exact (List.append_nil rest).symm
      | cons next waiting =>
        -- the room that was made is used for the body that was held first
        rw [hwaiting] at hheld
        obtain ⟨final, hrun, hstage, htaken, hhand, hqueue', hheld', hbatch'⟩ :=
          (hsound.run hcollect).exists_put h.isTaken hroom hheld
        exact ⟨final, hcollect.trans hrun, ⟨hstage.trans h.serving, htaken, hhand.trans h.hand,
          hqueue', hheld', hopen, hbatch'.trans hbatch⟩⟩

/-- **Run**: happenings one after the other are a schedule. -/
theorem Mirrors.exists_undergoAll (reading : Reading) (happenings : List Happening) :
    ∀ {pipeline : Pipeline} {state : State}, pipeline.Mirrors state →
      pipeline.Sound life.harvester →
      ∃ next, Run life.harvester pipeline next ∧
        next.Mirrors (life.undergoAll reading state happenings) := by
  induction happenings with
  | nil => exact fun h _ => ⟨_, .refl, h⟩
  | cons happening rest ih =>
    intro pipeline state h hsound
    obtain ⟨first, hfirst, hmirrors⟩ := h.exists_undergo hsound reading happening
    obtain ⟨next, hrest, hnext⟩ := ih hmirrors (hsound.run hfirst)
    exact ⟨next, hfirst.trans hrest, hnext⟩

/-- Registering an invocation is a schedule. -/
theorem Mirrors.exists_register (h : pipeline.Mirrors state) (harvester : Harvester)
    (reading : Reading) (requestId arn : String) :
    ∃ next, Run harvester pipeline next ∧
      next.Mirrors (Lifecycle.register reading requestId arn state) := by
  refine ⟨_, .single (.register pipeline requestId reading.now), ?_⟩
  refine ⟨h.serving, h.isTaken, h.hand, h.queue, h.held, h.isOpen, ?_⟩
  show pipeline.batch.addInvocation requestId reading.now = _
  rw [h.batch]
  rfl

/-- Dispatching a harvest is a schedule. -/
theorem Mirrors.exists_dispatch (h : pipeline.Mirrors state) (reading : Reading)
    (cancellation : Cancellation) (force : Bool) :
    ∃ next, Run life.harvester pipeline next ∧
      next.Mirrors (life.dispatch reading cancellation force state) := by
  refine ⟨_, .single (.harvest pipeline reading force ⟨life.functionName, state.arn⟩), ?_⟩
  refine ⟨h.serving, h.isTaken, h.hand, h.queue, h.held, h.isOpen, ?_⟩
  show (pipeline.batch.harvest life.harvester.thresholds reading force).batch = _
  rw [h.batch]
  rfl

theorem collectAll_append (harvester : Harvester) (reading : Reading) (more : List Bytes) :
    ∀ (bodies : List Bytes) (batch : Batch),
      (harvester.collectAll reading batch (bodies ++ more)).1
        = (harvester.collectAll reading (harvester.collectAll reading batch bodies).1 more).1
  | [], _ => rfl
  | body :: bodies, batch =>
    collectAll_append harvester reading more bodies (harvester.collect batch reading body).1

/-- Held bodies can be put in the queue and collected, one after the other. -/
theorem Sound.exists_collect_held (reading : Reading) :
    ∀ (held : List Bytes) {pipeline : Pipeline}, pipeline.Sound harvester →
      pipeline.isTaken = true → pipeline.pending = [] → pipeline.held = held →
      ∃ next, Run harvester pipeline next ∧ next.stage = pipeline.stage ∧ next.isTaken = true ∧
        next.pending = [] ∧ next.batch = (harvester.collectAll reading pipeline.batch held).1
  | [], pipeline, _, htaken, hpending, _ => ⟨pipeline, .refl, rfl, htaken, hpending, rfl⟩
  | body :: rest, pipeline, hsound, htaken, hpending, hheld => by
    obtain ⟨hhand, hqueue⟩ := pending_eq_nil.mp hpending
    have hroom : pipeline.queue.length < Listener.capacity := by
      rw [hqueue]
      decide
    obtain ⟨put, hput, hstage, htaken', hhand', hqueue', hheld', hbatch'⟩ :=
      hsound.exists_put htaken hroom hheld
    rw [hqueue] at hqueue'
    rw [hhand] at hhand'
    have hcollect := run_collect harvester put reading htaken' hhand' hqueue'
    have hempty : put.hand.toList ++ [] = [] := by rw [hhand']; rfl
    obtain ⟨next, hrest, hnext, htaken'', hempty', hbatch''⟩ :=
      Sound.exists_collect_held reading rest ((hsound.run hput).run hcollect) htaken' hempty hheld'
    refine ⟨next, hput.trans (hcollect.trans hrest), hnext.trans hstage, htaken'', hempty', ?_⟩
    rw [hbatch'', ← hbatch']
    rfl

/-- Draining is a schedule, after which the pipeline is drained. -/
theorem Mirrors.exists_drain (h : pipeline.Mirrors state)
    (hsound : pipeline.Sound life.harvester) (reading : Reading) :
    ∃ next, Run life.harvester pipeline next ∧ next.Drained ∧
      next.batch = (life.drain reading state).harvest.batch := by
  -- what is in the queue is collected first, then what was held
  have hcollect :=
    run_collectAll life.harvester reading pipeline.queue pipeline h.isTaken h.hand rfl
  obtain ⟨empty, hheld, hstage, htaken, hpending, hbatch⟩ :=
    (hsound.run hcollect).exists_collect_held reading state.listener.held h.isTaken
      (pending_eq_nil.mpr ⟨h.hand, rfl⟩) h.held
  have hserving : empty.stage = .serving := hstage.trans h.serving
  obtain ⟨drained, hrun, hdrained, hfinal, -⟩ :=
    exists_drained_of_stopping life.harvester reading { empty with stage := .stopping } htaken
      (by simp)
  refine ⟨drained, (hcollect.trans hheld).trans (.head (.stop empty hserving) hrun), hdrained, ?_⟩
  rw [hfinal]
  show (life.harvester.collectAll reading empty.batch empty.pending).1
    = (life.harvester.collectAll reading state.harvest.batch state.listener.pending).1
  rw [hpending, Listener.pending, collectAll_append, ← h.queue, ← h.batch]
  exact hbatch

/-! ## Section 2: Every life is a schedule -/

/-- What a pipeline shows of a life: its state while the listener serves, and its batch
    once the pipeline is drained. -/
inductive Shadows (pipeline : Pipeline) (state : State) : Prop
  | serving : pipeline.Mirrors state → Shadows pipeline state
  | drained :
      pipeline.Drained → state.listener.pending = [] →
      pipeline.batch = state.harvest.batch → Shadows pipeline state

theorem Mirrors.exists_leave (h : pipeline.Mirrors state)
    (hsound : pipeline.Sound life.harvester) (reading : Reading) :
    ∃ next, Run life.harvester pipeline next ∧ next.Shadows (life.leave reading state).1 := by
  have htold : pipeline.Mirrors (state.tell [.cancelled]) := h.congr rfl rfl
  obtain ⟨drained, hrun, hdrained, hbatch⟩ := htold.exists_drain hsound reading
  exact ⟨drained, hrun, .drained hdrained rfl hbatch⟩

theorem Mirrors.exists_awaited (h : pipeline.Mirrors state)
    (hsound : pipeline.Sound life.harvester) (round : Round) :
    ∃ next, Run life.harvester pipeline next ∧ next.Mirrors (life.awaited round state) := by
  have hpolled : pipeline.Mirrors
      ((state.tell [.waiting]).perform (Deed.ofPoll (life.poll state).made)) := h.congr rfl rfl
  exact hpolled.exists_undergoAll round.reading round.happenings hsound

theorem Mirrors.exists_invoke (h : pipeline.Mirrors state)
    (hsound : pipeline.Sound life.harvester) (round : Round) (requestId arn : String) :
    ∃ next, Run life.harvester pipeline next ∧
      next.Mirrors (life.invoke round requestId arn state) := by
  obtain ⟨registered, hregister, hregistered⟩ :=
    h.exists_register life.harvester round.reading requestId arn
  obtain ⟨waited, hwait, hwaited⟩ :=
    hregistered.exists_undergoAll round.reading round.meanwhile (hsound.run hregister)
  obtain ⟨next, hharvest, hnext⟩ := hwaited.exists_dispatch round.reading _ false
  exact ⟨next, (hregister.trans hwait).trans hharvest, hnext⟩

theorem Mirrors.exists_shutDown (h : pipeline.Mirrors state)
    (hsound : pipeline.Sound life.harvester) (round : Round) (reason : String)
    (deadline : Int) :
    ∃ next, Run life.harvester pipeline next ∧
      next.Shadows (life.shutDown round reason deadline state) := by
  have htold : pipeline.Mirrors (state.tell [.shuttingDown reason]) := h.congr rfl rfl
  obtain ⟨warned, hwarn, hwarned⟩ :=
    htold.exists_undergoAll round.reading round.meanwhile hsound
  rw [Lifecycle.shutDown_eq]
  change warned.Mirrors (life.warned round reason state) at hwarned
  generalize life.warned round reason state = waited at hwarned ⊢
  split
  · -- out of time: the listener is left serving
    have hlate : warned.Mirrors (waited.tell [.drainTimedOut]) := hwarned.congr rfl rfl
    obtain ⟨next, hharvest, hnext⟩ := hlate.exists_dispatch round.reading .already true
    exact ⟨next, hwarn.trans hharvest, .serving (hnext.congr rfl rfl)⟩
  · obtain ⟨drained, hdrain, hdrained, hbatch⟩ :=
      hwarned.exists_drain (hsound.run hwarn) round.reading
    have hharvest : Step life.harvester drained _ :=
      .harvest drained round.reading true ⟨life.functionName, waited.arn⟩
    refine ⟨_, (hwarn.trans hdrain).tail hharvest,
      .drained ⟨hdrained.stage, hdrained.isTaken⟩ rfl ?_⟩
    show (drained.batch.harvest life.harvester.thresholds round.reading true).batch = _
    rw [hbatch]
    rfl

/-- **Step**: every round is a schedule. A life that goes on leaves its listener
    serving. -/
theorem Mirrors.exists_turn (h : pipeline.Mirrors state)
    (hsound : pipeline.Sound life.harvester) (round : Round) :
    ∃ next, Run life.harvester pipeline next ∧ next.Shadows (life.turn state round).1 ∧
      ((life.turn state round).2 = none → next.Mirrors (life.turn state round).1) := by
  obtain ⟨waited, hwait, hawaited⟩ := h.exists_awaited hsound round
  have hturn := Lifecycle.turn_turn life round state
  generalize life.turn state round = result at hturn ⊢
  cases hturn with
  | skips hcancelled =>
    have htold : pipeline.Mirrors (state.tell [.waiting]) := h.congr rfl rfl
    obtain ⟨next, hrun, hnext⟩ := htold.exists_leave hsound round.reading
    exact ⟨next, hrun, hnext, nofun⟩
  | breaks hbreaks =>
    have hbroken : waited.Mirrors { life.awaited round state with cancelled := true } :=
      hawaited.congr rfl rfl
    obtain ⟨next, hrun, hnext⟩ := hbroken.exists_leave (hsound.run hwait) round.reading
    exact ⟨next, hwait.trans hrun, hnext, nofun⟩
  | waits url hsilent => exact ⟨waited, hwait, .serving hawaited, nofun⟩
  | fails error hcancelled herror => exact ⟨waited, hwait, .serving hawaited, nofun⟩
  | hears event hcancelled hevent =>
    have htold : waited.Mirrors
        ((life.awaited round state).tell [.received event.describe]) := hawaited.congr rfl rfl
    cases event with
    | invoke deadline requestId arn =>
      obtain ⟨next, hrun, hnext⟩ := htold.exists_invoke (hsound.run hwait) round requestId arn
      exact ⟨next, hwait.trans hrun, .serving hnext, fun _ => hnext⟩
    | shutdown reason deadline =>
      obtain ⟨next, hrun, hnext⟩ :=
        htold.exists_shutDown (hsound.run hwait) round reason deadline
      exact ⟨next, hwait.trans hrun, hnext, nofun⟩

/-- **Run**: so are rounds one after the other. -/
theorem Mirrors.exists_run (h : pipeline.Mirrors state)
    (hsound : pipeline.Sound life.harvester) (rounds : List Round) :
    ∃ next, Run life.harvester pipeline next ∧ next.Shadows (life.run state rounds).1 := by
  refine life.run_induct
    (fun state => ∃ next, Run life.harvester pipeline next ∧ next.Mirrors state)
    (fun ended _ => ∃ next, Run life.harvester pipeline next ∧ next.Shadows ended)
    (fun _ ⟨next, hrun, hnext⟩ => ⟨next, hrun, .serving hnext⟩) ?_ rounds state
    ⟨pipeline, .refl, h⟩
  rintro state round ⟨current, hcurrent, hmirrors⟩
  obtain ⟨next, hrun, hshadows, hgoes⟩ := hmirrors.exists_turn (hsound.run hcurrent) round
  generalize life.turn state round = result at hshadows hgoes ⊢
  obtain ⟨state', ending⟩ := result
  cases ending with
  | some ending => exact ⟨next, hcurrent.trans hrun, hshadows⟩
  | none => exact ⟨next, hcurrent.trans hrun, hgoes rfl⟩

/-- **Refinement**: every life is a schedule of the pipeline it starts with. -/
theorem exists_schedule (life : Lifecycle) (keyring : Credential.Keyring) (ticks : Nat)
    (base : List Deed) (rounds : List Round) :
    ∃ next, Run life.harvester (.start ticks) next ∧
      next.Shadows (life.run (.start (.start keyring ticks) base) rounds).1 :=
  (mirrors_start keyring ticks base).exists_run (sound_start life.harvester ticks) rounds

/-! ## Section 3: After every schedule -/

/-- **Once and in order**: after every schedule each request went through the first part
    of its course. A request with a line that cannot be read is refused, one with another
    method is answered 405, an empty `POST` is answered 200, and a body that cannot be
    read is not answered; nothing of these is put in the queue. Any other `POST` is
    answered 200 only after its body was put in the queue, which happens once. What was
    put in the queue is all that requests put there; the collector takes it out in
    order, and each body that it put in the batch is there once, or was harvested. Once
    the pipeline is drained nothing is left in the queue or in the collector's hand.

    It can always be drained in the end, and before that every request whose body can
    be read can be answered. The happenings around a life and its draining are among
    the schedules. -/
theorem every_schedule_delivers_once (harvester : Harvester) (ticks : Nat)
    (hcollects : harvester.collects = true) {pipeline : Pipeline}
    (hrun : Run harvester (.start ticks) pipeline) :
    (∀ connection ∈ pipeline.connections, ∀ request ∈ connection.requests,
      match Http.readLine (Http.requestLine request.push.method request.push.target) with
      | .error fault => request.moments <+: [.answered fault.status]
      | .ok method =>
        if method ≠ Bytes.ofText "POST" then request.moments <+: [.answered 405]
        else match request.push.body with
          | none => request.moments = []
          | some [] => request.moments <+: [.answered 200]
          | some (octet :: rest) =>
            request.moments <+: [.queued (octet :: rest), .answered 200]) ∧
    (pipeline.deeds.filterMap Deed.queued?).Perm
      (pipeline.connections.flatMap Connection.queued) ∧
    pipeline.deeds.filterMap Deed.collected? ++ pipeline.pending
      = pipeline.deeds.filterMap Deed.queued? ∧
    ((pipeline.deeds.flatMap Deed.taken ++ pipeline.batch.invocations).flatMap
      Invocation.chunks).Perm (pipeline.deeds.filterMap Deed.collected?) ∧
    (∀ requestId, chunksUnder requestId (pipeline.deeds.flatMap Deed.taken)
        ++ chunksUnder requestId pipeline.batch.invocations
      = filedUnder requestId (filings [] (operationsOf true pipeline.deeds))) ∧
    (pipeline.Drained → pipeline.pending = [] ∧
      pipeline.deeds.filterMap Deed.collected? = pipeline.deeds.filterMap Deed.queued? ∧
      ∀ connection ∈ pipeline.connections, connection.isOpen = false) ∧
    (∃ drained, Run harvester pipeline drained ∧ drained.Drained) ∧
    (∀ before past push moments phase after,
      pipeline.connections = before ++ ⟨past, some (⟨push, moments⟩, phase), true⟩ :: after →
      push.errand ≠ .lose →
      ∃ next, Run harvester pipeline next ∧ next.connections
        = before ++ ⟨past ++ [⟨push, push.course⟩], none, true⟩ :: after) ∧
    ∀ (life : Lifecycle) (state : State) (reading : Reading), life.harvester = harvester →
      pipeline.Mirrors state →
      (∀ happenings, ∃ next, Run harvester pipeline next ∧
        next.Mirrors (life.undergoAll reading state happenings)) ∧
      ∃ drained, Run harvester pipeline drained ∧ drained.Drained ∧
        drained.batch = (life.drain reading state).harvest.batch := by
  have hsound := (sound_start harvester ticks).run hrun
  have hchunks : ∀ requestId, chunksUnder requestId (pipeline.deeds.flatMap Deed.taken)
        ++ chunksUnder requestId pipeline.batch.invocations
      = filedUnder requestId (filings [] (operationsOf true pipeline.deeds)) := by
    have haccounted := hsound.accounted.balanced.chunks
    rwa [hcollects] at haccounted
  refine ⟨?_, hsound.queued, hsound.accounted.queue, ?_, hchunks, ?_, hsound.exists_drained,
    ?_, ?_⟩
  · intro connection hconnection request hrequest
    exact ((hsound.orderly connection hconnection).requests request hrequest).cases
  · rw [← map_snd_filings pipeline.deeds []]
    refine Batch.perm_of_chunksUnder fun requestId => ?_
    rw [chunksUnder_append]
    exact hchunks requestId
  · intro hdrained
    obtain ⟨-, hpending, hclosed⟩ := hsound.senders hdrained.isTaken
    refine ⟨hpending, ?_, hclosed⟩
    rw [← hsound.accounted.queue, hpending, List.append_nil]
  · intro before past push moments phase after hplace hreadable
    exact hsound.exists_answer hplace hreadable
  · rintro life state reading rfl hmirrors
    refine ⟨fun happenings => hmirrors.exists_undergoAll reading happenings hsound, ?_⟩
    exact hmirrors.exists_drain hsound reading

/-- A push of one octet. -/
def firstPush : Push := ⟨"POST", "/", some [120]⟩

/-- A push that is refused for its method. -/
def refusedPush : Push := ⟨"GET", "/", some []⟩

/-- A push of another octet. -/
def secondPush : Push := ⟨"POST", "/", some [121]⟩

/-- Two connections that have ended: one delivered the first push, and the other the second one
    after it was refused another. -/
def mixedConnections : List Connection :=
  [⟨[⟨firstPush, [.queued [120], .answered 200]⟩], none, false⟩,
    ⟨[⟨refusedPush, [.answered 405]⟩, ⟨secondPush, [.queued [121], .answered 200]⟩], none, false⟩]

section

variable (harvester : Harvester)

/-- Both connections are open, and have a request that was looked at. -/
def mixedOpened : Pipeline :=
  { start 0 with
    connections :=
      [⟨[], some (⟨firstPush, []⟩, .sending [120]), true⟩,
        ⟨[], some (⟨refusedPush, []⟩, .answering 405), true⟩] }

/-- The batch once the first body was collected. -/
def mixedBatch : Batch := (harvester.collect (.fresh 0) ⟨0, 0⟩ [120]).1

/-- The first body is in the batch, one request was refused and another has come. -/
def mixedHalfway : Pipeline :=
  ⟨.serving,
    [⟨[], some (⟨firstPush, [.queued [120]]⟩, .answering 200), true⟩,
      ⟨[⟨refusedPush, [.answered 405]⟩], some (⟨secondPush, []⟩, .sending [121]), true⟩],
    [], none, true, mixedBatch harvester,
    [.received firstPush (.answered 200), .collected [120]]⟩

/-- The listener was told to stop, and all requests are answered. The second body is queued. -/
def mixedStopping : Pipeline :=
  ⟨.stopping, mixedConnections, [[121]], none, true, mixedBatch harvester,
    [.received firstPush (.answered 200), .collected [120],
      .received secondPush (.answered 200)]⟩

/-- Everything is in the batch, and the collector has ended. -/
def mixedDrained : Pipeline :=
  ⟨.stopped, mixedConnections, [], none, false,
    (harvester.collect (mixedBatch harvester) ⟨0, 0⟩ [121]).1,
    [.received firstPush (.answered 200), .collected [120],
      .received secondPush (.answered 200), .collected [121]]⟩

theorem errand_firstPush : firstPush.errand = .deliver [120] := by decide +kernel

theorem errand_refusedPush : refusedPush.errand = .answer 405 := by decide +kernel

theorem errand_secondPush : secondPush.errand = .deliver [121] := by decide +kernel

theorem run_mixedOpened : Run harvester (start 0) mixedOpened :=
  .head (.connect _ rfl) <| .head (.connect _ rfl) <|
  .head (.act _ [] [.fresh] _ _ rfl (.arrive [] firstPush)) <|
  .head (.act _ [_] [] _ _ rfl (.arrive [] refusedPush)) <|
  .head (.act _ [] [_] _ _ rfl (.read [] firstPush [] [120] errand_firstPush)) <|
  .single (.act _ [_] [] _ _ rfl (.settle [] refusedPush [] 405 errand_refusedPush))

/-- The refusal comes between the two deliveries, and so does the collecting of the first
    body. -/
theorem run_mixedHalfway : Run harvester mixedOpened (mixedHalfway harvester) :=
  .head (.put _ [] [_] _ _ firstPush [120] rfl (.send [] firstPush [] [120] rfl) (by decide)) <|
  .head (.act _ [_] [] _ _ rfl (.answer [] refusedPush [] 405)) <|
  .head (.fetch _ [120] [] rfl rfl rfl) <|
  .head (.act _ [_] [] _ _ rfl (.arrive [⟨refusedPush, [.answered 405]⟩] secondPush)) <|
  .head (.file _ ⟨0, 0⟩ [120] rfl) <|
  .single (.act _ [_] [] _ _ rfl
    (.read [⟨refusedPush, [.answered 405]⟩] secondPush [] [121] errand_secondPush))

theorem run_mixedStopping : Run harvester (mixedHalfway harvester) (mixedStopping harvester) := by
  have hroom : ([] : List Bytes).length < Listener.capacity := by decide
  exact
    .head (.put _ [_] [] _ _ secondPush [121] rfl
      (.send [⟨refusedPush, [.answered 405]⟩] secondPush [] [121] rfl) hroom) <|
    .head (.act _ [] [_] _ _ rfl (.answer [] firstPush [.queued [120]] 200)) <|
    .head (.stop _ rfl) <|
    .head (.act _ [_] [] _ _ rfl
      (.answer [⟨refusedPush, [.answered 405]⟩] secondPush [.queued [121]] 200)) <|
    .head (.act _ [] [_] _ _ rfl (.close [⟨firstPush, [.queued [120], .answered 200]⟩] none)) <|
    .single (.act _ [_] [] _ _ rfl (.close _ none))

theorem run_mixedDrained : Run harvester (mixedStopping harvester) (mixedDrained harvester) :=
  .head (.fetch _ [121] [] rfl rfl rfl) <|
  .head (.stopped _ rfl (by simp [mixedStopping, mixedConnections])) <|
  .head (.file _ ⟨0, 0⟩ [121] rfl) <|
  .single (.finish _ rfl (by simp [mixedStopping, mixedConnections]) rfl)

/-- The two connections can be served side by side, until the pipeline is drained. -/
theorem run_mixed : Run harvester (start 0) (mixedDrained harvester) :=
  (((run_mixedOpened harvester).trans (run_mixedHalfway harvester)).trans
    (run_mixedStopping harvester)).trans (run_mixedDrained harvester)

theorem queued_mixedDrained :
    (mixedDrained harvester).deeds.filterMap Deed.queued? = [[120], [121]] := by
  have hfirst : (Deed.received firstPush (.answered 200)).queued? = some [120] := by
    simp [Deed.queued?, Push.delivery?, errand_firstPush]
  have hsecond : (Deed.received secondPush (.answered 200)).queued? = some [121] := by
    simp [Deed.queued?, Push.delivery?, errand_secondPush]
  unfold mixedDrained
  rw [List.filterMap_cons_some hfirst, List.filterMap_cons_none rfl,
    List.filterMap_cons_some hsecond, List.filterMap_cons_none rfl, List.filterMap_nil]

end

/-- After this schedule each body that was queued has gone through the collector, in the order
    of the queue. -/
theorem mixed_schedule_delivers_once :
    briefLife.harvester.collects = true ∧
    ∃ pipeline, Run briefLife.harvester (.start 0) pipeline ∧ pipeline.Drained ∧
      pipeline.connections = mixedConnections ∧ pipeline.pending = [] ∧
      pipeline.deeds.filterMap Deed.collected? = [[120], [121]] := by
  have hrun := run_mixed briefLife.harvester
  obtain ⟨-, -, -, -, -, hended, -, -, -⟩ :=
    every_schedule_delivers_once briefLife.harvester 0 rfl hrun
  obtain ⟨hpending, hcollected, -⟩ := hended ⟨rfl, rfl⟩
  exact ⟨rfl, _, hrun, ⟨rfl, rfl⟩, rfl, hpending,
    hcollected.trans (queued_mixedDrained briefLife.harvester)⟩

end Pipeline

end Session

end TelemetryRelay
