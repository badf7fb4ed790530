import TelemetryRelay.Proofs.Http.Exchanges
import TelemetryRelay.Proofs.Session.Accounting

/-! # From the first invocation to shutting down

    A life that is told of invocations and then to shut down does the same in every
    such round, whatever becomes of its dispatches. This module shows

    - that a poll which brings an event leaves one mark, however often it is sent on,
    - what a round leaves in the record, mark by mark, and in which order,
    - what a life from its first invocation to shutting down leaves there,
    - that two lives with different networks, keys and dispatchers do the same with
      their queues and batches as long as they are told the same.
-/

namespace TelemetryRelay

namespace Session

open Host (Event)
open Ingest (Cancellation Harvester)
open Telemetry (Batch Identity Invocation Reading)
open Telemetry.Batch (chunksUnder filedUnder filings)

/-! ## Section 1: Polls that bring events -/

namespace Lifecycle

variable {life : Lifecycle} {state : State} {round : Round}

theorem answer_of_toOption {event : Event} (h : (life.answer state).toOption = some event) :
    life.answer state = .ok event := by
  cases hanswer : life.answer state with
  | error error => rw [hanswer] at h; cases h
  | ok other => rw [hanswer] at h; cases h; rfl

/-- A poll that brings an event was answered. -/
theorem answered_of_ok {event : Event} (h : life.answer state = .ok event) :
    ∃ response, (life.poll state).fate = .answered response := by
  unfold answer Host.Link.eventOf Host.successOf at h
  cases hfate : (life.poll state).fate with
  | answered response => exact ⟨response, rfl⟩
  | failed error => simp [hfate, Http.Fate.await, Except.bind] at h
  | silent url => simp [hfate, Http.Fate.await, Except.bind] at h
  | cancelling => simp [hfate, Http.Fate.await, Except.bind] at h

/-- A poll that brings an event is one deed that polls, and what it was sent on as. -/
theorem made_poll {event : Event} (h : life.answer state = .ok event) :
    ∃ (request : Http.Request) (more : List Http.Request),
      Deed.ofPoll (life.poll state).made = .polled request :: more.map .pursued := by
  obtain ⟨response, hfate⟩ := answered_of_ok h
  -- the host is asked by plain http, so there is no tunnel to open before
  have hurl : (life.link.pollDraft life.identifier).url
      = "http://" ++ (life.link.authority ++ "/2020-01-01/extension/event/next") :=
    String.append_assoc ..
  rcases Http.made_exchange_plain life.link.client life.network state.history hurl with
    ⟨url, request, more, -, -, hmade⟩ | ⟨-, -, error, hfailed⟩
  · exact ⟨request, more, congrArg Deed.ofPoll hmade⟩
  · exact nomatch hfailed.symm.trans hfate

/-- A round that brings an event, and after which the life is not cancelled, handles
    it. -/
theorem turn_hears {event : Event} (h : life.answer state = .ok event)
    (hcancelled : (life.turn state round).1.cancelled = false) :
    life.turn state round = life.handle round (life.awaited round state) event := by
  obtain ⟨response, hfate⟩ := answered_of_ok h
  have hturn := turn_turn life round state
  generalize life.turn state round = result at hturn hcancelled
  cases hturn with
  | skips hskips =>
    -- a life that leaves stays as cancelled as it was
    have hleft : state.cancelled = false := hcancelled
    rw [hskips] at hleft
    cases hleft
  | breaks hbreaks => cases hcancelled
  | waits url hsilent => rw [hfate] at hsilent; cases hsilent
  | fails error _ herror => rw [h] at herror; cases herror
  | hears other _ hother =>
    rw [h] at hother
    cases hother
    rfl

/-- Being cancelled is never taken back. -/
theorem cancelled_run (rounds : List Round) (h : state.cancelled = true) :
    (life.run state rounds).1.cancelled = true := by
  cases rounds with
  | nil => exact h
  | cons round rest =>
    rw [Lifecycle.run, turn_cancelled life state round h]
    exact h

/-- A life that is not cancelled in the end is not cancelled after its first round. -/
theorem cancelled_turn (rest : List Round)
    (h : (life.run state (round :: rest)).1.cancelled = false) :
    (life.turn state round).1.cancelled = false := by
  unfold Lifecycle.run at h
  split at h
  · next ended ending hturn =>
    rw [hturn]
    exact h
  · next next hturn =>
    -- were it cancelled now, it would be so in the end
    rw [hturn]
    cases hnext : next.cancelled with
    | false => rfl
    | true => rw [cancelled_run rest hnext] at h; cases h

end Lifecycle

/-! ## Section 2: Marks -/

/-- What a deed is in the course of events. -/
inductive Mark where
  | polled
  | received (push : Push)
  | registered (requestId : String)
  | drained
  | harvested (force : Bool) (identity : Identity)
deriving DecidableEq, Repr

/-- The mark that a deed leaves. -/
def Deed.mark? : Deed → Option Mark
  | .polled _ => some .polled
  | .received push _ => some (.received push)
  | .registered requestId _ => some (.registered requestId)
  | .drained => some .drained
  | .harvested force identity _ => some (.harvested force identity)
  | _ => none

/-- The marks that deeds leave, in order. -/
def marksOf (deeds : List Deed) : List Mark := deeds.filterMap Deed.mark?

/-- The mark that a happening leaves. -/
def Happening.mark? : Happening → Option Mark
  | .pushed push => some (.received push)
  | _ => none

/-- The marks that happenings leave, in order. -/
def pushesOf (happenings : List Happening) : List Mark := happenings.filterMap Happening.mark?

theorem marksOf_append (deeds more : List Deed) :
    marksOf (deeds ++ more) = marksOf deeds ++ marksOf more := List.filterMap_append

/-- The marks of a life so far. -/
def State.marks (state : State) : List Mark := marksOf state.deeds

namespace State

theorem marks_perform (state : State) (deeds : List Deed) :
    (state.perform deeds).marks = state.marks ++ marksOf deeds := marksOf_append _ _

/-- The marks that came after some deeds are those of the deeds since. -/
theorem marksOf_since {state : State} {base since : List Deed} {marks : List Mark}
    (hdeeds : state.deeds = base ++ since) (hmarks : state.marks = marksOf base ++ marks) :
    marksOf since = marks := by
  rw [State.marks, hdeeds, marksOf_append] at hmarks
  exact List.append_cancel_left hmarks

/-- Notices leave no mark. -/
@[simp] theorem marks_tell (state : State) (notices : List Log.Notice) :
    (state.tell notices).marks = state.marks := by
  have hnone : marksOf (notices.map Deed.told) = [] := by
    simp [marksOf, Deed.mark?]
  rw [tell, marks_perform, hnone, List.append_nil]

end State

namespace Lifecycle

variable {life : Lifecycle} {state : State} {round : Round}

theorem marks_collect (reading : Reading) (state : State) :
    (life.collect reading state).marks = state.marks := by
  unfold Lifecycle.collect
  split
  · rfl
  · next body listener htake =>
    rw [State.marks_tell, State.marks_perform]
    exact List.append_nil _

/-- A happening leaves its mark. -/
theorem marks_undergo (reading : Reading) (state : State) (happening : Happening) :
    (life.undergo reading state happening).marks
      = state.marks ++ happening.mark?.toList := by
  cases happening with
  | pushed push =>
    show State.marks (State.tell (State.perform _ _) _) = _
    rw [State.marks_tell, State.marks_perform]
    rfl
  | collected =>
    show (life.collect reading state).marks = state.marks ++ []
    rw [marks_collect, List.append_nil]
  | signalled termination =>
    show State.marks (State.tell _ _) = state.marks ++ []
    rw [State.marks_tell, List.append_nil]
    rfl

/-- Happenings leave their marks, and do not change the name of the function. -/
theorem marks_undergoAll (reading : Reading) (happenings : List Happening) :
    ∀ state : State,
      (life.undergoAll reading state happenings).marks = state.marks ++ pushesOf happenings := by
  -- for every state, since each happening changes the one that the others start from
  induction happenings with
  | nil => exact fun state => (List.append_nil _).symm
  | cons happening rest ih =>
    intro state
    show (life.undergoAll reading (life.undergo reading state happening) rest).marks = _
    rw [ih, marks_undergo, List.append_assoc, pushesOf, pushesOf, List.filterMap_cons]
    cases happening.mark? <;> rfl

theorem arn_undergoAll (reading : Reading) (happenings : List Happening) :
    ∀ state : State, (life.undergoAll reading state happenings).arn = state.arn := by
  induction happenings with
  | nil => exact fun _ => rfl
  | cons happening rest ih =>
    intro state
    refine (ih _).trans ?_
    cases happening with
    | pushed push => rfl
    | collected =>
      show (life.collect reading state).arn = state.arn
      unfold Lifecycle.collect
      split <;> rfl
    | signalled termination => rfl

theorem marks_dispatch (reading : Reading) (cancellation : Cancellation) (force : Bool)
    (state : State) :
    (life.dispatch reading cancellation force state).marks
      = state.marks ++ [.harvested force ⟨life.functionName, state.arn⟩] := by
  unfold Lifecycle.dispatch
  simp only
  generalize life.harvester.dispatch state.harvest reading life.network state.history
    cancellation life.ids ⟨life.functionName, state.arn⟩ force = run
  have hmade : marksOf (run.cycle.made.map Deed.made) = [] := by simp [marksOf, Deed.mark?]
  rw [State.marks_tell, State.marks_perform]
  show state.marks ++ (_ :: marksOf (run.cycle.made.map Deed.made)) = _
  rw [hmade]

theorem marks_drain (reading : Reading) (state : State) :
    (life.drain reading state).marks = state.marks ++ [.drained] := by
  have hnone : marksOf (state.listener.pending.map Deed.collected) = [] := by
    simp [marksOf, Deed.mark?]
  unfold Lifecycle.drain
  rw [State.marks_perform, State.marks_tell, State.marks_perform, hnone, List.append_nil]
  rfl

theorem marks_register (reading : Reading) (requestId arn : String) (state : State) :
    (register reading requestId arn state).marks = state.marks ++ [.registered requestId] :=
  State.marks_perform _ _

/-- An invocation is registered first, and then what is due is harvested. -/
theorem marks_invoke (round : Round) (requestId arn : String) (state : State) :
    (life.invoke round requestId arn state).marks
      = state.marks ++ .registered requestId :: pushesOf round.meanwhile
        ++ [.harvested false ⟨life.functionName, arn⟩] := by
  unfold Lifecycle.invoke
  simp only
  rw [marks_dispatch, marks_undergoAll, marks_register, arn_undergoAll]
  simp [register, State.perform]

/-- Shutting down in time, without being cancelled, moves everything into the batch and
    then harvests it. -/
theorem shutDown_inTime (life : Lifecycle) (state : State) (reason : String) {deadline : Int}
    (hcancelled : (life.shutDown round reason deadline state).cancelled = false)
    (htime : round.stopping ≤ shutdownBudget deadline round.reading.now) :
    life.shutDown round reason deadline state
      = (life.dispatch round.reading
          (.after (shutdownBudget deadline round.reading.now - round.stopping)) true
          (life.drain round.reading (life.warned round reason state))).tell [.shutDown] := by
  rw [shutDown_eq] at hcancelled ⊢
  cases hwarned : (life.warned round reason state).cancelled with
  | false =>
    rw [Bool.false_or, if_neg (by simpa using htime)]
  | true =>
    -- it would give up draining, and the dispatch would leave it cancelled
    rw [hwarned, Bool.true_or, if_pos rfl] at hcancelled
    have hleft : ((life.warned round reason state).cancelled || _) = false := hcancelled
    rw [hwarned] at hleft
    cases hleft

/-- It leaves its marks, and nothing in the queue or the batch. -/
theorem marks_shutDown (life : Lifecycle) (state : State) (reason : String) {deadline : Int}
    (hcancelled : (life.shutDown round reason deadline state).cancelled = false)
    (htime : round.stopping ≤ shutdownBudget deadline round.reading.now) :
    (life.shutDown round reason deadline state).marks
        = state.marks ++ pushesOf round.meanwhile
          ++ [.drained, .harvested true ⟨life.functionName, state.arn⟩] ∧
      (life.shutDown round reason deadline state).harvest.batch.invocations = [] ∧
      (life.shutDown round reason deadline state).harvest.batch.octets = 0 ∧
      (life.shutDown round reason deadline state).listener.pending = [] := by
  have harn : (life.warned round reason state).arn = state.arn := arn_undergoAll _ _ _
  have hmarks : (life.warned round reason state).marks
      = state.marks ++ pushesOf round.meanwhile := by
    rw [warned, marks_undergoAll, State.marks_tell]
  rw [life.shutDown_inTime state reason hcancelled htime]
  refine ⟨?_, rfl, rfl, rfl⟩
  rw [State.marks_tell, marks_dispatch, marks_drain, hmarks, List.append_assoc _ [_] [_], ← harn]
  rfl

/-- A poll that brings an event leaves one mark, and what happens meanwhile its own. -/
theorem marks_awaited {event : Event} (h : life.answer state = .ok event) (round : Round) :
    (life.awaited round state).marks
      = state.marks ++ .polled :: pushesOf round.happenings := by
  obtain ⟨request, more, hmade⟩ := made_poll h
  have hmark : marksOf (Deed.ofPoll (life.poll state).made) = [.polled] := by
    rw [hmade]
    simp [marksOf, Deed.mark?]
  unfold Lifecycle.awaited
  rw [marks_undergoAll, State.marks_perform, State.marks_tell, hmark, List.append_assoc]
  rfl

end Lifecycle

/-! ## Section 3: A life that is told of calls -/

/-- An invocation as the host announces it. -/
structure Call where
  deadline : Int
  requestId : String
  arn : String
deriving DecidableEq, Repr

/-- The event that announces a call. -/
def Call.event (call : Call) : Event := .invoke call.deadline call.requestId call.arn

/-- The marks of a round that brings a call: it polls, registers the invocation and then
    harvests what is due. -/
def callMarks (functionName : String) (visit : Round × Call) : List Mark :=
  .polled :: pushesOf visit.1.happenings
    ++ .registered visit.2.requestId :: pushesOf visit.1.meanwhile
    ++ [.harvested false ⟨functionName, visit.2.arn⟩]

/-- The marks of the round in which the host shuts down: it polls, moves everything into
    the batch and then harvests all of it. -/
def closingMarks (functionName arn : String) (round : Round) : List Mark :=
  .polled :: pushesOf round.happenings ++ pushesOf round.meanwhile
    ++ [.drained, .harvested true ⟨functionName, arn⟩]

/-- The resource name that the latest call gave; `arn` if there is no call. -/
def latestArn (arn : String) (visits : List (Round × Call)) : String :=
  (visits.getLast?.map fun visit => visit.2.arn).getD arn

theorem latestArn_cons (arn : String) (visit : Round × Call) (rest : List (Round × Call)) :
    latestArn arn (visit :: rest) = latestArn visit.2.arn rest := by
  unfold latestArn
  rw [List.getLast?_cons]
  cases rest.getLast? <;> rfl

namespace Lifecycle

/-- The events that the polls of a life bring, for as long as it goes on: one for each poll
    that it comes to. -/
def heard (life : Lifecycle) : State → List Round → List (Option Event)
  | _, [] => []
  | state, round :: rest =>
    (life.answer state).toOption ::
      match life.turn state round with
      | (_, some _) => []
      | (next, none) => life.heard next rest

/-- The events that the host has for a life: the calls, and then that it shuts down. -/
def eventsOf (visits : List (Round × Call)) (reason : String) (deadline : Int) :
    List (Option Event) :=
  (visits.map fun visit => some visit.2.event) ++ [some (.shutdown reason deadline)]

/-- A life that nothing disturbs: the polls it comes to bring calls, one in each round, and at
    last that the host shuts down, with enough time to stop the listener in. It is not
    cancelled up to its end. Whether it comes to all of these polls is left open. -/
structure Undisturbed (life : Lifecycle) (state : State) (visits : List (Round × Call))
    (last : Round) (reason : String) (deadline : Int) : Prop where
  heard : life.heard state (visits.map Prod.fst ++ [last])
    <+: eventsOf visits reason deadline
  cancelled : (life.run state (visits.map Prod.fst ++ [last])).1.cancelled = false
  inTime : last.stopping ≤ shutdownBudget deadline last.reading.now

variable {life : Lifecycle} {state : State} {visits : List (Round × Call)} {last : Round}
  {reason : String} {deadline : Int}

/-- The state after a round that brings a call. -/
def called (life : Lifecycle) (visit : Round × Call) (state : State) : State :=
  life.invoke visit.1 visit.2.requestId visit.2.arn
    ((life.awaited visit.1 state).tell [.received visit.2.event.describe])

/-- The state after the round in which the host shuts down. -/
def closed (life : Lifecycle) (round : Round) (reason : String) (deadline : Int)
    (state : State) : State :=
  life.shutDown round reason deadline
    ((life.awaited round state).tell [.received (Event.shutdown reason deadline).describe])

/-- **Step**: an undisturbed life that is told of a call goes on undisturbed. -/
theorem Undisturbed.next {visit : Round × Call}
    (h : life.Undisturbed state (visit :: visits) last reason deadline) :
    life.answer state = .ok visit.2.event ∧
      life.turn state visit.1 = (life.called visit state, none) ∧
      life.Undisturbed (life.called visit state) visits last reason deadline := by
  have hheard := h.heard
  rw [List.map_cons, List.cons_append, eventsOf, List.map_cons, List.cons_append,
    Lifecycle.heard, List.cons_prefix_cons] at hheard
  obtain ⟨hfirst, hrest⟩ := hheard
  have hanswer := answer_of_toOption hfirst
  -- a life that is not cancelled in the end was not cancelled in this round
  have hcancelled := h.cancelled
  have hgoes := cancelled_turn _ hcancelled
  have hcalled : life.turn state visit.1 = (life.called visit state, none) :=
    turn_hears hanswer hgoes
  rw [List.map_cons, List.cons_append, Lifecycle.run, hcalled] at hcancelled
  rw [hcalled] at hrest
  exact ⟨hanswer, hcalled, hrest, hcancelled, h.inTime⟩

/-- **Step**: an undisturbed life that is told of nothing else shuts down. -/
theorem Undisturbed.close (h : life.Undisturbed state [] last reason deadline) :
    life.answer state = .ok (.shutdown reason deadline) ∧
      life.turn state last = (life.closed last reason deadline state, some .finished) ∧
      (life.closed last reason deadline state).cancelled = false := by
  have hheard := h.heard
  rw [List.map_nil, List.nil_append, eventsOf, List.map_nil, List.nil_append,
    Lifecycle.heard, List.cons_prefix_cons] at hheard
  have hanswer := answer_of_toOption hheard.1
  have hcancelled := cancelled_turn _ h.cancelled
  have hturn : life.turn state last = (life.closed last reason deadline state, some .finished) :=
    turn_hears hanswer hcancelled
  rw [hturn] at hcancelled
  exact ⟨hanswer, hturn, hcancelled⟩

/-- **Run**: an undisturbed life comes to all of its polls. -/
theorem Undisturbed.heard_eq :
    ∀ {visits : List (Round × Call)} {state : State},
      life.Undisturbed state visits last reason deadline →
      life.heard state (visits.map Prod.fst ++ [last]) = eventsOf visits reason deadline
  | [], state, h => by
    obtain ⟨hanswer, hturn, -⟩ := h.close
    show life.heard state [last] = [some (.shutdown reason deadline)]
    rw [Lifecycle.heard, hanswer, hturn]
    rfl
  | visit :: visits, state, h => by
    obtain ⟨hanswer, hturn, hnext⟩ := h.next
    rw [List.map_cons, List.cons_append, Lifecycle.heard, hanswer, hturn]
    exact congrArg (some visit.2.event :: ·) hnext.heard_eq

/-- A call leaves its marks, and gives the resource name. -/
theorem marks_called {visit : Round × Call} (h : life.answer state = .ok visit.2.event) :
    (life.called visit state).marks
        = state.marks ++ callMarks life.functionName visit ∧
      (life.called visit state).arn = visit.2.arn := by
  constructor
  · unfold called
    rw [marks_invoke, State.marks_tell, marks_awaited h]
    simp [callMarks]
  · exact arn_undergoAll _ _ _

theorem arn_awaited (round : Round) (state : State) :
    (life.awaited round state).arn = state.arn := arn_undergoAll _ _ _

/-- **Run**: an undisturbed life leaves the marks of its calls and of shutting down, and
    nothing in the queue or the batch. -/
theorem Undisturbed.run :
    ∀ {visits : List (Round × Call)} {state : State},
      life.Undisturbed state visits last reason deadline →
      let result := life.run state (visits.map Prod.fst ++ [last])
      result.2 = .finished ∧
        result.1.marks = state.marks ++ visits.flatMap (callMarks life.functionName)
          ++ closingMarks life.functionName (latestArn state.arn visits) last ∧
        result.1.harvest.batch.invocations = [] ∧ result.1.harvest.batch.octets = 0 ∧
        result.1.listener.pending = []
  | [], state, h => by
    obtain ⟨hanswer, hturn, hcancelled⟩ := h.close
    have hrun : life.run state [last] = (life.closed last reason deadline state, .finished) := by
      rw [Lifecycle.run, hturn]
    have hclosed := life.marks_shutDown
      ((life.awaited last state).tell [.received (Event.shutdown reason deadline).describe])
      reason hcancelled h.inTime
    intro result
    have hresult : result = (life.closed last reason deadline state, .finished) := hrun
    rw [hresult]
    refine ⟨rfl, ?_, hclosed.2⟩
    refine hclosed.1.trans ?_
    rw [State.marks_tell, marks_awaited hanswer]
    simp [closingMarks, latestArn, arn_awaited, State.tell, State.perform]
  | visit :: visits, state, h => by
    obtain ⟨hanswer, hturn, hnext⟩ := h.next
    have hrun : life.run state (visit.1 :: (visits.map Prod.fst ++ [last]))
        = life.run (life.called visit state) (visits.map Prod.fst ++ [last]) := by
      rw [Lifecycle.run, hturn]
    intro result
    have hresult : result
        = life.run (life.called visit state) (visits.map Prod.fst ++ [last]) := hrun
    obtain ⟨hending, hmarks, hempty⟩ := hnext.run
    obtain ⟨hcalled, harn⟩ := marks_called hanswer
    rw [hresult]
    refine ⟨hending, ?_, hempty⟩
    rw [hmarks, hcalled, harn, latestArn_cons, List.flatMap_cons, List.append_assoc state.marks]

end Lifecycle

/-! ## Section 4: Lives that differ outside -/

/-- The deeds that concern the queue or the batch. -/
def busyOf (deeds : List Deed) : List Deed := deeds.filter fun deed => !deed.isQuiet

theorem busyOf_append (deeds more : List Deed) :
    busyOf (deeds ++ more) = busyOf deeds ++ busyOf more := List.filter_append _ _

theorem busyOf_quiet {deeds : List Deed} (h : ∀ deed ∈ deeds, deed.isQuiet = true) :
    busyOf deeds = [] := by
  rw [busyOf, List.filter_eq_nil_iff]
  intro deed hmem
  simp [h deed hmem]

/-- Two lives that treat queue and batch alike. Their networks, keys, ids and
    dispatchers may differ. -/
structure Lifecycle.Alike (life other : Lifecycle) : Prop where
  functionName : other.functionName = life.functionName
  thresholds : other.harvester.thresholds = life.harvester.thresholds
  collects : other.harvester.collects = life.harvester.collects

/-- **Agreement**: two states with the same queue, batch and resource name, which were
    reached from some deeds by the same deeds, but for quiet ones. -/
structure Agree (base base' : List Deed) (state other : State) : Prop where
  batch : other.harvest.batch = state.harvest.batch
  listener : other.listener = state.listener
  arn : other.arn = state.arn
  deeds : ∃ common, busyOf state.deeds = busyOf base ++ common ∧
    busyOf other.deeds = busyOf base' ++ common

section

variable {life other : Lifecycle} {base base' : List Deed} {state state' : State}

theorem Agree.start (base base' : List Deed) (keyring keyring' : Credential.Keyring) (ticks : Nat) :
    Agree base base' (.start (.start keyring ticks) base)
      (.start (.start keyring' ticks) base') :=
  ⟨rfl, rfl, rfl, [], (List.append_nil _).symm, (List.append_nil _).symm⟩

theorem Agree.perform (h : Agree base base' state state') {deeds deeds' : List Deed}
    (hsame : busyOf deeds' = busyOf deeds) :
    Agree base base' (state.perform deeds) (state'.perform deeds') := by
  obtain ⟨common, hdeeds, hdeeds'⟩ := h.deeds
  refine ⟨h.batch, h.listener, h.arn, common ++ busyOf deeds, ?_, ?_⟩
  · rw [State.perform, busyOf_append, hdeeds, List.append_assoc]
  · rw [State.perform, busyOf_append, hdeeds', hsame, List.append_assoc]

theorem Agree.tell (h : Agree base base' state state') (notices notices' : List Log.Notice) :
    Agree base base' (state.tell notices) (state'.tell notices') := by
  refine h.perform ?_
  rw [busyOf_quiet (isQuiet_told _), busyOf_quiet (isQuiet_told _)]

/-- What becomes of bodies depends only on what two lives that are alike share. -/
theorem Lifecycle.Alike.collect (h : life.Alike other) (batch : Batch) (reading : Reading)
    (body : Bytes) :
    other.harvester.collect batch reading body = life.harvester.collect batch reading body := by
  unfold Harvester.collect
  rw [h.collects, h.thresholds]

theorem Lifecycle.Alike.collectAll (h : life.Alike other) (reading : Reading) :
    ∀ (bodies : List Bytes) (batch : Batch),
      other.harvester.collectAll reading batch bodies
        = life.harvester.collectAll reading batch bodies
  | [], _ => rfl
  | body :: rest, batch => by
    unfold Harvester.collectAll
    rw [h.collect]
    simp only [Lifecycle.Alike.collectAll h reading rest]

theorem Agree.undergo (h : Agree base base' state state') (halike : life.Alike other)
    (reading : Reading) (happening : Happening) :
    Agree base base' (life.undergo reading state happening)
      (other.undergo reading state' happening) := by
  cases happening with
  | pushed push =>
    show Agree base base' (State.tell (State.perform _ [.received push _]) _)
      (State.tell (State.perform _ [.received push _]) _)
    rw [h.listener]
    refine Agree.tell (Agree.perform ?_ rfl) _ _
    exact ⟨h.batch, rfl, h.arn, h.deeds⟩
  | collected =>
    show Agree base base' (life.collect reading state) (other.collect reading state')
    unfold Lifecycle.collect
    rw [h.listener]
    cases htake : state.listener.take? with
    | none => exact h
    | some taken =>
      simp only [h.batch, halike.collect]
      refine Agree.tell (Agree.perform ?_ rfl) _ _
      exact ⟨rfl, rfl, h.arn, h.deeds⟩
  | signalled termination =>
    show Agree base base' (State.tell _ _) (State.tell _ _)
    refine Agree.tell ?_ _ _
    exact ⟨h.batch, h.listener, h.arn, h.deeds⟩

theorem Agree.undergoAll (h : Agree base base' state state') (halike : life.Alike other)
    (reading : Reading) (happenings : List Happening) :
    Agree base base' (life.undergoAll reading state happenings)
      (other.undergoAll reading state' happenings) := by
  induction happenings generalizing state state' with
  | nil => exact h
  | cons happening rest ih => exact ih (h.undergo halike reading happening)

theorem Agree.dispatch (h : Agree base base' state state') (halike : life.Alike other)
    (reading : Reading) (cancellation cancellation' : Cancellation) (force : Bool) :
    Agree base base' (life.dispatch reading cancellation force state)
      (other.dispatch reading cancellation' force state') := by
  show Agree base base' (State.tell (State.perform _ _) _) (State.tell (State.perform _ _) _)
  refine Agree.tell (Agree.perform ?_ ?_) _ _
  · refine ⟨?_, h.listener, h.arn, h.deeds⟩
    show (state'.harvest.batch.harvest other.harvester.thresholds reading force).batch = _
    rw [h.batch, halike.thresholds]
    rfl
  · -- what is dispatched is the same, whatever becomes of it
    have hmade : ∀ requests : List Http.Request, busyOf (requests.map Deed.made) = [] :=
      fun requests => busyOf_quiet (by simp [Deed.isQuiet])
    show (Deed.harvested force ⟨other.functionName, state'.arn⟩
      (state'.harvest.batch.harvest other.harvester.thresholds reading force).taken)
        :: busyOf (List.map Deed.made _) = _ :: busyOf (List.map Deed.made _)
    rw [hmade, hmade, h.batch, h.arn, halike.thresholds, halike.functionName]
    rfl

theorem Agree.drain (h : Agree base base' state state') (halike : life.Alike other)
    (reading : Reading) :
    Agree base base' (life.drain reading state) (other.drain reading state') := by
  unfold Lifecycle.drain
  simp only [h.listener, h.batch, halike.collectAll]
  refine Agree.perform (Agree.tell (Agree.perform ?_ rfl) _ _) rfl
  exact ⟨rfl, rfl, h.arn, h.deeds⟩

theorem Agree.awaited (h : Agree base base' state state') (halike : life.Alike other)
    (round : Round) :
    Agree base base' (life.awaited round state) (other.awaited round state') := by
  refine Agree.undergoAll ?_ halike round.reading round.happenings
  refine (h.tell _ _).perform ?_
  rw [busyOf_quiet (isQuiet_ofPoll _), busyOf_quiet (isQuiet_ofPoll _)]

theorem Agree.called (h : Agree base base' state state') (halike : life.Alike other)
    (visit : Round × Call) :
    Agree base base' (life.called visit state) (other.called visit state') := by
  have htold := (h.awaited halike visit.1).tell [.received visit.2.event.describe]
    [.received visit.2.event.describe]
  have hregistered : Agree base base'
      (Lifecycle.register visit.1.reading visit.2.requestId visit.2.arn
        ((life.awaited visit.1 state).tell [.received visit.2.event.describe]))
      (Lifecycle.register visit.1.reading visit.2.requestId visit.2.arn
        ((other.awaited visit.1 state').tell [.received visit.2.event.describe])) := by
    unfold Lifecycle.register
    rw [htold.batch]
    refine Agree.perform ?_ rfl
    exact ⟨rfl, htold.listener, rfl, htold.deeds⟩
  have hmeanwhile := hregistered.undergoAll halike visit.1.reading visit.1.meanwhile
  exact hmeanwhile.dispatch halike _ _ _ _

end

namespace Lifecycle

variable {life other : Lifecycle} {base base' : List Deed} {visits : List (Round × Call)}
  {last : Round} {reason : String} {deadline : Int}

theorem Undisturbed.closed_agree {state state' : State}
    (h : life.Undisturbed state [] last reason deadline)
    (h' : other.Undisturbed state' [] last reason deadline) (halike : life.Alike other)
    (hagree : Agree base base' state state') :
    Agree base base' (life.closed last reason deadline state)
      (other.closed last reason deadline state') := by
  have hclosed := life.shutDown_inTime _ reason h.close.2.2 h.inTime
  have hclosed' := other.shutDown_inTime _ reason h'.close.2.2 h.inTime
  unfold closed
  rw [hclosed, hclosed']
  -- both are told to shut down, drain, harvest and report that, in this order
  have hwarned := ((hagree.awaited halike last).tell
    [.received (Event.shutdown reason deadline).describe]
    [.received (Event.shutdown reason deadline).describe]).tell [.shuttingDown reason]
    [.shuttingDown reason]
  have hdrained := (hwarned.undergoAll halike last.reading last.meanwhile).drain halike last.reading
  exact (hdrained.dispatch halike _ _ _ _).tell _ _

/-- **Run**: two lives that are alike and are told the same do the same with their queues
    and batches. -/
theorem Undisturbed.agree (halike : life.Alike other) :
    ∀ {visits : List (Round × Call)} {state state' : State},
      life.Undisturbed state visits last reason deadline →
      other.Undisturbed state' visits last reason deadline →
      Agree base base' state state' →
      Agree base base' (life.run state (visits.map Prod.fst ++ [last])).1
        (other.run state' (visits.map Prod.fst ++ [last])).1
  | [], state, state', h, h', hagree => by
    show Agree base base' (life.run state [last]).1 (other.run state' [last]).1
    rw [Lifecycle.run, Lifecycle.run, h.close.2.1, h'.close.2.1]
    exact h.closed_agree h' halike hagree
  | visit :: visits, state, state', h, h', hagree => by
    obtain ⟨-, hturn, hnext⟩ := h.next
    obtain ⟨-, hturn', hnext'⟩ := h'.next
    rw [List.map_cons, List.cons_append, Lifecycle.run, Lifecycle.run, hturn, hturn']
    exact hnext.agree halike hnext' (hagree.called halike visit)

end Lifecycle

/-! ## Section 5: The whole life -/

theorem count_polled_pushesOf (happenings : List Happening) :
    (pushesOf happenings).count .polled = 0 := by
  rw [List.count_eq_zero, pushesOf, List.mem_filterMap]
  rintro ⟨happening, -, hmark⟩
  cases happening <;> cases hmark

/-- Every call is polled for once. -/
theorem count_polled_callMarks (functionName : String) (visits : List (Round × Call)) :
    (visits.flatMap (callMarks functionName)).count .polled = visits.length := by
  induction visits with
  | nil => rfl
  | cons visit rest ih =>
    rw [List.flatMap_cons, List.count_append, ih, List.length_cons]
    simp [callMarks, count_polled_pushesOf, Nat.add_comm]

theorem count_polled_closingMarks (functionName arn : String) (round : Round) :
    (closingMarks functionName arn round).count .polled = 1 := by
  simp [closingMarks, count_polled_pushesOf]

/-- **No loss**: a life that collects telemetry and that nothing disturbs ends by itself.
    It comes to a poll for each call and to one that tells it to shut down, and polls no
    more often. For each call it
    registers the invocation and then harvests what is due, under the resource name
    this call gave; at last it moves everything into the batch and then harvests all
    of it, under the resource name of the latest call. Nothing waits then, and the
    batch is empty: what harvests took is what was put in the queue, each body once,
    and under each id in order. Whatever becomes of its dispatches makes no difference
    to any of this: another life does the same with its queue and its batch if it is
    told the same. -/
theorem Lifecycle.undisturbed_run_loses_nothing (life : Lifecycle)
    (keyring : Credential.Keyring) (ticks : Nat) (base : List Deed)
    (visits : List (Round × Call)) (last : Round) (reason : String) (deadline : Int)
    (hcollects : life.harvester.collects = true)
    (h : life.Undisturbed (.start (.start keyring ticks) base) visits last reason deadline) :
    let result := life.run (.start (.start keyring ticks) base)
      (visits.map Prod.fst ++ [last])
    result.2 = .finished ∧
    life.heard (.start (.start keyring ticks) base) (visits.map Prod.fst ++ [last])
      = eventsOf visits reason deadline ∧
    result.1.harvest.batch.invocations = [] ∧ result.1.harvest.batch.octets = 0 ∧
    result.1.listener.pending = [] ∧
    ∃ since, result.1.deeds = base ++ since ∧
      marksOf since = visits.flatMap (callMarks life.functionName)
        ++ closingMarks life.functionName (latestArn "" visits) last ∧
      (marksOf since).count .polled = visits.length + 1 ∧
      ((since.flatMap Deed.taken).flatMap Invocation.chunks).Perm
        (since.filterMap Deed.queued?) ∧
      (∀ requestId, chunksUnder requestId (since.flatMap Deed.taken)
        = filedUnder requestId (filings [] (operationsOf true since))) ∧
      ∀ (other : Lifecycle) (keyring' : Credential.Keyring) (base' : List Deed),
        life.Alike other →
        other.Undisturbed (.start (.start keyring' ticks) base') visits last reason deadline →
        ∃ since', (other.run (.start (.start keyring' ticks) base')
            (visits.map Prod.fst ++ [last])).1.deeds = base' ++ since' ∧
          busyOf since' = busyOf since := by
  intro result
  obtain ⟨hending, hmarks, hinvocations, hoctets, hpending⟩ := h.run
  refine ⟨hending, h.heard_eq, hinvocations, hoctets, hpending, ?_⟩
  have hstart := life.accountedSince_start keyring ticks base
  obtain ⟨since, hdeeds, haccounted⟩ :=
    hstart.run Listener.serves_fresh (visits.map Prod.fst ++ [last])
  -- nothing is left in the queue or the batch, so what was taken is all there was
  have hqueue : since.filterMap Deed.collected? = since.filterMap Deed.queued? := by
    have hleft := haccounted.queue
    rwa [hpending, List.append_nil] at hleft
  have hchunks : ∀ requestId, chunksUnder requestId (since.flatMap Deed.taken)
      = filedUnder requestId (filings [] (operationsOf true since)) := by
    intro requestId
    have hleft := haccounted.balanced.chunks requestId
    rw [hinvocations, hcollects] at hleft
    rw [← hleft]
    exact (List.append_nil _).symm
  have hcourse : marksOf since = visits.flatMap (callMarks life.functionName)
      ++ closingMarks life.functionName (latestArn "" visits) last := by
    rw [List.append_assoc] at hmarks
    exact State.marksOf_since hdeeds hmarks
  refine ⟨since, hdeeds, hcourse, ?_, ?_, hchunks, ?_⟩
  · rw [hcourse, List.count_append, count_polled_callMarks, count_polled_closingMarks]
  · rw [← hqueue, ← map_snd_filings since []]
    exact Batch.perm_of_chunksUnder hchunks
  · intro other keyring' base' halike hother
    have hagree := h.agree halike hother (Agree.start base base' keyring keyring' ticks)
    have hstart' := other.accountedSince_start keyring' ticks base'
    obtain ⟨since', hdeeds', -⟩ :=
      hstart'.run Listener.serves_fresh (visits.map Prod.fst ++ [last])
    refine ⟨since', hdeeds', ?_⟩
    -- what both have in common since their first deeds is all of it, but for quiet deeds
    obtain ⟨common, hcommon, hcommon'⟩ := hagree.deeds
    rw [hdeeds, busyOf_append] at hcommon
    rw [hdeeds', busyOf_append] at hcommon'
    rw [List.append_cancel_left hcommon, List.append_cancel_left hcommon']

/-- A host that answers the first poll with an invocation, and every other request with
    shutting down. -/
def briefHost : Http.Network := fun history _ =>
  .answered ⟨200, [], Bytes.ofText (if history.isEmpty then
      "\x7b\"eventType\":\"INVOKE\",\"deadlineMs\":1,"
        ++ "\"requestId\":\"r\",\"invokedFunctionArn\":\"a\"\x7d"
    else "\x7b\"eventType\":\"SHUTDOWN\",\"shutdownReason\":\"done\",\"deadlineMs\":1000\x7d")⟩

/-- A life with this host that harvests nothing unless it is forced. -/
def briefLife : Lifecycle where
  link := ⟨⟨none, ⟨none, none, []⟩⟩, "127.0.0.1:9001"⟩
  identifier := "e"
  functionName := "f"
  harvester :=
    { dispatcher :=
        { client := ⟨none, ⟨none, none, []⟩⟩
          timeout := 1000
          codec := Ingest.codecOf (.gzip 0)
          endpoints := ⟨"http://a/", "http://b/", none, "http://d/"⟩
          limit := 1000 }
      thresholds := ⟨1000, 1000⟩
      collects := true }
  network := briefHost
  ids := fun _ => ""

/-- A round with one push. -/
def briefRound : Round where
  happenings := [.pushed ⟨"POST", "/", some [120]⟩]
  reading := ⟨0, 0⟩
  stopping := 0

/-- One call. -/
def briefVisits : List (Round × Call) := [(briefRound, ⟨1, "r", "a"⟩)]

/-- Nothing disturbs this life, and it loses neither of its two pushes. -/
theorem briefLife_loses_nothing :
    briefLife.Undisturbed (.start (.start (.ofKey "k") 0) []) briefVisits briefRound "done"
      1000 ∧
    (briefLife.run (.start (.start (.ofKey "k") 0) [])
      (briefVisits.map Prod.fst ++ [briefRound])).2 = .finished ∧
    ∃ since, (briefLife.run (.start (.start (.ofKey "k") 0) [])
        (briefVisits.map Prod.fst ++ [briefRound])).1.deeds = [] ++ since ∧
      (marksOf since).count .polled = 2 ∧
      ((since.flatMap Deed.taken).flatMap Invocation.chunks).Perm
        (since.filterMap Deed.queued?) := by
  have hundisturbed : briefLife.Undisturbed (.start (.start (.ofKey "k") 0) []) briefVisits
      briefRound "done" 1000 := by
    refine ⟨?_, ?_, ?_⟩
    · decide +kernel
    · decide +kernel
    · decide +kernel
  obtain ⟨hending, -, -, -, -, since, hdeeds, -, hpolled, hperm, -⟩ :=
    briefLife.undisturbed_run_loses_nothing (.ofKey "k") 0 [] briefVisits briefRound "done" 1000
      rfl hundisturbed
  exact ⟨hundisturbed, hending, since, hdeeds, hpolled, hperm⟩

end Session

end TelemetryRelay
