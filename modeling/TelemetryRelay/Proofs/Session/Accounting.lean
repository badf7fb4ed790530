import TelemetryRelay.Proofs.Batch.Conservation
import TelemetryRelay.Session.Lifecycle

/-! # Every body is accounted for

    A life keeps a record of what it does. From its deeds alone one can tell which
    bodies were put in the queue and which were taken out of it, which operations were
    carried out on the batch, and what harvests took. This module shows that queue and
    batch hold what the deeds leave over, whatever happens around a life:

    - what the listener has to do about a push, and that it does this,
    - one invariant for the queue, the batch and the deeds, and that everything a life
      does keeps it,
    - what one round can do, one induction for everything that runs keep, and that every
      run of rounds keeps the invariant.
-/

namespace TelemetryRelay

namespace Session

open Host (CallError Event)
open Ingest (Cancellation Harvester)
open Telemetry (Batch Invocation Reading)
open Telemetry.Batch (Operation filings)

/-! ## Section 1: Pushes -/

/-- What the listener has to do about a push. -/
inductive Errand where
  /-- It is answered at once. -/
  | answer (status : Nat)
  /-- Its body cannot be read, which ends its connection. -/
  | lose
  /-- Its body is put in the queue. -/
  | deliver (body : Bytes)
deriving DecidableEq, Repr

namespace Push

/-- The errand of a push. -/
def errand (push : Push) : Errand :=
  match Http.readLine (Http.requestLine push.method push.target) with
  | .error fault => .answer fault.status
  | .ok method =>
    if method ≠ Bytes.ofText "POST" then .answer 405
    else match push.body with
      | none => .lose
      | some body => if body.isEmpty then .answer 200 else .deliver body

/-- The body of a push that is put in the queue. -/
def delivery? (push : Push) : Option Bytes :=
  match push.errand with
  | .deliver body => some body
  | _ => none

end Push

namespace Listener

/-- What the listener does about a push is its errand. -/
theorem receive_errand (listener : Listener) (push : Push) :
    match push.errand with
    | .answer status => (listener.receive push).listener = listener ∧
        (listener.receive push).verdict = .answered status
    | .lose => (listener.receive push).listener = listener ∧
        (listener.receive push).verdict = .broken
    | .deliver body => listener.receive push = listener.enqueue body := by
  unfold Push.errand receive accept
  cases Http.readLine (Http.requestLine push.method push.target) with
  | error fault => exact ⟨rfl, rfl⟩
  | ok method =>
    by_cases hmethod : method ≠ Bytes.ofText "POST"
    · simp only [if_pos hmethod, and_self]
    · cases hbody : push.body with
      | none => simp only [if_neg hmethod, and_self]
      | some body =>
        cases hempty : body.isEmpty <;> simp [hmethod, hempty]

/-- A listener that takes bodies. Pushes are held only while the queue is full. -/
structure Serves (listener : Listener) : Prop where
  isOpen : listener.isOpen = true
  full : listener.held ≠ [] → capacity ≤ listener.queue.length

theorem serves_fresh : fresh.Serves := ⟨rfl, fun h => absurd rfl h⟩

variable {listener : Listener}

/-- A body that is received waits behind all others. -/
theorem Serves.enqueue (h : listener.Serves) (body : Bytes) :
    (listener.enqueue body).listener.Serves ∧
      (listener.enqueue body).listener.pending = listener.pending ++ [body] := by
  have hopen := h.isOpen
  unfold Listener.enqueue
  by_cases hroom : listener.queue.length < capacity
  · -- there is room, so none is held
    have hheld : listener.held = [] :=
      Decidable.byContradiction fun hsome => Nat.not_le.mpr hroom (h.full hsome)
    refine ⟨⟨?_, ?_⟩, ?_⟩ <;> simp [hopen, hroom, hheld, pending]
  · refine ⟨⟨?_, ?_⟩, ?_⟩
    · simp [hopen, hroom]
    · simp [hopen, hroom, Nat.not_lt.mp hroom]
    · simp [hopen, hroom, pending]

/-- Receiving a push makes its body wait, if it has one to deliver. -/
theorem Serves.receive (h : listener.Serves) (push : Push) :
    (listener.receive push).listener.Serves ∧
      (listener.receive push).listener.pending
        = listener.pending ++ push.delivery?.toList := by
  have herrand := listener.receive_errand push
  unfold Push.delivery?
  generalize push.errand = errand at herrand
  cases errand with
  | answer status =>
    rw [herrand.1]
    exact ⟨h, (List.append_nil _).symm⟩
  | lose =>
    rw [herrand.1]
    exact ⟨h, (List.append_nil _).symm⟩
  | deliver body =>
    rw [herrand]
    exact h.enqueue body

/-- Taking a body out goes on serving. -/
theorem Serves.take? (h : listener.Serves) {body : Bytes} {rest : Listener}
    (htake : listener.take? = some (body, rest)) : rest.Serves := by
  obtain ⟨queue, held, isOpen⟩ := listener
  cases queue with
  | nil => simp [Listener.take?] at htake
  | cons first queue =>
    simp only [Listener.take?, Option.some.injEq, Prod.mk.injEq] at htake
    obtain ⟨rfl, rfl⟩ := htake
    refine ⟨h.isOpen, fun hheld => ?_⟩
    -- the body that was held first takes the room that was made
    have hfull := h.full
    cases held with
    | nil => exact absurd rfl hheld
    | cons next held => simpa using hfull

end Listener

/-! ## Section 2: What deeds record -/

namespace Deed

/-- The operation on the batch that a deed is, if it is one. -/
def operation? (collects : Bool) : Deed → Option Operation
  | .collected body => if collects then some (.addToLatest body) else none
  | .registered requestId start => some (.addInvocation requestId start)
  | .harvested force _ _ => some (.harvest force)
  | _ => none

/-- What a deed takes out of the batch. -/
def taken : Deed → List Invocation
  | .harvested _ _ taken => taken
  | _ => []

/-- The body that a deed puts in the queue. -/
def queued? : Deed → Option Bytes
  | .received push _ => push.delivery?
  | _ => none

/-- The body that a deed takes out of the queue. -/
def collected? : Deed → Option Bytes
  | .collected body => some body
  | _ => none

/-- Whether a deed leaves both the queue and the batch alone. -/
def isQuiet : Deed → Bool
  | .polled _ | .pursued _ | .made _ | .told _ | .drained => true
  | _ => false

end Deed

/-- The operations on the batch that deeds are, in order. -/
def operationsOf (collects : Bool) (deeds : List Deed) : List Operation :=
  deeds.filterMap (Deed.operation? collects)

theorem operationsOf_append (collects : Bool) (deeds more : List Deed) :
    operationsOf collects (deeds ++ more)
      = operationsOf collects deeds ++ operationsOf collects more :=
  List.filterMap_append

theorem operationsOf_singleton (collects : Bool) (deed : Deed) :
    operationsOf collects [deed] = (deed.operation? collects).toList := by
  unfold operationsOf
  cases hoperation : deed.operation? collects <;> simp [hoperation]

/-- Where telemetry is collected, what is filed is what is taken out of the queue. -/
theorem map_snd_filings :
    ∀ (deeds : List Deed) (before : List Operation),
      (filings before (operationsOf true deeds)).map Prod.snd = deeds.filterMap Deed.collected?
  | [], _ => rfl
  | deed :: rest, before => by
    have ih := map_snd_filings rest
    cases deed with
    | collected body =>
      show _ :: (filings _ (operationsOf true rest)).map Prod.snd = _ :: _
      rw [ih]
    | registered requestId start => exact ih _
    | harvested force identity taken => exact ih _
    | polled request => exact ih _
    | pursued request => exact ih _
    | made request => exact ih _
    | told notice => exact ih _
    | received push verdict => exact ih _
    | drained => exact ih _

/-- Requests and notices are quiet. -/
theorem isQuiet_told (notices : List Log.Notice) :
    ∀ deed ∈ notices.map Deed.told, deed.isQuiet = true := by
  simp [Deed.isQuiet]

/-- What is done in a poll is to make its requests. -/
theorem mem_ofPoll {requests : List Http.Request} {deed : Deed} (h : deed ∈ Deed.ofPoll requests) :
    ∃ request, deed = .polled request ∨ deed = .pursued request := by
  cases requests with
  | nil => cases h
  | cons request rest =>
    rcases List.mem_cons.mp h with rfl | hrest
    · exact ⟨request, .inl rfl⟩
    · obtain ⟨sent, -, rfl⟩ := List.mem_map.mp hrest
      exact ⟨sent, .inr rfl⟩

theorem isQuiet_ofPoll (requests : List Http.Request) :
    ∀ deed ∈ Deed.ofPoll requests, deed.isQuiet = true := by
  intro deed hmem
  obtain ⟨request, rfl | rfl⟩ := mem_ofPoll hmem
  · rfl
  · rfl

/-! ## Section 3: The invariant -/

/-- **Accounted**: after some deeds, a batch and the bodies that wait at the listener are
    what the deeds leave over. -/
structure Accounted (harvester : Harvester) (deeds : List Deed) (batch : Batch)
    (pending : List Bytes) : Prop where
  balanced : batch.Balanced [] (operationsOf harvester.collects deeds)
    (deeds.flatMap Deed.taken)
  /-- What was taken out of the queue, with what waits, is what was put in. -/
  queue : deeds.filterMap Deed.collected? ++ pending = deeds.filterMap Deed.queued?

section

variable {harvester : Harvester} {deeds : List Deed} {batch : Batch} {pending : List Bytes}

theorem accounted_fresh (harvester : Harvester) (ticks : Nat) :
    Accounted harvester [] (.fresh ticks) [] where
  balanced := Batch.balanced_empty (Batch.follows_fresh ticks) rfl
  queue := rfl

/-- **Step**: one more deed is accounted for if it keeps the balance of the batch, and if
    what it takes out of the queue and leaves there is what was there with what it puts
    in. -/
theorem Accounted.add (h : Accounted harvester deeds batch pending) {deed : Deed}
    {batch' : Batch} {pending' : List Bytes}
    (hbalanced : batch'.Balanced []
      (operationsOf harvester.collects deeds ++ (deed.operation? harvester.collects).toList)
      (deeds.flatMap Deed.taken ++ deed.taken))
    (hqueue : deed.collected?.toList ++ pending' = pending ++ deed.queued?.toList) :
    Accounted harvester (deeds ++ [deed]) batch' pending' where
  balanced := by
    rw [operationsOf_append, operationsOf_singleton, List.flatMap_append,
      List.flatMap_singleton]
    exact hbalanced
  queue := by
    rw [List.filterMap_append, List.filterMap_append, ← h.queue, List.append_assoc,
      List.append_assoc]
    exact congrArg _ hqueue

/-- **Step**: a deed that is an operation on the batch. -/
theorem Accounted.operate (h : Accounted harvester deeds batch pending) (reading : Reading)
    (operation : Operation) {deed : Deed} {pending' : List Bytes}
    (hoperation : deed.operation? harvester.collects = some operation)
    (htaken : deed.taken = (batch.step harvester.thresholds reading operation).taken)
    (hqueue : deed.collected?.toList ++ pending' = pending ++ deed.queued?.toList) :
    Accounted harvester (deeds ++ [deed])
      (batch.step harvester.thresholds reading operation).batch pending' := by
  refine h.add ?_ hqueue
  rw [hoperation, htaken]
  exact h.balanced.step harvester.thresholds reading operation

/-- **Step**: a deed that is no operation on the batch. -/
theorem Accounted.pass (h : Accounted harvester deeds batch pending) {deed : Deed}
    {pending' : List Bytes} (hoperation : deed.operation? harvester.collects = none)
    (htaken : deed.taken = [])
    (hqueue : deed.collected?.toList ++ pending' = pending ++ deed.queued?.toList) :
    Accounted harvester (deeds ++ [deed]) batch pending' := by
  refine h.add ?_ hqueue
  rw [hoperation, htaken, Option.toList_none, List.append_nil, List.append_nil]
  exact h.balanced

/-- **Step**: deeds that leave queue and batch alone. -/
theorem Accounted.quiet (h : Accounted harvester deeds batch pending) :
    ∀ {more : List Deed}, (∀ deed ∈ more, deed.isQuiet = true) →
      Accounted harvester (deeds ++ more) batch pending := by
  intro more
  induction more generalizing deeds with
  | nil =>
    intro _
    rw [List.append_nil]
    exact h
  | cons deed more ih =>
    intro hquiet
    have hdeed := hquiet deed List.mem_cons_self
    -- a quiet deed is no operation, takes nothing and moves no body
    have hnext : Accounted harvester (deeds ++ [deed]) batch pending := by
      cases deed <;>
        first
        | exact h.pass rfl rfl (List.append_nil _).symm
        | cases hdeed
    rw [List.append_cons]
    exact ih hnext fun other hmem => hquiet other (List.mem_cons_of_mem _ hmem)

/-- **Step**: the body that waits first is taken into the batch, or dropped. -/
theorem Accounted.collect {body : Bytes} (h : Accounted harvester deeds batch (body :: pending))
    (reading : Reading) :
    Accounted harvester (deeds ++ [.collected body]) (harvester.collect batch reading body).1
      pending := by
  unfold Harvester.collect
  cases hcollects : harvester.collects with
  | true =>
    refine h.operate reading (.addToLatest body) ?_ rfl ?_
    · simp [Deed.operation?, hcollects]
    · exact (List.append_nil _).symm
  | false =>
    refine h.pass ?_ rfl ?_
    · simp [Deed.operation?, hcollects]
    · exact (List.append_nil _).symm

/-- **Run**: all bodies that wait are taken into the batch, or dropped. -/
theorem Accounted.collectAll (reading : Reading) :
    ∀ {bodies : List Bytes} {deeds : List Deed} {batch : Batch},
      Accounted harvester deeds batch bodies →
      Accounted harvester (deeds ++ bodies.map .collected)
        (harvester.collectAll reading batch bodies).1 []
  | [], deeds, batch, h => by
    rw [List.map_nil, List.append_nil]
    exact h
  | body :: rest, deeds, batch, h => by
    rw [List.map_cons, List.append_cons]
    exact Accounted.collectAll reading (h.collect reading)

end

/-! ## Section 4: What a life does -/

/-- **Accounted since**: what a life has done since some deeds is accounted for. -/
def Lifecycle.AccountedSince (life : Lifecycle) (base : List Deed) (state : State) : Prop :=
  ∃ since, state.deeds = base ++ since ∧
    Accounted life.harvester since state.harvest.batch state.listener.pending

namespace Lifecycle

variable {life : Lifecycle} {base : List Deed} {state : State}

theorem accountedSince_start (life : Lifecycle) (keyring : Credential.Keyring) (ticks : Nat)
    (base : List Deed) :
    life.AccountedSince base (.start (.start keyring ticks) base) :=
  ⟨[], (List.append_nil _).symm, accounted_fresh life.harvester ticks⟩

theorem AccountedSince.perform (h : life.AccountedSince base state) {deeds : List Deed}
    (hquiet : ∀ deed ∈ deeds, deed.isQuiet = true) :
    life.AccountedSince base (state.perform deeds) := by
  obtain ⟨since, hdeeds, haccounted⟩ := h
  refine ⟨since ++ deeds, ?_, haccounted.quiet hquiet⟩
  rw [State.perform, hdeeds, List.append_assoc]

theorem AccountedSince.tell (h : life.AccountedSince base state)
    (notices : List Log.Notice) : life.AccountedSince base (state.tell notices) :=
  h.perform (isQuiet_told notices)

theorem AccountedSince.cancel (h : life.AccountedSince base state) (cancelled : Bool) :
    life.AccountedSince base { state with cancelled := cancelled } := h

theorem AccountedSince.collect (h : life.AccountedSince base state) (reading : Reading) :
    life.AccountedSince base (life.collect reading state) := by
  unfold Lifecycle.collect
  cases htake : state.listener.take? with
  | none => exact h
  | some taken =>
    obtain ⟨since, hdeeds, haccounted⟩ := h
    rw [Listener.take?_pending _ _ _ htake] at haccounted
    refine AccountedSince.tell ⟨since ++ [.collected taken.1], ?_, ?_⟩ _
    · simp [State.perform, hdeeds]
    · exact haccounted.collect reading

/-- Whatever happens around a life is accounted for. -/
theorem AccountedSince.undergo (h : life.AccountedSince base state)
    (hserves : state.listener.Serves) (reading : Reading) (happening : Happening) :
    life.AccountedSince base (life.undergo reading state happening) := by
  cases happening with
  | pushed push =>
    obtain ⟨since, hdeeds, haccounted⟩ := h
    refine AccountedSince.tell
      ⟨since ++ [.received push (state.listener.receive push).verdict], ?_, ?_⟩ _
    · simp [State.perform, hdeeds]
    · exact haccounted.pass rfl rfl (hserves.receive push).2
  | collected => exact h.collect reading
  | signalled termination => exact (h.cancel true).tell _

theorem serves_undergo (hserves : state.listener.Serves) (reading : Reading)
    (happening : Happening) : (life.undergo reading state happening).listener.Serves := by
  cases happening with
  | pushed push => exact (hserves.receive push).1
  | collected =>
    show (life.collect reading state).listener.Serves
    unfold Lifecycle.collect
    cases htake : state.listener.take? with
    | none => exact hserves
    | some taken => exact hserves.take? htake
  | signalled termination => exact hserves

/-- **Run**: so is whatever happens one after the other, and the listener goes on
    serving. -/
theorem AccountedSince.undergoAll (reading : Reading) (happenings : List Happening) :
    ∀ {state : State}, life.AccountedSince base state → state.listener.Serves →
      life.AccountedSince base (life.undergoAll reading state happenings) ∧
        (life.undergoAll reading state happenings).listener.Serves := by
  induction happenings with
  | nil => exact fun h hserves => ⟨h, hserves⟩
  | cons happening rest ih =>
    exact fun h hserves =>
      ih (h.undergo hserves reading happening) (serves_undergo hserves reading happening)

theorem AccountedSince.drain (h : life.AccountedSince base state) (reading : Reading) :
    life.AccountedSince base (life.drain reading state) := by
  obtain ⟨since, hdeeds, haccounted⟩ := h
  refine AccountedSince.perform (AccountedSince.tell
    ⟨since ++ state.listener.pending.map .collected, ?_, ?_⟩ _) ?_
  · simp [State.perform, hdeeds]
  · exact haccounted.collectAll reading
  · simp [Deed.isQuiet]

theorem AccountedSince.dispatch (h : life.AccountedSince base state) (reading : Reading)
    (cancellation : Cancellation) (force : Bool) :
    life.AccountedSince base (life.dispatch reading cancellation force state) := by
  obtain ⟨since, hdeeds, haccounted⟩ := h
  unfold Lifecycle.dispatch
  simp only
  generalize hrun : life.harvester.dispatch state.harvest reading life.network state.history
    cancellation life.ids ⟨life.functionName, state.arn⟩ force = run
  have hbatch : run.state.batch
      = (state.harvest.batch.step life.harvester.thresholds reading (.harvest force)).batch := by
    rw [← hrun]
    rfl
  have htaken : run.taken
      = (state.harvest.batch.step life.harvester.thresholds reading (.harvest force)).taken := by
    rw [← hrun]
    rfl
  -- the batch is settled with the harvest; what the dispatcher does then is quiet
  have hharvested : Accounted life.harvester
      (since ++ [.harvested force ⟨life.functionName, state.arn⟩ run.taken]) run.state.batch
      state.listener.pending := by
    rw [hbatch]
    exact haccounted.operate reading (.harvest force) rfl htaken (List.append_nil _).symm
  refine AccountedSince.tell
    ⟨since ++ [.harvested force ⟨life.functionName, state.arn⟩ run.taken]
      ++ run.cycle.made.map .made, ?_, ?_⟩ _
  · simp [State.perform, hdeeds]
  · exact hharvested.quiet (by simp [Deed.isQuiet])

theorem AccountedSince.register (h : life.AccountedSince base state) (reading : Reading)
    (requestId arn : String) :
    life.AccountedSince base (register reading requestId arn state) := by
  obtain ⟨since, hdeeds, haccounted⟩ := h
  refine ⟨since ++ [.registered requestId reading.now], ?_, ?_⟩
  · simp [Lifecycle.register, State.perform, hdeeds]
  · exact haccounted.operate reading (.addInvocation requestId reading.now) rfl rfl
      (List.append_nil _).symm

theorem AccountedSince.invoke (h : life.AccountedSince base state)
    (hserves : state.listener.Serves) (round : Round) (requestId arn : String) :
    life.AccountedSince base (life.invoke round requestId arn state) ∧
      (life.invoke round requestId arn state).listener.Serves := by
  have hmeanwhile := (h.register round.reading requestId arn).undergoAll round.reading
    round.meanwhile hserves
  exact ⟨hmeanwhile.1.dispatch _ _ _, hmeanwhile.2⟩

/-- A life that is told to shut down, and has undergone what happened until it does. -/
def warned (life : Lifecycle) (round : Round) (reason : String) (state : State) : State :=
  life.undergoAll round.reading (state.tell [.shuttingDown reason]) round.meanwhile

/-- What shutting down does after that. -/
theorem shutDown_eq (life : Lifecycle) (round : Round) (reason : String) (deadline : Int)
    (state : State) :
    life.shutDown round reason deadline state
      = (if (life.warned round reason state).cancelled
            || shutdownBudget deadline round.reading.now < round.stopping then
          life.dispatch round.reading .already true
            ((life.warned round reason state).tell [.drainTimedOut])
        else
          life.dispatch round.reading
            (.after (shutdownBudget deadline round.reading.now - round.stopping)) true
            (life.drain round.reading (life.warned round reason state))).tell [.shutDown] := rfl

theorem AccountedSince.shutDown (h : life.AccountedSince base state)
    (hserves : state.listener.Serves) (round : Round) (reason : String) (deadline : Int) :
    life.AccountedSince base (life.shutDown round reason deadline state) := by
  have hwarned : life.AccountedSince base (life.warned round reason state) :=
    ((h.tell [.shuttingDown reason]).undergoAll round.reading round.meanwhile hserves).1
  rw [shutDown_eq]
  refine AccountedSince.tell ?_ _
  split
  · exact (hwarned.tell _).dispatch _ _ _
  · exact (hwarned.drain _).dispatch _ _ _

/-! ## Section 5: What a round does -/

/-- The next poll of a life. -/
def poll (life : Lifecycle) (state : State) : Http.Exchange :=
  life.link.poll life.network state.history life.identifier

/-- What the next poll comes to. -/
def answer (life : Lifecycle) (state : State) : Except CallError Event :=
  life.link.eventOf (life.poll state).fate

/-- A life that has polled, and has undergone what happened until the answer. -/
def awaited (life : Lifecycle) (round : Round) (state : State) : State :=
  life.undergoAll round.reading
    ((state.tell [.waiting]).perform (Deed.ofPoll (life.poll state).made)) round.happenings

/-- A round in the order of its tests. -/
theorem turn_eq (life : Lifecycle) (round : Round) (state : State) :
    life.turn state round =
      if state.cancelled then life.leave round.reading (state.tell [.waiting])
      else if (life.awaited round state).cancelled || (life.poll state).fate == .cancelling then
        life.leave round.reading { life.awaited round state with cancelled := true }
      else match (life.poll state).fate with
        | .silent _ => (life.awaited round state, some .waiting)
        | fate =>
          match life.link.eventOf fate with
          | .error error => (life.awaited round state, some (.failed error))
          | .ok event => life.handle round (life.awaited round state) event := by
  have hpoll : life.link.poll life.network (state.tell [.waiting]).history life.identifier
      = life.poll state := by
    rw [state.history_tell]
    rfl
  unfold Lifecycle.turn
  simp only [hpoll]
  rfl

/-- What one round can do. -/
inductive Turn (life : Lifecycle) (round : Round) (state : State) :
    State × Option Ending → Prop
  /-- The life was cancelled before. -/
  | skips :
      state.cancelled = true →
      Turn life round state (life.leave round.reading (state.tell [.waiting]))
  /-- The life is cancelled while it polls. -/
  | breaks :
      (life.awaited round state).cancelled = true ∨ (life.poll state).fate = .cancelling →
      Turn life round state
        (life.leave round.reading { life.awaited round state with cancelled := true })
  /-- There is no answer yet. -/
  | waits (url : String) :
      (life.poll state).fate = .silent url →
      Turn life round state (life.awaited round state, some .waiting)
  /-- The answer is no event. -/
  | fails (error : CallError) :
      (life.awaited round state).cancelled = false → life.answer state = .error error →
      Turn life round state (life.awaited round state, some (.failed error))
  /-- The answer is an event. -/
  | hears (event : Event) :
      (life.awaited round state).cancelled = false → life.answer state = .ok event →
      Turn life round state (life.handle round (life.awaited round state) event)

/-- **Inversion**: every round is one of these. -/
theorem turn_turn (life : Lifecycle) (round : Round) (state : State) :
    Turn life round state (life.turn state round) := by
  rw [turn_eq]
  -- the tests come in this order: cancelled before, cancelled while polling, the answer
  by_cases hbefore : state.cancelled = true
  · rw [if_pos hbefore]
    exact .skips hbefore
  rw [if_neg hbefore]
  by_cases hbreaks : (life.awaited round state).cancelled = true
      ∨ (life.poll state).fate = .cancelling
  · rw [if_pos (by simpa using hbreaks)]
    exact .breaks hbreaks
  rw [if_neg (by simpa using hbreaks)]
  obtain ⟨hcancelled, hfate⟩ := not_or.mp hbreaks
  rw [Bool.not_eq_true] at hcancelled
  have hanswer : life.answer state = life.link.eventOf (life.poll state).fate := rfl
  generalize life.answer state = answer at hanswer
  split
  · next url hsilent => exact .waits url hsilent
  · next hother =>
    split
    · next error herror => exact .fails error hcancelled herror
    · next event hevent => exact .hears event hcancelled hevent

/-- **Induction**: what every round keeps that goes on, and what a round that ends a life
    makes of it, is what every run makes of it. -/
theorem run_induct (life : Lifecycle) (Keeps : State → Prop) (Ends : State → Ending → Prop)
    (hwaits : ∀ state, Keeps state → Ends state .waiting)
    (hturn : ∀ state round, Keeps state →
      match life.turn state round with
      | (next, none) => Keeps next
      | (ended, some ending) => Ends ended ending)
    (rounds : List Round) :
    ∀ state, Keeps state → Ends (life.run state rounds).1 (life.run state rounds).2 := by
  induction rounds with
  | nil => exact hwaits
  | cons round rest ih =>
    intro state h
    have hnext := hturn state round h
    rw [Lifecycle.run]
    generalize life.turn state round = result at hnext ⊢
    obtain ⟨next, ending⟩ := result
    cases ending with
    | none => exact ih next hnext
    | some ending => exact hnext

/-! ## Section 6: Every run -/

theorem AccountedSince.leave (h : life.AccountedSince base state) (reading : Reading) :
    life.AccountedSince base (life.leave reading state).1 :=
  (h.tell [.cancelled]).drain reading

/-- Handling an event is accounted for, and the listener serves on if the life goes on. -/
theorem AccountedSince.handle (h : life.AccountedSince base state)
    (hserves : state.listener.Serves) (round : Round) (event : Event) :
    life.AccountedSince base (life.handle round state event).1 ∧
      ((life.handle round state event).2 = none →
        (life.handle round state event).1.listener.Serves) := by
  have htold := h.tell [.received event.describe]
  cases event with
  | invoke deadline requestId arn =>
    have hinvoked := htold.invoke hserves round requestId arn
    exact ⟨hinvoked.1, fun _ => hinvoked.2⟩
  | shutdown reason deadline =>
    exact ⟨htold.shutDown hserves round reason deadline, fun hgoes => by cases hgoes⟩

/-- Waiting for the answer to a poll is accounted for. -/
theorem AccountedSince.awaited (h : life.AccountedSince base state)
    (hserves : state.listener.Serves) (round : Round) :
    life.AccountedSince base (life.awaited round state) ∧
      (life.awaited round state).listener.Serves :=
  ((h.tell [.waiting]).perform (isQuiet_ofPoll _)).undergoAll round.reading
    round.happenings hserves

/-- **Step**: a round is accounted for, and the listener serves on if the life goes on. -/
theorem AccountedSince.turn (h : life.AccountedSince base state)
    (hserves : state.listener.Serves) (round : Round) :
    life.AccountedSince base (life.turn state round).1 ∧
      ((life.turn state round).2 = none → (life.turn state round).1.listener.Serves) := by
  have hawaited := h.awaited hserves round
  have hturn := turn_turn life round state
  generalize life.turn state round = result at hturn
  -- only a round that brings an event can go on
  cases hturn with
  | skips hcancelled => exact ⟨(h.tell [.waiting]).leave round.reading, nofun⟩
  | breaks hbreaks => exact ⟨(hawaited.1.cancel true).leave round.reading, nofun⟩
  | waits url hsilent => exact ⟨hawaited.1, nofun⟩
  | fails error hcancelled herror => exact ⟨hawaited.1, nofun⟩
  | hears event hcancelled hevent => exact hawaited.1.handle hawaited.2 round event

/-- **Run**: every run of rounds is accounted for. -/
theorem AccountedSince.run (h : life.AccountedSince base state)
    (hserves : state.listener.Serves) (rounds : List Round) :
    life.AccountedSince base (life.run state rounds).1 := by
  refine life.run_induct
    (fun state => life.AccountedSince base state ∧ state.listener.Serves)
    (fun ended _ => life.AccountedSince base ended) (fun _ hkeeps => hkeeps.1) ?_ rounds state
    ⟨h, hserves⟩
  rintro state round ⟨h, hserves⟩
  have hturn := h.turn hserves round
  generalize life.turn state round = result at hturn ⊢
  obtain ⟨next, ending⟩ := result
  cases ending with
  | none => exact ⟨hturn.1, hturn.2 rfl⟩
  | some ending => exact hturn.1

end Lifecycle

end Session

end TelemetryRelay
