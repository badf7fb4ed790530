import TelemetryRelay.Host.Calls
import TelemetryRelay.Ingest.Harvester
import TelemetryRelay.Session.Listener

/-! # The life of the relay

    Once it is registered and subscribed, the relay polls for events, one after
    the other. An invocation is registered in the batch, and what the batch holds
    is harvested if that is due. When the host shuts down, everything that was
    pushed is moved into the batch and harvested, as long as time allows. A poll
    that fails ends the life at once, and so does being cancelled, after the
    queue has been emptied into the batch.

    Everything around the relay is given from outside: what the network answers,
    and for each poll what happens at the listener until it is answered. The
    relay itself is a function of these.
-/

namespace TelemetryRelay

namespace Session

open Host (CallError Event Link)
open Ingest (Cancellation Harvester HarvestState)
open Telemetry (Identity Invocation Reading)

/-! ## Section 1: State -/

/-- A signal that asks the process to end. -/
inductive Termination where
  | terminate
  | interrupt
deriving DecidableEq, Repr

/-- The name of a signal. -/
def Termination.name : Termination → String
  | .terminate => "SIGTERM"
  | .interrupt => "SIGINT"

/-- What happens while a poll waits for its answer. -/
inductive Happening where
  /-- A push reaches the listener. -/
  | pushed (push : Push)
  /-- The collector takes a body out of the queue. -/
  | collected
  /-- The process is asked to end. -/
  | signalled (termination : Termination)
deriving DecidableEq, Repr

/-- One round of the loop, as it is seen from outside. -/
structure Round where
  /-- What happens until the poll is answered. -/
  happenings : List Happening
  /-- What happens between the event and the harvest that it leads to. -/
  meanwhile : List Happening := []
  /-- What the clocks show then. -/
  reading : Reading
  /-- How many milliseconds stopping the listener would take. -/
  stopping : Nat
deriving DecidableEq, Repr

/-- Something the relay does. -/
inductive Deed where
  /-- It polls for the next event. -/
  | polled (request : Http.Request)
  /-- It goes on to where its poll is sent. -/
  | pursued (request : Http.Request)
  /-- It makes any other request. -/
  | made (request : Http.Request)
  /-- It reports something. -/
  | told (notice : Log.Notice)
  /-- Its listener receives a push. -/
  | received (push : Push) (verdict : Verdict)
  /-- Its collector takes a body out of the queue. -/
  | collected (body : Bytes)
  /-- It registers an invocation. -/
  | registered (requestId : String) (start : Timestamp.Instant)
  /-- It has moved everything that waited at the listener into the batch. -/
  | drained
  /-- It harvests, and hands what was taken to the dispatcher. -/
  | harvested (force : Bool) (identity : Identity) (taken : List Invocation)
deriving DecidableEq, Repr

/-- What is done in a poll with these requests. -/
def Deed.ofPoll : List Http.Request → List Deed
  | [] => []
  | request :: rest => .polled request :: rest.map .pursued

/-- The request of a deed. -/
def Deed.request? : Deed → Option Http.Request
  | .polled request | .pursued request | .made request => some request
  | _ => none

/-- The notice of a deed. -/
def Deed.notice? : Deed → Option Log.Notice
  | .told notice => some notice
  | _ => none

/-- What does not change in the course of a life. -/
structure Lifecycle where
  link : Link
  identifier : String
  functionName : String
  harvester : Harvester
  network : Http.Network
  /-- Ids for spans. -/
  ids : Nat → String

/-- What changes in the course of a life. -/
structure State where
  harvest : HarvestState
  listener : Listener
  /-- The resource name of the function, as the latest invocation gave it. -/
  arn : String
  cancelled : Bool
  /-- What was done, in order. -/
  deeds : List Deed

namespace State

/-- The state a life starts with, after some deeds. -/
def start (harvest : HarvestState) (deeds : List Deed) : State :=
  ⟨harvest, .fresh, "", false, deeds⟩

/-- The requests made so far. -/
def history (state : State) : List Http.Request := state.deeds.filterMap Deed.request?

/-- Does something that changes nothing else. -/
def perform (state : State) (deeds : List Deed) : State :=
  { state with deeds := state.deeds ++ deeds }

/-- Reports something. -/
def tell (state : State) (notices : List Log.Notice) : State :=
  state.perform (notices.map Deed.told)

/-- Reporting something makes no request. -/
theorem history_tell (state : State) (notices : List Log.Notice) :
    (state.tell notices).history = state.history := by
  have h : (notices.map Deed.told).filterMap Deed.request? = [] := by
    induction notices with
    | nil => rfl
    | cons notice rest ih => simp [Deed.request?]
  simp [tell, perform, history, List.filterMap_append, h]

end State

/-- How a life ends, or where it stands. -/
inductive Ending where
  /-- A poll is still without an answer. -/
  | waiting
  | finished
  | failed (error : CallError)
deriving DecidableEq, Repr

/-! ## Section 2: Shutting down in time -/

/-- The time kept back to exit in, in milliseconds. -/
def shutdownMargin : Nat := 200

/-- The longest time there can be between two instants, in milliseconds. -/
def longestSpan : Int := 0x7FFFFFFFFFFFFFFF

/-- The milliseconds left before a deadline, less the time to exit in. -/
def shutdownBudget (deadline now : Int) : Nat :=
  (min (deadline - now) longestSpan).toNat - shutdownMargin

/-! ## Section 3: What happens around a poll -/

namespace Lifecycle

/-- Takes a body out of the queue into the batch. -/
def collect (life : Lifecycle) (reading : Reading) (state : State) : State :=
  match state.listener.take? with
  | none => state
  | some (body, listener) =>
    let (batch, notices) := life.harvester.collect state.harvest.batch reading body
    let collected : State := { state with
      harvest := { state.harvest with batch := batch }
      listener := listener }
    (collected.perform [.collected body]).tell notices

/-- One thing happens. -/
def undergo (life : Lifecycle) (reading : Reading) (state : State) : Happening → State
  | .pushed push =>
    let reception := state.listener.receive push
    let received : State := { state with listener := reception.listener }
    (received.perform [.received push reception.verdict]).tell reception.notices
  | .collected => life.collect reading state
  | .signalled termination =>
    let cancelled : State := { state with cancelled := true }
    cancelled.tell [.signalled termination.name]

/-- Several things happen. -/
def undergoAll (life : Lifecycle) (reading : Reading) (state : State)
    (happenings : List Happening) : State :=
  happenings.foldl (life.undergo reading) state

/-- Stops the listener, and moves everything that waits into the batch. -/
def drain (life : Lifecycle) (reading : Reading) (state : State) : State :=
  let pending := state.listener.pending
  let (batch, notices) := life.harvester.collectAll reading state.harvest.batch pending
  let drained : State := { state with
    harvest := { state.harvest with batch := batch }
    listener := ⟨[], [], false⟩ }
  ((drained.perform (pending.map .collected)).tell
    ([.listenerStopped] ++ notices ++ [.collectorDone])).perform [.drained]

/-! ## Section 4: Events -/

/-- The notices about how a dispatch ended. -/
def report : Except Ingest.HarvestError Ingest.Summary → List Log.Notice
  | .ok summary => if 0 < summary.attempted then [.delivered summary.succeeded] else []
  | .error (.delivery summary) =>
    [.deliveryFailed (Ingest.HarvestError.delivery summary).message]
  | .error error => [.harvestFailed error.message]

/-- Harvests, dispatches what was taken, and reports how that ended. -/
def dispatch (life : Lifecycle) (reading : Reading) (cancellation : Cancellation)
    (force : Bool) (state : State) : State :=
  let identity : Identity := ⟨life.functionName, state.arn⟩
  let run := life.harvester.dispatch state.harvest reading life.network state.history
    cancellation life.ids identity force
  let dispatched : State := { state with
    harvest := run.state
    cancelled := state.cancelled || run.cycle.cancels }
  (dispatched.perform (.harvested force identity run.taken :: run.cycle.made.map .made)).tell
    (run.cycle.notices ++ report run.cycle.result)

/-- Registers an invocation in the batch. -/
def register (reading : Reading) (requestId arn : String) (state : State) : State :=
  let batch := state.harvest.batch.addInvocation requestId reading.now
  let registered : State :=
    { state with arn := arn, harvest := { state.harvest with batch := batch } }
  registered.perform [.registered requestId reading.now]

/-- Registers an invocation, and harvests if that is due. -/
def invoke (life : Lifecycle) (round : Round) (requestId arn : String) (state : State) :
    State :=
  let state := life.undergoAll round.reading (register round.reading requestId arn state)
    round.meanwhile
  life.dispatch round.reading (if state.cancelled then .already else .never) false state

/-- Moves everything into the batch if there is time for that, and harvests it. -/
def shutDown (life : Lifecycle) (round : Round) (reason : String) (deadline : Int)
    (state : State) : State :=
  let state := life.undergoAll round.reading (state.tell [.shuttingDown reason])
    round.meanwhile
  let budget := shutdownBudget deadline round.reading.now
  let state :=
    if state.cancelled || budget < round.stopping then
      life.dispatch round.reading .already true (state.tell [.drainTimedOut])
    else
      life.dispatch round.reading (.after (budget - round.stopping)) true
        (life.drain round.reading state)
  state.tell [.shutDown]

/-- Handles an event: the state after it, and how the life ends if it does. -/
def handle (life : Lifecycle) (round : Round) (state : State) (event : Event) :
    State × Option Ending :=
  let state := state.tell [.received event.describe]
  match event with
  | .invoke _ requestId arn => (life.invoke round requestId arn state, none)
  | .shutdown reason deadline =>
    (life.shutDown round reason deadline state, some .finished)

/-! ## Section 5: The loop -/

/-- Ends a life that was cancelled. -/
def leave (life : Lifecycle) (reading : Reading) (state : State) : State × Option Ending :=
  (life.drain reading (state.tell [.cancelled]), some .finished)

/-- One round of the loop. -/
def turn (life : Lifecycle) (state : State) (round : Round) : State × Option Ending :=
  let state := state.tell [.waiting]
  if state.cancelled then life.leave round.reading state
  else
    let poll := life.link.poll life.network state.history life.identifier
    let state := life.undergoAll round.reading (state.perform (Deed.ofPoll poll.made))
      round.happenings
    if state.cancelled || poll.fate == .cancelling then
      life.leave round.reading { state with cancelled := true }
    else match poll.fate with
      | .silent _ => (state, some .waiting)
      | fate =>
        match life.link.eventOf fate with
        | .error error => (state, some (.failed error))
        | .ok event => life.handle round state event

/-- A life over some rounds. -/
def run (life : Lifecycle) : State → List Round → State × Ending
  | state, [] => (state, .waiting)
  | state, round :: rest =>
    match life.turn state round with
    | (state, some ending) => (state, ending)
    | (state, none) => life.run state rest

end Lifecycle

/-- A life that was cancelled polls no more. -/
theorem turn_cancelled (life : Lifecycle) (state : State) (round : Round)
    (h : state.cancelled = true) :
    life.turn state round = life.leave round.reading (state.tell [.waiting]) := by
  simp [Lifecycle.turn, State.tell, State.perform, h]

end Session

end TelemetryRelay
