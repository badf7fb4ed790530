import Mathlib.Logic.Relation
import TelemetryRelay.Proofs.Session.Accounting

/-! # From the connections to the batch

    The listener serves any number of connections at the same time. Requests on one
    connection are handled one after the other; what is done on different connections,
    by the collector and by whoever registers and harvests invocations can follow each
    other in any order. This module has all these orders as runs of one step relation,
    and shows

    - what every step keeps: each request goes through its own course, and queue and
      batch are accounted for,
    - that the collector ends only when nobody can put a body in the queue any more,
    - that nobody waits forever: every request that can be answered is answered in some
      continuation, and every run can be continued until the pipeline is drained.
-/

namespace TelemetryRelay

namespace Session

open Ingest (Harvester)
open Telemetry (Batch Reading)
open Timestamp (Instant)

/-! ## Section 1: Requests -/

/-- What is done about a request. -/
inductive Moment where
  /-- Its body is put in the queue. -/
  | queued (body : Bytes)
  /-- It is answered. -/
  | answered (status : Nat)
deriving DecidableEq, Repr

/-- The body a moment puts in the queue. -/
def Moment.body? : Moment → Option Bytes
  | .queued body => some body
  | .answered _ => none

/-- All that is done about a push, in order. -/
def Push.course (push : Push) : List Moment :=
  match push.errand with
  | .answer status => [.answered status]
  | .lose => []
  | .deliver body => [.queued body, .answered 200]

/-- How far the handling of a request has come. -/
inductive Phase where
  | arrived
  /-- Its body waits for room in the queue. -/
  | sending (body : Bytes)
  | answering (status : Nat)
deriving DecidableEq, Repr

/-- What is still to be done about a push in a phase. -/
def Phase.rest (push : Push) : Phase → List Moment
  | .arrived => push.course
  | .sending body => [.queued body, .answered 200]
  | .answering status => [.answered status]

/-- A request, with what was done about it so far. -/
structure Request where
  push : Push
  moments : List Moment
deriving DecidableEq, Repr

/-- The bodies of a request that were put in the queue. -/
def Request.queued (request : Request) : List Bytes := request.moments.filterMap Moment.body?

/-- What was done about a push is in order: it is the first part of its course. -/
def Request.InCourse (request : Request) : Prop := request.moments <+: request.push.course

/-- What can have been done about a push, by what can be read of it. -/
theorem Request.InCourse.cases {request : Request} (h : request.InCourse) :
    match Http.readLine (Http.requestLine request.push.method request.push.target) with
    | .error fault => request.moments <+: [.answered fault.status]
    | .ok method =>
      if method ≠ Bytes.ofText "POST" then request.moments <+: [.answered 405]
      else match request.push.body with
        | none => request.moments = []
        | some [] => request.moments <+: [.answered 200]
        | some (octet :: rest) =>
          request.moments <+: [.queued (octet :: rest), .answered 200] := by
  unfold Request.InCourse Push.course Push.errand at h
  cases hline : Http.readLine (Http.requestLine request.push.method request.push.target) with
  | error fault =>
    rw [hline] at h
    exact h
  | ok method =>
    rw [hline] at h
    by_cases hmethod : method ≠ Bytes.ofText "POST"
    · simp only [if_pos hmethod] at h ⊢
      exact h
    · simp only [if_neg hmethod] at h ⊢
      cases hbody : request.push.body with
      | none =>
        rw [hbody] at h
        exact List.prefix_nil.mp h
      | some body =>
        rw [hbody] at h
        cases body with
        | nil => exact h
        | cons octet rest => exact h

/-- A push whose course starts with queueing a body is there to deliver it. -/
theorem Push.errand_of_course {push : Push} {moments : List Moment} {body : Bytes}
    (h : moments ++ [.queued body, .answered 200] = push.course) :
    moments = [] ∧ push.errand = .deliver body := by
  unfold Push.course at h
  cases herrand : push.errand with
  | answer status =>
    rw [herrand] at h
    have hlength := congrArg List.length h
    simp at hlength
  | lose => simp [herrand] at h
  | deliver other =>
    rw [herrand] at h
    have hlength := congrArg List.length h
    have hnil : moments = [] := by
      rw [List.length_append] at hlength
      exact List.length_eq_zero_iff.mp (by simpa using hlength)
    rw [hnil] at h
    cases h
    exact ⟨hnil, rfl⟩

/-! ## Section 2: Connections -/

/-- A connection to the listener. -/
structure Connection where
  /-- The requests that are over, in order. -/
  past : List Request
  /-- The request that is handled, with its phase. -/
  current : Option (Request × Phase)
  isOpen : Bool
deriving DecidableEq, Repr

namespace Connection

/-- A connection before any request. -/
def fresh : Connection := ⟨[], none, true⟩

/-- All requests on a connection. -/
def requests (connection : Connection) : List Request :=
  connection.past ++ (connection.current.map Prod.fst).toList

/-- All bodies put in the queue on a connection. -/
def queued (connection : Connection) : List Bytes :=
  connection.requests.flatMap Request.queued

/-- What a connection does next, with the push it puts in the queue and the body of this,
    if it does. `isTaken` says whether bodies are still taken out of the queue. -/
inductive Step (isTaken : Bool) : Connection → Option (Push × Bytes) → Connection → Prop
  /-- A request arrives. -/
  | arrive (past : List Request) (push : Push) :
      Step isTaken ⟨past, none, true⟩ none ⟨past, some (⟨push, []⟩, .arrived), true⟩
  /-- A request needs no more than an answer. -/
  | settle (past : List Request) (push : Push) (moments : List Moment) (status : Nat) :
      push.errand = .answer status →
      Step isTaken ⟨past, some (⟨push, moments⟩, .arrived), true⟩ none
        ⟨past, some (⟨push, moments⟩, .answering status), true⟩
  /-- The body of a request cannot be read: the connection ends. -/
  | lose (past : List Request) (push : Push) (moments : List Moment) :
      push.errand = .lose →
      Step isTaken ⟨past, some (⟨push, moments⟩, .arrived), true⟩ none
        ⟨past ++ [⟨push, moments⟩], none, false⟩
  /-- The body of a request is read. -/
  | read (past : List Request) (push : Push) (moments : List Moment) (body : Bytes) :
      push.errand = .deliver body →
      Step isTaken ⟨past, some (⟨push, moments⟩, .arrived), true⟩ none
        ⟨past, some (⟨push, moments⟩, .sending body), true⟩
  /-- The body is put in the queue. -/
  | send (past : List Request) (push : Push) (moments : List Moment) (body : Bytes) :
      isTaken = true →
      Step isTaken ⟨past, some (⟨push, moments⟩, .sending body), true⟩ (some (push, body))
        ⟨past, some (⟨push, moments ++ [.queued body]⟩, .answering 200), true⟩
  /-- The body is dropped, since nobody takes bodies out any more. -/
  | drop (past : List Request) (push : Push) (moments : List Moment) (body : Bytes) :
      isTaken = false →
      Step isTaken ⟨past, some (⟨push, moments⟩, .sending body), true⟩ none
        ⟨past, some (⟨push, moments⟩, .answering 200), true⟩
  /-- The request is answered. -/
  | answer (past : List Request) (push : Push) (moments : List Moment) (status : Nat) :
      Step isTaken ⟨past, some (⟨push, moments⟩, .answering status), true⟩ none
        ⟨past ++ [⟨push, moments ++ [.answered status]⟩], none, true⟩
  /-- The connection ends, from either side, with whatever it was doing. -/
  | close (past : List Request) (current : Option (Request × Phase)) :
      Step isTaken ⟨past, current, true⟩ none
        ⟨past ++ (current.map Prod.fst).toList, none, false⟩

/-- **Orderly**: everything done on a connection is in order. -/
structure Orderly (connection : Connection) : Prop where
  past : ∀ request ∈ connection.past, request.InCourse
  /-- What was done about the current request goes on with what its phase leaves to do. -/
  current : ∀ request phase, connection.current = some (request, phase) →
    request.moments ++ phase.rest request.push = request.push.course
  closed : connection.isOpen = false → connection.current = none

theorem orderly_fresh : fresh.Orderly where
  past := by simp [fresh]
  current := by simp [fresh]
  closed := nofun

/-- The current request is in order like all others. -/
theorem Orderly.requests {connection : Connection} (h : connection.Orderly) :
    ∀ request ∈ connection.requests, request.InCourse := by
  intro request hmem
  rcases List.mem_append.mp hmem with hmem | hmem
  · exact h.past request hmem
  · cases hcurrent : connection.current with
    | none => simp [hcurrent] at hmem
    | some handled =>
      obtain ⟨current, phase⟩ := handled
      simp only [hcurrent, Option.map_some, Option.toList_some, List.mem_singleton] at hmem
      subst hmem
      exact ⟨_, h.current request phase hcurrent⟩

variable {connection next : Connection} {put : Option (Push × Bytes)}

/-- **Step**: a connection stays in order as long as bodies are taken out of the queue. -/
theorem Orderly.step (h : connection.Orderly) (hstep : Step true connection put next) :
    next.Orderly := by
  have hrequests := h.requests
  -- a step takes the first part of what the phase leaves to do over to the moments
  cases hstep with
  | arrive past push =>
    refine ⟨h.past, ?_, nofun⟩
    rintro request phase ⟨⟩
    rfl
  | settle past push moments status herrand =>
    refine ⟨h.past, ?_, nofun⟩
    rintro request phase ⟨⟩
    have hcourse := h.current _ _ rfl
    simpa [Phase.rest, Push.course, herrand] using hcourse
  | lose past push moments herrand =>
    exact ⟨hrequests, nofun, fun _ => rfl⟩
  | read past push moments body herrand =>
    refine ⟨h.past, ?_, nofun⟩
    rintro request phase ⟨⟩
    have hcourse := h.current _ _ rfl
    simpa [Phase.rest, Push.course, herrand] using hcourse
  | send past push moments body htaken =>
    refine ⟨h.past, ?_, nofun⟩
    rintro request phase ⟨⟩
    have hcourse := h.current _ _ rfl
    simpa [Phase.rest] using hcourse
  | drop past push moments body htaken => cases htaken
  | answer past push moments status =>
    refine ⟨fun request hmem => ?_, nofun, nofun⟩
    rcases List.mem_append.mp hmem with hmem | hmem
    · exact h.past request hmem
    · -- an answer is the last thing that is done about a push
      have hcourse := h.current _ _ rfl
      rw [List.mem_singleton.mp hmem]
      exact ⟨[], by rw [List.append_nil]; exact hcourse⟩
  | close past current =>
    exact ⟨hrequests, nofun, fun _ => rfl⟩

/-- **Step**: what is put in the queue is kept among the moments of its request. -/
theorem queued_step {isTaken : Bool} (hstep : Step isTaken connection put next) :
    next.queued = connection.queued ++ (put.map Prod.snd).toList := by
  -- the current request is the last one, so its body comes after all others
  cases hstep with
  | arrive past push => simp [queued, requests, Request.queued]
  | settle past push moments status herrand => simp [queued, requests]
  | lose past push moments herrand => simp [queued, requests]
  | read past push moments body herrand => simp [queued, requests]
  | send past push moments body htaken =>
    simp [queued, requests, Request.queued, Moment.body?]
  | drop past push moments body htaken => simp [queued, requests]
  | answer past push moments status =>
    simp [queued, requests, Request.queued, Moment.body?]
  | close past current => simp [queued, requests]

/-- **Step**: only a push that is there to deliver a body puts it in the queue. -/
theorem Orderly.delivery {isTaken : Bool} (h : connection.Orderly)
    (hstep : Step isTaken connection put next) {push : Push} {body : Bytes}
    (hput : put = some (push, body)) : push.delivery? = some body := by
  subst hput
  cases hstep with
  | send past push moments body htaken =>
    have hcourse := h.current _ _ rfl
    obtain ⟨-, herrand⟩ := Push.errand_of_course hcourse
    simp [Push.delivery?, herrand]

/-- Only an open connection does anything. -/
theorem isOpen_of_step {isTaken : Bool} (hstep : Step isTaken connection put next) :
    connection.isOpen = true := by
  cases hstep <;> rfl

end Connection

/-! ## Section 3: The pipeline -/

/-- How far the listener has come. -/
inductive Stage where
  | serving
  /-- It accepts no more connections, and waits for those that are open. -/
  | stopping
  | stopped
deriving DecidableEq, Repr

/-- Listener, queue, collector and batch. -/
structure Pipeline where
  stage : Stage
  /-- All connections so far, in the order in which they were opened. -/
  connections : List Connection
  queue : List Bytes
  /-- The body that the collector has taken out of the queue, on its way to the batch. -/
  hand : Option Bytes
  /-- Whether the collector still takes bodies out of the queue. -/
  isTaken : Bool
  batch : Batch
  /-- What was done with queue and batch, in order. A push is there from the moment its
      body is put in the queue. -/
  deeds : List Deed

namespace Pipeline

/-- A pipeline before any connection. -/
def start (ticks : Nat) : Pipeline := ⟨.serving, [], [], none, true, .fresh ticks, []⟩

/-- The bodies on their way to the batch. -/
def pending (pipeline : Pipeline) : List Bytes := pipeline.hand.toList ++ pipeline.queue

theorem pending_eq_nil {pipeline : Pipeline} :
    pipeline.pending = [] ↔ pipeline.hand = none ∧ pipeline.queue = [] := by
  rw [pending, List.append_eq_nil_iff, Option.toList_eq_nil_iff]

/-- Draining the pipeline is over: listener and collector have ended. -/
structure Drained (pipeline : Pipeline) : Prop where
  stage : pipeline.stage = .stopped
  isTaken : pipeline.isTaken = false

/-- What happens next in a pipeline. -/
inductive Step (harvester : Harvester) : Pipeline → Pipeline → Prop
  /-- A connection is opened. -/
  | connect (pipeline : Pipeline) :
      pipeline.stage = .serving →
      Step harvester pipeline
        { pipeline with connections := pipeline.connections ++ [.fresh] }
  /-- A connection does something that leaves the queue alone. -/
  | act (pipeline : Pipeline) (before after : List Connection)
      (connection next : Connection) :
      pipeline.connections = before ++ connection :: after →
      Connection.Step pipeline.isTaken connection none next →
      Step harvester pipeline { pipeline with connections := before ++ next :: after }
  /-- A connection puts a body in the queue, which has room for it. -/
  | put (pipeline : Pipeline) (before after : List Connection)
      (connection next : Connection) (push : Push) (body : Bytes) :
      pipeline.connections = before ++ connection :: after →
      Connection.Step pipeline.isTaken connection (some (push, body)) next →
      pipeline.queue.length < Listener.capacity →
      Step harvester pipeline
        { pipeline with
          connections := before ++ next :: after
          queue := pipeline.queue ++ [body]
          deeds := pipeline.deeds ++ [.received push (.answered 200)] }
  /-- The collector takes a body out of the queue. -/
  | fetch (pipeline : Pipeline) (body : Bytes) (rest : List Bytes) :
      pipeline.isTaken = true → pipeline.hand = none → pipeline.queue = body :: rest →
      Step harvester pipeline { pipeline with queue := rest, hand := some body }
  /-- The collector puts the body that it has taken in the batch. -/
  | file (pipeline : Pipeline) (reading : Reading) (body : Bytes) :
      pipeline.hand = some body →
      Step harvester pipeline
        { pipeline with
          hand := none
          batch := (harvester.collect pipeline.batch reading body).1
          deeds := pipeline.deeds ++ [.collected body] }
  /-- An invocation is registered. -/
  | register (pipeline : Pipeline) (requestId : String) (start : Instant) :
      Step harvester pipeline
        { pipeline with
          batch := pipeline.batch.addInvocation requestId start
          deeds := pipeline.deeds ++ [.registered requestId start] }
  /-- A harvest is taken. -/
  | harvest (pipeline : Pipeline) (reading : Reading) (force : Bool)
      (identity : Telemetry.Identity) :
      Step harvester pipeline
        { pipeline with
          batch := (pipeline.batch.harvest harvester.thresholds reading force).batch
          deeds := pipeline.deeds ++ [.harvested force identity
            (pipeline.batch.harvest harvester.thresholds reading force).taken] }
  /-- The listener is told to stop. -/
  | stop (pipeline : Pipeline) :
      pipeline.stage = .serving → Step harvester pipeline { pipeline with stage := .stopping }
  /-- The listener fails, and leaves its connections to end. -/
  | fail (pipeline : Pipeline) :
      pipeline.stage = .serving → Step harvester pipeline { pipeline with stage := .stopped }
  /-- The listener has stopped: all its connections have ended. -/
  | stopped (pipeline : Pipeline) :
      pipeline.stage = .stopping →
      (∀ connection ∈ pipeline.connections, connection.isOpen = false) →
      Step harvester pipeline { pipeline with stage := .stopped }
  /-- The collector ends: nobody can put a body in the queue any more, and none is left. -/
  | finish (pipeline : Pipeline) :
      pipeline.stage = .stopped →
      (∀ connection ∈ pipeline.connections, connection.isOpen = false) →
      pipeline.pending = [] →
      Step harvester pipeline { pipeline with isTaken := false }

/-- Any number of steps. -/
def Run (harvester : Harvester) : Pipeline → Pipeline → Prop :=
  Relation.ReflTransGen (Step harvester)

/-! ## Section 4: What every step keeps -/

/-- **Sound**: every connection is in order, queue and batch are accounted for, what was
    put in the queue is what connections put there, and the collector has not ended
    before everybody who could put a body in the queue. -/
structure Sound (harvester : Harvester) (pipeline : Pipeline) : Prop where
  orderly : ∀ connection ∈ pipeline.connections, connection.Orderly
  room : pipeline.queue.length ≤ Listener.capacity
  accounted : Accounted harvester pipeline.deeds pipeline.batch pipeline.pending
  queued : (pipeline.deeds.filterMap Deed.queued?).Perm
    (pipeline.connections.flatMap Connection.queued)
  senders : pipeline.isTaken = false → pipeline.stage = .stopped ∧ pipeline.pending = [] ∧
    ∀ connection ∈ pipeline.connections, connection.isOpen = false

variable {harvester : Harvester} {pipeline next : Pipeline}

theorem sound_start (harvester : Harvester) (ticks : Nat) :
    (start ticks).Sound harvester where
  orderly := by simp [start]
  room := Nat.zero_le _
  accounted := accounted_fresh harvester ticks
  queued := .nil
  senders := nofun

section

variable {before after : List Connection} {connection changed : Connection}
  {put : Option (Push × Bytes)}

/-- As long as a connection is open, bodies are taken out of the queue. -/
theorem Sound.isTaken (h : pipeline.Sound harvester)
    (hmem : connection ∈ pipeline.connections) (hopen : connection.isOpen = true) :
    pipeline.isTaken = true := by
  cases htaken : pipeline.isTaken with
  | true => rfl
  | false =>
    have hclosed := (h.senders htaken).2.2 connection hmem
    rw [hopen] at hclosed
    cases hclosed

/-- A connection that does something stays in order, and all others stay as they were. -/
theorem Sound.orderly_step (h : pipeline.Sound harvester)
    (hplace : pipeline.connections = before ++ connection :: after)
    (hstep : Connection.Step pipeline.isTaken connection put changed) :
    pipeline.isTaken = true ∧
      ∀ other ∈ before ++ changed :: after, other.Orderly := by
  have hmem : connection ∈ pipeline.connections := by simp [hplace]
  have htaken := h.isTaken hmem (Connection.isOpen_of_step hstep)
  rw [htaken] at hstep
  refine ⟨htaken, fun other hother => ?_⟩
  rcases List.mem_append.mp hother with hother | hother
  · exact h.orderly other (by simp [hplace, hother])
  · rcases List.mem_cons.mp hother with rfl | hother
    · exact (h.orderly connection hmem).step hstep
    · exact h.orderly other (by simp [hplace, hother])

/-- What a connection puts in the queue is added to what all of them put there. -/
theorem Sound.queued_step (h : pipeline.Sound harvester)
    (hplace : pipeline.connections = before ++ connection :: after)
    (hstep : Connection.Step pipeline.isTaken connection put changed) :
    (pipeline.deeds.filterMap Deed.queued? ++ (put.map Prod.snd).toList).Perm
      ((before ++ changed :: after).flatMap Connection.queued) := by
  have hall := h.queued
  rw [hplace, List.flatMap_append, List.flatMap_cons] at hall
  rw [List.flatMap_append, List.flatMap_cons, Connection.queued_step hstep]
  -- the body is moved from behind all connections to behind its own
  refine (hall.append_right _).trans ?_
  rw [List.append_assoc, List.append_assoc, List.append_assoc]
  refine List.Perm.append_left _ (List.Perm.append_left _ ?_)
  exact List.perm_append_comm

end

/-- A deed that puts nothing in the queue leaves what was put there. -/
theorem Sound.queued_pass (h : pipeline.Sound harvester) {deed : Deed}
    (hnone : deed.queued? = none) :
    ((pipeline.deeds ++ [deed]).filterMap Deed.queued?).Perm
      (pipeline.connections.flatMap Connection.queued) := by
  rw [List.filterMap_append, List.filterMap_cons_none hnone, List.filterMap_nil, List.append_nil]
  exact h.queued

/-- **Step**: a sound pipeline stays sound, whatever happens next. -/
theorem Sound.step (h : pipeline.Sound harvester) (hstep : Step harvester pipeline next) :
    next.Sound harvester := by
  cases hstep with
  | connect hserving =>
    refine ⟨fun connection hmem => ?_, h.room, h.accounted, ?_, fun htaken => ?_⟩
    · rcases List.mem_append.mp hmem with hmem | hmem
      · exact h.orderly connection hmem
      · rw [List.mem_singleton.mp hmem]
        exact Connection.orderly_fresh
    · rw [List.flatMap_append]
      simpa [Connection.queued, Connection.requests, Connection.fresh] using h.queued
    · rw [(h.senders htaken).1] at hserving
      cases hserving
  | act before after connection changed hplace hact =>
    obtain ⟨htaken, horderly⟩ := h.orderly_step hplace hact
    refine ⟨horderly, h.room, h.accounted, ?_, fun hended => ?_⟩
    · simpa using h.queued_step hplace hact
    · rw [htaken] at hended
      cases hended
  | put before after connection changed push body hplace hput hroom =>
    obtain ⟨htaken, horderly⟩ := h.orderly_step hplace hput
    have hconnection := h.orderly connection (by simp [hplace])
    have hdelivery := hconnection.delivery hput rfl
    refine ⟨horderly, ?_, ?_, ?_, fun hended => ?_⟩
    · rw [List.length_append]
      exact hroom
    · refine h.accounted.pass rfl rfl ?_
      simp [pending, Deed.queued?, Deed.collected?, hdelivery]
    · have hqueued := h.queued_step hplace hput
      simpa [Deed.queued?, hdelivery] using hqueued
    · rw [htaken] at hended
      cases hended
  -- the collector's steps move the first body that is pending
  | fetch body rest htaken hhand hqueue =>
    have hpending : pipeline.pending = body :: rest := by
      rw [pending, hhand, hqueue]
      rfl
    have haccounted := h.accounted
    have hroom := h.room
    rw [hpending] at haccounted
    rw [hqueue] at hroom
    refine ⟨h.orderly, Nat.le_of_succ_le hroom, haccounted, h.queued, fun hended => ?_⟩
    rw [htaken] at hended
    cases hended
  | file reading body hhand =>
    have hpending : pipeline.pending = body :: pipeline.queue := by
      rw [pending, hhand]
      rfl
    have haccounted := h.accounted
    rw [hpending] at haccounted
    refine ⟨h.orderly, h.room, haccounted.collect reading, h.queued_pass rfl, fun hended => ?_⟩
    -- a collector that has ended has nothing in its hand
    have hempty := (h.senders hended).2.1
    rw [hpending] at hempty
    cases hempty
  | register requestId start =>
    refine ⟨h.orderly, h.room, ?_, h.queued_pass rfl, h.senders⟩
    exact h.accounted.operate ⟨start, 0⟩ (.addInvocation requestId start) rfl rfl
      (List.append_nil _).symm
  | harvest reading force identity =>
    refine ⟨h.orderly, h.room, ?_, h.queued_pass rfl, h.senders⟩
    exact h.accounted.operate reading (.harvest force) rfl rfl (List.append_nil _).symm
  | stop hserving =>
    refine ⟨h.orderly, h.room, h.accounted, h.queued, fun hended => ?_⟩
    rw [(h.senders hended).1] at hserving
    cases hserving
  | fail hserving =>
    refine ⟨h.orderly, h.room, h.accounted, h.queued, fun hended => ?_⟩
    exact ⟨rfl, (h.senders hended).2⟩
  | stopped hstopping hclosed =>
    refine ⟨h.orderly, h.room, h.accounted, h.queued, fun hended => ?_⟩
    exact ⟨rfl, (h.senders hended).2⟩
  | finish hstopped hclosed hqueue =>
    exact ⟨h.orderly, h.room, h.accounted, h.queued, fun _ => ⟨hstopped, hqueue, hclosed⟩⟩

/-- **Run**: so does every run. -/
theorem Sound.run (h : pipeline.Sound harvester) (hrun : Run harvester pipeline next) :
    next.Sound harvester := by
  induction hrun with
  | refl => exact h
  | tail _ hstep ih => exact ih.step hstep

/-! ## Section 5: Nobody waits forever -/

/-- All connections can be closed, one after the other. -/
theorem exists_close (harvester : Harvester) :
    ∀ (after before : List Connection) (pipeline : Pipeline),
      pipeline.connections = before ++ after →
      (∀ connection ∈ before, connection.isOpen = false) →
      ∃ connections, Run harvester pipeline { pipeline with connections := connections } ∧
        ∀ connection ∈ connections, connection.isOpen = false
  | [], before, pipeline, hplace, hbefore => by
    rw [List.append_nil] at hplace
    subst hplace
    exact ⟨pipeline.connections, .refl, hbefore⟩
  | ⟨past, current, isOpen⟩ :: after, before, pipeline, hplace, hbefore => by
    cases isOpen with
    | false =>
      refine exists_close harvester after (before ++ [⟨past, current, false⟩]) pipeline ?_ ?_
      · rw [hplace, List.append_assoc]
        rfl
      · intro connection hmem
        rcases List.mem_append.mp hmem with hmem | hmem
        · exact hbefore connection hmem
        · rw [List.mem_singleton.mp hmem]
    | true =>
      let closed : Connection := ⟨past ++ (current.map Prod.fst).toList, none, false⟩
      have hstep : Step harvester pipeline
          { pipeline with connections := before ++ closed :: after } :=
        .act pipeline before after _ closed hplace (.close past current)
      obtain ⟨connections, hrun, hclosed⟩ := exists_close harvester after (before ++ [closed])
        { pipeline with connections := before ++ closed :: after }
        (List.append_assoc before [closed] after).symm (by
          intro connection hmem
          rcases List.mem_append.mp hmem with hmem | hmem
          · exact hbefore connection hmem
          · rw [List.mem_singleton.mp hmem])
      exact ⟨connections, .head hstep hrun, hclosed⟩

/-- A body can be collected where the collector is free. -/
theorem run_collect (harvester : Harvester) (pipeline : Pipeline) (reading : Reading)
    {body : Bytes} {rest : List Bytes} (htaken : pipeline.isTaken = true)
    (hhand : pipeline.hand = none) (hqueue : pipeline.queue = body :: rest) :
    Run harvester pipeline
      { pipeline with
        queue := rest
        batch := (harvester.collect pipeline.batch reading body).1
        deeds := pipeline.deeds ++ [.collected body] } := by
  obtain ⟨stage, connections, queue, hand, isTaken, batch, deeds⟩ := pipeline
  cases hhand
  let fetched : Pipeline := ⟨stage, connections, rest, some body, isTaken, batch, deeds⟩
  have hfetch : Step harvester ⟨stage, connections, queue, none, isTaken, batch, deeds⟩ fetched :=
    .fetch _ body rest htaken rfl hqueue
  exact .head hfetch (.single (.file fetched reading body rfl))

/-- All bodies in the queue can be collected, one after the other. -/
theorem run_collectAll (harvester : Harvester) (reading : Reading) :
    ∀ (queue : List Bytes) (pipeline : Pipeline), pipeline.isTaken = true →
      pipeline.hand = none → pipeline.queue = queue →
      Run harvester pipeline
        { pipeline with
          queue := []
          batch := (harvester.collectAll reading pipeline.batch queue).1
          deeds := pipeline.deeds ++ queue.map .collected }
  | [], pipeline, _, _, hqueue => by
    rw [List.map_nil, List.append_nil]
    obtain ⟨stage, connections, queue, hand, isTaken, batch, deeds⟩ := pipeline
    subst hqueue
    exact .refl
  | body :: rest, pipeline, htaken, hhand, hqueue => by
    have hfirst := run_collect harvester pipeline reading htaken hhand hqueue
    have hrest := run_collectAll harvester reading rest
      { pipeline with
        queue := rest
        batch := (harvester.collect pipeline.batch reading body).1
        deeds := pipeline.deeds ++ [.collected body] } htaken hhand rfl
    rw [List.map_cons, List.append_cons]
    exact hfirst.trans hrest

/-- All bodies that are on their way can be collected, from the collector's hand on. -/
theorem run_collectPending (harvester : Harvester) (reading : Reading) (pipeline : Pipeline)
    (htaken : pipeline.isTaken = true) :
    Run harvester pipeline
      { pipeline with
        queue := []
        hand := none
        batch := (harvester.collectAll reading pipeline.batch pipeline.pending).1
        deeds := pipeline.deeds ++ pipeline.pending.map .collected } := by
  obtain ⟨stage, connections, queue, hand, isTaken, batch, deeds⟩ := pipeline
  cases hand with
  | none =>
    exact run_collectAll harvester reading queue
      ⟨stage, connections, queue, none, isTaken, batch, deeds⟩ htaken rfl rfl
  | some body =>
    let filed : Pipeline :=
      ⟨stage, connections, queue, none, isTaken, (harvester.collect batch reading body).1,
        deeds ++ [.collected body]⟩
    have hfile : Step harvester
        ⟨stage, connections, queue, some body, isTaken, batch, deeds⟩ filed :=
      .file _ reading body rfl
    have hrest := run_collectAll harvester reading queue filed htaken rfl rfl
    show Run harvester _ ⟨stage, connections, [], none, isTaken, _,
      deeds ++ .collected body :: queue.map .collected⟩
    rw [List.append_cons]
    exact .head hfile hrest

/-- A listener that was told to stop can stop, and the collector can end after it, with
    all bodies in the batch. -/
theorem exists_drained_of_stopping (harvester : Harvester) (reading : Reading)
    (pipeline : Pipeline) (htaken : pipeline.isTaken = true)
    (hstage : pipeline.stage ≠ .serving) :
    ∃ drained, Run harvester pipeline drained ∧ drained.Drained ∧
      drained.batch = (harvester.collectAll reading pipeline.batch pipeline.pending).1 ∧
      drained.deeds = pipeline.deeds ++ pipeline.pending.map .collected := by
  obtain ⟨connections, hclose, hclosed⟩ :=
    exists_close harvester pipeline.connections [] pipeline rfl (by simp)
  -- first all connections are closed, then the listener has stopped,
  let closed : Pipeline := { pipeline with connections := connections }
  let stopped : Pipeline := { closed with stage := .stopped }
  have hstopped : Run harvester pipeline stopped := by
    cases hcase : pipeline.stage with
    | serving => exact absurd hcase hstage
    | stopping => exact hclose.tail (.stopped closed hcase hclosed)
    | stopped =>
      have hsame : stopped = closed := by
        show ({ pipeline with stage := .stopped, connections := connections } : Pipeline)
          = { pipeline with connections := connections }
        rw [hcase]
      rw [hsame]
      exact hclose
  -- then the queue is emptied, and the collector ends
  have hcollect := run_collectPending harvester reading stopped htaken
  have hfinish := hcollect.tail (.finish _ rfl hclosed rfl)
  exact ⟨_, hstopped.trans hfinish, ⟨rfl, rfl⟩, rfl, rfl⟩

/-- **No hang**: every run of a sound pipeline can be continued until it is drained. -/
theorem Sound.exists_drained (h : pipeline.Sound harvester) :
    ∃ drained, Run harvester pipeline drained ∧ drained.Drained := by
  cases htaken : pipeline.isTaken with
  | false => exact ⟨pipeline, .refl, (h.senders htaken).1, htaken⟩
  | true =>
    by_cases hstage : pipeline.stage = .serving
    · obtain ⟨drained, hrun, hdrained, -⟩ := exists_drained_of_stopping harvester ⟨0, 0⟩
        { pipeline with stage := .stopping } htaken (by simp)
      exact ⟨drained, .head (.stop pipeline hstage) hrun, hdrained⟩
    · obtain ⟨drained, hrun, hdrained, -⟩ :=
        exists_drained_of_stopping harvester ⟨0, 0⟩ pipeline htaken hstage
      exact ⟨drained, hrun, hdrained⟩

section

variable {before after : List Connection} {past : List Request} {push : Push}
  {moments : List Moment}

/-- A request that is about to be answered can be answered. -/
theorem exists_answer_of_answering (harvester : Harvester) (pipeline : Pipeline) {status : Nat}
    (hplace : pipeline.connections
      = before ++ ⟨past, some (⟨push, moments⟩, .answering status), true⟩ :: after)
    (hcourse : moments ++ [.answered status] = push.course) :
    ∃ next, Run harvester pipeline next ∧
      next.connections = before ++ ⟨past ++ [⟨push, push.course⟩], none, true⟩ :: after := by
  have hstep : Step harvester pipeline _ :=
    .act pipeline before after _ _ hplace (.answer past push moments status)
  refine ⟨_, .single hstep, ?_⟩
  rw [hcourse]

/-- The collector can make room in the queue. -/
theorem exists_room (harvester : Harvester) (pipeline : Pipeline)
    (htaken : pipeline.isTaken = true) (hroom : pipeline.queue.length ≤ Listener.capacity) :
    ∃ next, Run harvester pipeline next ∧ next.isTaken = true ∧
      next.connections = pipeline.connections ∧ next.queue.length < Listener.capacity := by
  cases hqueue : pipeline.queue with
  | nil =>
    refine ⟨pipeline, .refl, htaken, rfl, ?_⟩
    rw [hqueue]
    decide
  | cons first rest =>
    rw [hqueue] at hroom
    cases hhand : pipeline.hand with
    | none =>
      have hfetch : Step harvester pipeline _ := .fetch pipeline first rest htaken hhand hqueue
      exact ⟨_, .single hfetch, htaken, rfl, hroom⟩
    | some body =>
      -- what is in its hand goes into the batch before
      let filed : Pipeline :=
        { pipeline with
          hand := none
          batch := (harvester.collect pipeline.batch ⟨0, 0⟩ body).1
          deeds := pipeline.deeds ++ [.collected body] }
      have hfile : Step harvester pipeline filed := .file pipeline ⟨0, 0⟩ body hhand
      have hfetch : Step harvester filed _ := .fetch filed first rest htaken rfl hqueue
      exact ⟨_, .head hfile (.single hfetch), htaken, rfl, hroom⟩

/-- A request whose body waits for room can be answered, once there is room. -/
theorem exists_answer_of_sending (harvester : Harvester) (pipeline : Pipeline) {body : Bytes}
    (htaken : pipeline.isTaken = true) (hroom : pipeline.queue.length ≤ Listener.capacity)
    (hplace : pipeline.connections
      = before ++ ⟨past, some (⟨push, moments⟩, .sending body), true⟩ :: after)
    (hcourse : moments ++ [.queued body, .answered 200] = push.course) :
    ∃ next, Run harvester pipeline next ∧
      next.connections = before ++ ⟨past ++ [⟨push, push.course⟩], none, true⟩ :: after := by
  obtain ⟨ready, hready, htaken', hsame, hfree⟩ := exists_room harvester pipeline htaken hroom
  -- the body is put in the queue, and then the request is answered
  let sent : Pipeline :=
    { ready with
      connections := before
        ++ ⟨past, some (⟨push, moments ++ [.queued body]⟩, .answering 200), true⟩ :: after
      queue := ready.queue ++ [body]
      deeds := ready.deeds ++ [.received push (.answered 200)] }
  have hput : Step harvester ready sent :=
    .put ready before after _ _ push body (hsame.trans hplace)
      (.send past push moments body htaken') hfree
  have hrest : (moments ++ [.queued body]) ++ [.answered 200] = push.course := by
    rw [List.append_assoc]
    exact hcourse
  obtain ⟨next, hrun, hanswered⟩ := exists_answer_of_answering harvester sent rfl hrest
  exact ⟨next, hready.trans (.head hput hrun), hanswered⟩

/-- **No starving**: every request whose body can be read, on any connection, can be
    answered in the end, with all that its course asks for. -/
theorem Sound.exists_answer (h : pipeline.Sound harvester) {phase : Phase}
    (hplace : pipeline.connections
      = before ++ ⟨past, some (⟨push, moments⟩, phase), true⟩ :: after)
    (hreadable : push.errand ≠ .lose) :
    ∃ next, Run harvester pipeline next ∧
      next.connections = before ++ ⟨past ++ [⟨push, push.course⟩], none, true⟩ :: after := by
  have hmem : ⟨past, some (⟨push, moments⟩, phase), true⟩ ∈ pipeline.connections := by
    simp [hplace]
  have htaken := h.isTaken hmem rfl
  have hcourse := (h.orderly _ hmem).current _ _ rfl
  cases phase with
  | answering status => exact exists_answer_of_answering harvester pipeline hplace hcourse
  | sending body =>
    exact exists_answer_of_sending harvester pipeline htaken h.room hplace hcourse
  | arrived =>
    -- nothing was done about it yet
    have hnil : moments = [] := List.append_left_eq_self.mp hcourse
    subst hnil
    cases herrand : push.errand with
    | lose => exact absurd herrand hreadable
    | answer status =>
      let settled : Pipeline :=
        { pipeline with
          connections := before ++ ⟨past, some (⟨push, []⟩, .answering status), true⟩ :: after }
      have hstep : Step harvester pipeline settled :=
        .act pipeline before after _ _ hplace (.settle past push [] status herrand)
      have hrest : [] ++ [.answered status] = push.course := by
        simp [Push.course, herrand]
      obtain ⟨next, hrun, hanswered⟩ :=
        exists_answer_of_answering harvester settled rfl hrest
      exact ⟨next, .head hstep hrun, hanswered⟩
    | deliver body =>
      let read : Pipeline :=
        { pipeline with
          connections := before ++ ⟨past, some (⟨push, []⟩, .sending body), true⟩ :: after }
      have hstep : Step harvester pipeline read :=
        .act pipeline before after _ _ hplace (.read past push [] body herrand)
      have hrest : [] ++ [.queued body, .answered 200] = push.course := by
        simp [Push.course, herrand]
      obtain ⟨next, hrun, hanswered⟩ :=
        exists_answer_of_sending harvester read htaken h.room rfl hrest
      exact ⟨next, .head hstep hrun, hanswered⟩

end

end Pipeline

end Session

end TelemetryRelay
