import TelemetryRelay.Proofs.Session.Rounds

/-! # What the end of a life leaves behind

    A life ends when the host shuts down, when it is cancelled, or when a poll brings no
    event. However it ends, what was put in the queue was harvested, or is still in the
    queue or the batch. The ends differ in what is still there:

    - shutting down harvests the batch, and the queue before it if there is time,
    - a poll that brings no event ends a life at once: it harvests nothing, so that
      whatever the queue and the batch hold at this moment stays in them and is lost
      with the process.
-/

namespace TelemetryRelay

namespace Session

open Host (Event)
open Telemetry (Reading)
open Telemetry.Batch (chunksUnder filedUnder filings)

/-! ## Section 1: Marks of an end -/

/-- Whether a mark is one of giving away everything that is left. -/
def Mark.isClosing : Mark → Bool
  | .drained => true
  | .harvested force _ => force
  | _ => false

/-- Marks of a life that goes on. -/
def Ongoing (marks : List Mark) : Prop := ∀ mark ∈ marks, mark.isClosing = false

theorem Ongoing.append {marks more : List Mark} (h : Ongoing marks) (h' : Ongoing more) :
    Ongoing (marks ++ more) := by
  intro mark hmem
  rcases List.mem_append.mp hmem with hmem | hmem
  · exact h mark hmem
  · exact h' mark hmem

theorem ongoing_pushesOf (happenings : List Happening) : Ongoing (pushesOf happenings) := by
  intro mark hmem
  obtain ⟨happening, -, hmark⟩ := List.mem_filterMap.mp hmem
  cases happening with
  | pushed push => cases hmark; rfl
  | collected => cases hmark
  | signalled termination => cases hmark

/-- What is left behind by a life that ended after some marks. -/
structure Leaves (marks : List Mark) (ended : State) (ending : Ending) : Prop where
  /-- A life that failed gave nothing away. -/
  failed : ∀ error, ending = .failed error → Ongoing marks
  /-- A life that was not cancelled gave its batch away, and its queue unless it was out
      of time. -/
  finished : ending = .finished → ended.cancelled = false →
    ended.harvest.batch.invocations = [] ∧ (ended.listener.pending = [] ∨ .drained ∉ marks)

/-- A life that has left only marks of going on since a state. -/
def Continues (first state : State) : Prop :=
  ∃ marks, state.marks = first.marks ++ marks ∧ Ongoing marks

/-- A life that has ended since a state, with what its end leaves behind. -/
def Ends (first ended : State) (ending : Ending) : Prop :=
  ∃ marks, ended.marks = first.marks ++ marks ∧ Leaves marks ended ending

section

variable {first state next : State} {marks : List Mark} {ending : Ending}

/-- What a life that finished leaves behind, as it did not fail. -/
theorem leaves_finished (h : next.cancelled = false →
    next.harvest.batch.invocations = [] ∧ (next.listener.pending = [] ∨ .drained ∉ marks)) :
    Leaves marks next .finished where
  failed _ hfailed := by cases hfailed
  finished _ := h

theorem continues_refl (first : State) : Continues first first :=
  ⟨[], (List.append_nil _).symm, nofun⟩

/-- More marks of going on change nothing. -/
theorem Continues.add (h : Continues first state)
    (hmarks : next.marks = state.marks ++ marks) (hongoing : Ongoing marks) :
    Continues first next := by
  obtain ⟨before, hbefore, hcontinues⟩ := h
  refine ⟨before ++ marks, ?_, hcontinues.append hongoing⟩
  rw [hmarks, hbefore, List.append_assoc]

theorem Continues.tell (h : Continues first state) (notices : List Log.Notice) :
    Continues first (state.tell notices) :=
  h.add ((State.marks_tell state notices).trans (List.append_nil _).symm) nofun

/-- An end leaves behind what it leaves behind, whatever was before. -/
theorem Continues.finish (h : Continues first state)
    (hmarks : next.marks = state.marks ++ marks) (hleaves : Leaves marks next ending) :
    Ends first next ending := by
  obtain ⟨before, hbefore, hcontinues⟩ := h
  -- the marks before are none of draining, so `drained ∉ marks` stands for all of them
  refine ⟨before ++ marks, ?_, ⟨fun error herror => ?_, fun hfinished hcancelled => ?_⟩⟩
  · rw [hmarks, hbefore, List.append_assoc]
  · exact hcontinues.append (hleaves.failed error herror)
  · obtain ⟨hempty, hqueue⟩ := hleaves.finished hfinished hcancelled
    refine ⟨hempty, hqueue.imp_right fun hmem hall => ?_⟩
    rcases List.mem_append.mp hall with hall | hall
    · cases hcontinues _ hall
    · exact hmem hall

/-- A life that stops in the middle leaves everything as it is. -/
theorem Continues.stop (h : Continues first state) (hending : ending ≠ .finished) :
    Ends first state ending := by
  obtain ⟨marks, hmarks, hcontinues⟩ := h
  exact ⟨marks, hmarks, fun _ _ => hcontinues, fun hfinished => absurd hfinished hending⟩

end

/-! ## Section 2: The end of a round -/

namespace Lifecycle

variable {life : Lifecycle} {first state : State}

/-- Waiting for the answer to a poll goes on. -/
theorem continues_awaited (h : Continues first state) (life : Lifecycle) (round : Round) :
    Continues first (life.awaited round state) := by
  -- nothing is known of the answer here, so there may be any number of requests
  have hpolls : Ongoing (marksOf (Deed.ofPoll (life.poll state).made)) := by
    intro mark hmem
    obtain ⟨deed, hdeed, hmark⟩ := List.mem_filterMap.mp hmem
    obtain ⟨request, rfl | rfl⟩ := mem_ofPoll hdeed
    · cases hmark
      rfl
    · cases hmark
  refine h.add ?_ (hpolls.append (ongoing_pushesOf round.happenings))
  unfold Lifecycle.awaited
  rw [marks_undergoAll, State.marks_perform, State.marks_tell, List.append_assoc]

/-- Handling an invocation goes on. -/
theorem continues_invoke (h : Continues first state) (life : Lifecycle) (round : Round)
    (requestId arn : String) : Continues first (life.invoke round requestId arn state) := by
  have hregistered : Ongoing [.registered requestId] := by simp [Ongoing, Mark.isClosing]
  have hharvested : Ongoing [.harvested false ⟨life.functionName, arn⟩] := by
    simp [Ongoing, Mark.isClosing]
  refine h.add ?_ (hregistered.append ((ongoing_pushesOf round.meanwhile).append hharvested))
  exact (marks_invoke round requestId arn state).trans (List.append_assoc ..)

/-- Shutting down harvests the batch, and the queue before it if there is time. -/
theorem ends_shutDown (h : Continues first state) (life : Lifecycle) (round : Round)
    (reason : String) (deadline : Int) :
    Ends first (life.shutDown round reason deadline state) .finished := by
  have hwarned : (life.warned round reason state).marks
      = state.marks ++ pushesOf round.meanwhile := by
    rw [warned, marks_undergoAll, State.marks_tell]
  have hcontinues : Continues first (life.warned round reason state) :=
    h.add hwarned (ongoing_pushesOf round.meanwhile)
  rw [shutDown_eq]
  generalize life.warned round reason state = warned at hcontinues ⊢
  let harvested : Mark := .harvested true ⟨life.functionName, warned.arn⟩
  split
  · -- out of time: the queue is left as it is
    have hmarks : ((life.dispatch round.reading .already true
        (warned.tell [.drainTimedOut])).tell [.shutDown]).marks
          = warned.marks ++ [harvested] := by
      rw [State.marks_tell, marks_dispatch, State.marks_tell]
      rfl
    exact hcontinues.finish hmarks (leaves_finished fun _ => ⟨rfl, .inr (by simp [harvested])⟩)
  · have hmarks : ((life.dispatch round.reading
        (.after (shutdownBudget deadline round.reading.now - round.stopping)) true
        (life.drain round.reading warned)).tell [.shutDown]).marks
          = warned.marks ++ [.drained, harvested] := by
      rw [State.marks_tell, marks_dispatch, marks_drain, List.append_assoc]
      rfl
    exact hcontinues.finish hmarks (leaves_finished fun _ => ⟨rfl, .inl rfl⟩)

/-- Nothing is promised of a life that was cancelled. -/
theorem ends_leave (h : Continues first state) (life : Lifecycle) (reading : Reading)
    (hcancelled : state.cancelled = true) :
    Ends first (life.leave reading state).1 .finished := by
  have hmarks : (life.leave reading state).1.marks = state.marks ++ [.drained] := by
    unfold Lifecycle.leave
    rw [marks_drain, State.marks_tell]
  refine h.finish hmarks (leaves_finished fun hleft => ?_)
  have hstill : state.cancelled = false := hleft
  rw [hcancelled] at hstill
  cases hstill

/-- **Step**: a round goes on, or leaves behind what its end says. -/
theorem continues_turn (h : Continues first state) (life : Lifecycle) (round : Round) :
    match life.turn state round with
    | (next, none) => Continues first next
    | (ended, some ending) => Ends first ended ending := by
  have hawaited := continues_awaited h life round
  have hturn := turn_turn life round state
  generalize life.turn state round = result at hturn ⊢
  cases hturn with
  | skips hcancelled => exact ends_leave (h.tell [.waiting]) life round.reading hcancelled
  | breaks hbreaks =>
    have hbroken : Continues first { life.awaited round state with cancelled := true } :=
      hawaited
    exact ends_leave hbroken life round.reading rfl
  | waits url hsilent => exact hawaited.stop nofun
  | fails error hcancelled herror =>
    -- nothing is given away here, although the life was not cancelled
    exact hawaited.stop nofun
  | hears event hcancelled hevent =>
    have htold := hawaited.tell [.received event.describe]
    cases event with
    | invoke deadline requestId arn => exact continues_invoke htold life round requestId arn
    | shutdown reason deadline => exact ends_shutDown htold life round reason deadline

/-! ## Section 3: The end of a life -/

/-- **Run**: a life leaves behind what its end says. -/
theorem ends_run (life : Lifecycle) (rounds : List Round) (first : State) :
    Ends first (life.run first rounds).1 (life.run first rounds).2 :=
  life.run_induct (Continues first) (Ends first) (fun _ h => h.stop nofun)
    (fun _ round h => continues_turn h life round) rounds first (continues_refl first)

/-- **Every end**: however a life ends, what was taken out of the queue, with what still
    waits, is what was put in; and what harvests took under an id, with what the batch
    still holds there, is what was filed there. A life that shuts down uncancelled leaves
    nothing in the batch, and nothing in the queue unless it had no time to drain it. A
    life that fails, which it does as soon as a poll brings no event, has neither drained
    the queue nor forced a harvest. -/
theorem every_end_is_accounted_for (life : Lifecycle) (keyring : Credential.Keyring)
    (ticks : Nat) (base : List Deed) (rounds : List Round) :
    let result := life.run (.start (.start keyring ticks) base) rounds
    ∃ since, result.1.deeds = base ++ since ∧
      since.filterMap Deed.collected? ++ result.1.listener.pending
        = since.filterMap Deed.queued? ∧
      (∀ requestId, chunksUnder requestId (since.flatMap Deed.taken)
          ++ chunksUnder requestId result.1.harvest.batch.invocations
        = filedUnder requestId
          (filings [] (operationsOf life.harvester.collects since))) ∧
      (result.2 = .finished → result.1.cancelled = false →
        result.1.harvest.batch.invocations = [] ∧
          (result.1.listener.pending = [] ∨ .drained ∉ marksOf since)) ∧
      ∀ error, result.2 = .failed error →
        ∀ mark ∈ marksOf since, mark.isClosing = false := by
  intro result
  have hstart := life.accountedSince_start keyring ticks base
  obtain ⟨since, hdeeds, haccounted⟩ := hstart.run Listener.serves_fresh rounds
  obtain ⟨marks, hmarks, hleaves⟩ := life.ends_run rounds (.start (.start keyring ticks) base)
  have hsince : marksOf since = marks := State.marksOf_since hdeeds hmarks
  rw [← hsince] at hleaves
  exact ⟨since, hdeeds, haccounted.queue, haccounted.balanced.chunks, hleaves.finished,
    hleaves.failed⟩

end Lifecycle

/-- A host that answers the first poll with an invocation, and fails from then on. -/
def brokenHost : Http.Network := fun history request =>
  if history.isEmpty then briefHost history request else .answered ⟨500, [], []⟩

/-- A life with this host. -/
def brokenLife : Lifecycle := { briefLife with network := brokenHost }

/-- A round in which one push is taken into the batch, and another one waits. -/
def busyRound : Round :=
  { briefRound with
    happenings := [.pushed ⟨"POST", "/", some [120]⟩, .pushed ⟨"POST", "/", some [121]⟩,
      .collected] }

/-- A poll that fails abandons what is left: the second poll of this life fails, and the
    life ends with chunks in its batch and in its queue that it never harvests. -/
theorem failed_poll_abandons_chunks :
    let result := brokenLife.run (.start (.start (.ofKey "k") 0) []) [busyRound, busyRound]
    result.2 = .failed (.status "http://127.0.0.1:9001/2020-01-01/extension/event/next" 500 "") ∧
    result.1.cancelled = false ∧
    result.1.harvest.batch.invocations
      = [⟨"", 0, [Bytes.ofText "x"]⟩, ⟨"r", 0, [Bytes.ofText "y"]⟩] ∧
    result.1.listener.pending = [Bytes.ofText "x", Bytes.ofText "y"] := by
  decide +kernel

end Session

end TelemetryRelay
