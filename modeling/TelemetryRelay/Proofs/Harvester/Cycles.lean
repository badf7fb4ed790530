import Mathlib.Data.List.Perm.Basic
import TelemetryRelay.Ingest.Harvester
import TelemetryRelay.Proofs.Batch.Conservation
import TelemetryRelay.Proofs.Dispatch.Stages

/-! # Every chunk is dispatched at most once

    A harvester is used from several places: invocations are registered and chunks
    arrive while a dispatch is under way. A dispatch takes its harvest at once and
    carries it out later, so it is two moves here, and what happens in between is
    whatever stands between them in a list of moves. This module follows a
    harvester through any such list, and shows

    - that a move is one operation on the batch or leaves it alone, and that only
      taking a harvest takes anything,
    - that every harvest is waiting or was handed to one dispatch,
    - what all dispatches together handed to the courier,
    - that after a harvest nothing of it is found in the batch again, whatever
      becomes of its dispatch.
-/

namespace TelemetryRelay

namespace Ingest

open Telemetry (Batch Identity Invocation Payloads Reading)
open Telemetry.Batch (Operation chunksUnder filedUnder filings)

/-! ## Section 1: Moves -/

/-- What is done to a harvester. -/
inductive Move where
  /-- An invocation is registered. -/
  | register (requestId : String) (start : Timestamp.Instant)
  /-- A chunk is added for an invocation. -/
  | append (requestId : String) (chunk : Bytes)
  /-- The collector moves a chunk out of the queue. -/
  | collect (chunk : Bytes)
  /-- A dispatch for a function begins: it takes its harvest. -/
  | take (identity : Identity) (force : Bool)
  /-- A dispatch that has taken its harvest carries it out. Its place is that among
      all harvests that wait for this. -/
  | carryOut (place : Nat) (network : Http.Network) (history : List Http.Request)
      (cancellation : Cancellation)

/-- A dispatch that was carried out. -/
structure Dispatch where
  context : Context
  identity : Identity
  harvested : List Invocation
  cycle : Cycle

/-- A harvester in use, with what was done so far. -/
structure Chronicle where
  state : HarvestState
  /-- What was taken, harvest by harvest. -/
  harvests : List (List Invocation)
  /-- The harvests that wait to be carried out, each with its function. -/
  waiting : List (Identity × List Invocation)
  /-- The dispatches in the order in which they were carried out. -/
  dispatches : List Dispatch

namespace Chronicle

/-- A harvester before its first move. -/
def start (keyring : Credential.Keyring) (ticks : Nat) : Chronicle :=
  ⟨.start keyring ticks, [], [], []⟩

/-- The batch of the harvester. -/
def batch (chronicle : Chronicle) : Batch := chronicle.state.batch

/-- The harvester with another batch. -/
def withBatch (chronicle : Chronicle) (batch : Batch) : Chronicle :=
  { chronicle with state := { chronicle.state with batch := batch } }

end Chronicle

namespace Harvester

variable (harvester : Harvester) (ids : Nat → String)

/-- Carries an operation out on the batch. -/
def operate (reading : Reading) (operation : Operation) (chronicle : Chronicle) :
    Chronicle :=
  chronicle.withBatch (chronicle.batch.step harvester.thresholds reading operation).batch

/-- Takes a harvest. One that is empty is not dispatched. -/
def take (reading : Reading) (identity : Identity) (force : Bool) (chronicle : Chronicle) :
    Chronicle :=
  let harvest := chronicle.batch.harvest harvester.thresholds reading force
  { chronicle.withBatch harvest.batch with
    harvests := chronicle.harvests ++ [harvest.taken]
    waiting := chronicle.waiting
      ++ if harvest.taken.isEmpty then [] else [(identity, harvest.taken)] }

/-- Carries a harvest out. -/
def carryOut (place : Nat) (network : Http.Network) (history : List Http.Request)
    (cancellation : Cancellation) (chronicle : Chronicle) : Chronicle :=
  match chronicle.waiting[place]? with
  | none => chronicle
  | some (identity, harvested) =>
    let state := chronicle.state
    let context : Context :=
      ⟨network, history, cancellation, state.keyring, ids, state.drawn⟩
    let cycle := harvester.dispatcher.dispatch context identity harvested
    { chronicle with
      state := ⟨state.batch, cycle.keyring, cycle.drawn⟩
      waiting := chronicle.waiting.eraseIdx place
      dispatches := chronicle.dispatches ++ [⟨context, identity, harvested, cycle⟩] }

/-- Makes a move. -/
def move (chronicle : Chronicle) (timed : Reading × Move) : Chronicle :=
  match timed.2 with
  | .register requestId start =>
    harvester.operate timed.1 (.addInvocation requestId start) chronicle
  | .append requestId chunk =>
    harvester.operate timed.1 (.addTelemetry requestId chunk) chronicle
  | .collect chunk =>
    chronicle.withBatch (harvester.collect chronicle.batch timed.1 chunk).1
  | .take identity force => harvester.take timed.1 identity force chronicle
  | .carryOut place network history cancellation =>
    harvester.carryOut ids place network history cancellation chronicle

/-- Makes moves, one after the other. -/
def follow (chronicle : Chronicle) (moves : List (Reading × Move)) : Chronicle :=
  moves.foldl (harvester.move ids) chronicle

/-- A dispatch that nothing comes between is a dispatch of the harvester. -/
theorem take_carryOut (state : HarvestState) (reading : Reading) (network : Http.Network)
    (history : List Http.Request) (cancellation : Cancellation) (identity : Identity)
    (force : Bool) :
    let run := harvester.dispatch state reading network history cancellation ids identity
      force
    let chronicle := harvester.follow ids ⟨state, [], [], []⟩
      [(reading, .take identity force), (reading, .carryOut 0 network history cancellation)]
    chronicle.state = run.state ∧ chronicle.harvests = [run.taken] ∧
      chronicle.waiting = [] ∧
      chronicle.dispatches.map (fun dispatch =>
          (dispatch.cycle.made, dispatch.cycle.parcels, dispatch.cycle.result))
        = if run.taken.isEmpty then []
          else [(run.cycle.made, run.cycle.parcels, run.cycle.result)] := by
  intro run chronicle
  cases hempty : run.taken.isEmpty with
  | true =>
    have htaken : (state.batch.harvest harvester.thresholds reading force).taken.isEmpty
        = true := hempty
    simp [chronicle, run, follow, move, take, carryOut, dispatch, Chronicle.batch,
      Chronicle.withBatch, Context.stop, htaken]
  | false =>
    have htaken : (state.batch.harvest harvester.thresholds reading force).taken.isEmpty
        = false := hempty
    simp [chronicle, run, follow, move, take, carryOut, dispatch, Chronicle.batch,
      Chronicle.withBatch, htaken]

/-! ## Section 2: What a move does to the batch -/

/-- The operation on the batch that a move is, if it is one. -/
def operation? : Move → Option Operation
  | .register requestId start => some (.addInvocation requestId start)
  | .append requestId chunk => some (.addTelemetry requestId chunk)
  | .collect chunk => if harvester.collects then some (.addToLatest chunk) else none
  | .take _ force => some (.harvest force)
  | .carryOut .. => none

/-- The operations on the batch that moves are, in order. -/
def operations (moves : List (Reading × Move)) : List Operation :=
  moves.filterMap fun timed => harvester.operation? timed.2

/-- What a move that is an operation, or none, does to a batch and to what was
    taken. -/
inductive Moves (reading : Reading) (before after : Chronicle) : Option Operation → Prop
  /-- It leaves both alone. -/
  | rests :
      after.batch = before.batch → after.harvests = before.harvests →
      Moves reading before after none
  /-- It carries the operation out, which adds to what was taken. -/
  | operates (operation : Operation) (taken : List (List Invocation)) :
      after.batch = (before.batch.step harvester.thresholds reading operation).batch →
      after.harvests = before.harvests ++ taken →
      taken.flatten = (before.batch.step harvester.thresholds reading operation).taken →
      Moves reading before after (some operation)

/-- **Inversion**: every move is an operation on the batch or leaves it alone. -/
theorem moves_move (chronicle : Chronicle) (timed : Reading × Move) :
    harvester.Moves timed.1 chronicle (harvester.move ids chronicle timed)
      (harvester.operation? timed.2) := by
  obtain ⟨reading, made⟩ := timed
  -- what a dispatch does when it is carried out never reaches the batch
  cases made with
  | register requestId start =>
    exact .operates _ [] rfl (List.append_nil _).symm rfl
  | append requestId chunk =>
    exact .operates _ [] rfl (List.append_nil _).symm rfl
  | collect chunk =>
    unfold operation? move
    cases hcollects : harvester.collects with
    | true =>
      refine .operates (.addToLatest chunk) [] ?_ (List.append_nil _).symm rfl
      simp [Chronicle.batch, Chronicle.withBatch, collect, hcollects]
    | false =>
      refine .rests ?_ rfl
      exact harvester.collect_off chronicle.batch reading chunk hcollects
  | take identity force =>
    exact .operates (.harvest force) _ rfl rfl List.flatten_singleton
  | carryOut place network history cancellation =>
    show harvester.Moves reading chronicle
      (harvester.carryOut ids place network history cancellation chronicle) none
    unfold carryOut
    split
    · exact .rests rfl rfl
    · exact .rests rfl rfl

variable {harvester ids} in
/-- **Step**: a move keeps the balance of the batch. -/
theorem Moves.balanced {reading : Reading} {before after : Chronicle}
    {operation? : Option Operation} (h : harvester.Moves reading before after operation?)
    {earlier operations : List Operation} {taken : List Invocation}
    (hbalanced : before.batch.Balanced earlier operations taken) :
    ∃ more, after.harvests = before.harvests ++ more ∧
      after.batch.Balanced earlier (operations ++ operation?.toList)
        (taken ++ more.flatten) := by
  cases h with
  | rests hbatch hharvests =>
    refine ⟨[], ?_, ?_⟩
    · rw [hharvests, List.append_nil]
    · rw [hbatch, Option.toList_none, List.flatten_nil, List.append_nil, List.append_nil]
      exact hbalanced
  | operates operation more hbatch hharvests hmore =>
    refine ⟨more, hharvests, ?_⟩
    rw [hbatch, hmore]
    exact hbalanced.step harvester.thresholds reading operation

theorem operations_cons (timed : Reading × Move) (rest : List (Reading × Move)) :
    harvester.operations (timed :: rest)
      = (harvester.operation? timed.2).toList ++ harvester.operations rest := by
  unfold operations
  rw [List.filterMap_cons]
  cases harvester.operation? timed.2 <;> rfl

/-- **Run**: so do moves one after the other. -/
theorem balanced_follow (moves : List (Reading × Move)) {earlier : List Operation} :
    ∀ (chronicle : Chronicle) {operations : List Operation} {taken : List Invocation},
      chronicle.batch.Balanced earlier operations taken →
      ∃ more, (harvester.follow ids chronicle moves).harvests = chronicle.harvests ++ more ∧
        (harvester.follow ids chronicle moves).batch.Balanced earlier
          (operations ++ harvester.operations moves) (taken ++ more.flatten) := by
  induction moves with
  | nil =>
    intro chronicle operations taken h
    refine ⟨[], (List.append_nil _).symm, ?_⟩
    rw [Harvester.operations, List.filterMap_nil, List.flatten_nil, List.append_nil,
      List.append_nil]
    exact h
  | cons timed rest ih =>
    intro chronicle operations taken h
    -- what the first move leaves is what the others start from
    obtain ⟨first, hfirst, hstep⟩ := (harvester.moves_move ids chronicle timed).balanced h
    obtain ⟨more, hmore, hrest⟩ := ih _ hstep
    refine ⟨first ++ more, ?_, ?_⟩
    · rw [← List.append_assoc, ← hfirst]
      exact hmore
    · rw [operations_cons, List.flatten_append, ← List.append_assoc, ← List.append_assoc]
      exact hrest

/-! ## Section 3: Every harvest is dispatched at most once -/

/-- **Accounted**: every harvest that took something waits or was carried out, and what
    was carried out is what the dispatcher made of it. -/
structure Accounted (chronicle : Chronicle) : Prop where
  harvests : (chronicle.dispatches.map Dispatch.harvested ++ chronicle.waiting.map Prod.snd).Perm
    (chronicle.harvests.filter fun harvest => !harvest.isEmpty)
  cycles : ∀ dispatch ∈ chronicle.dispatches, dispatch.cycle
    = harvester.dispatcher.dispatch dispatch.context dispatch.identity dispatch.harvested

variable {harvester ids} {chronicle : Chronicle}

/-- At the start nothing has been taken. -/
theorem accounted_start (keyring : Credential.Keyring) (ticks : Nat) :
    harvester.Accounted (.start keyring ticks) where
  harvests := .nil
  cycles := by simp [Chronicle.start]

theorem Accounted.withBatch (h : harvester.Accounted chronicle) (batch : Batch) :
    harvester.Accounted (chronicle.withBatch batch) := ⟨h.harvests, h.cycles⟩

/-- A harvest that is taken waits, unless it is empty. -/
theorem Accounted.take (h : harvester.Accounted chronicle) (reading : Reading)
    (identity : Identity) (force : Bool) :
    harvester.Accounted (harvester.take reading identity force chronicle) where
  harvests := by
    unfold Harvester.take
    simp only [Chronicle.withBatch, List.map_append, List.filter_append]
    rw [← List.append_assoc]
    refine h.harvests.append (.of_eq ?_)
    cases hempty : (chronicle.batch.harvest harvester.thresholds reading force).taken.isEmpty
    · simp [hempty]
    · simp [hempty]
  cycles := h.cycles

/-- A harvest that is carried out does not wait any more. -/
theorem Accounted.carryOut (h : harvester.Accounted chronicle) (place : Nat)
    (network : Http.Network) (history : List Http.Request) (cancellation : Cancellation) :
    harvester.Accounted
      (harvester.carryOut ids place network history cancellation chronicle) := by
  unfold Harvester.carryOut
  split
  · exact h
  · next identity harvested hplace =>
    obtain ⟨hlt, hget⟩ := List.getElem?_eq_some_iff.mp hplace
    -- the one that is carried out is put in front of those that go on waiting
    have hmoved : (harvested :: (chronicle.waiting.eraseIdx place).map Prod.snd).Perm
        (chronicle.waiting.map Prod.snd) := by
      have herase := (List.getElem_cons_eraseIdx_perm hlt).map Prod.snd
      rwa [hget] at herase
    constructor
    · simp only [List.map_append, List.map_cons, List.map_nil]
      rw [List.append_assoc]
      exact (List.Perm.append_left _ hmoved).trans h.harvests
    · intro dispatch hmem
      rcases List.mem_append.mp hmem with hmem | hmem
      · exact h.cycles dispatch hmem
      · rw [List.mem_singleton.mp hmem]

/-- **Step**: every move keeps account of the harvests. -/
theorem Accounted.move (h : harvester.Accounted chronicle) (timed : Reading × Move) :
    harvester.Accounted (harvester.move ids chronicle timed) := by
  obtain ⟨reading, made⟩ := timed
  cases made with
  | register requestId start => exact h.withBatch _
  | append requestId chunk => exact h.withBatch _
  | collect chunk => exact h.withBatch _
  | take identity force => exact h.take reading identity force
  | carryOut place network history cancellation =>
    exact h.carryOut place network history cancellation

/-- **Run**: so does every list of moves. -/
theorem Accounted.follow (moves : List (Reading × Move)) :
    ∀ {chronicle : Chronicle}, harvester.Accounted chronicle →
      harvester.Accounted (harvester.follow ids chronicle moves) := by
  induction moves with
  | nil => exact id
  | cons timed rest ih => exact fun h => ih (h.move timed)

/-! ## Section 4: What dispatches hand to the courier -/

end Harvester

namespace Dispatch

/-- The payloads of a dispatch that built its records and got a key. -/
def payloads? (dispatch : Dispatch) : Option Payloads :=
  match dispatch.context.build dispatch.identity dispatch.harvested,
    dispatch.context.keyring.obtain.1 with
  | .ok payloads, .ok _ => some payloads
  | _, _ => none

/-- The items of one kind that were built for a dispatch with a key. -/
def built (signal : Signal) (dispatch : Dispatch) : List Json.Value :=
  (dispatch.payloads?.map fun payloads => itemValues payloads signal).getD []

/-- The parcels of one kind that a dispatch handed to the courier, each with the name of
    the function. -/
def sent (signal : Signal) (dispatch : Dispatch) : List (String × Parcel) :=
  (dispatch.cycle.parcels.filter fun parcel => parcel.signal = signal).map fun parcel =>
    (dispatch.identity.name, parcel)

end Dispatch

/-- What was sent of one kind carries some items: each parcel goes to the address and
    packs the part that goes along with it. -/
def Delivers (dispatcher : Dispatcher) (signal : Signal) (url : String)
    (sent : List (String × Parcel)) (items : List Json.Value) : Prop :=
  ∃ parts : List (List Json.Value), parts.flatten = items ∧
    List.Forall₂ (fun named part => named.2.signal = signal ∧ named.2.url = url ∧
      Packs dispatcher.codec dispatcher.limit named.1 named.2 part) sent parts

section

variable {dispatcher : Dispatcher} {signal : Signal} {url : String}

theorem delivers_nil : Delivers dispatcher signal url [] [] := ⟨[], rfl, .nil⟩

/-- What is sent one after the other carries the items one after the other. -/
theorem Delivers.append {sent more : List (String × Parcel)} {items rest : List Json.Value}
    (h : Delivers dispatcher signal url sent items)
    (h' : Delivers dispatcher signal url more rest) :
    Delivers dispatcher signal url (sent ++ more) (items ++ rest) := by
  obtain ⟨parts, hflatten, hpacked⟩ := h
  obtain ⟨parts', hflatten', hpacked'⟩ := h'
  refine ⟨parts ++ parts', ?_, List.rel_append hpacked hpacked'⟩
  rw [List.flatten_append, hflatten, hflatten']

/-- **Dispatch**: where compressing never fails, a dispatch sends exactly the items it
    built, if it built them and got a key. -/
theorem delivers_dispatch (hcodec : dispatcher.codec.Total)
    (hurl : dispatcher.endpoints.url? signal = some url) (dispatch : Dispatch)
    (hcycle : dispatch.cycle
      = dispatcher.dispatch dispatch.context dispatch.identity dispatch.harvested) :
    Delivers dispatcher signal url (dispatch.sent signal) (dispatch.built signal) := by
  have hcourse :=
    dispatch_course dispatcher dispatch.context dispatch.identity dispatch.harvested
  have hparcels := hcourse.parcels_eq hcodec
  rw [← hcycle] at hparcels
  unfold Dispatch.sent Dispatch.built Dispatch.payloads?
  rw [hparcels]
  cases dispatch.context.build dispatch.identity dispatch.harvested with
  | error error => exact delivers_nil
  | ok payloads =>
    cases dispatch.context.keyring.obtain.1 with
    | error error => exact delivers_nil
    | ok credential =>
      -- the parcels of the kind are its share of the plan
      obtain ⟨parcels, hplan⟩ := Dispatcher.exists_plan hcodec dispatch.identity payloads
      obtain ⟨parts, hflatten, hpacked⟩ :=
        Dispatcher.packed_share hurl ((Dispatcher.plan_eq_shares hplan).2 signal)
      refine ⟨parts, hflatten, ?_⟩
      simp only [Dispatcher.filter_shares]
      rw [List.forall₂_map_left_iff]
      exact hpacked

/-- **Run**: so do several dispatches, one after the other. -/
theorem delivers_dispatches (hcodec : dispatcher.codec.Total)
    (hurl : dispatcher.endpoints.url? signal = some url) :
    ∀ dispatches : List Dispatch,
      (∀ dispatch ∈ dispatches, dispatch.cycle
        = dispatcher.dispatch dispatch.context dispatch.identity dispatch.harvested) →
      Delivers dispatcher signal url (dispatches.flatMap (Dispatch.sent signal))
        (dispatches.flatMap (Dispatch.built signal))
  | [], _ => delivers_nil
  | dispatch :: rest, h => by
    rw [List.flatMap_cons, List.flatMap_cons]
    have hrest := delivers_dispatches hcodec hurl rest fun other hmem =>
      h other (List.mem_cons_of_mem _ hmem)
    exact (delivers_dispatch hcodec hurl dispatch (h dispatch List.mem_cons_self)).append hrest

end

/-! ## Section 5: Every chunk is dispatched at most once -/

namespace Harvester

/-- A harvest that is forced or due leaves nothing in the batch. -/
theorem invocations_take {harvester : Harvester} {chronicle : Chronicle} {reading : Reading}
    {force : Bool}
    (hdue : (force || chronicle.batch.isReady harvester.thresholds reading.ticks) = true)
    (identity : Identity) :
    (harvester.take reading identity force chronicle).batch.invocations = [] := by
  show (chronicle.batch.harvest harvester.thresholds reading force).batch.invocations = []
  unfold Batch.harvest
  rw [if_pos hdue]

/-- **At most once**: whatever is done to a harvester, and whatever becomes of its
    dispatches, the chunks that harvests took under an id, with those that are still
    held under it, are those that were filed under it, each once and in order. Every
    harvest with chunks waits to be dispatched or was handed to one dispatch. What all
    dispatches handed to the courier of a kind with an address are exactly the items
    of this kind that were built, dispatch after dispatch, where a key was got. And
    after a harvest that took place, what is taken later and what is held is what was
    filed after it, so that nothing of it comes back. -/
theorem follow_dispatches_once (harvester : Harvester) (ids : Nat → String)
    (keyring : Credential.Keyring) (ticks : Nat) (moves : List (Reading × Move)) :
    let final := harvester.follow ids (.start keyring ticks) moves
    (∀ requestId,
      chunksUnder requestId final.harvests.flatten
          ++ chunksUnder requestId final.batch.invocations
        = filedUnder requestId (filings [] (harvester.operations moves))) ∧
    (final.dispatches.map Dispatch.harvested ++ final.waiting.map Prod.snd).Perm
      (final.harvests.filter fun harvest => !harvest.isEmpty) ∧
    (∀ dispatch ∈ final.dispatches, dispatch.cycle
      = harvester.dispatcher.dispatch dispatch.context dispatch.identity
        dispatch.harvested) ∧
    (harvester.dispatcher.codec.Total → ∀ signal url,
      harvester.dispatcher.endpoints.url? signal = some url →
      Delivers harvester.dispatcher signal url
        (final.dispatches.flatMap (Dispatch.sent signal))
        (final.dispatches.flatMap (Dispatch.built signal))) ∧
    ∀ before reading identity force after,
      moves = before ++ (reading, .take identity force) :: after →
      let earlier := harvester.follow ids (.start keyring ticks) before
      let harvested := harvester.take reading identity force earlier
      (force || earlier.batch.isReady harvester.thresholds reading.ticks) = true →
      ∃ later, final.harvests = harvested.harvests ++ later ∧
        ∀ requestId,
          chunksUnder requestId later.flatten
              ++ chunksUnder requestId final.batch.invocations
            = filedUnder requestId (filings
              (harvester.operations (before ++ [(reading, .take identity force)]))
              (harvester.operations after)) := by
  intro final
  have haccounted : harvester.Accounted final := (accounted_start keyring ticks).follow moves
  have hstart : (Chronicle.start keyring ticks).batch.Balanced [] [] [] :=
    Batch.balanced_empty (Batch.follows_fresh ticks) rfl
  refine ⟨?_, haccounted.harvests, haccounted.cycles, ?_, ?_⟩
  · obtain ⟨taken, htaken, hbalanced⟩ :=
      harvester.balanced_follow ids moves (.start keyring ticks) hstart
    have hharvests : final.harvests = taken := htaken
    rw [hharvests]
    exact hbalanced.chunks
  · intro hcodec signal url hurl
    exact delivers_dispatches hcodec hurl final.dispatches haccounted.cycles
  · intro before reading identity force after hmoves earlier harvested hdue
    -- the moves after the harvest start from a batch without invocations
    have hfinal : final = harvester.follow ids harvested after := by
      show List.foldl _ _ moves = _
      rw [hmoves, List.foldl_append, List.foldl_cons]
      rfl
    have hharvested : harvester.follow ids (.start keyring ticks)
        (before ++ [(reading, .take identity force)]) = harvested := by
      show List.foldl _ _ _ = _
      rw [List.foldl_append]
      rfl
    obtain ⟨taken, -, hbefore⟩ := harvester.balanced_follow ids
      (before ++ [(reading, .take identity force)]) (.start keyring ticks) hstart
    rw [hharvested] at hbefore
    have hempty := Batch.balanced_empty hbefore.follows (invocations_take hdue identity)
    obtain ⟨later, hlater, hbalanced⟩ := harvester.balanced_follow ids after harvested hempty
    rw [hfinal]
    exact ⟨later, hlater, hbalanced.chunks⟩

end Harvester

end Ingest

end TelemetryRelay
