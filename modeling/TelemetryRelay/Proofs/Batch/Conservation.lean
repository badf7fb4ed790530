import TelemetryRelay.Proofs.Batch.Index

/-! # No chunk is lost or doubled

    A run is any list of operations on a new batch, whatever the clock shows at
    each. Concurrent callers are covered: each call is one operation, so any
    interleaving of theirs is such a list.

    The main result follows one id through a run. What the harvests took under
    it, in their order, and after that what is still held under it, is what was
    filed under it, in the order in which it came. Filing is defined on the
    operations alone: a chunk for the latest invocation is filed under the id
    that was registered last, however many harvests lie in between.
-/

namespace TelemetryRelay

namespace Telemetry

namespace Batch

open Timestamp (Instant)

/-! ## Section 1: What is filed, and what is held -/

/-- The id an operation registers. -/
def Operation.registered? : Operation → Option String
  | .addInvocation requestId _ => some requestId
  | _ => none

/-- The id that was registered last; the empty id if there is none. -/
def lastRegistered (before : List Operation) : String :=
  (before.filterMap Operation.registered?).getLast?.getD ""

/-- The chunk an operation files, with its id, after the operations `before`. -/
def Operation.filed? (before : List Operation) : Operation → Option (String × Bytes)
  | .addTelemetry requestId chunk => some (requestId, chunk)
  | .addToLatest chunk => some (lastRegistered before, chunk)
  | _ => none

/-- All chunks that operations file, with their ids and in order, after the
    operations `before`. -/
def filings : List Operation → List Operation → List (String × Bytes)
  | _, [] => []
  | before, operation :: rest =>
    (operation.filed? before).toList ++ filings (before ++ [operation]) rest

/-- The chunks among filed ones that have this id. -/
def filedUnder (requestId : String) (filed : List (String × Bytes)) : List Bytes :=
  (filed.filter fun f => f.1 = requestId).map Prod.snd

/-- The chunks some invocations hold under an id. -/
def chunksUnder (requestId : String) (invocations : List Invocation) : List Bytes :=
  (invocations.filter fun invocation => invocation.requestId = requestId).flatMap
    Invocation.chunks

theorem filedUnder_append (requestId : String) (filed filed' : List (String × Bytes)) :
    filedUnder requestId (filed ++ filed')
      = filedUnder requestId filed ++ filedUnder requestId filed' := by
  simp [filedUnder]

theorem chunksUnder_append (requestId : String) (invocations more : List Invocation) :
    chunksUnder requestId (invocations ++ more)
      = chunksUnder requestId invocations ++ chunksUnder requestId more := by
  simp [chunksUnder]

/-- Under an id that no invocation has, nothing is held. -/
theorem chunksUnder_eq_nil (requestId : String) (invocations : List Invocation)
    (h : requestId ∉ invocations.map Invocation.requestId) :
    chunksUnder requestId invocations = [] := by
  have hnone : (invocations.filter fun invocation => invocation.requestId = requestId) = [] := by
    rw [List.filter_eq_nil_iff]
    intro invocation hin hid
    exact h (List.mem_map.mpr ⟨invocation, hin, of_decide_eq_true hid⟩)
  rw [chunksUnder, hnone, List.flatMap_nil]

/-- Under its id, a filed chunk occurs as often as it was filed there. -/
theorem count_filedUnder (requestId : String) (chunk : Bytes) :
    ∀ filed : List (String × Bytes),
      (filedUnder requestId filed).count chunk = filed.count (requestId, chunk)
  | [] => rfl
  | (id, other) :: rest => by
    have ih := count_filedUnder requestId chunk rest
    by_cases hid : id = requestId
    · simp only [filedUnder, hid, decide_true, List.filter_cons_of_pos, List.map_cons,
        List.count_cons] at ih ⊢
      simp [ih]
    · simp only [filedUnder, hid, decide_false, Bool.false_eq_true, not_false_eq_true,
        List.filter_cons_of_neg, List.count_cons] at ih ⊢
      simp [ih, hid]

/-- Invocations that hold under every id what was filed there hold all that was filed,
    and nothing else. -/
theorem perm_of_chunksUnder {invocations : List Invocation} {filed : List (String × Bytes)}
    (h : ∀ requestId, chunksUnder requestId invocations = filedUnder requestId filed) :
    (invocations.flatMap Invocation.chunks).Perm (filed.map Prod.snd) := by
  -- the chunks that are held, each with its id
  let held := invocations.flatMap fun invocation =>
    invocation.chunks.map fun chunk => (invocation.requestId, chunk)
  have hchunks : held.map Prod.snd = invocations.flatMap Invocation.chunks := by
    simp [held, List.map_flatMap, Function.comp_def]
  have hunder : ∀ requestId, filedUnder requestId held = chunksUnder requestId invocations := by
    intro requestId
    have hone : ∀ invocation : Invocation,
        filedUnder requestId (invocation.chunks.map fun chunk => (invocation.requestId, chunk))
          = if invocation.requestId = requestId then invocation.chunks else [] := by
      intro invocation
      by_cases hid : invocation.requestId = requestId <;>
        simp [filedUnder, hid, List.filter_map, Function.comp_def]
    clear h hchunks
    subst held
    induction invocations with
    | nil => rfl
    | cons invocation rest ih =>
      rw [List.flatMap_cons, filedUnder_append, ih, hone]
      by_cases hid : invocation.requestId = requestId <;> simp [chunksUnder, hid]
  rw [← hchunks]
  refine List.Perm.map _ (List.perm_iff_count.mpr fun (requestId, chunk) => ?_)
  rw [← count_filedUnder, ← count_filedUnder, hunder, h]

/-! ## Section 2: One operation -/

/-- A new slot holds nothing yet. -/
theorem chunksUnder_slot (batch : Batch) (r requestId : String) (start : Instant) :
    chunksUnder r (batch.slot requestId start).1.invocations
      = chunksUnder r batch.invocations := by
  have hempty : chunksUnder r [⟨requestId, start, []⟩] = [] := by
    by_cases hid : requestId = r <;> simp [chunksUnder, hid]
  rw [invocations_slot, chunksUnder_append]
  split
  · exact List.append_nil _
  · rw [hempty, List.append_nil]

/-- A chunk that is appended to the one invocation of an id comes last under this
    id, and changes nothing under any other. -/
theorem chunksUnder_modify (r requestId : String) (chunk : Bytes) :
    ∀ (invocations : List Invocation) (place : Nat) (target : Invocation),
      (invocations.map Invocation.requestId).Nodup →
      invocations[place]? = some target → target.requestId = requestId →
      chunksUnder r (invocations.modify place (Invocation.push chunk))
        = chunksUnder r invocations ++ filedUnder r [(requestId, chunk)]
  | [], _, _, _, hget, _ => by cases hget
  | head :: rest, 0, target, hd, hget, hid => by
    rw [List.map_cons, List.nodup_cons] at hd
    rw [List.getElem?_cons_zero, Option.some.injEq] at hget
    subst hget
    rw [List.modify_zero_cons]
    by_cases hr : head.requestId = r
    · -- all chunks under `r` are those of `head`
      have hrest : chunksUnder r rest = [] := chunksUnder_eq_nil r rest (hr ▸ hd.1)
      simp only [chunksUnder] at hrest ⊢
      simp [Invocation.push, filedUnder, hr, ← hid, hrest]
    · simp [chunksUnder, Invocation.push, filedUnder, hr, ← hid]
  | head :: rest, place + 1, target, hd, hget, hid => by
    rw [List.map_cons, List.nodup_cons] at hd
    rw [List.getElem?_cons_succ] at hget
    have ih := chunksUnder_modify r requestId chunk rest place target hd.2 hget hid
    -- the head is put back in front of both sides
    rw [List.modify_succ_cons]
    show chunksUnder r ([head] ++ rest.modify place (Invocation.push chunk)) = _
    rw [chunksUnder_append, ih, ← List.append_assoc, ← chunksUnder_append]
    rfl

/-- Appending a chunk to a coherent batch files it under its id. -/
theorem chunksUnder_append_chunk {batch : Batch} (h : Indexed batch) (r requestId : String)
    (now : Instant) (chunk : Bytes) :
    chunksUnder r (batch.append requestId now chunk).invocations
      = chunksUnder r batch.invocations ++ filedUnder r [(requestId, chunk)] := by
  obtain ⟨target, hget, hid⟩ := h.getElem?_slot requestId now
  have hd := (h.slot requestId now).distinct
  rw [invocations_append, chunksUnder_modify r requestId chunk _ _ target hd hget hid,
    chunksUnder_slot]

/-- What a harvest takes, with what it leaves, is what was there. -/
theorem chunksUnder_harvest (thresholds : Thresholds) (batch : Batch) (reading : Reading)
    (force : Bool) (r : String) :
    chunksUnder r (batch.harvest thresholds reading force).taken
        ++ chunksUnder r (batch.harvest thresholds reading force).batch.invocations
      = chunksUnder r batch.invocations := by
  unfold harvest
  split
  · exact List.append_nil _
  · exact List.nil_append _

/-- **Step**: what an operation takes under an id, with what it leaves there, is
    what was held there before, with what the operation files. -/
theorem chunksUnder_step {batch : Batch} (h : Indexed batch) (before : List Operation)
    (hlatest : batch.latestId = lastRegistered before) (thresholds : Thresholds)
    (reading : Reading) (operation : Operation) (r : String) :
    chunksUnder r (batch.step thresholds reading operation).taken
        ++ chunksUnder r (batch.step thresholds reading operation).batch.invocations
      = chunksUnder r batch.invocations
        ++ filedUnder r (operation.filed? before).toList := by
  cases operation with
  | addInvocation requestId start =>
    show [] ++ chunksUnder r (batch.slot requestId start).1.invocations = _ ++ []
    rw [chunksUnder_slot, List.nil_append, List.append_nil]
  | addTelemetry requestId chunk => exact chunksUnder_append_chunk h r requestId _ chunk
  | addToLatest chunk =>
    -- the id the batch remembers is the one that was registered last
    show [] ++ chunksUnder r (batch.append batch.latestId reading.now chunk).invocations
      = _ ++ filedUnder r [(lastRegistered before, chunk)]
    rw [chunksUnder_append_chunk h, hlatest, List.nil_append]
  | harvest force =>
    show _ = _ ++ []
    rw [List.append_nil]
    exact chunksUnder_harvest thresholds batch reading force r

/-! ## Section 3: The latest invocation -/

@[simp] theorem latest_slot (batch : Batch) (requestId : String) (start : Instant) :
    (batch.slot requestId start).1.latest = batch.latest := by
  unfold slot
  split <;> rfl

@[simp] theorem latest_append (batch : Batch) (requestId : String) (now : Instant)
    (chunk : Bytes) : (batch.append requestId now chunk).latest = batch.latest :=
  latest_slot batch requestId now

@[simp] theorem latest_harvest (thresholds : Thresholds) (batch : Batch) (reading : Reading)
    (force : Bool) : (batch.harvest thresholds reading force).batch.latest = batch.latest := by
  unfold harvest
  split <;> rfl

/-- **Step**: only a registration changes the latest invocation. -/
theorem latestId_step {batch : Batch} (before : List Operation)
    (hlatest : batch.latestId = lastRegistered before) (thresholds : Thresholds)
    (reading : Reading) (operation : Operation) :
    (batch.step thresholds reading operation).batch.latestId
      = lastRegistered (before ++ [operation]) := by
  cases operation with
  | addInvocation requestId start =>
    simp [step, addInvocation, latestId, lastRegistered, Operation.registered?]
  | addTelemetry requestId chunk =>
    simpa [step, latestId, lastRegistered, Operation.registered?] using hlatest
  | addToLatest chunk =>
    simpa [step, latestId, lastRegistered, Operation.registered?] using hlatest
  | harvest force =>
    simpa [step, latestId, lastRegistered, Operation.registered?] using hlatest

/-- A coherent batch that knows which invocation was registered last among some
    operations. -/
structure Follows (batch : Batch) (before : List Operation) : Prop where
  indexed : Indexed batch
  latest : batch.latestId = lastRegistered before

/-- Nothing was registered in a new batch. -/
theorem follows_fresh (ticks : Nat) : (fresh ticks).Follows [] := ⟨indexed_fresh ticks, rfl⟩

/-- **Step**: one more operation is followed. -/
theorem Follows.step {batch : Batch} {before : List Operation} (h : batch.Follows before)
    (thresholds : Thresholds) (reading : Reading) (operation : Operation) :
    (batch.step thresholds reading operation).batch.Follows (before ++ [operation]) where
  indexed := h.indexed.step thresholds reading operation
  latest := latestId_step before h.latest thresholds reading operation

/-- What operations file is what the first ones file, and then what the others file
    after them. -/
theorem filings_append (rest : List Operation) :
    ∀ first before : List Operation,
      filings before (first ++ rest)
        = filings before first ++ filings (before ++ first) rest
  | [], before => by
    rw [List.append_nil]
    rfl
  | operation :: first, before => by
    rw [List.cons_append, filings, filings, filings_append rest first, List.append_assoc,
      List.append_assoc]
    rfl

/-- **Balanced**: a batch that held nothing after some operations, while invocations were
    taken in the course of others. What was taken under an id, with what is held there, is
    what the others filed there. -/
structure Balanced (batch : Batch) (before operations : List Operation)
    (taken : List Invocation) : Prop where
  follows : batch.Follows (before ++ operations)
  chunks : ∀ requestId,
    chunksUnder requestId taken ++ chunksUnder requestId batch.invocations
      = filedUnder requestId (filings before operations)

/-- A batch that holds nothing is balanced from here on. -/
theorem balanced_empty {batch : Batch} {before : List Operation} (h : batch.Follows before)
    (hempty : batch.invocations = []) : batch.Balanced before [] [] where
  follows := by
    rw [List.append_nil]
    exact h
  chunks requestId := by
    rw [hempty]
    rfl

/-- **Step**: an operation keeps the balance. -/
theorem Balanced.step {batch : Batch} {before operations : List Operation}
    {taken : List Invocation} (h : batch.Balanced before operations taken)
    (thresholds : Thresholds) (reading : Reading) (operation : Operation) :
    (batch.step thresholds reading operation).batch.Balanced before (operations ++ [operation])
      (taken ++ (batch.step thresholds reading operation).taken) where
  follows := by
    rw [← List.append_assoc]
    exact h.follows.step thresholds reading operation
  chunks requestId := by
    have hfiled : filings before (operations ++ [operation])
        = filings before operations ++ (operation.filed? (before ++ operations)).toList := by
      rw [filings_append, filings, filings, List.append_nil]
    have hstep := chunksUnder_step h.follows.indexed _ h.follows.latest thresholds reading
      operation requestId
    rw [hfiled, filedUnder_append, ← h.chunks requestId, chunksUnder_append, List.append_assoc,
      hstep, List.append_assoc]

/-! ## Section 4: Runs -/

/-- A run goes on from where its first operation leads. -/
theorem run_cons (thresholds : Thresholds) (batch : Batch) (reading : Reading)
    (operation : Operation) (rest : List (Reading × Operation)) :
    run thresholds batch ((reading, operation) :: rest) =
      ((run thresholds (batch.step thresholds reading operation).batch rest).1,
        (batch.step thresholds reading operation).taken
          :: (run thresholds (batch.step thresholds reading operation).batch rest).2) := rfl

/-- **Run**, from any coherent batch: what is taken under an id, with what is held
    in the end, is what was held at first, with what the operations file. -/
theorem chunksUnder_run (thresholds : Thresholds) (r : String) :
    ∀ (operations : List (Reading × Operation)) (batch : Batch) (before : List Operation),
      Indexed batch → batch.latestId = lastRegistered before →
      (run thresholds batch operations).2.flatMap (chunksUnder r)
          ++ chunksUnder r (run thresholds batch operations).1.invocations
        = chunksUnder r batch.invocations
          ++ filedUnder r (filings before (operations.map Prod.snd))
  | [], batch, before, _, _ => (List.append_nil _).symm
  | (reading, operation) :: rest, batch, before, h, hlatest => by
    -- what the first operation leaves is what the rest of the run starts from
    have hstep := chunksUnder_step h before hlatest thresholds reading operation r
    have ih := chunksUnder_run thresholds r rest
      (batch.step thresholds reading operation).batch (before ++ [operation])
      (h.step thresholds reading operation)
      (latestId_step before hlatest thresholds reading operation)
    rw [List.map_cons, filings, filedUnder_append, run_cons, List.flatMap_cons,
      List.append_assoc, ih, ← List.append_assoc, hstep, List.append_assoc]

/-- **Conservation**: over every run on a new batch, the chunks that the harvests
    took under an id, followed by the chunks still held under it, are the chunks
    filed under it, each once and in order. -/
theorem run_conserves_chunks (thresholds : Thresholds) (ticks : Nat)
    (operations : List (Reading × Operation)) (requestId : String) :
    (run thresholds (fresh ticks) operations).2.flatMap (chunksUnder requestId)
        ++ chunksUnder requestId (run thresholds (fresh ticks) operations).1.invocations
      = filedUnder requestId (filings [] (operations.map Prod.snd)) := by
  rw [chunksUnder_run thresholds requestId operations (fresh ticks) [] (indexed_fresh ticks) rfl]
  rfl

end Batch

end Telemetry

end TelemetryRelay
