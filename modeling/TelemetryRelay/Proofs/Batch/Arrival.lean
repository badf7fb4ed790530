import TelemetryRelay.Proofs.Batch.History

/-! # The order of arrival

    What a harvest takes is a list of invocations, each with its chunks. This module
    says from the operations alone what this list is: the ids stand in the order in
    which they were first used since the last harvest that took effect, and under each
    of them the chunks filed there since then, in the order of their filing. An id that
    was used before that harvest starts anew.
-/

namespace TelemetryRelay

namespace Telemetry

/-- The id of an invocation with its chunks. -/
def Invocation.held (invocation : Invocation) : String × List Bytes :=
  (invocation.requestId, invocation.chunks)

namespace Batch

open Timestamp (Instant)

/-! ## Section 1: Uses of ids -/

/-- The id an operation uses, after the operations `before`. -/
def Operation.used? (before : List Operation) : Operation → Option String
  | .addInvocation requestId _ | .addTelemetry requestId _ => some requestId
  | .addToLatest _ => some (lastRegistered before)
  | .harvest _ => none

/-- The ids that operations use, in order, after the operations `before`. -/
def uses : List Operation → List Operation → List String
  | _, [] => []
  | before, operation :: rest =>
    (operation.used? before).toList ++ uses (before ++ [operation]) rest

/-- The ids that operations use, in the order of their first use. -/
def firstUses (before operations : List Operation) : List String :=
  (uses before operations).eraseDups

/-- One more operation is one more use, if it uses an id at all. -/
theorem uses_concat (operation : Operation) :
    ∀ operations before : List Operation,
      uses before (operations ++ [operation])
        = uses before operations ++ (operation.used? (before ++ operations)).toList
  | [], before => by
    rw [List.nil_append, uses, uses, uses, List.append_nil, List.append_nil, List.nil_append]
  | first :: operations, before => by
    rw [List.cons_append, uses, uses, uses_concat operation operations (before ++ [first]),
      List.append_assoc, List.append_assoc, List.singleton_append]

/-- An id that is used once more keeps its place, and a new one comes last. -/
theorem eraseDups_concat (ids : List String) (requestId : String) :
    (ids ++ [requestId]).eraseDups
      = ids.eraseDups ++ if requestId ∈ ids then [] else [requestId] := by
  rw [List.eraseDups_append]
  by_cases hmem : requestId ∈ ids
  · simp [List.removeAll, hmem]
  · simp [List.removeAll, hmem, List.eraseDups_cons]

/-- Without repetitions, no id occurs twice. -/
theorem nodup_eraseDups : ∀ ids : List String, ids.eraseDups.Nodup
  | [] => List.nodup_nil
  | requestId :: rest => by
    rw [List.eraseDups_cons, List.nodup_cons]
    refine ⟨?_, nodup_eraseDups _⟩
    rw [List.mem_eraseDups, List.mem_filter]
    rintro ⟨-, hother⟩
    simp at hother
termination_by ids => ids.length
decreasing_by exact Nat.lt_succ_of_le (List.length_filter_le _ rest)

/-! ## Section 2: Ids of a batch -/

/-- The ids of the invocations that a batch holds. -/
def ids (batch : Batch) : List String := batch.invocations.map Invocation.requestId

/-- In a coherent batch an id has a place exactly if it has an invocation. -/
theorem Indexed.isSome_place?_iff {batch : Batch} (h : Indexed batch) (requestId : String) :
    (batch.place? requestId).isSome = true ↔ requestId ∈ batch.ids := by
  constructor
  · intro hsome
    obtain ⟨place, hplace⟩ := Option.isSome_iff_exists.mp hsome
    obtain ⟨invocation, hget, hid⟩ := (h.place?_eq_some_iff requestId place).mp hplace
    exact hid ▸ List.mem_map_of_mem (List.mem_of_getElem? hget)
  · intro hmem
    cases hplace : batch.place? requestId with
    | none => exact absurd hmem (h.requestId_ne hplace)
    | some place => rfl

/-- A slot adds its id at the end, unless it is there already. -/
theorem Indexed.ids_slot {batch : Batch} (h : Indexed batch) (requestId : String)
    (start : Instant) :
    (batch.slot requestId start).1.ids
      = batch.ids ++ if requestId ∈ batch.ids then [] else [requestId] := by
  have hplace := h.isSome_place?_iff requestId
  unfold ids at hplace ⊢
  rw [invocations_slot, List.map_append]
  by_cases hmem : requestId ∈ batch.invocations.map Invocation.requestId
  · rw [if_pos hmem, if_pos (hplace.mpr hmem)]
    rfl
  · rw [if_neg hmem, if_neg (mt hplace.mp hmem)]
    rfl

/-- Appending a chunk adds its id as a slot does. -/
theorem Indexed.ids_append {batch : Batch} (h : Indexed batch) (requestId : String)
    (now : Instant) (chunk : Bytes) :
    (batch.append requestId now chunk).ids
      = batch.ids ++ if requestId ∈ batch.ids then [] else [requestId] := by
  rw [← h.ids_slot requestId now]
  unfold ids
  rw [invocations_append, map_requestId_modify]

/-! ## Section 3: What is recorded since a harvest -/

/-- **Recorded**: a batch that was empty after some operations and has not been harvested
    while the others were carried out. It holds what these filed, under the ids they used,
    in the order of their first use. -/
structure Recorded (batch : Batch) (before operations : List Operation) : Prop where
  balanced : batch.Balanced before operations []
  ids : batch.ids = firstUses before operations

/-- **Step**: an operation without effect is recorded. -/
theorem Recorded.step {batch : Batch} {before operations : List Operation}
    (h : batch.Recorded before operations) {thresholds : Thresholds} {reading : Reading}
    {operation : Operation} (hquiet : ¬ batch.TakesEffect thresholds reading operation) :
    (batch.step thresholds reading operation).batch.Recorded before
      (operations ++ [operation]) := by
  have hindexed := h.balanced.follows.indexed
  have hbalanced := h.balanced.step thresholds reading operation
  -- an id counts as used exactly if the batch holds it
  have hused (requestId : String) :
      (if requestId ∈ batch.ids then [] else [requestId])
        = if requestId ∈ uses before operations then [] else [requestId] := by
    rw [h.ids]
    simp only [firstUses, List.mem_eraseDups]
  have hids (requestId : String) :
      batch.ids ++ (if requestId ∈ batch.ids then [] else [requestId])
        = (uses before operations ++ [requestId]).eraseDups := by
    rw [eraseDups_concat, hused, h.ids, firstUses]
  cases operation with
  | addInvocation requestId start =>
    refine ⟨hbalanced, ?_⟩
    rw [firstUses, uses_concat]
    exact (hindexed.ids_slot requestId start).trans (hids requestId)
  | addTelemetry requestId chunk =>
    refine ⟨hbalanced, ?_⟩
    rw [firstUses, uses_concat]
    exact (hindexed.ids_append requestId reading.now chunk).trans (hids requestId)
  | addToLatest chunk =>
    refine ⟨hbalanced, ?_⟩
    rw [firstUses, uses_concat]
    show (batch.append batch.latestId reading.now chunk).ids = _
    rw [h.balanced.follows.latest]
    exact (hindexed.ids_append _ reading.now chunk).trans (hids _)
  | harvest force =>
    rw [Batch.step, harvest_without_effect hquiet] at hbalanced ⊢
    refine ⟨hbalanced, ?_⟩
    rw [firstUses, uses_concat, Operation.used?, Option.toList_none, List.append_nil]
    exact h.ids

/-- **Run**: so are operations that are quiet. -/
theorem Recorded.run {thresholds : Thresholds} {before : List Operation} :
    ∀ {recent : List (Reading × Operation)} {batch : Batch} {operations : List Operation},
      batch.Recorded before operations → Quiet thresholds batch recent →
      (run thresholds batch recent).1.Recorded before (operations ++ recent.map Prod.snd)
  | [], _, operations, h, _ => by
    rw [List.map_nil, List.append_nil]
    exact h
  | (reading, operation) :: rest, batch, operations, h, hquiet => by
    rw [run_cons, List.map_cons, List.append_cons]
    exact Recorded.run (h.step hquiet.1) hquiet.2

/-- Any run follows the registrations. -/
theorem Follows.run {thresholds : Thresholds} :
    ∀ {operations : List (Reading × Operation)} {batch : Batch} {before : List Operation},
      batch.Follows before →
      (run thresholds batch operations).1.Follows (before ++ operations.map Prod.snd)
  | [], _, before, h => by
    rw [List.map_nil, List.append_nil]
    exact h
  | (reading, operation) :: rest, batch, before, h => by
    rw [run_cons, List.map_cons, List.append_cons]
    exact Follows.run (h.step thresholds reading operation)

/-- What a run has done since its last harvest is recorded. -/
theorem Since.recorded {thresholds : Thresholds} {created moment : Nat}
    {before recent : List (Reading × Operation)}
    (h : Since thresholds created before recent moment) :
    (after thresholds created (before ++ recent)).Recorded (before.map Prod.snd)
      (recent.map Prod.snd) := by
  have hfollows : (after thresholds created before).Follows (before.map Prod.snd) :=
    (follows_fresh created).run
  have hinvocations : (after thresholds created before).invocations = [] := by
    obtain ⟨latest, hempty⟩ := h.emptied
    rw [hempty]
    rfl
  have hstart : (after thresholds created before).Recorded (before.map Prod.snd) [] := by
    refine ⟨balanced_empty hfollows hinvocations, ?_⟩
    rw [ids, hinvocations]
    rfl
  rw [after, run_append_fst]
  exact hstart.run h.quiet

/-! ## Section 4: Invocations with their chunks -/

/-- Under distinct ids, the chunks of an invocation are those under its id. -/
theorem chunksUnder_requestId :
    ∀ {invocations : List Invocation}, (invocations.map Invocation.requestId).Nodup →
      ∀ invocation ∈ invocations,
        chunksUnder invocation.requestId invocations = invocation.chunks
  | [], _, _, hmem => by cases hmem
  | head :: rest, hdistinct, invocation, hmem => by
    rw [List.map_cons, List.nodup_cons] at hdistinct
    show chunksUnder invocation.requestId ([head] ++ rest) = _
    rw [chunksUnder_append]
    rcases List.mem_cons.mp hmem with rfl | hmem
    · -- no other invocation has this id
      rw [chunksUnder_eq_nil _ rest hdistinct.1]
      simp [chunksUnder]
    · have hother : head.requestId ≠ invocation.requestId := by
        intro heq
        exact hdistinct.1 (heq ▸ List.mem_map_of_mem hmem)
      rw [chunksUnder_requestId hdistinct.2 invocation hmem]
      simp [chunksUnder, hother]

/-- **Order of arrival**: since its last harvest that took effect, a batch holds an
    invocation for each id that was used, in the order of the first uses, and in each of
    them what was filed under its id, in the order of the filing. -/
theorem Since.held {thresholds : Thresholds} {created moment : Nat}
    {before recent : List (Reading × Operation)}
    (h : Since thresholds created before recent moment) :
    (after thresholds created (before ++ recent)).invocations.map Invocation.held
      = (firstUses (before.map Prod.snd) (recent.map Prod.snd)).map fun requestId =>
          (requestId, filedUnder requestId
            (filings (before.map Prod.snd) (recent.map Prod.snd))) := by
  have hrecorded := h.recorded
  have hdistinct := hrecorded.balanced.follows.indexed.distinct
  rw [← hrecorded.ids, ids, List.map_map]
  apply List.map_congr_left
  intro invocation hmem
  have hchunks := hrecorded.balanced.chunks invocation.requestId
  rw [show chunksUnder invocation.requestId [] = [] from rfl, List.nil_append,
    chunksUnder_requestId hdistinct invocation hmem] at hchunks
  rw [Function.comp_apply, Invocation.held, hchunks]

end Batch

end Telemetry

end TelemetryRelay
