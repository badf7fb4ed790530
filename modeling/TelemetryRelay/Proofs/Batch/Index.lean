import TelemetryRelay.Telemetry.Batch

/-! # The index of a batch

    A batch keeps its invocations in a list and finds them through an index of
    places. Every operation changes the two separately. This module shows that
    they never disagree:

    - the index holds the id of each invocation, with the place it stands at,
      and nothing else,
    - no two invocations have the same id,
    - hence a look-up finds the one invocation of an id, or there is none.
-/

namespace TelemetryRelay

namespace Telemetry

namespace Batch

open Timestamp (Instant)

/-! ## Section 1: Coherence -/

/-- **Coherence**: the index lists the invocations with their places, and their
    ids are distinct. -/
structure Indexed (batch : Batch) : Prop where
  places : batch.index = batch.invocations.zipIdx.map fun p => (p.1.requestId, p.2)
  distinct : (batch.invocations.map Invocation.requestId).Nodup

/-- A new batch is coherent. -/
theorem indexed_fresh (ticks : Nat) : Indexed (fresh ticks) where
  places := rfl
  distinct := List.nodup_nil

/-- Looking an id up among the places of invocations, of which the first stands
    at `start`. -/
theorem lookup_zipIdx (requestId : String) (place : Nat) :
    ∀ (invocations : List Invocation) (start : Nat),
      (invocations.map Invocation.requestId).Nodup →
      (((invocations.zipIdx start).map fun p => (p.1.requestId, p.2)).lookup requestId
          = some place ↔
        ∃ offset invocation, place = start + offset ∧
          invocations[offset]? = some invocation ∧ invocation.requestId = requestId)
  | [], start, _ => by simp
  | head :: rest, start, hd => by
    rw [List.map_cons, List.nodup_cons] at hd
    have ih := lookup_zipIdx requestId place rest (start + 1) hd.2
    rw [List.zipIdx_cons, List.map_cons, List.lookup_cons]
    by_cases hid : requestId = head.requestId
    · have hhead : (requestId == head.requestId) = true := beq_iff_eq.mpr hid
      simp only [hhead]
      constructor
      · intro h
        exact ⟨0, head, (Option.some.inj h).symm, rfl, hid.symm⟩
      · rintro ⟨offset, invocation, rfl, hget, hinv⟩
        cases offset with
        | zero => rfl
        | succ offset =>
          -- a later invocation of the same id would repeat the id of `head`
          exfalso
          apply hd.1
          rw [← hid, ← hinv]
          exact List.mem_map_of_mem (List.mem_of_getElem? hget)
    · have hhead : (requestId == head.requestId) = false := beq_eq_false_iff_ne.mpr hid
      simp only [hhead]
      rw [ih]
      constructor
      · rintro ⟨offset, invocation, rfl, hget, hinv⟩
        exact ⟨offset + 1, invocation, by omega, hget, hinv⟩
      · rintro ⟨offset, invocation, rfl, hget, hinv⟩
        cases offset with
        | zero =>
          rw [List.getElem?_cons_zero, Option.some.injEq] at hget
          exact absurd (hget ▸ hinv.symm) hid
        | succ offset => exact ⟨offset, invocation, by omega, hget, hinv⟩

/-- In a coherent batch the place of an id is where its invocation stands. -/
theorem Indexed.place?_eq_some_iff {batch : Batch} (h : Indexed batch)
    (requestId : String) (place : Nat) :
    batch.place? requestId = some place ↔
      ∃ invocation, batch.invocations[place]? = some invocation ∧
        invocation.requestId = requestId := by
  rw [place?, h.places, lookup_zipIdx requestId place _ 0 h.distinct]
  constructor
  · rintro ⟨offset, invocation, hplace, hget, hid⟩
    rw [Nat.zero_add] at hplace
    exact ⟨invocation, hplace ▸ hget, hid⟩
  · rintro ⟨invocation, hget, hid⟩
    exact ⟨place, invocation, (Nat.zero_add place).symm, hget, hid⟩

/-- In a coherent batch an id without a place has no invocation. -/
theorem Indexed.requestId_ne {batch : Batch} (h : Indexed batch) {requestId : String}
    (hnone : batch.place? requestId = none) :
    requestId ∉ batch.invocations.map Invocation.requestId := by
  intro hmem
  obtain ⟨invocation, hin, hid⟩ := List.mem_map.mp hmem
  obtain ⟨place, hget⟩ := List.mem_iff_getElem?.mp hin
  have hsome := (h.place?_eq_some_iff requestId place).mpr ⟨invocation, hget, hid⟩
  rw [hnone] at hsome
  cases hsome

/-! ## Section 2: Slots -/

/-- The invocations after a slot was asked for: an unknown id adds one at the
    end. -/
theorem invocations_slot (batch : Batch) (requestId : String) (start : Instant) :
    (batch.slot requestId start).1.invocations =
      batch.invocations ++
        if (batch.place? requestId).isSome then [] else [⟨requestId, start, []⟩] := by
  unfold slot
  split
  · next place hplace => rw [hplace]; simp
  · next hplace => rw [hplace]; simp

/-- The place of a slot is where the invocation of its id stands. -/
theorem Indexed.getElem?_slot {batch : Batch} (h : Indexed batch) (requestId : String)
    (start : Instant) :
    ∃ invocation,
      (batch.slot requestId start).1.invocations[(batch.slot requestId start).2]?
        = some invocation ∧ invocation.requestId = requestId := by
  unfold slot
  split
  · next place hplace => exact (h.place?_eq_some_iff requestId place).mp hplace
  · exact ⟨⟨requestId, start, []⟩, by simp, rfl⟩

/-- A slot leaves a batch coherent. -/
theorem Indexed.slot {batch : Batch} (h : Indexed batch) (requestId : String)
    (start : Instant) : Indexed (batch.slot requestId start).1 := by
  unfold Batch.slot
  split
  · exact h
  · next hplace =>
    -- an id without a place is new, so its invocation can be added at the end
    have hnew := h.requestId_ne hplace
    constructor
    · show batch.index ++ [(requestId, batch.invocations.length)] = _
      rw [h.places, List.zipIdx_append, List.map_append]
      simp
    · rw [List.map_append, List.nodup_append]
      refine ⟨h.distinct, by simp, ?_⟩
      intro a ha b hb hab
      simp only [List.map_cons, List.map_nil, List.mem_singleton] at hb
      exact hnew (hb ▸ hab ▸ ha)

/-! ## Section 3: Operations -/

/-- Appending a chunk changes the invocation at the place of its slot. -/
theorem invocations_append (batch : Batch) (requestId : String) (now : Instant)
    (chunk : Bytes) :
    (batch.append requestId now chunk).invocations =
      (batch.slot requestId now).1.invocations.modify (batch.slot requestId now).2
        (Invocation.push chunk) := rfl

/-- Appending a chunk to an invocation leaves its id alone. -/
theorem requestId_push (chunk : Bytes) (invocation : Invocation) :
    (invocation.push chunk).requestId = invocation.requestId := rfl

/-- Appending a chunk anywhere leaves all ids alone. -/
theorem map_requestId_modify (chunk : Bytes) (invocations : List Invocation) (place : Nat) :
    (invocations.modify place (Invocation.push chunk)).map Invocation.requestId
      = invocations.map Invocation.requestId := by
  apply List.ext_getElem?
  intro i
  rw [List.getElem?_map, List.getElem?_map, List.getElem?_modify]
  by_cases hi : place = i
  · cases invocations[i]? <;> simp [hi, requestId_push]
  · simp [hi]

/-- Coherence only looks at the ids of the invocations, in their order. -/
theorem Indexed.congr {batch batch' : Batch} (h : Indexed batch)
    (hindex : batch'.index = batch.index)
    (hids : batch'.invocations.map Invocation.requestId
      = batch.invocations.map Invocation.requestId) : Indexed batch' := by
  -- numbering the invocations and then taking their ids is numbering their ids
  have hplaces (invocations : List Invocation) :
      (invocations.zipIdx.map fun p => (p.1.requestId, p.2))
        = (invocations.map Invocation.requestId).zipIdx := by
    rw [List.zipIdx_map]
    rfl
  constructor
  · rw [hindex, h.places, hplaces, hplaces, hids]
  · rw [hids]
    exact h.distinct

theorem Indexed.append {batch : Batch} (h : Indexed batch) (requestId : String)
    (now : Instant) (chunk : Bytes) : Indexed (batch.append requestId now chunk) := by
  refine Indexed.congr (h.slot requestId now) rfl ?_
  rw [invocations_append, map_requestId_modify]

theorem Indexed.addInvocation {batch : Batch} (h : Indexed batch) (requestId : String)
    (start : Instant) : Indexed (batch.addInvocation requestId start) :=
  (h.slot requestId start).congr rfl rfl

theorem Indexed.harvest {batch : Batch} (h : Indexed batch) (thresholds : Thresholds)
    (reading : Reading) (force : Bool) :
    Indexed (batch.harvest thresholds reading force).batch := by
  unfold Batch.harvest
  split
  · exact ⟨rfl, List.nodup_nil⟩
  · exact h

/-- **Step**: every operation leaves a batch coherent. -/
theorem Indexed.step {batch : Batch} (h : Indexed batch) (thresholds : Thresholds)
    (reading : Reading) (operation : Operation) :
    Indexed (batch.step thresholds reading operation).batch := by
  cases operation with
  | addInvocation requestId start => exact h.addInvocation requestId start
  | addTelemetry requestId chunk => exact h.append requestId reading.now chunk
  | addToLatest chunk => exact h.append batch.latestId reading.now chunk
  | harvest force => exact h.harvest thresholds reading force

end Batch

end Telemetry

end TelemetryRelay
