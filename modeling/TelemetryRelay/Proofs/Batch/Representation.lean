import TelemetryRelay.Proofs.Batch.Arrival

/-! # How a batch is represented

    A batch holds its invocations in a list, their places in an index, and the octets of
    their chunks in a count, and every operation changes these apart from each other. This
    module says what they have in common in every batch that operations lead to:

    - the index finds an id at a place exactly if the invocation there has it, so that a
      slot is always a place of the list,
    - the count is that of the chunks that are held,
    - each invocation has the start that the operation gave to it which used its id first,
      and keeps it and its place until a harvest takes effect.
-/

namespace TelemetryRelay

namespace Telemetry

open Timestamp (Instant)

/-! ## Section 1: Starts -/

/-- An invocation without its chunks: its id and its start. -/
def Invocation.label (invocation : Invocation) : String × Instant :=
  (invocation.requestId, invocation.start)

namespace Batch

/-- The labels of the invocations that a batch holds, in their places. -/
def labels (batch : Batch) : List (String × Instant) :=
  batch.invocations.map Invocation.label

/-- The start of an invocation that an operation creates. -/
def Operation.startGiven (reading : Reading) : Operation → Instant
  | .addInvocation _ start => start
  | _ => reading.now

/-- **Created**: the first of the `recent` operations that uses an id gives this start. -/
def Created (before : List Operation) (recent : List (Reading × Operation))
    (label : String × Instant) : Prop :=
  ∃ front reading operation back, recent = front ++ (reading, operation) :: back ∧
    operation.used? (before ++ front.map Prod.snd) = some label.1 ∧
    label.1 ∉ uses before (front.map Prod.snd) ∧
    label.2 = operation.startGiven reading

/-- What is created stays created. -/
theorem Created.concat {before : List Operation} {recent : List (Reading × Operation)}
    {label : String × Instant} (h : Created before recent label)
    (last : Reading × Operation) : Created before (recent ++ [last]) label := by
  obtain ⟨front, reading, operation, back, rfl, hused, hnew, hstart⟩ := h
  exact ⟨front, reading, operation, back ++ [last], by simp, hused, hnew, hstart⟩

/-! ## Section 2: One operation -/

/-- A slot adds its label at the end, unless its id has a place. -/
theorem labels_slot (batch : Batch) (requestId : String) (start : Instant) :
    (batch.slot requestId start).1.labels
      = batch.labels ++
        if (batch.place? requestId).isSome then [] else [(requestId, start)] := by
  unfold labels
  rw [invocations_slot, List.map_append]
  split <;> rfl

/-- Appending a chunk anywhere leaves all labels alone. -/
theorem map_label_modify (chunk : Bytes) (invocations : List Invocation) (place : Nat) :
    (invocations.modify place (Invocation.push chunk)).map Invocation.label
      = invocations.map Invocation.label := by
  apply List.ext_getElem?
  intro i
  rw [List.getElem?_map, List.getElem?_map, List.getElem?_modify]
  by_cases hi : place = i
  · cases invocations[i]? <;> simp [hi, Invocation.label, Invocation.push]
  · simp [hi]

/-- Appending a chunk adds a label as a slot does. -/
theorem labels_append (batch : Batch) (requestId : String) (now : Instant) (chunk : Bytes) :
    (batch.append requestId now chunk).labels
      = batch.labels ++
        if (batch.place? requestId).isSome then [] else [(requestId, now)] := by
  rw [← labels_slot]
  unfold labels
  rw [invocations_append, map_label_modify]

/-- The labels of the ids, at most one, that an operation uses and that have no place. -/
def newLabels (batch : Batch) (before : List Operation) (reading : Reading)
    (operation : Operation) : List (String × Instant) :=
  match operation.used? before with
  | some requestId =>
    if (batch.place? requestId).isSome then [] else [(requestId, operation.startGiven reading)]
  | none => []

/-- A new label is that of the id which is used, where it has no place. -/
theorem mem_newLabels {batch : Batch} {before : List Operation} {reading : Reading}
    {operation : Operation} {label : String × Instant}
    (h : label ∈ batch.newLabels before reading operation) :
    operation.used? before = some label.1 ∧ batch.place? label.1 = none ∧
      label.2 = operation.startGiven reading := by
  unfold newLabels at h
  cases hused : operation.used? before with
  | none =>
    rw [hused] at h
    cases h
  | some requestId =>
    rw [hused] at h
    simp only at h
    split at h
    · cases h
    · next hplace =>
      rw [List.mem_singleton.mp h]
      exact ⟨rfl, by simpa using hplace, rfl⟩

/-- **Step**: an operation without effect keeps all labels, and adds the new ones at the
    end. -/
theorem labels_step {batch : Batch} {before : List Operation} (h : batch.Follows before)
    {thresholds : Thresholds} {reading : Reading} {operation : Operation}
    (hquiet : ¬ batch.TakesEffect thresholds reading operation) :
    (batch.step thresholds reading operation).batch.labels
      = batch.labels ++ batch.newLabels before reading operation := by
  cases operation with
  | addInvocation requestId start => exact labels_slot batch requestId start
  | addTelemetry requestId chunk => exact labels_append batch requestId reading.now chunk
  | addToLatest chunk =>
    -- the id the batch remembers is the one that was registered last
    rw [newLabels, Operation.used?, ← h.latest]
    exact labels_append batch batch.latestId reading.now chunk
  | harvest force =>
    rw [step, harvest_without_effect hquiet]
    exact (List.append_nil _).symm

/-! ## Section 3: Runs -/

/-- **Step**: with one more operation that has no effect, what a batch holds is still
    created by what is recent. -/
theorem Recorded.created_step {batch : Batch} {before : List Operation}
    {recent : List (Reading × Operation)}
    (h : batch.Recorded before (recent.map Prod.snd))
    (hcreated : ∀ label ∈ batch.labels, Created before recent label)
    {thresholds : Thresholds} {reading : Reading} {operation : Operation}
    (hquiet : ¬ batch.TakesEffect thresholds reading operation) :
    ∀ label ∈ (batch.step thresholds reading operation).batch.labels,
      Created before (recent ++ [(reading, operation)]) label := by
  have hindexed := h.balanced.follows.indexed
  intro label hmem
  rw [labels_step h.balanced.follows hquiet, List.mem_append] at hmem
  rcases hmem with hold | hadded
  · exact (hcreated label hold).concat _
  · obtain ⟨hused, hplace, hstart⟩ := mem_newLabels hadded
    refine ⟨recent, reading, operation, [], rfl, hused, fun huses => ?_, hstart⟩
    -- an id that was used has a place
    have hids : label.1 ∈ batch.ids := by
      rw [h.ids, firstUses, List.mem_eraseDups]
      exact huses
    have hsome := (hindexed.isSome_place?_iff label.1).mpr hids
    rw [hplace] at hsome
    cases hsome

/-- **Run**: so it is with operations that are quiet. -/
theorem created_run {thresholds : Thresholds} {before : List Operation} :
    ∀ {more : List (Reading × Operation)} {batch : Batch} {recent : List (Reading × Operation)},
      batch.Recorded before (recent.map Prod.snd) →
      (∀ label ∈ batch.labels, Created before recent label) → Quiet thresholds batch more →
      ∀ label ∈ (run thresholds batch more).1.labels, Created before (recent ++ more) label
  | [], _, recent, _, hcreated, _ => by
    rw [List.append_nil]
    exact hcreated
  | (reading, operation) :: more, batch, recent, h, hcreated, hquiet => by
    have hstep := h.step hquiet.1
    have hnext := h.created_step hcreated hquiet.1
    rw [← List.map_singleton (f := Prod.snd) (a := (reading, operation)),
      ← List.map_append] at hstep
    rw [run_cons, List.append_cons]
    exact created_run hstep hnext hquiet.2

/-- What a batch holds was created since its last harvest. -/
theorem Since.created {thresholds : Thresholds} {created moment : Nat}
    {before recent : List (Reading × Operation)}
    (h : Since thresholds created before recent moment) :
    ∀ label ∈ (after thresholds created (before ++ recent)).labels,
      Created (before.map Prod.snd) recent label := by
  have hempty : Since thresholds created before [] moment := ⟨h.start, trivial⟩
  have hrecorded := hempty.recorded
  obtain ⟨latest, hemptied⟩ := h.emptied
  have hnone : (after thresholds created before).labels = [] := by
    rw [hemptied]
    rfl
  rw [List.append_nil] at hrecorded
  rw [after, run_append_fst]
  refine created_run hrecorded ?_ h.quiet
  intro label hmem
  rw [hnone] at hmem
  cases hmem

/-- **Run**: labels stay where they are while nothing takes effect. -/
theorem labels_prefix_run {thresholds : Thresholds} :
    ∀ {more : List (Reading × Operation)} {batch : Batch} {before : List Operation},
      batch.Follows before → Quiet thresholds batch more →
      batch.labels <+: (run thresholds batch more).1.labels
  | [], _, _, _, _ => List.prefix_refl _
  | (reading, operation) :: more, batch, before, h, hquiet => by
    have hstep : batch.labels <+: (batch.step thresholds reading operation).batch.labels := by
      rw [labels_step h hquiet.1]
      exact List.prefix_append _ _
    rw [run_cons]
    exact hstep.trans (labels_prefix_run (h.step thresholds reading operation) hquiet.2)

/-! ## Section 4: What is counted -/

/-- The chunks that operations file are those they append. -/
theorem map_snd_filings :
    ∀ (operations : List (Reading × Operation)) (before : List Operation),
      (filings before (operations.map Prod.snd)).map Prod.snd
        = operations.filterMap fun p => p.2.chunk?
  | [], _ => rfl
  | (reading, operation) :: rest, before => by
    rw [List.map_cons, filings, List.map_append, map_snd_filings rest]
    cases operation <;> rfl

/-- **Counted**: the octets a batch has counted are those of the chunks it holds. -/
theorem Since.octets_eq {thresholds : Thresholds} {created moment : Nat}
    {before recent : List (Reading × Operation)}
    (h : Since thresholds created before recent moment) :
    let batch := after thresholds created (before ++ recent)
    batch.octets = ((batch.invocations.flatMap Invocation.chunks).map List.length).sum := by
  intro batch
  have hheld : (batch.invocations.flatMap Invocation.chunks).Perm
      (recent.filterMap fun p => p.2.chunk?) := by
    rw [← map_snd_filings recent (before.map Prod.snd)]
    exact perm_of_chunksUnder h.recorded.balanced.chunks
  calc batch.octets = octetsOf recent := h.counts.1
    _ = ((recent.filterMap fun p => p.2.chunk?).map List.length).sum := rfl
    _ = _ := (hheld.map List.length).sum_nat.symm

/-! ## Section 5: Every batch -/

/-- **Representation**: in every batch that operations lead to, the index finds an id at a
    place exactly if the invocation there has this id; no id occurs twice, and a slot is a
    place of the list, with an invocation of its id. The count is that of the chunks held. A
    run has a last harvest that took effect, if any did, and since then, the ids stand in
    the order of their first uses, each with the start that its first use gave to it. Further
    operations keep the ids with their starts where they stand, until a harvest takes
    effect. -/
theorem every_batch_is_coherent (thresholds : Thresholds) (created : Nat)
    (operations : List (Reading × Operation)) :
    let batch := after thresholds created operations
    (∀ requestId place, batch.place? requestId = some place ↔
      ∃ invocation, batch.invocations[place]? = some invocation ∧
        invocation.requestId = requestId) ∧
    batch.ids.Nodup ∧
    (∀ requestId start, ∃ invocation,
      (batch.slot requestId start).1.invocations[(batch.slot requestId start).2]?
        = some invocation ∧ invocation.requestId = requestId) ∧
    batch.octets = ((batch.invocations.flatMap Invocation.chunks).map List.length).sum ∧
    (∃ before recent moment, operations = before ++ recent ∧
      Since thresholds created before recent moment) ∧
    (∀ before recent moment, operations = before ++ recent →
      Since thresholds created before recent moment →
      batch.ids = firstUses (before.map Prod.snd) (recent.map Prod.snd) ∧
        ∀ invocation ∈ batch.invocations,
          Created (before.map Prod.snd) recent (invocation.requestId, invocation.start)) ∧
    ∀ more, Quiet thresholds batch more →
      batch.labels <+: (after thresholds created (operations ++ more)).labels := by
  intro batch
  have hfollows : batch.Follows (operations.map Prod.snd) := (follows_fresh created).run
  have hindexed := hfollows.indexed
  obtain ⟨before, recent, moment, hsplit, hsince⟩ := exists_since thresholds created operations
  refine ⟨hindexed.place?_eq_some_iff, hindexed.distinct, hindexed.getElem?_slot, ?_,
    ⟨before, recent, moment, hsplit, hsince⟩, ?_, ?_⟩
  · have hcounted := hsince.octets_eq
    rw [← hsplit] at hcounted
    exact hcounted
  · rintro before recent moment rfl hsince
    refine ⟨hsince.recorded.ids, fun invocation hmem => ?_⟩
    exact hsince.created _ (List.mem_map_of_mem hmem)
  · intro more hquiet
    rw [after, run_append_fst]
    exact labels_prefix_run hfollows hquiet

/-- A run whose first harvest takes an invocation, which is then used again: by a chunk, and
    by a registration with another start. -/
def usedAgain : List (Reading × Operation) :=
  [(⟨1, 1⟩, .addInvocation "r" 1), (⟨2, 2⟩, .harvest true), (⟨5, 3⟩, .addToLatest [1, 2]),
    (⟨6, 4⟩, .addInvocation "r" 9)]

/-- The chunk creates the invocation anew, and the registration leaves its start alone. So
    does a chunk of another invocation after it. -/
theorem usedAgain_is_coherent :
    usedAgain = usedAgain.take 2 ++ usedAgain.drop 2 ∧
      Since ⟨100, 100⟩ 0 (usedAgain.take 2) (usedAgain.drop 2) 2 ∧
      Quiet ⟨100, 100⟩ (after ⟨100, 100⟩ 0 usedAgain) [(⟨7, 5⟩, .addTelemetry "s" [3])] ∧
      (after ⟨100, 100⟩ 0 usedAgain).ids = ["r"] ∧
      Created ((usedAgain.take 2).map Prod.snd) (usedAgain.drop 2) ("r", 5) ∧
      [("r", 5)] <+: (after ⟨100, 100⟩ 0
        (usedAgain ++ [(⟨7, 5⟩, .addTelemetry "s" [3])])).labels := by
  have hsince : Since ⟨100, 100⟩ 0 (usedAgain.take 2) (usedAgain.drop 2) 2 := by
    refine ⟨.inr ⟨usedAgain.take 1, ⟨2, 2⟩, .harvest true, rfl, Or.inl rfl, rfl⟩, ?_⟩
    exact ⟨fun h => h, fun h => h, trivial⟩
  have hquiet : Quiet ⟨100, 100⟩ (after ⟨100, 100⟩ 0 usedAgain)
      [(⟨7, 5⟩, .addTelemetry "s" [3])] := ⟨fun h => h, trivial⟩
  obtain ⟨-, -, -, -, -, hheld, hkept⟩ := every_batch_is_coherent ⟨100, 100⟩ 0 usedAgain
  obtain ⟨hids, hcreated⟩ := hheld _ _ 2 rfl hsince
  exact ⟨rfl, hsince, hquiet, hids, hcreated ⟨"r", 5, [[1, 2]]⟩ (by decide), hkept _ hquiet⟩

end Batch

end Telemetry

end TelemetryRelay
