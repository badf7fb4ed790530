import Mathlib.Algebra.GroupWithZero.Nat
import TelemetryRelay.Proofs.Batch.Conservation

/-! # What a batch owes to its history

    Whether a harvest is due is decided from a count of octets and the time of the
    last harvest, which every operation has to keep in step with what really
    happened. This module says what really happened, and shows that they do:

    - a harvest takes effect if it is forced or finds the batch ready, and every run
      falls into the part up to the last such harvest and the part since then,
    - the batch is empty between the two parts; after them it has counted the octets
      of the chunks appended in the second one, and remembers when it began,
    - hence a batch is ready exactly if these octets, or the time since then, exceed
      the thresholds.
-/

namespace TelemetryRelay

namespace Telemetry

namespace Batch

/-! ## Section 1: Harvests that take effect -/

/-- A harvest takes effect if it is forced, or finds the batch ready. -/
def TakesEffect (thresholds : Thresholds) (batch : Batch) (reading : Reading) :
    Operation → Prop
  | .harvest force => force = true ∨ batch.isReady thresholds reading.ticks = true
  | _ => False

instance (thresholds : Thresholds) (batch : Batch) (reading : Reading) (operation : Operation) :
    Decidable (batch.TakesEffect thresholds reading operation) := by
  cases operation <;> unfold TakesEffect <;> infer_instance

/-- Only a harvest takes effect. -/
theorem TakesEffect.exists_force {thresholds : Thresholds} {batch : Batch} {reading : Reading}
    {operation : Operation} (h : batch.TakesEffect thresholds reading operation) :
    ∃ force, operation = .harvest force := by
  cases operation with
  | harvest force => exact ⟨force, rfl⟩
  | addInvocation requestId start => exact h.elim
  | addTelemetry requestId chunk => exact h.elim
  | addToLatest chunk => exact h.elim

/-- The batch that operations on a new one lead to. -/
def after (thresholds : Thresholds) (created : Nat) (operations : List (Reading × Operation)) :
    Batch :=
  (run thresholds (fresh created) operations).1

/-- **Quiet**: no harvest among operations that are carried out on a batch, one after the
    other, takes effect. -/
def Quiet (thresholds : Thresholds) : Batch → List (Reading × Operation) → Prop
  | _, [] => True
  | batch, (reading, operation) :: rest =>
    ¬ batch.TakesEffect thresholds reading operation ∧
      Quiet thresholds (batch.step thresholds reading operation).batch rest

/-- **Since**: a run falls into the operations up to its last harvest that took effect and
    the `recent` ones after it. What is recent began at `moment`: when this harvest was
    carried out, or when the batch was created if there was none. -/
structure Since (thresholds : Thresholds) (created : Nat)
    (before recent : List (Reading × Operation)) (moment : Nat) : Prop where
  start : (before = [] ∧ moment = created) ∨
    ∃ first reading operation, before = first ++ [(reading, operation)] ∧
      (after thresholds created first).TakesEffect thresholds reading operation ∧
      moment = reading.ticks
  quiet : Quiet thresholds (after thresholds created before) recent

/-! ## Section 2: Every run has a last harvest -/

/-- A run over an append goes on from where the first part leads. -/
theorem run_append_fst (thresholds : Thresholds) (rest : List (Reading × Operation)) :
    ∀ (first : List (Reading × Operation)) (batch : Batch),
      (run thresholds batch (first ++ rest)).1
        = (run thresholds (run thresholds batch first).1 rest).1
  | [], _ => rfl
  | (reading, operation) :: first, batch => by
    rw [List.cons_append, run_cons, run_cons]
    exact run_append_fst thresholds rest first (batch.step thresholds reading operation).batch

/-- One more operation is one more step. -/
theorem after_concat (thresholds : Thresholds) (created : Nat)
    (operations : List (Reading × Operation)) (reading : Reading) (operation : Operation) :
    after thresholds created (operations ++ [(reading, operation)])
      = ((after thresholds created operations).step thresholds reading operation).batch :=
  run_append_fst thresholds [(reading, operation)] operations (fresh created)

/-- Operations stay quiet with one more that does not take effect. -/
theorem Quiet.concat {thresholds : Thresholds} {reading : Reading} {operation : Operation} :
    ∀ {operations : List (Reading × Operation)} {batch : Batch},
      Quiet thresholds batch operations →
      ¬ (run thresholds batch operations).1.TakesEffect thresholds reading operation →
      Quiet thresholds batch (operations ++ [(reading, operation)])
  | [], _, _, hlast => ⟨hlast, trivial⟩
  | (_, _) :: _, _, h, hlast => ⟨h.1, Quiet.concat h.2 hlast⟩

/-- Before any operation nothing took effect. -/
theorem since_created (thresholds : Thresholds) (created : Nat) :
    Since thresholds created [] [] created := ⟨.inl ⟨rfl, rfl⟩, trivial⟩

/-- **Step**: one more operation takes effect and is the last harvest, or is recent. -/
theorem Since.next {thresholds : Thresholds} {created moment : Nat}
    {before recent : List (Reading × Operation)}
    (h : Since thresholds created before recent moment) (reading : Reading)
    (operation : Operation) :
    ∃ before' recent' moment', before ++ recent ++ [(reading, operation)] = before' ++ recent' ∧
      Since thresholds created before' recent' moment' := by
  by_cases heffect : (after thresholds created (before ++ recent)).TakesEffect thresholds reading
      operation
  · -- nothing is recent any more
    refine ⟨before ++ recent ++ [(reading, operation)], [], reading.ticks, ?_, ?_, trivial⟩
    · exact (List.append_nil _).symm
    · exact .inr ⟨before ++ recent, reading, operation, rfl, heffect, rfl⟩
  · refine ⟨before, recent ++ [(reading, operation)], moment, ?_, h.start, ?_⟩
    · rw [List.append_assoc]
    · apply h.quiet.concat
      rw [after, run_append_fst] at heffect
      exact heffect

/-- **Run**: so it is with any operations. -/
theorem Since.extend {thresholds : Thresholds} {created : Nat}
    (rest : List (Reading × Operation)) :
    ∀ {before recent : List (Reading × Operation)} {moment : Nat},
      Since thresholds created before recent moment →
      ∃ before' recent' moment', before ++ recent ++ rest = before' ++ recent' ∧
        Since thresholds created before' recent' moment' := by
  induction rest with
  | nil =>
    intro before recent moment h
    exact ⟨before, recent, moment, List.append_nil _, h⟩
  | cons first rest ih =>
    intro before recent moment h
    obtain ⟨before', recent', moment', hsplit, hsince⟩ := h.next first.1 first.2
    rw [List.append_cons, hsplit]
    exact ih hsince

/-- **Every run has a last harvest that took effect**, or none that did. -/
theorem exists_since (thresholds : Thresholds) (created : Nat)
    (operations : List (Reading × Operation)) :
    ∃ before recent moment, operations = before ++ recent ∧
      Since thresholds created before recent moment :=
  (since_created thresholds created).extend operations

/-! ## Section 3: What the batch has counted -/

/-- The chunk an operation appends. -/
def Operation.chunk? : Operation → Option Bytes
  | .addTelemetry _ chunk | .addToLatest chunk => some chunk
  | _ => none

/-- The octets of the chunks that operations append. -/
def octetsOf (operations : List (Reading × Operation)) : Nat :=
  ((operations.filterMap fun p => p.2.chunk?).map List.length).sum

theorem octetsOf_cons (reading : Reading) (operation : Operation)
    (rest : List (Reading × Operation)) :
    octetsOf ((reading, operation) :: rest)
      = (operation.chunk?.map List.length).getD 0 + octetsOf rest := by
  unfold octetsOf
  cases hchunk : operation.chunk? <;> simp [hchunk]

@[simp] theorem octets_slot (batch : Batch) (requestId : String) (start : Timestamp.Instant) :
    (batch.slot requestId start).1.octets = batch.octets := by
  unfold slot
  split <;> rfl

@[simp] theorem lastHarvest_slot (batch : Batch) (requestId : String)
    (start : Timestamp.Instant) :
    (batch.slot requestId start).1.lastHarvest = batch.lastHarvest := by
  unfold slot
  split <;> rfl

@[simp] theorem octets_append (batch : Batch) (requestId : String) (now : Timestamp.Instant)
    (chunk : Bytes) :
    (batch.append requestId now chunk).octets = batch.octets + chunk.length := by
  show (batch.slot requestId now).1.octets + chunk.length = _
  rw [octets_slot]

@[simp] theorem lastHarvest_append (batch : Batch) (requestId : String)
    (now : Timestamp.Instant) (chunk : Bytes) :
    (batch.append requestId now chunk).lastHarvest = batch.lastHarvest :=
  lastHarvest_slot batch requestId now

/-- A harvest that does not take effect leaves the batch as it is, and takes nothing. -/
theorem harvest_without_effect {thresholds : Thresholds} {batch : Batch} {reading : Reading}
    {force : Bool} (h : ¬ batch.TakesEffect thresholds reading (.harvest force)) :
    batch.harvest thresholds reading force = ⟨batch, [], []⟩ := by
  obtain ⟨hforce, hready⟩ := not_or.mp h
  rw [Bool.not_eq_true] at hforce hready
  rw [hforce]
  exact harvest_not_due thresholds batch reading hready

/-- A harvest that takes effect takes every invocation, and leaves an empty batch behind
    that remembers when it was harvested and which invocation is the latest. -/
theorem harvest_with_effect {thresholds : Thresholds} {batch : Batch} {reading : Reading}
    {force : Bool} (h : batch.TakesEffect thresholds reading (.harvest force)) :
    (batch.harvest thresholds reading force).taken = batch.invocations ∧
      (batch.harvest thresholds reading force).batch
        = { fresh reading.ticks with latest := batch.latest } := by
  have hdue : (force || batch.isReady thresholds reading.ticks) = true := by
    rw [Bool.or_eq_true]
    exact h
  unfold harvest
  rw [if_pos hdue]
  exact ⟨rfl, rfl⟩

/-- **Step**: an operation without effect adds the octets of its chunk to the count, and
    leaves the time of the last harvest alone. -/
theorem counts_step {thresholds : Thresholds} {batch : Batch} {reading : Reading}
    {operation : Operation} (h : ¬ batch.TakesEffect thresholds reading operation) :
    (batch.step thresholds reading operation).batch.octets
        = batch.octets + (operation.chunk?.map List.length).getD 0 ∧
      (batch.step thresholds reading operation).batch.lastHarvest = batch.lastHarvest := by
  cases operation with
  | addInvocation requestId start => simp [step, addInvocation, Operation.chunk?]
  | addTelemetry requestId chunk => simp [step, Operation.chunk?]
  | addToLatest chunk => simp [step, Operation.chunk?]
  | harvest force =>
    rw [step, harvest_without_effect h]
    exact ⟨rfl, rfl⟩

/-- **Run**: so do operations that are quiet. -/
theorem Quiet.counts {thresholds : Thresholds} :
    ∀ {operations : List (Reading × Operation)} {batch : Batch},
      Quiet thresholds batch operations →
      (run thresholds batch operations).1.octets = batch.octets + octetsOf operations ∧
        (run thresholds batch operations).1.lastHarvest = batch.lastHarvest
  | [], _, _ => ⟨rfl, rfl⟩
  | (reading, operation) :: rest, batch, h => by
    obtain ⟨hoctets, hmoment⟩ := counts_step h.1
    obtain ⟨ihoctets, ihmoment⟩ := Quiet.counts h.2
    rw [run_cons, octetsOf_cons]
    refine ⟨?_, ihmoment.trans hmoment⟩
    rw [ihoctets, hoctets, Nat.add_assoc]

/-- What a run does up to its last harvest leaves an empty batch behind. -/
theorem Since.emptied {thresholds : Thresholds} {created moment : Nat}
    {before recent : List (Reading × Operation)}
    (h : Since thresholds created before recent moment) :
    ∃ latest, after thresholds created before = { fresh moment with latest := latest } := by
  rcases h.start with ⟨rfl, rfl⟩ | ⟨first, reading, operation, rfl, heffect, rfl⟩
  · exact ⟨none, rfl⟩
  · obtain ⟨force, rfl⟩ := heffect.exists_force
    rw [after_concat]
    exact ⟨_, (harvest_with_effect heffect).2⟩

/-- **Counted**: the octets a batch has counted are those of the recent chunks, and the
    time it remembers is when they began to be recent. -/
theorem Since.counts {thresholds : Thresholds} {created moment : Nat}
    {before recent : List (Reading × Operation)}
    (h : Since thresholds created before recent moment) :
    (after thresholds created (before ++ recent)).octets = octetsOf recent ∧
      (after thresholds created (before ++ recent)).lastHarvest = moment := by
  obtain ⟨latest, hempty⟩ := h.emptied
  obtain ⟨hoctets, hmoment⟩ := h.quiet.counts
  rw [hempty] at hoctets hmoment
  have hrun : after thresholds created (before ++ recent)
      = (run thresholds { fresh moment with latest := latest } recent).1 := by
    rw [after, run_append_fst, ← hempty]
    rfl
  rw [hrun]
  exact ⟨hoctets.trans (Nat.zero_add _), hmoment⟩

/-! ## Section 4: What a batch cannot have counted -/

/-- **Bounded**: a batch that was harvested at `moment` or later, and has counted no more
    than `octets` since then. -/
structure Bounded (batch : Batch) (moment octets : Nat) : Prop where
  moment : moment ≤ batch.lastHarvest
  octets : batch.octets ≤ octets

/-- **Step**: any operation keeps to the bounds, where the clock goes forward. -/
theorem Bounded.step {batch : Batch} {moment octets : Nat} (h : batch.Bounded moment octets)
    (thresholds : Thresholds) {reading : Reading} (hforward : moment ≤ reading.ticks)
    (operation : Operation) :
    (batch.step thresholds reading operation).batch.Bounded moment
      (octets + (operation.chunk?.map List.length).getD 0) := by
  by_cases heffect : batch.TakesEffect thresholds reading operation
  · -- a harvest that takes effect starts anew, at a later time and from zero
    obtain ⟨force, rfl⟩ := heffect.exists_force
    have hempty : (batch.step thresholds reading (.harvest force)).batch
        = { fresh reading.ticks with latest := batch.latest } := (harvest_with_effect heffect).2
    rw [hempty]
    exact ⟨hforward, Nat.zero_le _⟩
  · obtain ⟨hoctets, hmoment⟩ := counts_step heffect
    refine ⟨?_, ?_⟩
    · rw [hmoment]
      exact h.moment
    · have hbefore := h.octets
      omega

/-- **Run**: so do any operations. -/
theorem Bounded.run (thresholds : Thresholds) {moment : Nat} :
    ∀ {operations : List (Reading × Operation)} {batch : Batch} {octets : Nat},
      batch.Bounded moment octets → (∀ p ∈ operations, moment ≤ p.1.ticks) →
      (run thresholds batch operations).1.Bounded moment (octets + octetsOf operations)
  | [], _, _, h, _ => h
  | (reading, operation) :: rest, batch, octets, h, hforward => by
    have hstep := h.step thresholds (hforward _ List.mem_cons_self) operation
    have ih := hstep.run thresholds fun p hmem => hforward p (List.mem_cons_of_mem _ hmem)
    rw [run_cons, octetsOf_cons, ← Nat.add_assoc]
    exact ih

/-- A batch within the thresholds is not ready. -/
theorem Bounded.not_ready {thresholds : Thresholds} {batch : Batch} {moment octets ticks : Nat}
    (h : batch.Bounded moment octets) (hoctets : octets ≤ thresholds.octets)
    (hticks : ticks - moment ≤ thresholds.interval) :
    batch.isReady thresholds ticks = false := by
  have hmoment := h.moment
  have hcount := h.octets
  simp only [isReady, Bool.or_eq_false_iff, decide_eq_false_iff_not]
  constructor
  · omega
  · omega

/-! ## Section 5: Readiness -/

/-- **Gated by history**: every run has a last harvest that took effect, if any did. At any
    time, the batch is ready exactly if the chunks appended since then have more octets than
    the threshold, or more time than the interval has passed since then. While it is not
    ready, an unforced harvest takes nothing and leaves the whole batch as it was; while it
    is, an unforced harvest and a forced one take the same and leave the same. After a
    harvest that takes effect, whatever else is done, nothing is ready before the interval
    has passed or more octets than the threshold are appended. -/
theorem harvests_gated_by_history (thresholds : Thresholds) (created : Nat)
    (operations : List (Reading × Operation)) :
    let batch := after thresholds created operations
    (∃ before recent moment, operations = before ++ recent ∧
      Since thresholds created before recent moment) ∧
    (∀ before recent moment, operations = before ++ recent →
      Since thresholds created before recent moment → ∀ ticks,
        (batch.isReady thresholds ticks = true ↔
          thresholds.octets < octetsOf recent ∨ thresholds.interval < ticks - moment)) ∧
    (∀ reading, batch.isReady thresholds reading.ticks = false →
      batch.harvest thresholds reading false = ⟨batch, [], []⟩) ∧
    (∀ reading, batch.isReady thresholds reading.ticks = true →
      (batch.harvest thresholds reading false).taken
          = (batch.harvest thresholds reading true).taken ∧
        (batch.harvest thresholds reading false).batch
          = (batch.harvest thresholds reading true).batch) ∧
    (∀ reading force, batch.TakesEffect thresholds reading (.harvest force) →
      ∀ more ticks, (∀ p ∈ more, reading.ticks ≤ p.1.ticks) →
        ticks - reading.ticks ≤ thresholds.interval → octetsOf more ≤ thresholds.octets →
        (after thresholds created
          (operations ++ (reading, .harvest force) :: more)).isReady thresholds ticks
            = false) := by
  intro batch
  refine ⟨exists_since thresholds created operations, ?_, ?_, ?_, ?_⟩
  · intro before recent moment hsplit hsince ticks
    obtain ⟨hoctets, hmoment⟩ := hsince.counts
    rw [← hsplit] at hoctets hmoment
    simp only [batch, isReady, hoctets, hmoment, Bool.or_eq_true, decide_eq_true_eq]
  · intro reading hready
    exact harvest_not_due thresholds batch reading hready
  · intro reading hready
    have hdue : batch.TakesEffect thresholds reading (.harvest false) := .inr hready
    have hforced : batch.TakesEffect thresholds reading (.harvest true) := .inl rfl
    obtain ⟨htaken, hleft⟩ := harvest_with_effect hdue
    obtain ⟨htaken', hleft'⟩ := harvest_with_effect hforced
    exact ⟨htaken.trans htaken'.symm, hleft.trans hleft'.symm⟩
  · intro reading force heffect more ticks hforward hticks hoctets
    -- right after the harvest nothing is counted, and time runs from it
    have hstart : (batch.harvest thresholds reading force).batch.Bounded reading.ticks 0 := by
      rw [(harvest_with_effect heffect).2]
      exact ⟨Nat.le_refl _, Nat.le_refl _⟩
    have hafter : after thresholds created (operations ++ (reading, .harvest force) :: more)
        = (run thresholds (batch.harvest thresholds reading force).batch more).1 := by
      rw [after, run_append_fst, run_cons]
      rfl
    rw [hafter]
    exact (hstart.run thresholds hforward).not_ready (by omega) hticks

/-- With a threshold of three octets, four octets after a forced harvest make the next one
    due at once. -/
theorem due_after_four_octets :
    (after ⟨3, 10⟩ 0 [(⟨0, 1⟩, .addToLatest [1, 2, 3]), (⟨0, 6⟩, .harvest true),
      (⟨0, 7⟩, .addToLatest [1, 2, 3, 4])]).isReady ⟨3, 10⟩ 7 = true := by
  have hsince : Since ⟨3, 10⟩ 0 [(⟨0, 1⟩, .addToLatest [1, 2, 3]), (⟨0, 6⟩, .harvest true)]
      [(⟨0, 7⟩, .addToLatest [1, 2, 3, 4])] 6 := by
    refine ⟨.inr ⟨[(⟨0, 1⟩, .addToLatest [1, 2, 3])], ⟨0, 6⟩, .harvest true, rfl, ?_, rfl⟩, ?_⟩
    · exact Or.inl rfl
    · exact ⟨fun h => h, trivial⟩
  obtain ⟨-, hready, -⟩ := harvests_gated_by_history ⟨3, 10⟩ 0
    [(⟨0, 1⟩, .addToLatest [1, 2, 3]), (⟨0, 6⟩, .harvest true),
      (⟨0, 7⟩, .addToLatest [1, 2, 3, 4])]
  exact (hready _ _ 6 rfl hsince 7).mpr (.inl (by decide))

end Batch

end Telemetry

end TelemetryRelay
