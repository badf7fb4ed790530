import TelemetryRelay.Proofs.Split.Partition

/-! # Splitting under a greater limit

    Two runs of the same halving, under a limit and under a greater one, look at the same
    ranges down to where one of them stops. Under the greater limit halving stops at the
    same ranges or above them, whatever the sizes of bodies are. This module says what
    that means for the chunks:

    - items that can be split under a limit can be split under every greater one, since
      whatever is encoded then is encoded under the smaller limit too,
    - each chunk under the greater limit is a run of chunks under the smaller one put
      together, so that no boundary is added or moved.
-/

namespace TelemetryRelay

namespace Telemetry

open Log (Logged)

/-! ## Section 1: Chunks in a row -/

/-- A chunk in a row lies between the ends of the row, and holds items. -/
theorem Consecutive.within {chunk : Chunk} {last : Nat} :
    ∀ {chunks : List Chunk} {first : Nat}, Consecutive first chunks last → chunk ∈ chunks →
      chunk.range.Within ⟨first, last⟩
  | [], _, _, hmem => absurd hmem List.not_mem_nil
  | head :: rest, first, ⟨hstart, hsome, hrest⟩, hmem => by
    -- the row goes on from the end of its first chunk to where it ends
    have hend : head.last ≤ last := by
      cases rest with
      | nil => exact Nat.le_of_eq hrest
      | cons second more =>
        have hsecond := Consecutive.within hrest List.mem_cons_self
        have hbefore := hsecond.first
        have hinside := hsecond.nonempty
        have hafter := hsecond.last
        simp only at hbefore hafter
        omega
    rcases List.mem_cons.mp hmem with rfl | hmem
    · exact ⟨Nat.le_of_eq hstart.symm, hsome, hend⟩
    · have hin := Consecutive.within hrest hmem
      refine ⟨?_, hin.nonempty, hin.last⟩
      have hfirst := hin.first
      simp only at hfirst ⊢
      omega

/-- Chunks in a row do not overlap: a range that holds items lies within one of them only. -/
theorem Consecutive.eq_of_within {one other : Chunk} {inner : Range} {last : Nat} :
    ∀ {chunks : List Chunk} {first : Nat}, Consecutive first chunks last →
      one ∈ chunks → other ∈ chunks → inner.Within one.range → inner.Within other.range →
      one = other
  | [], _, _, hone, _, _, _ => absurd hone List.not_mem_nil
  | head :: rest, first, ⟨_, _, hrest⟩, hone, hother, hin, hin' => by
    -- a later chunk begins where the first one ends, or after that
    have hapart {chunk : Chunk} (hmem : chunk ∈ rest) (hhead : inner.Within head.range)
        (hlater : inner.Within chunk.range) : False := by
      have hbegin := (hrest.within hmem).first
      have hinside := hhead.nonempty
      have hends := hhead.last
      have hbegins := hlater.first
      simp only [Chunk.range] at hbegin hends hbegins
      omega
    rcases List.mem_cons.mp hone with heq | hlater
    · rcases List.mem_cons.mp hother with heq' | hlater'
      · rw [heq, heq']
      · exact (hapart hlater' (heq ▸ hin) hin').elim
    · rcases List.mem_cons.mp hother with heq' | hlater'
      · exact (hapart hlater (heq' ▸ hin') hin).elim
      · exact hrest.eq_of_within hlater hlater' hin hin'

/-! ## Section 2: Runs put together -/

/-- **Merging**: chunks each of which stands for a run of others. The runs are not empty,
    and follow each other without a gap. -/
inductive Merged : List Chunk → List Chunk → Prop
  /-- No chunks are merged into none. -/
  | nil : Merged [] []
  /-- A run that covers the range of a chunk goes into this chunk. -/
  | cons (whole : Chunk) (run fine coarse : List Chunk) :
      run ≠ [] → Consecutive whole.first run whole.last → Merged fine coarse →
      Merged (run ++ fine) (whole :: coarse)

/-- A single chunk may stand for a run. -/
theorem Merged.of_run {whole : Chunk} {run : List Chunk} (hsome : run ≠ [])
    (hrun : Consecutive whole.first run whole.last) : Merged run [whole] := by
  have h := Merged.cons whole run [] [] hsome hrun .nil
  rwa [List.append_nil] at h

theorem Merged.append {fine coarse fine' coarse' : List Chunk} (h : Merged fine coarse)
    (h' : Merged fine' coarse') : Merged (fine ++ fine') (coarse ++ coarse') := by
  induction h with
  | nil => exact h'
  | cons whole run fine coarse hsome hrun _ ih =>
    rw [List.append_assoc, List.cons_append]
    exact .cons whole run _ _ hsome hrun ih

/-- Whatever is merged lies within a chunk it is merged into. -/
theorem Merged.exists_within {fine coarse : List Chunk} (h : Merged fine coarse) {chunk : Chunk}
    (hmem : chunk ∈ fine) : ∃ whole ∈ coarse, chunk.range.Within whole.range := by
  induction h with
  | nil => exact absurd hmem List.not_mem_nil
  | cons whole run fine coarse _ hrun _ ih =>
    rcases List.mem_append.mp hmem with hmem | hmem
    · exact ⟨whole, List.mem_cons_self, hrun.within hmem⟩
    · obtain ⟨other, hother, hin⟩ := ih hmem
      exact ⟨other, List.mem_cons_of_mem _ hother, hin⟩

/-! ## Section 3: Halving under two limits -/

variable {α : Type} {encoder : Encoder α} {limit small large : Nat} {first : Nat}
  {items : List α} {chunks fine : List Chunk}

/-- The chunks of a bisection stand in a row over all of its items. -/
theorem Bisection.consecutive (h : Bisection encoder limit first items chunks) :
    Consecutive first chunks (first + items.length) := by
  induction h with
  | fits first items body hne _ _ =>
    have hpos := List.length_pos_of_ne_nil hne
    refine ⟨rfl, ?_, rfl⟩
    show first < first + items.length
    omega
  | oversized first item body _ _ => exact ⟨rfl, Nat.lt_succ_self first, rfl⟩
  | halved first items body left right hlen _ _ _ _ ihl ihr =>
    have hleft : first + (items.take (items.length / 2)).length = first + items.length / 2 := by
      rw [List.length_take]
      omega
    have hright : first + items.length / 2 + (items.drop (items.length / 2)).length
        = first + items.length := by
      rw [List.length_drop]
      omega
    rw [hleft] at ihl
    rw [hright] at ihr
    exact ihl.append ihr

/-- Nothing is bisected into no chunks. -/
theorem Bisection.ne_nil (h : Bisection encoder limit first items chunks) : chunks ≠ [] := by
  induction h with
  | fits => exact List.cons_ne_nil _ _
  | oversized => exact List.cons_ne_nil _ _
  | halved _ _ _ _ _ _ _ _ _ _ ihl _ => exact List.append_ne_nil_of_left_ne_nil ihl _

/-- **Two limits**: a bisection under a limit is one under a greater limit, in which some
    runs of its chunks are put together. -/
theorem Bisection.merged (hle : small ≤ large) (h : Bisection encoder small first items fine) :
    ∃ coarse, Bisection encoder large first items coarse ∧ Merged fine coarse := by
  induction h with
  | fits first items body hne hbody hfit =>
    have hwhole : Bisection encoder large first items _ :=
      .fits first items body hne hbody (Nat.le_trans hfit hle)
    exact ⟨_, hwhole, .of_run hwhole.ne_nil hwhole.consecutive⟩
  | oversized first item body hbody hover =>
    refine ⟨[⟨first, first + 1, body⟩], ?_, ?_⟩
    · by_cases hfit : body.length ≤ large
      · exact .fits first [item] body (List.cons_ne_nil _ _) hbody hfit
      · exact .oversized first item body hbody (Nat.lt_of_not_le hfit)
    · exact .of_run (List.cons_ne_nil _ _) ⟨rfl, Nat.lt_succ_self first, rfl⟩
  | halved first items body left right hlen hbody hover hleft hright ihl ihr =>
    by_cases hfit : body.length ≤ large
    · -- halving stops here under the greater limit, so that both halves are put together
      have hfine := Bisection.halved first items body left right hlen hbody hover hleft hright
      have hne : items ≠ [] := List.ne_nil_of_length_pos (Nat.lt_of_lt_of_le Nat.two_pos hlen)
      exact ⟨_, .fits first items body hne hbody hfit, .of_run hfine.ne_nil hfine.consecutive⟩
    · obtain ⟨left', hleft', hmerged⟩ := ihl
      obtain ⟨right', hright', hmerged'⟩ := ihr
      exact ⟨left' ++ right', .halved first items body left' right' hlen hbody
        (Nat.lt_of_not_le hfit) hleft' hright', hmerged.append hmerged'⟩

/-- A bisection of all items is what splitting computes. -/
theorem Bisection.result_split (h : Bisection encoder limit 0 items chunks) :
    (split encoder limit items).result = .ok chunks := by
  obtain ⟨notices, hsplit, -⟩ := h.warnings items.length (Nat.le_refl _)
  have hsome : items.isEmpty = false := by
    cases h with
    | fits _ _ _ hne _ _ => simpa using hne
    | oversized => rfl
    | halved _ _ _ _ _ hlen _ _ _ _ =>
      simpa using List.ne_nil_of_length_pos (Nat.lt_of_lt_of_le Nat.two_pos hlen)
  unfold split
  rw [hsome, if_neg Bool.false_ne_true, hsplit]

/-- **Monotonicity**: items that can be split under a limit can be split under a greater one.
    Each chunk under the smaller limit lies within exactly one chunk under the greater limit,
    and each chunk under the greater limit is a run of chunks under the smaller one put
    together. Nothing is assumed about how the size of a body depends on its items. -/
theorem split_merges_under_greater_limit (hle : small ≤ large)
    (h : (split encoder small items).result = .ok fine) :
    ∃ coarse, (split encoder large items).result = .ok coarse ∧
      (∀ chunk ∈ fine, ∃! whole, whole ∈ coarse ∧ chunk.range.Within whole.range) ∧
      Merged fine coarse := by
  rcases bisection_of_split h with ⟨rfl, rfl⟩ | hfine
  · exact ⟨[], rfl, fun chunk hmem => absurd hmem List.not_mem_nil, .nil⟩
  · obtain ⟨coarse, hcoarse, hmerged⟩ := hfine.merged hle
    refine ⟨coarse, hcoarse.result_split, ?_, hmerged⟩
    intro chunk hmem
    obtain ⟨whole, hwhole, hin⟩ := hmerged.exists_within hmem
    refine ⟨whole, ⟨hwhole, hin⟩, ?_⟩
    rintro other ⟨hother, hin'⟩
    exact hcoarse.consecutive.eq_of_within hother hwhole hin' hin

/-- The two chunks of three items, of which the first takes more room by itself than all of
    them together, are one chunk under a limit that all of them fit. -/
theorem split_swelling_merges :
    (split swelling 2 [1, 2, 3]).result
      = .ok [⟨0, 1, [1, 1, 1, 1]⟩, ⟨1, 3, [2, 3]⟩] ∧
    (split swelling 3 [1, 2, 3]).result = .ok [⟨0, 3, [1, 2, 3]⟩] ∧
    Merged [⟨0, 1, [1, 1, 1, 1]⟩, ⟨1, 3, [2, 3]⟩] [⟨0, 3, [1, 2, 3]⟩] := by
  have hfine : (split swelling 2 [1, 2, 3]).result
      = .ok [⟨0, 1, [1, 1, 1, 1]⟩, ⟨1, 3, [2, 3]⟩] := rfl
  obtain ⟨coarse, hcoarse, -, hmerged⟩ :=
    split_merges_under_greater_limit (by decide : 2 ≤ 3) hfine
  have hwhole : (split swelling 3 [1, 2, 3]).result = .ok [⟨0, 3, [1, 2, 3]⟩] := rfl
  rw [hwhole] at hcoarse
  obtain rfl := Except.ok.inj hcoarse
  exact ⟨hfine, hwhole, hmerged⟩

end Telemetry

end TelemetryRelay
