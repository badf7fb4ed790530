import Mathlib.Data.List.Forall2
import TelemetryRelay.Telemetry.Split

/-! # How a payload is halved

    `splitFrom` halves items until each part fits or is a single item. This module
    says what it has done when it succeeds, without the fuel it recurses on:

    - `Bisection` is the tree of halvings, with a constructor for each of the
      three ways a range can end,
    - a successful `split` is a bisection of all the items,
    - a bisection cuts the items into parts, and each chunk carries one part.

    Nothing is assumed about how the size of a body depends on its items.
-/

namespace TelemetryRelay

namespace Telemetry

open Log (Logged)

variable {α β : Type} {encoder : Encoder α} {limit : Nat}

/-! ## Section 1: Bisections -/

/-- The chunks that halving leads to from items of which the first has number
    `first`. -/
inductive Bisection (encoder : Encoder α) (limit : Nat) : Nat → List α → List Chunk → Prop
  /-- The body of all items fits. -/
  | fits (first : Nat) (items : List α) (body : Bytes) :
      items ≠ [] → encoder.body items = .ok body → body.length ≤ limit →
      Bisection encoder limit first items [⟨first, first + items.length, body⟩]
  /-- A single item does not fit, and stays as it is. -/
  | oversized (first : Nat) (item : α) (body : Bytes) :
      encoder.body [item] = .ok body → limit < body.length →
      Bisection encoder limit first [item] [⟨first, first + 1, body⟩]
  /-- Several items do not fit, and are halved by number. -/
  | halved (first : Nat) (items : List α) (body : Bytes) (left right : List Chunk) :
      2 ≤ items.length → encoder.body items = .ok body → limit < body.length →
      Bisection encoder limit first (items.take (items.length / 2)) left →
      Bisection encoder limit (first + items.length / 2) (items.drop (items.length / 2)) right →
      Bisection encoder limit first items (left ++ right)

/-- What a chunk says of the items it carries. -/
structure Carries (encoder : Encoder α) (limit : Nat) (part : List α) (chunk : Chunk) :
    Prop where
  nonempty : part ≠ []
  count : chunk.last - chunk.first = part.length
  body : encoder.body part = .ok chunk.body
  bounded : chunk.body.length ≤ limit ∨ part.length = 1

/-- A chunk carries the images of items too, where these have the same body. -/
theorem Carries.map {encoder' : Encoder β} (f : α → β)
    (hbody : ∀ part, encoder'.body (part.map f) = encoder.body part) {part : List α}
    {chunk : Chunk} (h : Carries encoder limit part chunk) :
    Carries encoder' limit (part.map f) chunk where
  nonempty := by simpa using h.nonempty
  count := by rw [List.length_map, h.count]
  body := by rw [hbody, h.body]
  bounded := by
    rw [List.length_map]
    exact h.bounded

/-- **Partition**: a bisection cuts its items into parts in order, one for each
    chunk. -/
theorem Bisection.exists_parts {first : Nat} {items : List α} {chunks : List Chunk}
    (h : Bisection encoder limit first items chunks) :
    ∃ parts : List (List α), parts.flatten = items ∧
      List.Forall₂ (Carries encoder limit) parts chunks := by
  induction h with
  | fits first items body hne hbody hfit =>
    refine ⟨[items], List.flatten_singleton, .cons ⟨hne, ?_, hbody, .inl hfit⟩ .nil⟩
    exact Nat.add_sub_cancel_left first items.length
  | oversized first item body hbody hover =>
    refine ⟨[[item]], rfl, .cons ⟨by simp, ?_, hbody, .inr rfl⟩ .nil⟩
    exact Nat.add_sub_cancel_left first 1
  | halved first items body left right hlen hbody hover _ _ ihl ihr =>
    obtain ⟨lparts, hlflat, hleft⟩ := ihl
    obtain ⟨rparts, hrflat, hright⟩ := ihr
    refine ⟨lparts ++ rparts, ?_, List.rel_append hleft hright⟩
    rw [List.flatten_append, hlflat, hrflat, List.take_append_drop]

/-! ## Section 2: Splitting is bisection -/

/-- The result of a computation whose failures are renamed. -/
theorem result_lift {ε ε' γ : Type} (wrap : ε' → ε) (x : Except ε' γ) :
    (Logged.lift wrap x).result = x.mapError wrap := by
  cases x <;> rfl

/-- The result of one round of splitting, its notices aside. -/
theorem result_splitFrom_succ (encoder : Encoder α) (limit fuel first : Nat)
    (items : List α) :
    (splitFrom encoder limit (fuel + 1) first items).result =
      (encoder.body items).bind fun body =>
        if body.length ≤ limit ∨ items.length ≤ 1 then
          .ok [⟨first, first + items.length, body⟩]
        else
          (splitFrom encoder limit fuel first (items.take (items.length / 2))).result.bind
            fun left =>
          (splitFrom encoder limit fuel (first + items.length / 2)
            (items.drop (items.length / 2))).result.bind fun right =>
          .ok (left ++ right) := by
  rw [splitFrom, Logged.result_andThen, result_lift]
  cases encoder.body items with
  | error e => rfl
  | ok body =>
    show Logged.result (ite _ _ _) = ite _ _ _
    -- a body that fits and a single item end the round the same way
    by_cases hfit : body.length ≤ limit
    · rw [if_pos hfit, if_pos (.inl hfit)]
      rfl
    · rw [if_neg hfit]
      by_cases hone : items.length ≤ 1
      · rw [if_pos hone, if_pos (.inr hone)]
        rfl
      · rw [if_neg hone, if_neg (by omega)]
        simp only [Logged.result_andThen]
        rfl

/-- Enough fuel for items is enough for both halves of them. -/
theorem length_halves {fuel : Nat} {items : List α} (hlen : 2 ≤ items.length)
    (hfuel : items.length ≤ fuel + 1) :
    ((items.take (items.length / 2)).length ≤ fuel ∧ items.take (items.length / 2) ≠ []) ∧
      (items.drop (items.length / 2)).length ≤ fuel ∧
        items.drop (items.length / 2) ≠ [] := by
  have htake : (items.take (items.length / 2)).length = items.length / 2 := by
    rw [List.length_take]
    omega
  have hdrop : (items.drop (items.length / 2)).length = items.length - items.length / 2 :=
    List.length_drop
  refine ⟨⟨by omega, ?_⟩, by omega, ?_⟩
  · intro hnil
    rw [hnil, List.length_nil] at htake
    omega
  · intro hnil
    rw [hnil, List.length_nil] at hdrop
    omega

/-- With fuel for its items, a round of splitting that succeeds is a bisection. -/
theorem bisection_of_splitFrom :
    ∀ (fuel first : Nat) (items : List α) (chunks : List Chunk),
      items ≠ [] → items.length ≤ fuel →
      (splitFrom encoder limit fuel first items).result = .ok chunks →
      Bisection encoder limit first items chunks
  | 0, _, items, _, hne, hfuel, _ => by
    exact absurd (List.eq_nil_of_length_eq_zero (Nat.le_zero.mp hfuel)) hne
  | fuel + 1, first, items, chunks, hne, hfuel, h => by
    rw [result_splitFrom_succ] at h
    cases hbody : encoder.body items with
    | error e => rw [hbody] at h; cases h
    | ok body =>
      rw [hbody] at h
      replace h : ite _ _ _ = _ := h
      by_cases hwhole : body.length ≤ limit ∨ items.length ≤ 1
      · rw [if_pos hwhole] at h
        cases h
        by_cases hfit : body.length ≤ limit
        · exact .fits first items body hne hbody hfit
        · obtain ⟨item, rfl⟩ : ∃ item, items = [item] := by
            apply List.length_eq_one_iff.mp
            have := List.length_pos_of_ne_nil hne
            omega
          exact .oversized first item body hbody (by omega)
      · rw [if_neg hwhole] at h
        -- both halves are shorter, and neither of them is empty
        have htwo : 2 ≤ items.length := by omega
        obtain ⟨⟨hlfuel, hlne⟩, hrfuel, hrne⟩ := length_halves htwo hfuel
        cases hleft : (splitFrom encoder limit fuel first
            (items.take (items.length / 2))).result with
        | error e => rw [hleft] at h; cases h
        | ok left =>
          rw [hleft] at h
          cases hright : (splitFrom encoder limit fuel (first + items.length / 2)
              (items.drop (items.length / 2))).result with
          | error e => rw [hright] at h; cases h
          | ok right =>
            rw [hright] at h
            cases h
            exact .halved first items body left right htwo hbody (by omega)
              (bisection_of_splitFrom fuel first _ left hlne hlfuel hleft)
              (bisection_of_splitFrom fuel _ _ right hrne hrfuel hright)

/-- **Splitting**: chunks of no items are none, and chunks of some items are a
    bisection of them. -/
theorem bisection_of_split {items : List α} {chunks : List Chunk}
    (h : (split encoder limit items).result = .ok chunks) :
    items = [] ∧ chunks = [] ∨ Bisection encoder limit 0 items chunks := by
  cases items with
  | nil =>
    left
    cases h
    exact ⟨rfl, rfl⟩
  | cons item rest =>
    right
    exact bisection_of_splitFrom _ 0 (item :: rest) chunks (by simp) (Nat.le_refl _) h

/-- The chunks of a successful split carry its items, part by part. -/
theorem exists_parts_of_split {items : List α} {chunks : List Chunk}
    (h : (split encoder limit items).result = .ok chunks) :
    ∃ parts : List (List α), parts.flatten = items ∧
      List.Forall₂ (Carries encoder limit) parts chunks := by
  rcases bisection_of_split h with ⟨rfl, rfl⟩ | hbisection
  · exact ⟨[], rfl, .nil⟩
  · exact hbisection.exists_parts

/-! ## Section 3: When splitting succeeds -/

/-- An encoder that fails on no items. -/
def Encoder.Total (encoder : Encoder α) : Prop := ∀ part, ∃ body, encoder.body part = .ok body

theorem exists_splitFrom (htotal : encoder.Total) :
    ∀ (fuel first : Nat) (items : List α),
      ∃ chunks, (splitFrom encoder limit fuel first items).result = .ok chunks
  | 0, _, _ => ⟨[], rfl⟩
  | fuel + 1, first, items => by
    obtain ⟨body, hbody⟩ := htotal items
    obtain ⟨left, hleft⟩ := exists_splitFrom htotal fuel first (items.take (items.length / 2))
    obtain ⟨right, hright⟩ := exists_splitFrom htotal fuel (first + items.length / 2)
      (items.drop (items.length / 2))
    -- the halves succeed whether or not they are needed
    rw [result_splitFrom_succ, hbody, hleft, hright]
    show ∃ chunks, ite _ _ _ = _
    split
    · exact ⟨_, rfl⟩
    · exact ⟨left ++ right, rfl⟩

/-- **Success**: where nothing fails to be encoded, splitting succeeds. -/
theorem exists_split (htotal : encoder.Total) (items : List α) :
    ∃ chunks, (split encoder limit items).result = .ok chunks := by
  unfold split
  split
  · exact ⟨[], rfl⟩
  · exact exists_splitFrom htotal _ 0 items

end Telemetry

end TelemetryRelay
