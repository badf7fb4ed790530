import TelemetryRelay.Proofs.Split.Partition

/-! # Where splitting fails

    Halving looks at one range after the other: at a range, then at all it looks at in the
    first half of it, then at all in the second half. It makes the body of each of them, and
    gives up at the first that cannot be encoded or compressed. This module says which
    ranges are looked at, and what follows from that:

    - there are finitely many of them, whatever the limit is and whatever sizes bodies have,
    - splitting fails exactly if one of them has no body, with the error of that one,
    - no other range has any influence,
    - each but the first is a half of one before it, which is over the limit.
-/

namespace TelemetryRelay

namespace Telemetry

open Log (Logged)

namespace Range

variable {exceeds : Range → Prop} {range half whole : Range} {tour : List Range}

/-! ## Section 1: Tours -/

/-- **Tour**: the ranges that halving looks at in a range, in order, if it does not give up.
    Below a range that is not over the limit, or is a single item, it looks at none. -/
inductive Tour (exceeds : Range → Prop) : Range → List Range → Prop
  /-- Halving stops at a range. -/
  | stop (range : Range) : range.first < range.last → ¬ exceeds range ∨ range.length = 1 →
      Tour exceeds range [range]
  /-- Halving goes on to the first half, and then to the second half. -/
  | halved (range : Range) (left right : List Range) : 2 ≤ range.length → exceeds range →
      Tour exceeds range.front left → Tour exceeds range.back right →
      Tour exceeds range (range :: (left ++ right))

/-- The first half is the shorter one. -/
theorem length_front (range : Range) : range.front.length = range.length / 2 :=
  Nat.add_sub_cancel_left range.first (range.length / 2)

/-- The second half is the longer one. -/
theorem length_back (range : Range) :
    range.back.length = range.length - range.length / 2 := by
  show range.last - (range.first + range.length / 2) = range.length - range.length / 2
  unfold length
  omega

/-- A half is at most half as long, rounded up. -/
theorem Halves.length_le (h : Halves range half) : half.length ≤ (range.length + 1) / 2 := by
  cases h with
  | front _ =>
    rw [length_front]
    omega
  | back _ =>
    rw [length_back]
    omega

/-- There is no more than one tour of a range. -/
theorem Tour.unique {other : List Range} (h : Tour exceeds range tour)
    (h' : Tour exceeds range other) : tour = other := by
  induction h generalizing other with
  | stop range _ hstop =>
    cases h' with
    | stop => rfl
    | halved _ _ _ hlen hover =>
      rcases hstop with hfit | hone
      · exact absurd hover hfit
      · omega
  | halved range left right hlen hover _ _ ihl ihr =>
    cases h' with
    | stop _ _ hstop =>
      rcases hstop with hfit | hone
      · exact absurd hover hfit
      · omega
    | halved _ _ _ _ _ hleft hright => rw [ihl hleft, ihr hright]

/-- There is a tour of every range that holds items, since halves are shorter. -/
theorem exists_tour (exceeds : Range → Prop) (range : Range) (hsome : range.first < range.last) :
    ∃ tour, Tour exceeds range tour := by
  induction hn : range.length using Nat.strongRecOn generalizing range with
  | ind n ih =>
    by_cases hstop : ¬ exceeds range ∨ range.length = 1
    · exact ⟨[range], .stop range hsome hstop⟩
    · obtain ⟨hover, hmany⟩ := not_or.mp hstop
      have hlen : 2 ≤ range.length := by
        have hlength : range.length = range.last - range.first := rfl
        omega
      have hhalf {half : Range} (h : Halves range half) : ∃ tour, Tour exceeds half tour := by
        obtain ⟨hin, hless⟩ := h.within
        exact ih half.length (hn ▸ hless) half hin.nonempty rfl
      obtain ⟨left, hleft⟩ := hhalf (.front range hlen)
      obtain ⟨right, hright⟩ := hhalf (.back range hlen)
      exact ⟨_, .halved range left right hlen (not_not.mp hover) hleft hright⟩

/-- A tour is not twice as long as its range. -/
theorem Tour.length_lt (h : Tour exceeds range tour) : tour.length < 2 * range.length := by
  induction h with
  | stop range hsome _ =>
    have hlength : range.length = range.last - range.first := rfl
    rw [List.length_singleton]
    omega
  | halved range left right hlen _ _ _ ihl ihr =>
    rw [length_front] at ihl
    rw [length_back] at ihr
    rw [List.length_cons, List.length_append]
    omega

/-- **Descent**: a range of a tour, if it is not the first, is a half of one before it, which
    is over the limit. -/
theorem Tour.descends (h : Tour exceeds whole tour) :
    ∀ {before after : List Range}, tour = before ++ range :: after →
      range = whole ∧ before = [] ∨
        ∃ parent ∈ before, Halves parent range ∧ exceeds parent := by
  induction h with
  | stop whole _ _ =>
    intro before after heq
    cases before with
    | nil =>
      left
      cases heq
      exact ⟨rfl, rfl⟩
    | cons head rest => simp at heq
  | halved whole left right hlen hover _ _ ihl ihr =>
    intro before after heq
    cases before with
    | nil =>
      left
      cases heq
      exact ⟨rfl, rfl⟩
    | cons head rest =>
      right
      rw [List.cons_append, List.cons.injEq] at heq
      obtain ⟨rfl, heq⟩ := heq
      -- the range is in the tour of the first half, or in that of the second
      rcases List.append_eq_append_iff.mp heq with ⟨more, hrest, hright⟩ | ⟨more, hleft, hmore⟩
      · rcases ihr hright with ⟨rfl, -⟩ | ⟨parent, hmem, hhalves⟩
        · exact ⟨whole, List.mem_cons_self, .back whole hlen, hover⟩
        · refine ⟨parent, List.mem_cons_of_mem _ ?_, hhalves⟩
          rw [hrest]
          exact List.mem_append_right _ hmem
      · cases more with
        | nil =>
          rw [List.append_nil] at hleft
          have hfirst : right = [] ++ range :: after := hmore.symm
          rcases ihr hfirst with ⟨rfl, -⟩ | ⟨parent, hmem, -⟩
          · exact ⟨whole, List.mem_cons_self, .back whole hlen, hover⟩
          · exact absurd hmem List.not_mem_nil
        | cons next tail =>
          rw [List.cons_append, List.cons.injEq] at hmore
          obtain ⟨rfl, -⟩ := hmore
          rcases ihl hleft with ⟨rfl, -⟩ | ⟨parent, hmem, hhalves⟩
          · exact ⟨whole, List.mem_cons_self, .front whole hlen, hover⟩
          · exact ⟨parent, List.mem_cons_of_mem _ hmem, hhalves⟩

end Range

/-! ## Section 2: What makes splitting fail -/

variable {α : Type} {encoder other : Encoder α} {limit fuel : Nat} {items part : List α}
  {range : Range} {tour : List Range}

/-- **Fault**: why some items have no body, if they have none. They cannot be encoded, or
    what they are encoded as cannot be compressed. -/
def Encoder.fault? (encoder : Encoder α) (part : List α) : Option SplitError :=
  match encoder.encode part with
  | .error cause => some (.encode cause)
  | .ok text =>
    match encoder.compress text with
    | .error cause => some (.compress cause)
    | .ok _ => none

theorem Encoder.body_eq_error_iff {e : SplitError} :
    encoder.body part = .error e ↔ encoder.fault? part = some e := by
  unfold Encoder.body Encoder.fault?
  cases encoder.encode part with
  | error cause => simp
  | ok text =>
    simp only
    cases encoder.compress text <;> simp

theorem Encoder.fault?_of_body {body : Bytes} (h : encoder.body part = .ok body) :
    encoder.fault? part = none := by
  rw [Option.eq_none_iff_forall_ne_some]
  intro e he
  rw [Encoder.body_eq_error_iff.mpr he] at h
  cases h

/-- The fault of the items of a range. -/
def faultAt (encoder : Encoder α) (items : List α) (range : Range) : Option SplitError :=
  encoder.fault? (range.itemsOf items)

/-- **Visited**: the ranges halving looks at before it gives up. They are those of the tour
    up to the first that has no body. -/
def Visited (encoder : Encoder α) (limit : Nat) (items : List α) (range : Range) : Prop :=
  ∃ before after,
    (Range.spanning 0 items.length).Tour (Exceeds encoder limit items)
      (before ++ range :: after) ∧
    ∀ earlier ∈ before, faultAt encoder items earlier = none

/-! ## Section 3: Splitting ranges -/

/-- Splitting the items of a range. -/
def splitRange (encoder : Encoder α) (limit fuel : Nat) (items : List α) (range : Range) :
    Logged SplitError (List Chunk) :=
  splitFrom encoder limit fuel range.first (range.itemsOf items)

/-- A range within a list has as many items of it as it is long. -/
theorem length_itemsOf (hin : range.last ≤ items.length) :
    (range.itemsOf items).length = range.length := by
  simp only [Range.itemsOf, List.extract_eq_take_drop, List.length_take, List.length_drop]
  unfold Range.length
  omega

/-- A range that cannot be encoded makes splitting fail. -/
theorem splitRange_of_fault {e : SplitError}
    (hbody : encoder.body (range.itemsOf items) = .error e) :
    splitRange encoder limit (fuel + 1) items range = .fail e := by
  rw [splitRange, splitFrom, hbody]
  rfl

/-- A range at which halving stops makes one chunk, and a notice if it is over the limit. -/
def oneChunk (limit : Nat) (range : Range) (body : Bytes) : Logged SplitError (List Chunk) :=
  let whole : List Chunk := [⟨range.first, range.first + range.length, body⟩]
  if body.length ≤ limit then .ok whole
  else (Logged.note (.recordOversized range.first body.length limit)).andThen fun () => .ok whole

theorem splitRange_of_stop {body : Bytes} (hin : range.last ≤ items.length)
    (hbody : encoder.body (range.itemsOf items) = .ok body)
    (hstop : body.length ≤ limit ∨ range.length ≤ 1) :
    splitRange encoder limit (fuel + 1) items range = oneChunk limit range body := by
  rw [splitRange, splitFrom, hbody, length_itemsOf hin, oneChunk]
  by_cases hfit : body.length ≤ limit
  · simp [Logged.lift, Logged.andThen, Logged.ok, hfit]
  · have hone : range.length ≤ 1 := hstop.resolve_left hfit
    simp [Logged.lift, Logged.andThen, Logged.ok, hfit, hone]

/-- What splitting makes of a range that is halved. -/
def twoHalves (encoder : Encoder α) (limit fuel : Nat) (items : List α) (range : Range)
    (body : Bytes) : Logged SplitError (List Chunk) :=
  (Logged.note (.rangeBisected range.first (range.first + range.length) body.length
    range.middle)).andThen fun () =>
  (splitRange encoder limit fuel items range.front).andThen fun left =>
  (splitRange encoder limit fuel items range.back).andThen fun right => .ok (left ++ right)

theorem splitRange_of_over {body : Bytes} (hin : range.last ≤ items.length)
    (hbody : encoder.body (range.itemsOf items) = .ok body) (hover : limit < body.length)
    (hlen : 2 ≤ range.length) :
    splitRange encoder limit (fuel + 1) items range
      = twoHalves encoder limit fuel items range body := by
  have hfit : ¬ body.length ≤ limit := Nat.not_le.mpr hover
  have hmany : ¬ range.length ≤ 1 := by omega
  unfold twoHalves splitRange
  rw [splitFrom, hbody, length_itemsOf hin, Range.itemsOf_front, Range.itemsOf_back]
  simp [Logged.lift, Logged.andThen, Logged.ok, hfit, hmany, Range.front, Range.back,
    Range.middle]

theorem result_twoHalves (body : Bytes) :
    (twoHalves encoder limit fuel items range body).result =
      (splitRange encoder limit fuel items range.front).result.bind fun left =>
      (splitRange encoder limit fuel items range.back).result.bind fun right =>
        .ok (left ++ right) := by
  unfold twoHalves
  simp only [Logged.result_andThen]
  rfl

/-- Halving stops at a range that has no body, or one that fits, or is a single item. -/
theorem stop_cases (hstop : ¬ Exceeds encoder limit items range ∨ range.length = 1) :
    (∃ e, encoder.body (range.itemsOf items) = .error e) ∨
      ∃ body, encoder.body (range.itemsOf items) = .ok body ∧
        (body.length ≤ limit ∨ range.length ≤ 1) := by
  cases hbody : encoder.body (range.itemsOf items) with
  | error e => exact .inl ⟨e, rfl⟩
  | ok body =>
    right
    refine ⟨body, rfl, ?_⟩
    rcases hstop with hfit | hone
    · left
      by_contra hover
      exact hfit ⟨body, hbody, Nat.lt_of_not_le hover⟩
    · exact .inr (Nat.le_of_eq hone)

/-- **Room**: a range that lies within the items, and for which there is fuel. -/
structure Room (items : List α) (fuel : Nat) (range : Range) : Prop where
  within : range.last ≤ items.length
  fuel : range.length ≤ fuel

/-- A round leaves enough fuel for both halves. -/
theorem Room.half {half : Range} (h : Room items (fuel + 1) range)
    (hhalf : Range.Halves range half) : Room items fuel half := by
  obtain ⟨hin, hless⟩ := hhalf.within
  have hlast := hin.last
  have hwithin := h.within
  have hfuel := h.fuel
  exact ⟨by omega, by omega⟩

/-- There is fuel for a round, if there are items. -/
theorem Room.exists_succ (h : Room items fuel range) (hpos : 0 < range.length) :
    ∃ n, fuel = n + 1 := by
  have hfuel := h.fuel
  exact ⟨fuel - 1, by omega⟩

/-- **First fault**: splitting a range fails with the fault that comes first on its tour. -/
theorem result_splitRange (htour : range.Tour (Exceeds encoder limit items) tour) :
    ∀ {fuel : Nat}, Room items fuel range → ∀ e : SplitError,
      (splitRange encoder limit fuel items range).result = .error e ↔
        tour.findSome? (faultAt encoder items) = some e := by
  induction htour with
  | stop range hsome hstop =>
    intro fuel hroom e
    obtain ⟨fuel, rfl⟩ := hroom.exists_succ (Nat.sub_pos_of_lt hsome)
    rcases stop_cases hstop with ⟨cause, hbody⟩ | ⟨body, hbody, hfit⟩
    · have hfault : faultAt encoder items range = some cause := Encoder.body_eq_error_iff.mp hbody
      rw [splitRange_of_fault hbody]
      simp [hfault]
    · have hfault : faultAt encoder items range = none := Encoder.fault?_of_body hbody
      rw [splitRange_of_stop hroom.within hbody hfit, oneChunk]
      split <;> simp [Logged.result_andThen, Logged.note, Except.bind, hfault]
  | halved range left right hlen hover hleft hright ihl ihr =>
    intro fuel hroom e
    obtain ⟨fuel, rfl⟩ := hroom.exists_succ (by omega)
    obtain ⟨body, hbody, hover⟩ := hover
    have hfault : faultAt encoder items range = none := Encoder.fault?_of_body hbody
    have hfront := ihl (hroom.half (.front range hlen))
    have hback := ihr (hroom.half (.back range hlen))
    rw [splitRange_of_over hroom.within hbody hover hlen, result_twoHalves, List.findSome?_cons,
      hfault, List.findSome?_append]
    -- what comes first in the first half comes before whatever is in the second
    cases hresult : (splitRange encoder limit fuel items range.front).result with
    | error cause =>
      rw [(hfront cause).mp hresult]
      simp [Except.bind]
    | ok chunks =>
      have hnone : left.findSome? (faultAt encoder items) = none := by
        rw [Option.eq_none_iff_forall_ne_some]
        intro cause hcause
        rw [(hfront cause).mpr hcause] at hresult
        cases hresult
      rw [hnone, Option.none_or, ← hback e]
      cases (splitRange encoder limit fuel items range.back).result <;> simp [Except.bind]

/-- Nothing is at fault in a range that is split. -/
theorem faultAt_of_ok {chunks : List Chunk} (htour : range.Tour (Exceeds encoder limit items) tour)
    (hroom : Room items fuel range)
    (h : (splitRange encoder limit fuel items range).result = .ok chunks) :
    ∀ visited ∈ tour, faultAt encoder items visited = none := by
  rw [← List.findSome?_eq_none_iff, Option.eq_none_iff_forall_ne_some]
  intro e he
  rw [(result_splitRange htour hroom e).mpr he] at h
  cases h

/-- **Influence**: encoders that agree on the ranges that are visited split in the same way,
    with whatever fuel is enough. -/
theorem splitRange_congr (htour : range.Tour (Exceeds encoder limit items) tour) :
    (∀ before visited after, tour = before ++ visited :: after →
      (∀ earlier ∈ before, faultAt encoder items earlier = none) →
      other.body (visited.itemsOf items) = encoder.body (visited.itemsOf items)) →
    ∀ {fuel fuel' : Nat}, Room items fuel range → Room items fuel' range →
      splitRange other limit fuel' items range = splitRange encoder limit fuel items range := by
  induction htour with
  | stop range hsome hstop =>
    intro hsame fuel fuel' hroom hroom'
    have hpos : 0 < range.length := Nat.sub_pos_of_lt hsome
    obtain ⟨fuel, rfl⟩ := hroom.exists_succ hpos
    obtain ⟨fuel', rfl⟩ := hroom'.exists_succ hpos
    have hagree := hsame [] range [] rfl nofun
    rcases stop_cases hstop with ⟨cause, hbody⟩ | ⟨body, hbody, hfit⟩
    · rw [splitRange_of_fault hbody, splitRange_of_fault (hagree.trans hbody)]
    · rw [splitRange_of_stop hroom.within hbody hfit,
        splitRange_of_stop hroom.within (hagree.trans hbody) hfit]
  | halved range left right hlen hover hleft hright ihl ihr =>
    intro hsame fuel fuel' hroom hroom'
    have hpos : 0 < range.length := by omega
    obtain ⟨fuel, rfl⟩ := hroom.exists_succ hpos
    obtain ⟨fuel', rfl⟩ := hroom'.exists_succ hpos
    obtain ⟨body, hbody, hover⟩ := hover
    have hagree := hsame [] range (left ++ right) rfl nofun
    have hclear : faultAt encoder items range = none := Encoder.fault?_of_body hbody
    have hroomFront := hroom.half (.front range hlen)
    have hroomBack := hroom.half (.back range hlen)
    have hfront : splitRange other limit fuel' items range.front
        = splitRange encoder limit fuel items range.front := by
      refine ihl ?_ hroomFront (hroom'.half (.front range hlen))
      rintro before visited after rfl hbefore
      refine hsame (range :: before) visited (after ++ right) (by simp) ?_
      exact List.forall_mem_cons.mpr ⟨hclear, hbefore⟩
    rw [splitRange_of_over hroom.within hbody hover hlen,
      splitRange_of_over hroom.within (hagree.trans hbody) hover hlen, twoHalves, twoHalves, hfront]
    -- the second half is looked at only if the first one can be split
    cases hresult : (splitRange encoder limit fuel items range.front).result with
    | error cause => simp [Logged.andThen, hresult]
    | ok chunks =>
      have hback : splitRange other limit fuel' items range.back
          = splitRange encoder limit fuel items range.back := by
        refine ihr ?_ hroomBack (hroom'.half (.back range hlen))
        rintro before visited after rfl hbefore
        refine hsame (range :: left ++ before) visited after (by simp) ?_
        rw [List.cons_append, List.forall_mem_cons, List.forall_mem_append]
        exact ⟨hclear, faultAt_of_ok hleft hroomFront hresult, hbefore⟩
      rw [hback]

/-! ## Section 4: Splitting -/

/-- All items make a range with room for the whole of halving. -/
theorem room_spanning (items : List α) (hfuel : items.length ≤ fuel) :
    Room items fuel (.spanning 0 items.length) := by
  refine ⟨Nat.le_of_eq (Nat.zero_add _), ?_⟩
  rw [Range.length_spanning]
  exact hfuel

theorem splitRange_spanning (encoder : Encoder α) (limit fuel : Nat) (items : List α) :
    splitRange encoder limit fuel items (.spanning 0 items.length)
      = splitFrom encoder limit fuel 0 items := by
  have hwhole : (Range.spanning 0 items.length).itemsOf items = items := by
    simp [Range.spanning, Range.itemsOf]
  rw [splitRange, hwhole]
  rfl

theorem split_of_ne_nil (hitems : items ≠ []) :
    split encoder limit items = splitFrom encoder limit items.length 0 items := by
  have hsome : items.isEmpty = false := by simpa using hitems
  rw [split, hsome, if_neg Bool.false_ne_true]

/-- What is visited is on the one tour there is, before any fault or with the first. -/
theorem visited_iff (htour : (Range.spanning 0 items.length).Tour
      (Exceeds encoder limit items) tour) :
    Visited encoder limit items range ↔ ∃ before after, tour = before ++ range :: after ∧
      ∀ earlier ∈ before, faultAt encoder items earlier = none := by
  constructor
  · rintro ⟨before, after, hvisits, hbefore⟩
    exact ⟨before, after, htour.unique hvisits, hbefore⟩
  · rintro ⟨before, after, rfl, hbefore⟩
    exact ⟨before, after, htour, hbefore⟩

/-- What comes before a visited range is visited. -/
theorem Visited.exists_parent (h : Visited encoder limit items range) :
    range = .spanning 0 items.length ∨
      ∃ parent, Visited encoder limit items parent ∧ parent.Halves range ∧
        Exceeds encoder limit items parent := by
  obtain ⟨before, after, htour, hbefore⟩ := h
  rcases htour.descends rfl with ⟨hwhole, -⟩ | ⟨parent, hmem, hhalves, hover⟩
  · exact .inl hwhole
  · right
    obtain ⟨front, back, rfl⟩ := List.append_of_mem hmem
    refine ⟨parent, ⟨front, back ++ range :: after, by simpa using htour, ?_⟩, hhalves, hover⟩
    intro earlier hearlier
    exact hbefore earlier (List.mem_append_left _ hearlier)

/-- **Failing exactly**: halving looks at finitely many ranges, less than twice as many as
    there are items, whatever fuel it has left. Splitting fails if and only if one of the
    ranges that are visited cannot be encoded or compressed, and that is the error. Encoders
    that differ on other ranges make no difference. Each visited range but that of all items
    is at most half, rounded up, of a visited range that is over the limit. -/
theorem split_fails_where_visited (encoder : Encoder α) (limit : Nat) (items : List α) :
    let whole := Range.spanning 0 items.length
    (items ≠ [] → ∃! tour, whole.Tour (Exceeds encoder limit items) tour) ∧
    (∀ tour, whole.Tour (Exceeds encoder limit items) tour → tour.length < 2 * items.length) ∧
    (∀ fuel, items.length ≤ fuel → items ≠ [] →
      splitFrom encoder limit fuel 0 items = split encoder limit items) ∧
    (∀ e, (split encoder limit items).result = .error e ↔
      ∃ range, Visited encoder limit items range ∧ faultAt encoder items range = some e) ∧
    (∀ other : Encoder α,
      (∀ range, Visited encoder limit items range →
        other.body (range.itemsOf items) = encoder.body (range.itemsOf items)) →
      split other limit items = split encoder limit items) ∧
    ∀ range, Visited encoder limit items range → range = whole ∨
      ∃ parent, Visited encoder limit items parent ∧ Exceeds encoder limit items parent ∧
        parent.Halves range ∧ range.length ≤ (parent.length + 1) / 2 := by
  intro whole
  have hroom : Room items items.length whole := room_spanning items (Nat.le_refl _)
  have hexists (hitems : items ≠ []) :
      ∃ tour, whole.Tour (Exceeds encoder limit items) tour := by
    refine Range.exists_tour _ whole ?_
    have hpos := List.length_pos_of_ne_nil hitems
    simpa [whole, Range.spanning] using hpos
  refine ⟨?_, ?_, ?_, ?_, ?_, ?_⟩
  · intro hitems
    obtain ⟨tour, htour⟩ := hexists hitems
    exact ⟨tour, htour, fun other hother => hother.unique htour⟩
  · intro tour htour
    have hlength := htour.length_lt
    rwa [Range.length_spanning] at hlength
  · intro fuel hfuel hitems
    obtain ⟨tour, htour⟩ := hexists hitems
    rw [split_of_ne_nil hitems, ← splitRange_spanning, ← splitRange_spanning]
    exact splitRange_congr htour (fun _ _ _ _ _ => rfl) hroom (room_spanning items hfuel)
  · intro e
    by_cases hitems : items = []
    · -- without items there is nothing to look at
      subst hitems
      constructor
      · intro h
        cases h
      · rintro ⟨range, ⟨before, after, htour, -⟩, -⟩
        exact absurd htour.length_lt (Nat.not_lt_zero _)
    · obtain ⟨tour, htour⟩ := hexists hitems
      rw [split_of_ne_nil hitems, ← splitRange_spanning, result_splitRange htour hroom,
        List.findSome?_eq_some_iff]
      constructor
      · rintro ⟨before, range, after, heq, hfault, hbefore⟩
        exact ⟨range, (visited_iff htour).mpr ⟨before, after, heq, hbefore⟩, hfault⟩
      · rintro ⟨range, hvisited, hfault⟩
        obtain ⟨before, after, heq, hbefore⟩ := (visited_iff htour).mp hvisited
        exact ⟨before, range, after, heq, hfault, hbefore⟩
  · intro other hsame
    by_cases hitems : items = []
    · subst hitems
      rfl
    · obtain ⟨tour, htour⟩ := hexists hitems
      rw [split_of_ne_nil hitems, split_of_ne_nil hitems, ← splitRange_spanning,
        ← splitRange_spanning]
      refine splitRange_congr htour ?_ hroom hroom
      intro before visited after heq hbefore
      exact hsame visited ((visited_iff htour).mpr ⟨before, after, heq, hbefore⟩)
  · intro range hvisited
    rcases hvisited.exists_parent with hwhole | ⟨parent, hparent, hhalves, hover⟩
    · exact .inl hwhole
    · exact .inr ⟨parent, hparent, hover, hhalves, hhalves.length_le⟩

/-- An encoder that refuses one item by itself. -/
def refusing : Encoder UInt8 where
  encode items := if items = [7] then .error "refused" else .ok items
  compress := .ok

/-- What is refused by itself may be in a chunk that fits. -/
example : (split refusing 2 [7, 1]).result = .ok [⟨0, 2, [7, 1]⟩] := rfl

/-- It is refused once the chunk has to be halved. -/
example : (split refusing 1 [7, 1]).result = .error (.encode "refused") := rfl

end Telemetry

end TelemetryRelay
