import Mathlib.Data.List.TakeDrop
import Mathlib.Logic.Relation
import TelemetryRelay.Proofs.Split.Bisection

/-! # Which ranges a payload is cut into

    Halving ranges by number makes a tree: its root is the range of all items, and every
    range of two items or more has its two halves below it. This module says which ranges
    of this tree the chunks of a payload are:

    - they follow each other without a gap, from the first item to the last,
    - they are the leaves of the tree when it is cut, on each path from the root, at the
      first range that is not over the limit or is a single item,
    - so whatever lies above a chunk is over the limit, and no cut is needless.

    The size of a range is any function of it: nothing is assumed about a half being
    smaller than the whole.
-/

namespace TelemetryRelay

namespace Telemetry

open Log (Logged)

/-! ## Section 1: Ranges and their halves -/

/-- The items from number `first` up to before number `last`. -/
structure Range where
  first : Nat
  last : Nat
deriving DecidableEq, Repr

/-- The range of the items a chunk carries. -/
def Chunk.range (chunk : Chunk) : Range := ⟨chunk.first, chunk.last⟩

namespace Range

/-- The range of so many items from a number on. -/
def spanning (first count : Nat) : Range := ⟨first, first + count⟩

/-- The number of items in a range. -/
def length (range : Range) : Nat := range.last - range.first

/-- The items in a range. -/
def itemsOf {α : Type} (range : Range) (items : List α) : List α :=
  items.extract range.first range.last

/-- Where a range is halved. -/
def middle (range : Range) : Nat := range.first + range.length / 2

/-- The first half, which is the shorter one if there is one. -/
def front (range : Range) : Range := ⟨range.first, range.middle⟩

/-- The second half. -/
def back (range : Range) : Range := ⟨range.middle, range.last⟩

/-- **Halves**: the ranges right below a range in the tree. -/
inductive Halves : Range → Range → Prop
  | front (range : Range) : 2 ≤ range.length → Halves range range.front
  | back (range : Range) : 2 ≤ range.length → Halves range range.back

/-- The ranges of the tree below a range, which is one of them. -/
def Reaches : Range → Range → Prop := Relation.ReflTransGen Halves

/-- The ranges of the tree below a range, which is not one of them. -/
def Above : Range → Range → Prop := Relation.TransGen Halves

/-- A range that holds items, all of which are in another range. -/
structure Within (inner outer : Range) : Prop where
  first : outer.first ≤ inner.first
  nonempty : inner.first < inner.last
  last : inner.last ≤ outer.last

variable {range half inner outer whole : Range}

/-- A half lies in its range, and is shorter. -/
theorem Halves.within (h : Halves range half) :
    half.Within range ∧ half.length < range.length := by
  have hmiddle : range.middle = range.first + range.length / 2 := rfl
  have hlength : range.length = range.last - range.first := rfl
  cases h with
  | front hlen =>
    refine ⟨⟨Nat.le_refl _, ?_, ?_⟩, ?_⟩
    · show range.first < range.middle
      omega
    · show range.middle ≤ range.last
      omega
    · show range.middle - range.first < range.length
      omega
  | back hlen =>
    refine ⟨⟨?_, ?_, Nat.le_refl _⟩, ?_⟩
    · show range.first ≤ range.middle
      omega
    · show range.middle < range.last
      omega
    · show range.last - range.middle < range.length
      omega

/-- Whatever is below a range is within it, and shorter. -/
theorem Above.within (h : Above outer inner) :
    inner.Within outer ∧ inner.length < outer.length := by
  induction h with
  | single hhalf => exact hhalf.within
  | tail _ hhalf ih =>
    obtain ⟨hin, hshort⟩ := hhalf.within
    obtain ⟨hmid, hless⟩ := ih
    have hfirst := hin.first
    have hfirst' := hmid.first
    have hlast := hin.last
    have hlast' := hmid.last
    exact ⟨⟨by omega, hin.nonempty, by omega⟩, by omega⟩

/-- Nothing is above itself. -/
theorem not_above_self : ¬ Above range range := by
  intro h
  have hless := h.within.2
  omega

/-- What is below a range is the range itself or below one of its halves. -/
theorem reaches_iff :
    Reaches whole range ↔ range = whole ∨ ∃ half, Halves whole half ∧ Reaches half range := by
  unfold Reaches
  rw [Relation.ReflTransGen.cases_head_iff, eq_comm]

/-- A range of the tree is within its root, if it is within anything. -/
theorem Within.of_reaches (h : inner.Within range) (hreach : Reaches whole range) :
    inner.Within whole := by
  rcases Relation.reflTransGen_iff_eq_or_transGen.mp hreach with rfl | habove
  · exact h
  · have hrange := (Above.within habove).1
    have hfirst := h.first
    have hfirst' := hrange.first
    have hlast := h.last
    have hlast' := hrange.last
    exact ⟨by omega, h.nonempty, by omega⟩

/-- Nothing is within both halves of a range. -/
theorem not_within_halves (hfront : inner.Within range.front)
    (hback : inner.Within range.back) : False := by
  have hend : inner.last ≤ range.middle := hfront.last
  have hstart : range.middle ≤ inner.first := hback.first
  have hnonempty := hfront.nonempty
  omega

/-! ## Section 2: Leaves of a tree that is cut -/

section Leaves

variable {exceeds : Range → Prop}

/-- **Leaf**: a range of the tree at which a path from the root is cut. Everything above it
    is over the limit, and it is not, or cannot be halved. -/
structure IsLeaf (exceeds : Range → Prop) (whole range : Range) : Prop where
  node : Reaches whole range
  stops : ¬ exceeds range ∨ range.length = 1
  above : ∀ ancestor, Reaches whole ancestor → Above ancestor range → exceeds ancestor

/-- A tree that is cut at its root has one leaf. -/
theorem isLeaf_of_fits (hfit : ¬ exceeds whole) : IsLeaf exceeds whole range ↔ range = whole := by
  constructor
  · intro hleaf
    rcases Relation.reflTransGen_iff_eq_or_transGen.mp hleaf.node with heq | habove
    · exact heq
    · exact absurd (hleaf.above whole .refl habove) hfit
  · rintro rfl
    refine ⟨.refl, .inl hfit, ?_⟩
    intro ancestor hreach habove
    exact absurd (habove.trans_left hreach) not_above_self

/-- The tree of a single item has one leaf. -/
theorem isLeaf_of_single (hone : whole.length = 1) :
    IsLeaf exceeds whole range ↔ range = whole := by
  have hlone {half : Range} (h : Halves whole half) : False := by
    cases h <;> omega
  constructor
  · intro hleaf
    rcases reaches_iff.mp hleaf.node with heq | ⟨half, hhalf, -⟩
    · exact heq
    · exact absurd hhalf hlone
  · rintro rfl
    refine ⟨.refl, .inr hone, ?_⟩
    intro ancestor hreach habove
    exact absurd (habove.trans_left hreach) not_above_self

/-- A leaf of one half is a leaf of the whole, since nothing of it lies in the other half. -/
theorem IsLeaf.of_half {other : Range} (hover : exceeds whole) (hhalf : Halves whole half)
    (hsides : ∀ side, Halves whole side → side = half ∨ side = other)
    (hapart : ∀ inner : Range, inner.Within half → inner.Within other → False)
    (hleaf : IsLeaf exceeds half range) : IsLeaf exceeds whole range := by
  refine ⟨.head hhalf hleaf.node, hleaf.stops, ?_⟩
  intro ancestor hreach habove
  rcases reaches_iff.mp hreach with rfl | ⟨side, hside, hbelow⟩
  · exact hover
  rcases hsides side hside with rfl | rfl
  · exact hleaf.above ancestor hbelow habove
  · have hin : range.Within ancestor := (Above.within habove).1
    have hself : range.Within range := ⟨Nat.le_refl _, hin.nonempty, Nat.le_refl _⟩
    exact (hapart range (hself.of_reaches hleaf.node) (hin.of_reaches hbelow)).elim

/-- **Halving**: where a range of two items or more is over the limit, the leaves of its
    tree are those of its halves. -/
theorem isLeaf_of_over (hover : exceeds whole) (hlen : 2 ≤ whole.length) :
    IsLeaf exceeds whole range ↔
      IsLeaf exceeds whole.front range ∨ IsLeaf exceeds whole.back range := by
  have hsides {side : Range} (h : Halves whole side) :
      side = whole.front ∨ side = whole.back := by
    cases h with
    | front _ => exact .inl rfl
    | back _ => exact .inr rfl
  constructor
  · intro hleaf
    -- the root is no leaf, so the path to the leaf goes through one of the halves
    have hbelow {half : Range} (hhalf : Halves whole half) (hreach : Reaches half range) :
        IsLeaf exceeds half range :=
      ⟨hreach, hleaf.stops, fun ancestor h => hleaf.above ancestor (.head hhalf h)⟩
    rcases reaches_iff.mp hleaf.node with rfl | ⟨half, hhalf, hreach⟩
    · rcases hleaf.stops with hfit | hone
      · exact absurd hover hfit
      · omega
    · rcases hsides hhalf with rfl | rfl
      · exact .inl (hbelow hhalf hreach)
      · exact .inr (hbelow hhalf hreach)
  · rintro (hleaf | hleaf)
    · exact hleaf.of_half hover (.front whole hlen) (fun _ h => hsides h)
        fun inner hfront hback => not_within_halves hfront hback
    · exact hleaf.of_half hover (.back whole hlen) (fun _ h => (hsides h).symm)
        fun inner hback hfront => not_within_halves hfront hback

end Leaves

/-! ## Section 3: Items of ranges -/

variable {α : Type}

/-- A range spans as many items as it is long. -/
@[simp] theorem length_spanning (first count : Nat) : (spanning first count).length = count :=
  Nat.add_sub_cancel_left first count

/-- The first half of a range of so many items. -/
theorem front_spanning (first count : Nat) :
    (spanning first count).front = spanning first (count / 2) := by
  rw [front, middle, length_spanning]
  rfl

/-- The second half. -/
theorem back_spanning (first count : Nat) :
    (spanning first count).back
      = spanning (first + count / 2) (count - count / 2) := by
  have hend : first + count = first + count / 2 + (count - count / 2) := by omega
  rw [back, middle, length_spanning]
  exact congrArg (Range.mk (first + count / 2)) hend

/-- The items of the first half come first. -/
theorem itemsOf_front (items : List α) :
    range.front.itemsOf items = (range.itemsOf items).take (range.length / 2) := by
  have hhalf : range.length / 2 ≤ range.length := Nat.div_le_self _ 2
  simp only [itemsOf, front, middle, List.extract_eq_take_drop, List.take_take]
  congr 1
  unfold length at hhalf ⊢
  omega

/-- Those of the second half come after them. -/
theorem itemsOf_back (items : List α) :
    range.back.itemsOf items = (range.itemsOf items).drop (range.length / 2) := by
  simp only [itemsOf, back, middle, List.extract_eq_take_drop, List.drop_take, List.drop_drop]
  congr 1
  omega

end Range

/-! ## Section 4: Bisections are cut trees -/

/-- **Consecutive**: chunks that hold items and follow each other from one number up to
    another. -/
def Consecutive : Nat → List Chunk → Nat → Prop
  | first, [], last => first = last
  | first, chunk :: rest, last =>
    chunk.first = first ∧ chunk.first < chunk.last ∧ Consecutive chunk.last rest last

theorem Consecutive.append {second : List Chunk} {middle last : Nat} :
    ∀ {chunks : List Chunk} {first : Nat},
      Consecutive first chunks middle → Consecutive middle second last →
      Consecutive first (chunks ++ second) last
  | [], _, rfl, hsecond => hsecond
  | _ :: _, _, ⟨hstart, hsome, hrest⟩, hsecond =>
    ⟨hstart, hsome, hrest.append hsecond⟩

/-- The items of a range make a body over the limit. -/
def Exceeds {α : Type} (encoder : Encoder α) (limit : Nat) (items : List α) (range : Range) :
    Prop :=
  ∃ body, encoder.body (range.itemsOf items) = .ok body ∧ limit < body.length

/-- **Covers**: a chunk whose body is made of the items of its range, and is not over the
    limit unless there is one of them. -/
structure Covers {α : Type} (encoder : Encoder α) (limit : Nat) (items : List α)
    (chunk : Chunk) : Prop where
  body : ∃ text, encoder.encode (chunk.range.itemsOf items) = .ok text ∧
    encoder.compress text = .ok chunk.body
  bounded : chunk.body.length ≤ limit ∨ chunk.range.length = 1

/-- **Cut**: chunks that are the leaves of the tree of a range, in order. -/
structure Cut {α : Type} (encoder : Encoder α) (limit : Nat) (items : List α) (range : Range)
    (chunks : List Chunk) : Prop where
  consecutive : Consecutive range.first chunks range.last
  covers : ∀ chunk ∈ chunks, Covers encoder limit items chunk
  leaves : ∀ part, part ∈ chunks.map Chunk.range ↔
    range.IsLeaf (Exceeds encoder limit items) part

variable {α : Type} {encoder : Encoder α} {limit : Nat} {items part : List α}
  {range : Range} {chunks : List Chunk}

/-- A body is what compressing the encoded items gives. -/
theorem exists_text_of_body {body : Bytes} (h : encoder.body part = .ok body) :
    ∃ text, encoder.encode part = .ok text ∧ encoder.compress text = .ok body := by
  unfold Encoder.body at h
  cases hencode : encoder.encode part with
  | error cause =>
    rw [hencode] at h
    cases h
  | ok text =>
    rw [hencode] at h
    simp only at h
    refine ⟨text, rfl, ?_⟩
    cases hcompress : encoder.compress text with
    | error cause =>
      rw [hcompress] at h
      cases h
    | ok compressed =>
      rw [hcompress] at h
      cases h
      rfl

/-- A range that is its only leaf is cut into one chunk. -/
theorem cut_of_one {body : Bytes} (hsome : range.first < range.last)
    (hbody : encoder.body (range.itemsOf items) = .ok body)
    (hbounded : body.length ≤ limit ∨ range.length = 1)
    (hleaf : ∀ part, range.IsLeaf (Exceeds encoder limit items) part ↔ part = range) :
    Cut encoder limit items range [⟨range.first, range.last, body⟩] := by
  refine ⟨⟨rfl, hsome, rfl⟩, ?_, ?_⟩
  · intro chunk hmem
    obtain rfl := List.mem_singleton.mp hmem
    exact ⟨exists_text_of_body hbody, hbounded⟩
  · intro part
    rw [hleaf part, List.map_singleton, List.mem_singleton]
    rfl

/-- A range over the limit is cut into the chunks of its halves. -/
theorem Cut.append {left right : List Chunk} (hlen : 2 ≤ range.length)
    (hover : Exceeds encoder limit items range) (hleft : Cut encoder limit items range.front left)
    (hright : Cut encoder limit items range.back right) :
    Cut encoder limit items range (left ++ right) := by
  refine ⟨hleft.consecutive.append hright.consecutive, ?_, ?_⟩
  · intro chunk hmem
    rcases List.mem_append.mp hmem with hmem | hmem
    · exact hleft.covers chunk hmem
    · exact hright.covers chunk hmem
  · intro part
    rw [Range.isLeaf_of_over hover hlen, List.map_append, List.mem_append, hleft.leaves part,
      hright.leaves part]

/-- **Bisection**: the chunks of a bisection are the leaves of the tree of its range. -/
theorem Bisection.cut {first : Nat} (h : Bisection encoder limit first part chunks) :
    (Range.spanning first part.length).itemsOf items = part →
      Cut encoder limit items (.spanning first part.length) chunks := by
  induction h with
  | fits first part body hne hbody hfit =>
    intro hitems
    have hsome : first < first + part.length :=
      Nat.lt_add_of_pos_right (List.length_pos_of_ne_nil hne)
    have hwhole : encoder.body ((Range.spanning first part.length).itemsOf items) = .ok body := by
      rw [hitems, hbody]
    refine cut_of_one hsome hwhole (.inl hfit) ?_
    intro other
    apply Range.isLeaf_of_fits
    rintro ⟨body', hbody', hover⟩
    rw [hitems, hbody] at hbody'
    obtain rfl := Except.ok.inj hbody'
    omega
  | oversized first item body hbody hover =>
    intro hitems
    have hone : (Range.spanning first 1).length = 1 := Range.length_spanning first 1
    have hwhole : encoder.body ((Range.spanning first 1).itemsOf items) = .ok body := by
      rw [← hbody]
      exact congrArg encoder.body hitems
    refine cut_of_one (Nat.lt_succ_self first) hwhole (.inr hone) ?_
    intro other
    exact Range.isLeaf_of_single hone
  | halved first part body left right hlen hbody hover _ _ ihl ihr =>
    intro hitems
    -- the ranges of the induction hypotheses are the halves of this one
    have htake : (part.take (part.length / 2)).length = part.length / 2 := by
      rw [List.length_take]
      omega
    have hdrop : (part.drop (part.length / 2)).length = part.length - part.length / 2 :=
      List.length_drop
    rw [htake, ← Range.front_spanning] at ihl
    rw [hdrop, ← Range.back_spanning] at ihr
    have hexceeds : Exceeds encoder limit items (.spanning first part.length) := by
      refine ⟨body, ?_, hover⟩
      rw [hitems, hbody]
    refine Cut.append ?_ hexceeds (ihl ?_) (ihr ?_)
    · rw [Range.length_spanning]
      exact hlen
    · rw [Range.itemsOf_front, hitems, Range.length_spanning]
    · rw [Range.itemsOf_back, hitems, Range.length_spanning]

/-! ## Section 5: Warnings -/

/-- The notices that warn. -/
def warningsOf (notices : List Log.Notice) : List Log.Notice :=
  notices.filter fun notice => notice.level = .warn

/-- The warnings about the chunks over a limit, each with the number of its first item. -/
def oversizeWarnings (limit : Nat) (chunks : List Chunk) : List Log.Notice :=
  (chunks.filter fun chunk => limit < chunk.body.length).map fun chunk =>
    .recordOversized chunk.first chunk.body.length limit

theorem oversizeWarnings_append (limit : Nat) (left right : List Chunk) :
    oversizeWarnings limit (left ++ right)
      = oversizeWarnings limit left ++ oversizeWarnings limit right := by
  unfold oversizeWarnings
  rw [List.filter_append, List.map_append]

/-- **Warnings**: a bisection is what splitting computes, with a warning for each chunk over
    the limit. -/
theorem Bisection.warnings {first : Nat} (h : Bisection encoder limit first part chunks) :
    ∀ fuel, part.length ≤ fuel → ∃ notices,
      splitFrom encoder limit fuel first part = ⟨notices, .ok chunks⟩ ∧
        warningsOf notices = oversizeWarnings limit chunks := by
  induction h with
  | fits first part body hne hbody hfit =>
    intro fuel hfuel
    have hpos := List.length_pos_of_ne_nil hne
    obtain ⟨fuel, rfl⟩ : ∃ n, fuel = n + 1 := ⟨fuel - 1, by omega⟩
    refine ⟨[], ?_, ?_⟩
    · simp [splitFrom, hbody, Logged.lift, Logged.andThen, Logged.ok, hfit]
    · simp [warningsOf, oversizeWarnings, hfit]
  | oversized first item body hbody hover =>
    intro fuel hfuel
    obtain ⟨fuel, rfl⟩ : ∃ n, fuel = n + 1 := ⟨fuel - 1, by simp at hfuel; omega⟩
    have hnot : ¬ body.length ≤ limit := by omega
    refine ⟨[.recordOversized first body.length limit], ?_, ?_⟩
    · simp [splitFrom, hbody, Logged.lift, Logged.andThen, Logged.ok, Logged.note, hnot]
    · simp [warningsOf, oversizeWarnings, hover, Log.Notice.level]
  | halved first part body left right hlen hbody hover _ _ ihl ihr =>
    intro fuel hfuel
    obtain ⟨fuel, rfl⟩ : ∃ n, fuel = n + 1 := ⟨fuel - 1, by omega⟩
    obtain ⟨⟨hlfuel, -⟩, hrfuel, -⟩ := length_halves hlen hfuel
    obtain ⟨lnotices, hleft, hlwarn⟩ := ihl fuel hlfuel
    obtain ⟨rnotices, hright, hrwarn⟩ := ihr fuel hrfuel
    have hnot : ¬ body.length ≤ limit := by omega
    have hmany : ¬ part.length ≤ 1 := by omega
    -- the notice about the halving itself does not warn
    refine ⟨.rangeBisected first (first + part.length) body.length (first + part.length / 2)
      :: (lnotices ++ rnotices), ?_, ?_⟩
    · simp [splitFrom, hbody, Logged.lift, Logged.andThen, Logged.ok, Logged.note, hnot, hmany,
        hleft, hright]
    · rw [oversizeWarnings_append, ← hlwarn, ← hrwarn]
      simp [warningsOf, Log.Notice.level]

/-! ## Section 6: Splitting -/

/-- **Partition and tightness**: where nothing fails to be encoded or compressed, splitting
    succeeds. Its chunks hold items, follow each other from the first item to the last, and
    are none without items. Each body is the compressed encoding of the items of its range,
    and is not over the limit unless it holds a single item; the chunks over the limit are
    what is warned about, in order. The ranges are the leaves of the tree of halves, cut on
    each path at the first range that is not over the limit or is a single item. So
    everything in the tree above a chunk is over the limit. -/
theorem split_cuts_at_leaves {α : Type} (encoder : Encoder α) (limit : Nat) (items : List α)
    (htotal : encoder.Total) :
    let whole := Range.spanning 0 items.length
    ∃ notices chunks, split encoder limit items = ⟨notices, .ok chunks⟩ ∧
      Consecutive 0 chunks items.length ∧
      (items = [] → chunks = []) ∧
      (∀ chunk ∈ chunks,
        (∃ text, encoder.encode (chunk.range.itemsOf items) = .ok text ∧
          encoder.compress text = .ok chunk.body) ∧
        (chunk.body.length ≤ limit ∨ chunk.range.length = 1)) ∧
      warningsOf notices = oversizeWarnings limit chunks ∧
      (items ≠ [] → ∀ range, range ∈ chunks.map Chunk.range ↔
        whole.IsLeaf (Exceeds encoder limit items) range) ∧
      ∀ chunk ∈ chunks, ∀ ancestor, whole.Reaches ancestor → ancestor.Above chunk.range →
        ∃ body, encoder.body (ancestor.itemsOf items) = .ok body ∧ limit < body.length := by
  intro whole
  by_cases hitems : items = []
  · subst hitems
    exact ⟨[], [], rfl, rfl, fun _ => rfl, nofun, rfl, fun hne => absurd rfl hne, nofun⟩
  · have hdone : ∃ chunks, (split encoder limit items).result = .ok chunks :=
      exists_split htotal items
    obtain ⟨chunks, hchunks⟩ := hdone
    have hbisection : Bisection encoder limit 0 items chunks := by
      rcases bisection_of_split hchunks with ⟨hnil, -⟩ | hbisection
      · exact absurd hnil hitems
      · exact hbisection
    obtain ⟨notices, hsplit, hwarnings⟩ := hbisection.warnings items.length (Nat.le_refl _)
    have hwhole : whole.itemsOf items = items := by
      simp [whole, Range.spanning, Range.itemsOf]
    have hcut : Cut encoder limit items whole chunks := hbisection.cut hwhole
    refine ⟨notices, chunks, ?_, ?_, fun hnil => absurd hnil hitems, ?_, hwarnings,
      fun _ => hcut.leaves, ?_⟩
    · have hsome : items.isEmpty = false := by simpa using hitems
      unfold split
      rw [hsome]
      exact hsplit
    · have hconsecutive := hcut.consecutive
      rw [show whole.last = items.length from Nat.zero_add _] at hconsecutive
      exact hconsecutive
    · intro chunk hmem
      have hcovers := hcut.covers chunk hmem
      exact ⟨hcovers.body, hcovers.bounded⟩
    · intro chunk hmem ancestor hreach habove
      have hleaf := (hcut.leaves chunk.range).mp (List.mem_map_of_mem hmem)
      exact hleaf.above ancestor hreach habove

/-- An encoder for which one item by itself takes more room than others together. -/
def swelling : Encoder UInt8 where
  encode := .ok
  compress text := .ok (if text = [1] then [1, 1, 1, 1] else text)

/-- Three items that do not fit are halved. The first half is a single item, which is over
    the limit too and is warned about; the other half fits. -/
theorem split_swelling :
    swelling.Total ∧ ∃ notices,
      split swelling 2 [1, 2, 3]
        = ⟨notices, .ok [⟨0, 1, [1, 1, 1, 1]⟩, ⟨1, 3, [2, 3]⟩]⟩ ∧
      warningsOf notices = [.recordOversized 0 4 2] ∧
      Exceeds swelling 2 [1, 2, 3] (.spanning 0 3) := by
  have htotal : swelling.Total := by
    intro part
    exact ⟨_, rfl⟩
  obtain ⟨notices, chunks, hsplit, -, -, -, hwarnings, -, habove⟩ :=
    split_cuts_at_leaves swelling 2 [1, 2, 3] htotal
  have hresult : (split swelling 2 [1, 2, 3]).result
      = .ok [⟨0, 1, [1, 1, 1, 1]⟩, ⟨1, 3, [2, 3]⟩] := rfl
  rw [hsplit] at hresult
  obtain rfl := Except.ok.inj hresult
  refine ⟨htotal, notices, hsplit, hwarnings, ?_⟩
  exact habove ⟨0, 1, [1, 1, 1, 1]⟩ List.mem_cons_self _ .refl
    (.single (.front (.spanning 0 3) (by decide)))

end Telemetry

end TelemetryRelay
