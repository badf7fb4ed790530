import TelemetryRelay.Proofs.Payload.Attribution

/-! # How messages are cut

    The message of a log entry is the body of its record, cut if it takes too much room. A
    cut has to lie between two characters, so it is looked for from the last octet there is
    room for, one octet back at a time. This module says where the search ends:

    - it always finds a place, and there is no later one that leaves a message short enough,
    - as a character has at most four octets, it goes back three octets at most,
    - what is cut off is no more than that, and a message that was cut is not cut again.
-/

namespace TelemetryRelay

namespace Telemetry

variable {text start : String} {limit n : Nat}

/-! ## Section 1: Between characters -/

/-- A text can be cut after so many octets if a first part of it has as many. -/
theorem isValid_iff_exists_front :
    String.Pos.Raw.IsValid text ⟨n⟩ ↔
      ∃ front back : String, text = front ++ back ∧ front.utf8ByteSize = n := by
  rw [String.Pos.Raw.isValid_iff_exists_append]
  constructor
  · rintro ⟨front, back, htext, hsize⟩
    exact ⟨front, back, htext, (congrArg String.Pos.Raw.byteIdx hsize).symm⟩
  · rintro ⟨front, back, htext, hsize⟩
    exact ⟨front, back, htext, String.Pos.Raw.ext hsize.symm⟩

/-- **Spacing**: places to cut are at most four octets apart, since characters are no
    longer. -/
theorem exists_isValid_near : ∀ {n : Nat}, n ≤ text.utf8ByteSize →
    ∃ m, m ≤ n ∧ n ≤ m + 3 ∧ String.Pos.Raw.IsValid text ⟨m⟩ := by
  suffices h : ∀ (chars : List Char) (n : Nat), n ≤ (String.ofList chars).utf8ByteSize →
      ∃ front back : String, String.ofList chars = front ++ back ∧ front.utf8ByteSize ≤ n ∧
        n ≤ front.utf8ByteSize + 3 by
    intro n hn
    rw [← @String.ofList_toList text] at hn ⊢
    obtain ⟨front, back, htext, hle, hnear⟩ := h text.toList n hn
    exact ⟨_, hle, hnear, isValid_iff_exists_front.mpr ⟨front, back, htext, rfl⟩⟩
  intro chars
  induction chars with
  | nil =>
    intro n hn
    exact ⟨"", "", rfl, Nat.zero_le n, Nat.le_trans hn (Nat.zero_le _)⟩
  | cons c rest ih =>
    intro n hn
    rw [String.ofList_cons] at hn ⊢
    rw [String.utf8ByteSize_append, String.utf8ByteSize_singleton] at hn
    have hfour := c.utf8Size_le_four
    by_cases hinside : n < c.utf8Size
    · -- the first character goes on past these octets
      refine ⟨"", _, String.empty_append.symm, Nat.zero_le n, ?_⟩
      rw [String.utf8ByteSize_empty]
      omega
    · obtain ⟨front, back, hrest, hle, hnear⟩ := ih (n - c.utf8Size) (by omega)
      refine ⟨String.singleton c ++ front, back, ?_, ?_, ?_⟩
      · rw [hrest, String.append_assoc]
      · rw [String.utf8ByteSize_append, String.utf8ByteSize_singleton]
        omega
      · rw [String.utf8ByteSize_append, String.utf8ByteSize_singleton]
        omega

/-! ## Section 2: Searching backwards -/

/-- **Search**: going back ends at a place to cut, and there is none between it and where the
    search began. It never passes the start, which is such a place. -/
theorem exists_lastPosition : ∀ n : Nat, ∃ position, lastPosition? text n = some position ∧
    position.offset.byteIdx ≤ n ∧
    ∀ m ≤ n, String.Pos.Raw.IsValid text ⟨m⟩ → m ≤ position.offset.byteIdx
  | 0 => by
    have hstart : String.Pos.Raw.IsValid text ⟨0⟩ := String.Pos.Raw.isValid_zero
    refine ⟨text.pos ⟨0⟩ hstart, dif_pos hstart, ?_⟩
    rw [String.offset_pos]
    exact ⟨Nat.le_refl 0, fun m hm _ => hm⟩
  | n + 1 => by
    by_cases hhere : String.Pos.Raw.IsValid text ⟨n + 1⟩
    · refine ⟨text.pos ⟨n + 1⟩ hhere, dif_pos hhere, ?_⟩
      rw [String.offset_pos]
      exact ⟨Nat.le_refl _, fun m hm _ => hm⟩
    · obtain ⟨position, hfound, hle, hlast⟩ := exists_lastPosition n
      refine ⟨position, (dif_neg hhere).trans hfound, Nat.le_succ_of_le hle, ?_⟩
      intro m hm hvalid
      rcases Nat.le_succ_iff.mp hm with hm | rfl
      · exact hlast m hm hvalid
      · exact absurd hvalid hhere

/-! ## Section 3: Cutting -/

/-- **Longest start**: a first part of a text that takes no more octets than there is room
    for, while every longer one does. -/
structure LongestStart (limit : Nat) (text start : String) : Prop where
  begins : ∃ rest, text = start ++ rest
  fits : start.utf8ByteSize ≤ limit
  longest : ∀ front back : String, text = front ++ back → front.utf8ByteSize ≤ limit →
    front.utf8ByteSize ≤ start.utf8ByteSize

/-- A text there is room for is its longest start. -/
theorem longestStart_self (h : text.utf8ByteSize ≤ limit) : LongestStart limit text text where
  begins := ⟨"", String.append_empty.symm⟩
  fits := h
  longest := by
    rintro front back rfl -
    rw [String.utf8ByteSize_append]
    exact Nat.le_add_right _ _

/-- What comes before a position is a first part of a text. -/
theorem sliceTo_append_sliceFrom (position : text.Pos) :
    (text.sliceTo position).copy ++ (text.sliceFrom position).copy = text :=
  position.splits.eq_append.symm

theorem utf8ByteSize_sliceTo (position : text.Pos) :
    (text.sliceTo position).copy.utf8ByteSize = position.offset.byteIdx :=
  (congrArg String.Pos.Raw.byteIdx position.splits.offset_eq_rawEndPos).symm

/-- The search ends at the end of the longest start. -/
theorem longestStart_sliceTo {position : text.Pos} (hle : position.offset.byteIdx ≤ limit)
    (hlast : ∀ m ≤ limit, String.Pos.Raw.IsValid text ⟨m⟩ → m ≤ position.offset.byteIdx) :
    LongestStart limit text (text.sliceTo position).copy where
  begins := ⟨_, (sliceTo_append_sliceFrom position).symm⟩
  fits := by rwa [utf8ByteSize_sliceTo]
  longest := by
    intro front back htext hfits
    rw [utf8ByteSize_sliceTo]
    exact hlast _ hfits (isValid_iff_exists_front.mpr ⟨front, back, htext, rfl⟩)

/-- The longest start of a text that is too long leaves no more than three octets of room. -/
theorem LongestStart.le_add_three (h : LongestStart limit text start)
    (hlong : limit ≤ text.utf8ByteSize) : limit ≤ start.utf8ByteSize + 3 := by
  obtain ⟨m, hle, hnear, hvalid⟩ := exists_isValid_near hlong
  obtain ⟨front, back, htext, rfl⟩ := isValid_iff_exists_front.mp hvalid
  have hlongest := h.longest front back htext hle
  omega

theorem truncateMessage_of_le (h : text.utf8ByteSize ≤ maxMessageOctets) :
    truncateMessage text = text := if_pos h

/-- A message that is too long is cut where the search ends. -/
theorem truncateMessage_of_lt (h : maxMessageOctets < text.utf8ByteSize) :
    ∃ position, lastPosition? text maxMessageOctets = some position ∧
      truncateMessage text = (text.sliceTo position).copy ∧
      LongestStart maxMessageOctets text (text.sliceTo position).copy := by
  obtain ⟨position, hfound, hle, hlast⟩ := @exists_lastPosition text maxMessageOctets
  refine ⟨position, hfound, ?_, longestStart_sliceTo hle hlast⟩
  rw [truncateMessage, if_neg (Nat.not_le.mpr h), hfound]

/-- **Truncation**: a message is cut to its longest start. -/
theorem longestStart_truncateMessage (text : String) :
    LongestStart maxMessageOctets text (truncateMessage text) := by
  rcases Nat.lt_or_ge maxMessageOctets text.utf8ByteSize with hlong | hshort
  · obtain ⟨position, -, hcut, hlongest⟩ := truncateMessage_of_lt hlong
    rwa [hcut]
  · rw [truncateMessage_of_le hshort]
    exact longestStart_self hshort

/-! ## Section 4: Messages of log entries -/

/-- **Text of a body**: a text is taken as it is, and any other body as compact JSON. -/
inductive IsTextOf : Json.Value → String → Prop
  | verbatim (s : String) : IsTextOf (.string s) s
  | compact (body : Json.Value) : (∀ s, body ≠ .string s) → IsTextOf body body.text

theorem isTextOf_renderBody (body : Json.Value) : IsTextOf body (renderBody body) := by
  cases body with
  | string s => exact .verbatim s
  | _ => exact .compact _ nofun

/-- A log entry says the text of its body, cut to its longest start. -/
def SaysBody (_ : Entry) (body : Json.Value) (item : LogItem) : Prop :=
  ∃ text, IsTextOf body text ∧ item.message = truncateMessage text

/-- **Messages**: a message is cut to its longest start, between two characters, that takes no
    more octets than there is room for. One that is short enough stays as it is, and from any
    other at most three octets of room are left: the search for the cut, which goes back from
    the last octet there is room for, ends before the start. To cut it again changes nothing.
    In a build, the messages of the log entries are the texts of all bodies, cut so. -/
theorem messages_are_longest_starts (message : String) (ids : Nat → String)
    (identity : Identity) (entries : List Entry) :
    LongestStart maxMessageOctets message (truncateMessage message) ∧
    (message.utf8ByteSize ≤ maxMessageOctets → truncateMessage message = message) ∧
    (maxMessageOctets < message.utf8ByteSize →
      maxMessageOctets - 3 ≤ (truncateMessage message).utf8ByteSize ∧
      ∃ position, lastPosition? message maxMessageOctets = some position ∧
        0 < position.offset.byteIdx ∧
        truncateMessage message = (message.sliceTo position).copy) ∧
    truncateMessage (truncateMessage message) = truncateMessage message ∧
    ∀ payloads, build ids identity entries = .ok payloads →
      Fanned (fun record => record.body.toList) SaysBody entries payloads.logging := by
  have hlongest := longestStart_truncateMessage message
  refine ⟨hlongest, truncateMessage_of_le, ?_, truncateMessage_of_le hlongest.fits, ?_⟩
  · intro hlong
    have hnear := hlongest.le_add_three (Nat.le_of_lt hlong)
    obtain ⟨position, hfound, hcut, -⟩ := truncateMessage_of_lt hlong
    refine ⟨Nat.sub_le_iff_le_add.mpr hnear, position, hfound, ?_, hcut⟩
    -- going back three octets does not lead to the start
    rw [hcut, utf8ByteSize_sliceTo] at hnear
    have hroom : maxMessageOctets = 14094 := rfl
    omega
  · intro payloads hbuild
    refine (attributed_build hbuild).logging.imp ?_
    rintro entry body item ⟨instant, -, rfl⟩
    exact ⟨renderBody body, isTextOf_renderBody body, rfl⟩

end Telemetry

end TelemetryRelay
